import DartBundle.Asset.Id
/-!
This module contains modules: compiled units, each with its sources and the modules it depends on.
-/

namespace DartBundle

/--
A compiled unit. It is known by its primary source, and names the modules it depends on by theirs.
-/
structure Module where
  primarySource : AssetId
  sources : List AssetId := []
  dependencies : List AssetId := []
  supported : Bool := true
  unsupportedLibraries : List AssetId := []
  deriving DecidableEq

namespace Module

def id (m : Module) : AssetId :=
  m.primarySource

def addSources (m : Module) (sources : List AssetId) : Module :=
  { m with sources := m.sources ++ sources }

def addDependencies (m : Module) (dependencies : List AssetId) : Module :=
  { m with dependencies := m.dependencies ++ dependencies }

def blame (m : Module) (libraries : List AssetId) : Module :=
  { m with supported := false, unsupportedLibraries := m.unsupportedLibraries ++ libraries }

def isSupported (m : Module) : Bool :=
  m.supported && m.unsupportedLibraries.isEmpty

def allSources (m : Module) : List AssetId :=
  m.primarySource :: m.sources.filter fun source => decide (source ≠ m.primarySource)

def offendingLibraries (m : Module) : List AssetId :=
  if m.isSupported then []
  else if m.unsupportedLibraries.isEmpty then m.allSources
  else m.unsupportedLibraries

theorem mem_allSources {m : Module} {source : AssetId} :
    source ∈ m.allSources ↔ source = m.primarySource ∨ source ∈ m.sources := by
  simp only [allSources, List.mem_cons, List.mem_filter, decide_eq_true_eq]
  constructor
  · rintro (h | h)
    · exact .inl h
    · exact .inr h.1
  · rintro (h | h)
    · exact .inl h
    · by_cases hs : source = m.primarySource
      · exact .inl hs
      · exact .inr ⟨h, hs⟩

end Module

structure Unsupported where
  entry : AssetId
  libraries : List AssetId
  deriving DecidableEq

namespace Unsupported

def ofList (entry : AssetId) (libraries : List AssetId) : Unsupported :=
  ⟨entry, Ascending.ofList AssetId.before libraries⟩

def display (u : Unsupported) : String :=
  ", ".intercalate (u.libraries.map AssetId.display)

end Unsupported

end DartBundle
