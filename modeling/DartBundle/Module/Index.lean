import DartBundle.Module.Graph
import DartBundle.Table
/-!
This module contains indexes of modules. The modules are numbered as they are given, and tables find the
number of an identity or of a source. An index is made in two passes: a module may depend on one that is
given after it, so all of them are entered before they are connected.
-/

namespace DartBundle

/--
Numbered modules, with what has to be found among them.
-/
structure ModuleIndex where
  modules : List Module := []
  numbers : Table AssetId Nat := .empty
  owners : Table AssetId Nat := .empty
  edges : List (Nat × Nat) := []
  lacking : Table Nat (List AssetId) := .empty

namespace ModuleIndex

def add (ix : ModuleIndex) (m : Module) : Except Error ModuleIndex :=
  if ix.numbers.contains m.id then
    .error (.moduleGraph (.duplicate m.id))
  else
    let number := ix.modules.length
    .ok { ix with
      modules := ix.modules ++ [m]
      owners := m.allSources.foldl (fun owners source => owners.insertNew source number) ix.owners
      numbers := ix.numbers.insert m.id number }

structure Connections where
  named : List (Nat × Nat) := []
  lacking : Table Nat (List AssetId) := .empty

def Connections.note (numbers : Table AssetId Nat) (number : Nat) (found : Connections)
    (id : AssetId) : Connections :=
  match numbers.lookup id with
  | some next => { found with named := found.named ++ [(number, next)] }
  | none =>
    let earlier := (found.lacking.lookup number).getD []
    { found with lacking := found.lacking.insert number (earlier ++ [id]) }

def connections (ix : ModuleIndex) : Connections :=
  ix.modules.zipIdx.foldl
    (fun found (m, number) => m.dependencies.foldl (Connections.note ix.numbers number) found) {}

def draw (edges : List (Nat × Nat)) (edge : Nat × Nat) : List (Nat × Nat) :=
  if edge ∈ edges then edges else edge :: edges

def connect (ix : ModuleIndex) : ModuleIndex :=
  { ix with
    edges := ix.connections.named.foldl draw []
    lacking := ix.connections.lacking }

def ofModules (modules : List Module) : Except Error ModuleIndex :=
  (modules.foldlM add {}).map connect

def size (ix : ModuleIndex) : Nat :=
  ix.modules.length

def get? (ix : ModuleIndex) (id : AssetId) : Option Module :=
  (ix.numbers.lookup id).bind (ix.modules[·]?)

def owner? (ix : ModuleIndex) (source : AssetId) : Option Module :=
  (ix.owners.lookup source).bind (ix.modules[·]?)

def neighbours (ix : ModuleIndex) (number : Nat) : List Nat :=
  ix.edges.filterMap fun edge => if edge.1 = number then some edge.2 else none

def lackedBy (ix : ModuleIndex) (number : Nat) : List AssetId :=
  (ix.lacking.lookup number).getD []

end ModuleIndex

end DartBundle
