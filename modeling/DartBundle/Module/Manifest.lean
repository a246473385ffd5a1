import DartBundle.Asset.Json
import DartBundle.FileTree.Basic
import DartBundle.Module.Graph
/-!
This module contains the JSON form of modules and module graphs. A module is an object with its
known fields in any order, among others, or an array of the fields in their order. What is left out
has its default.
-/

namespace DartBundle

namespace Module

structure Draft where
  primarySource : Option AssetId := none
  sources : Option (List AssetId) := none
  dependencies : Option (List AssetId) := none
  supported : Option Bool := none
  unsupportedLibraries : Option (List AssetId) := none

namespace Draft

def once (name : String) (earlier : Option α) (data : Json → Json.Decoded α) (value : Json) :
    Json.Decoded (Option α) :=
  match earlier with
  | some _ => .error (.duplicateField name)
  | none => (data value).map some

def readField (draft : Draft) (key : Option String) (value : Json) : Json.Decoded Draft :=
  match key with
  | none => .error .malformed
  | some key =>
    if key = "primary_source" then do
      return { draft with primarySource := ← once key draft.primarySource AssetId.ofJson value }
    else if key = "sources" then do
      return { draft with
        sources := ← once key draft.sources (Json.decodeList AssetId.ofJson) value }
    else if key = "dependencies" then do
      return { draft with
        dependencies := ← once key draft.dependencies (Json.decodeList AssetId.ofJson) value }
    else if key = "is_supported" then do
      return { draft with supported := ← once key draft.supported Json.decodeBoolean value }
    else if key = "unsupported_libraries" then do
      return { draft with
        unsupportedLibraries :=
          ← once key draft.unsupportedLibraries (Json.decodeList AssetId.ofJson) value }
    else do
      -- a field of another name means nothing, but it has to be JSON
      Json.ignore value
      return draft

def readFields (draft : Draft) : List (Option String × Json) → Json.Decoded Draft
  | [] => .ok draft
  | (key, value) :: rest => do
    let draft ← draft.readField key value
    draft.readFields rest

def toModule (draft : Draft) : Json.Decoded Module :=
  match draft.primarySource with
  | none => .error (.missingField "primary_source")
  | some primarySource =>
    .ok {
      primarySource
      sources := draft.sources.getD []
      dependencies := draft.dependencies.getD []
      supported := draft.supported.getD true
      unsupportedLibraries := draft.unsupportedLibraries.getD []
    }

end Draft

/--
Reads the next item of an array, or takes a default at its end.
-/
def nextItem (data : Json → Json.Decoded α) (default : α) :
    List Json → Json.Decoded (α × List Json)
  | [] => .ok (default, [])
  | value :: rest => (data value).map (·, rest)

def ofItems : List Json → Json.Decoded Module
  | [] => .error (.tooShort "struct Module with 5 elements")
  | value :: rest => do
    let primarySource ← AssetId.ofJson value
    let (sources, rest) ← nextItem (Json.decodeList AssetId.ofJson) [] rest
    let (dependencies, rest) ← nextItem (Json.decodeList AssetId.ofJson) [] rest
    let (supported, rest) ← nextItem Json.decodeBoolean true rest
    let (unsupportedLibraries, rest) ← nextItem (Json.decodeList AssetId.ofJson) [] rest
    if rest.isEmpty then
      return { primarySource, sources, dependencies, supported, unsupportedLibraries }
    else
      .error .malformed

def ofJson : Json → Json.Decoded Module
  | .object fields => do
    let draft ← Draft.readFields {} fields
    draft.toModule
  | .array items => ofItems items
  | value => .error (Json.wrongType value "struct Module")

def toJson (m : Module) : Json :=
  .object [
    (some "primary_source", m.primarySource.toJson),
    (some "sources", .array (m.sources.map AssetId.toJson)),
    (some "dependencies", .array (m.dependencies.map AssetId.toJson)),
    (some "is_supported", .boolean m.supported),
    (some "unsupported_libraries", .array (m.unsupportedLibraries.map AssetId.toJson))]

end Module

namespace ModuleGraph

def readManifest (modules : Option (List Module)) :
    List (Option String × Json) → Json.Decoded (List Module)
  | [] =>
    match modules with
    | none => .error (.missingField "modules")
    | some modules => .ok modules
  | (none, _) :: _ => .error .malformed
  | (some key, value) :: rest =>
    if key = "modules" then do
      let modules ← Module.Draft.once key modules (Json.decodeList Module.ofJson) value
      readManifest modules rest
    else do
      Json.ignore value
      readManifest modules rest

def manifest : Json → Json.Decoded (List Module)
  | .object fields => readManifest none fields
  | .array [] => .error (.tooShort "struct GraphManifest with 1 element")
  | .array (value :: rest) => do
    let modules ← Json.decodeList Module.ofJson value
    if rest.isEmpty then return modules else .error .malformed
  | value => .error (Json.wrongType value "struct GraphManifest")

def toJson (g : ModuleGraph) : Json :=
  .object [(some "modules", .array (g.modules.map Module.toJson))]

def parse (text : String) : Except Error ModuleGraph :=
  match Json.decode manifest text with
  | .error fault => .error (.serialization (.json fault))
  | .ok modules => ofModules modules

def load (t : FileTree) (path : String) : Except Error ModuleGraph :=
  match t.read path with
  | .error fault => .error (.file fault)
  | .ok content =>
    match Utf8.decode content with
    | .error _ => .error (.file .notText)
    | .ok text => parse text

def render (g : ModuleGraph) : String :=
  g.toJson.writePretty

end ModuleGraph

end DartBundle
