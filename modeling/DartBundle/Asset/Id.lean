import DartBundle.Ascending
import DartBundle.Text.Basic
/-!
This module contains asset ids. An asset is known by its package and its path below the package's
root, and is written `package|path`. Which texts are ids is said by `parse`, which ids are fit to be
staged and written by `validate`.
-/

namespace DartBundle

structure AssetId where
  package : String
  path : String
  deriving DecidableEq, Inhabited

namespace AssetId

@[ext]
theorem ext {a b : AssetId} (package : a.package = b.package) (path : a.path = b.path) : a = b := by
  cases a
  cases b
  cases package
  cases path
  rfl

def display (id : AssetId) : String :=
  id.package ++ "|" ++ id.path

inductive Fault
  | noSeparator (text : String)
  | empty (id : AssetId)
  | notRelative (id : AssetId)
  | badSegment (id : AssetId)
  | other (text : String)
  deriving DecidableEq

def Fault.message : Fault → String
  | .noSeparator text => s!"expected `package|path`, got `{text}`"
  | .empty id => id.display
  | .notRelative id => id.display ++ ": path must be relative and `/`-separated"
  | .badSegment id => id.display ++ ": path must not contain empty or `..` segments"
  | .other text => text

def validate (id : AssetId) : Except Fault Unit :=
  let path := id.path.toList
  if id.package.isEmpty || id.path.isEmpty then
    .error (.empty id)
  else if path.head? = some '/' || path.contains '\\' then
    .error (.notRelative id)
  else if (List.splitOn '/' path).any fun segment => segment.isEmpty || segment = ['.', '.'] then
    .error (.badSegment id)
  else
    .ok ()

/--
Reads the written form of a valid id. The first separator counts, so a path may hold others.
-/
def parse (text : String) : Except Fault AssetId :=
  match Text.cut? '|' text.toList with
  | none => .error (.noSeparator text)
  | some (package, path) =>
    let id : AssetId := ⟨String.ofList package, String.ofList path⟩
    id.validate.map fun _ => id

def belowLibraryRoot? : List Char → Option (List Char)
  | 'l' :: 'i' :: 'b' :: '/' :: rest => some rest
  | _ => none

def isLibrary (id : AssetId) : Bool :=
  (belowLibraryRoot? id.path.toList).isSome

def splitName (path : List Char) : List Char × List Char :=
  ((path.reverse.dropWhile (· ≠ '/')).reverse, (path.reverse.takeWhile (· ≠ '/')).reverse)

/--
A file name without its last extension. A dot that starts the name starts no extension.
-/
def stem (name : List Char) : List Char :=
  match name.reverse.dropWhile (· ≠ '.') with
  | [] => name
  | [_] => name
  | _ :: front => front.reverse

def pathWithoutExtension (id : AssetId) : String :=
  let (directory, name) := splitName id.path.toList
  String.ofList (directory ++ stem name)

def changeExtension (id : AssetId) (extension : String) : AssetId :=
  { id with path := id.pathWithoutExtension ++ extension }

/--
Where an asset lies below a staging root. Libraries lie where `package:` URIs lead, all else keeps
its own path.
-/
def stagingPath (id : AssetId) : String :=
  match belowLibraryRoot? id.path.toList with
  | some rest => "packages/" ++ id.package ++ "/" ++ String.ofList rest
  | none => id.path

def before (a b : AssetId) : Bool :=
  if a.package = b.package then
    Text.before a.path.toList b.path.toList
  else
    Text.before a.package.toList b.package.toList

def sort (ids : List AssetId) : List AssetId :=
  ids.mergeSort fun a b => !b.before a

theorem before_strictOrder : Ascending.StrictOrder before where
  irrefl a := by simp [before, Text.before_irrefl]
  trans := by
    intro a b c hab hbc
    simp only [before] at *
    by_cases h₁ : a.package = b.package
    · by_cases h₂ : b.package = c.package
      · simp only [h₁, h₂, if_true] at *
        exact Text.before_trans hab hbc
      · simp only [h₁, h₂, if_true, if_false] at *
        exact hbc
    · by_cases h₂ : b.package = c.package
      · have : ¬ a.package = c.package := fun e => h₁ (e.trans h₂.symm)
        simp only [h₁, if_false, this] at *
        rw [← h₂]
        exact hab
      · simp only [h₁, h₂, if_false] at hab hbc
        have trans := Text.before_trans hab hbc
        have : ¬ a.package = c.package := by
          intro e
          rw [e, Text.before_irrefl] at trans
          cases trans
        simpa only [this, if_false] using trans
  eq_of_not_lt := by
    intro a b hab hba
    simp only [before] at hab hba
    by_cases h : a.package = b.package
    · simp only [h, if_true] at hab hba
      exact ext h (String.toList_injective (Text.eq_of_not_before hab hba))
    · have h' : ¬ b.package = a.package := fun e => h e.symm
      simp only [h, h', if_false] at hab hba
      exact absurd (String.toList_injective (Text.eq_of_not_before hab hba)) h

end AssetId

end DartBundle
