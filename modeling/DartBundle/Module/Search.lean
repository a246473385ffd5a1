import DartBundle.Module.Closure
import DartBundle.Module.Index
/-!
This module contains the search for a closure by the numbers of an index. Each module has a mark, which is
set when its number is put on the queue. A mark is asked for by its number, so a number for which there is
none puts an end to the search without an answer, as does the number of no module.
-/

namespace DartBundle

namespace ModuleIndex

structure Search where
  queue : List Nat
  marks : List Bool
  reached : List Nat

namespace Search

def push (s : Search) (number : Nat) : Option Search :=
  match s.marks[number]? with
  | none => none
  | some true => some s
  | some false =>
    some { s with queue := s.queue ++ [number], marks := s.marks.set number true }

/--
The most turns that a search can take before it ends.
-/
def pending (s : Search) : Nat :=
  s.marks.count false + s.queue.length

theorem pending_push {s s' : Search} {number : Nat} (h : s.push number = some s') :
    s'.pending = s.pending := by
  unfold push at h
  split at h
  · cases h
  · cases h
    rfl
  · next hmark =>
    cases h
    obtain ⟨hnumber, hmark⟩ := List.getElem?_eq_some_iff.1 hmark
    have hpositive : 0 < s.marks.count false :=
      List.count_pos_iff.2 (hmark ▸ List.getElem_mem hnumber)
    have hcount : (s.marks.set number true).count false = s.marks.count false - 1 := by
      simp [List.count_set hnumber, hmark]
    simp only [pending, hcount, List.length_append, List.length_singleton]
    omega

theorem pending_foldlM_push {s s' : Search} {numbers : List Nat}
    (h : numbers.foldlM push s = some s') : s'.pending = s.pending := by
  induction numbers generalizing s with
  | nil =>
    cases h
    rfl
  | cons number rest ih =>
    rw [List.foldlM_cons] at h
    obtain ⟨next, hnext, hrest⟩ := Option.bind_eq_some_iff.1 h
    rw [ih hrest, pending_push hnext]

end Search

inductive Turn
  | finished
  | lacking (missing requiredBy : AssetId)
  | onward (s : Search)

def turn (ix : ModuleIndex) (s : Search) : Option Turn :=
  match s.queue with
  | [] => some .finished
  | number :: rest =>
    match (ix.lackedBy number).head? with
    | some missing => ix.modules[number]?.map fun m => .lacking missing m.id
    | none =>
      let taken : Search := { s with queue := rest, reached := s.reached ++ [number] }
      ((ix.neighbours number).foldlM Search.push taken).map .onward

theorem pending_turn {ix : ModuleIndex} {s s' : Search} (h : ix.turn s = some (.onward s')) :
    s'.pending < s.pending := by
  unfold turn at h
  split at h
  · cases h
  · next number rest hqueue =>
    split at h
    · cases hm : ix.modules[number]? <;> simp [hm] at h
    · obtain ⟨last, hlast, heq⟩ := Option.map_eq_some_iff.1 h
      cases heq
      rw [Search.pending_foldlM_push hlast]
      simp [Search.pending, hqueue]

def search (ix : ModuleIndex) (s : Search) : Option (Except Error (List Nat)) :=
  match _turned : ix.turn s with
  | none => none
  | some .finished => some (.ok s.reached)
  | some (.lacking missing requiredBy) =>
    some (.error (.missingModule missing (some requiredBy)))
  | some (.onward next) => ix.search next
termination_by s.pending
decreasing_by exact pending_turn _turned

def start (ix : ModuleIndex) (number : Nat) : Option Search :=
  Search.push ⟨[], List.replicate ix.size false, []⟩ number

def closure (ix : ModuleIndex) (entry : AssetId) : Option (Except Error Verdict) :=
  match ix.owners.lookup entry with
  | none => some (.error (.missingModule entry none))
  | some number => do
    match ← ix.search (← ix.start number) with
    | .error e => return .error e
    | .ok numbers =>
      let reached ← numbers.mapM (ix.modules[·]?)
      match reached.flatMap Module.offendingLibraries with
      | [] =>
        return .ok (.resolved
          ⟨entry, Ascending.ofList (fun a b => AssetId.before a.id b.id) reached⟩)
      | offending => return .ok (.unsupported (.ofList entry offending))

end ModuleIndex

end DartBundle
