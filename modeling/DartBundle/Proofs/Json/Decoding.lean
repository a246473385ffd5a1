import DartBundle.Json.Decode
import Mathlib.Data.List.Forall2
/-!
This module contains what decoders take: a row of decoding steps succeeds if each of them does, an array is
decoded item by item, and an object is known by the values it gives to its keys.
-/

namespace DartBundle

namespace Json

variable {α β : Type} {a : α} {b : β} {value : Json} {values : List Json} {content : String} {flag : Bool}

theorem bind_eq_ok_iff {x : Decoded α} {f : α → Decoded β} :
    (x >>= f) = .ok b ↔ ∃ a, x = .ok a ∧ f a = .ok b := by
  cases x with
  | error fault =>
    constructor
    · nofun
    · rintro ⟨a, h, -⟩
      cases h
  | ok a =>
    constructor
    · exact fun h => ⟨a, rfl, h⟩
    · rintro ⟨a, h, hf⟩
      cases h
      exact hf

theorem map_eq_ok_iff {ε : Type} {x : Except ε α} {f : α → β} :
    x.map f = .ok b ↔ ∃ a, x = .ok a ∧ f a = b := by
  cases x <;> simp [Except.map]

theorem decodeText_eq_ok_iff : decodeText value = .ok content ↔ value = .text (some content) := by
  fun_cases decodeText value with
  | case1 s => simp
  | case2 _ hne =>
    constructor
    · nofun
    · exact fun h => absurd h (hne content)

theorem decodeBoolean_eq_ok_iff : decodeBoolean value = .ok flag ↔ value = .boolean flag := by
  fun_cases decodeBoolean value with
  | case1 b => simp
  | case2 _ hne =>
    constructor
    · nofun
    · exact fun h => absurd h (hne flag)

theorem ignore_eq_ok_iff {u : Unit} : ignore value = .ok u ↔ value.intact = true := by
  unfold ignore
  split <;> simp_all

theorem decode_eq_ok_iff {data : Json → Decoded α} {text : String} :
    decode data text = .ok a ↔ data (read text).value = .ok a ∧ (read text).complete = true := by
  unfold decode
  rw [bind_eq_ok_iff]
  constructor
  · rintro ⟨b, hdata, h⟩
    split at h
    · next hcomplete =>
      cases h
      exact ⟨hdata, hcomplete⟩
    · cases h
  · rintro ⟨hdata, hcomplete⟩
    exact ⟨a, hdata, if_pos hcomplete⟩

variable {item : Json → Decoded α} {Form : α → Json → Prop} {as : List α}

theorem decodeItems_eq_ok_iff (h : ∀ value a, item value = .ok a ↔ Form a value) :
    decodeItems item values = .ok as ↔ List.Forall₂ Form as values := by
  induction values generalizing as with
  | nil => cases as <;> simp [decodeItems]
  | cons value rest ih =>
    unfold decodeItems
    rw [bind_eq_ok_iff]
    constructor
    · rintro ⟨a, hitem, hrest⟩
      obtain ⟨others, hothers, heq⟩ := bind_eq_ok_iff.1 hrest
      cases heq
      exact .cons ((h value a).1 hitem) (ih.1 hothers)
    · rintro (_ | ⟨hitem, hrest⟩)
      exact ⟨_, (h value _).2 hitem, bind_eq_ok_iff.2 ⟨_, ih.2 hrest, rfl⟩⟩

theorem decodeList_eq_ok_iff (h : ∀ value a, item value = .ok a ↔ Form a value) :
    decodeList item value = .ok as ↔ ∃ values, value = .array values ∧ List.Forall₂ Form as values := by
  fun_cases decodeList item value with
  | case1 values =>
    rw [decodeItems_eq_ok_iff h]
    simp
  | case2 _ hne =>
    constructor
    · nofun
    · rintro ⟨values, heq, -⟩
      exact absurd heq (hne values)

def Reads (data : Json → Decoded α) (form : α → Json) (Fit : α → Prop) : Prop :=
  ∀ value a, data value = .ok a ↔ value = form a ∧ Fit a

theorem reads_decodeBoolean : Reads decodeBoolean .boolean fun _ => True := by
  intro value flag
  rw [decodeBoolean_eq_ok_iff, and_true]

theorem Reads.decodeList {form : α → Json} {Fit : α → Prop} (h : Reads item form Fit) :
    Reads (decodeList item) (fun as => .array (as.map form)) fun as => ∀ a ∈ as, Fit a := by
  intro value as
  have hforms : ∀ values, List.Forall₂ (fun a value => Fit a ∧ form a = value) as values ↔
      (∀ a ∈ as, Fit a) ∧ as.map form = values := by
    intro values
    rw [List.forall₂_and_left, ← List.forall₂_eq_eq_eq, List.forall₂_map_left_iff]
  have hitem : ∀ value a, item value = .ok a ↔ Fit a ∧ form a = value := by
    intro value a
    rw [h, and_comm, eq_comm]
  rw [decodeList_eq_ok_iff hitem]
  simp only [hforms]
  constructor
  · rintro ⟨values, rfl, hfit, rfl⟩
    exact ⟨rfl, hfit⟩
  · rintro ⟨rfl, hfit⟩
    exact ⟨_, rfl, hfit, rfl⟩

def valuesOf (key : String) (fields : List (Option String × Json)) : List Json :=
  (fields.filter fun field => field.1 = some key).map Prod.snd

def OthersSound (keys : List String) (fields : List (Option String × Json)) : Prop :=
  ∀ field ∈ fields, (∀ key ∈ keys, field.1 ≠ some key) → field.1.isSome = true ∧ field.2.intact = true

variable {key : String} {fields : List (Option String × Json)}

theorem othersSound_nil (keys : List String) : OthersSound keys [] := by
  nofun

theorem othersSound_cons {keys : List String} {field : Option String × Json} :
    OthersSound keys (field :: fields) ↔
      ((∀ key ∈ keys, field.1 ≠ some key) → field.1.isSome = true ∧ field.2.intact = true) ∧
        OthersSound keys fields :=
  List.forall_mem_cons

theorem valuesOf_cons (field : Option String × Json) :
    valuesOf key (field :: fields) =
      if field.1 = some key then field.2 :: valuesOf key fields else valuesOf key fields := by
  unfold valuesOf
  rw [List.filter_cons]
  split <;> simp_all

end Json

end DartBundle
