import DartBundle.Module.Manifest
import DartBundle.Proofs.Asset.Written
import Mathlib.Tactic.MkIffOfInductiveProp
/-!
This module contains the forms in which a module may be written. It is decoded from each of them and from
nothing else.
-/

namespace DartBundle

namespace Json

structure Optional where
  key : String
  form : Json
  isDefault : Prop

@[mk_iff]
inductive Optional.Given (o : Optional) : List Json → Prop
  | once : Optional.Given o [o.form]
  | omitted (isDefault : o.isDefault) : Optional.Given o []

inductive Optional.GivenInOrder : List Optional → List Json → Prop
  | omitted {os : List Optional} (isDefault : ∀ o ∈ os, o.isDefault) : Optional.GivenInOrder os []
  | next {o : Optional} {os : List Optional} {values : List Json} :
    Optional.GivenInOrder os values → Optional.GivenInOrder (o :: os) (o.form :: values)

end Json

namespace Module

def ids (m : Module) : List AssetId :=
  m.primarySource :: m.sources ++ m.dependencies ++ m.unsupportedLibraries

def Legible (m : Module) : Prop :=
  ∀ id ∈ m.ids, id.Legible

def optionals (m : Module) : List Json.Optional := [
  ⟨"sources", .array (m.sources.map AssetId.toJson), m.sources = []⟩,
  ⟨"dependencies", .array (m.dependencies.map AssetId.toJson), m.dependencies = []⟩,
  ⟨"is_supported", .boolean m.supported, m.supported = true⟩,
  ⟨"unsupported_libraries", .array (m.unsupportedLibraries.map AssetId.toJson),
    m.unsupportedLibraries = []⟩]

def keys : List String :=
  ["primary_source", "sources", "dependencies", "is_supported", "unsupported_libraries"]

/--
How a module may be written: as an object with its fields in any order and others among them, or as an
array of its fields. Both may leave out what has its default.
-/
inductive Form (m : Module) : Json → Prop
  | object {fields : List (Option String × Json)}
    (primarySource : Json.valuesOf "primary_source" fields = [m.primarySource.toJson])
    (optionals : ∀ o ∈ m.optionals, o.Given (Json.valuesOf o.key fields))
    (others : Json.OthersSound keys fields) : Form m (.object fields)
  | array {values : List Json} (optionals : Json.Optional.GivenInOrder m.optionals values) :
    Form m (.array (m.primarySource.toJson :: values))

variable {α : Type} {data : Json → Json.Decoded α} {form : α → Json} {Fit : α → Prop}
  {a default : α} {key : String} {value : Json} {values : List Json}
  {fields : List (Option String × Json)}

namespace Draft

inductive Filled (data : Json → Json.Decoded α) : Option α → List Json → Option α → Prop
  | kept (earlier : Option α) : Filled data earlier [] earlier
  | given {value : Json} {a : α} (h : data value = .ok a) : Filled data none [value] (some a)

variable {earlier final : Option α}

theorem filled_nil : Filled data earlier [] final ↔ earlier = final := by
  constructor
  · rintro ⟨⟩
    rfl
  · rintro rfl
    exact .kept earlier

theorem filled_cons (name : String) : Filled data earlier (value :: values) final ↔
    ∃ next, once name earlier data value = .ok next ∧ Filled data next values final := by
  cases earlier with
  | some a =>
    constructor
    · nofun
    · rintro ⟨next, h, -⟩
      cases h
  | none =>
    simp only [once, Json.map_eq_ok_iff]
    constructor
    · rintro ⟨⟩
      exact ⟨_, ⟨_, ‹_›, rfl⟩, .kept _⟩
    · rintro ⟨_, ⟨a, h, rfl⟩, ⟨⟩⟩
      exact .given h

@[mk_iff]
structure Completes (draft : Draft) (fields : List (Option String × Json)) (final : Draft) : Prop where
  primarySource : Filled AssetId.ofJson draft.primarySource
    (Json.valuesOf "primary_source" fields) final.primarySource
  sources : Filled (Json.decodeList AssetId.ofJson) draft.sources
    (Json.valuesOf "sources" fields) final.sources
  dependencies : Filled (Json.decodeList AssetId.ofJson) draft.dependencies
    (Json.valuesOf "dependencies" fields) final.dependencies
  supported : Filled Json.decodeBoolean draft.supported
    (Json.valuesOf "is_supported" fields) final.supported
  unsupportedLibraries : Filled (Json.decodeList AssetId.ofJson) draft.unsupportedLibraries
    (Json.valuesOf "unsupported_libraries" fields) final.unsupportedLibraries
  others : Json.OthersSound keys fields

variable {draft final : Draft} {field : Option String × Json}

theorem completes_nil : draft.Completes [] final ↔ draft = final := by
  obtain ⟨⟩ := draft
  obtain ⟨⟩ := final
  simp [completes_iff, Json.valuesOf, filled_nil, Json.othersSound_nil]

theorem completes_cons_known (h : key ∈ keys) :
    draft.Completes ((some key, value) :: fields) final ↔
      ∃ next, draft.readField (some key) value = .ok next ∧ next.Completes fields final := by
  have hothers : Json.OthersSound keys ((some key, value) :: fields) ↔ Json.OthersSound keys fields := by
    rw [Json.othersSound_cons]
    exact and_iff_right fun hne => absurd rfl (hne key h)
  have hfilled {α : Type} {data : Json → Json.Decoded α} {earlier final : Option α} :
      Filled data earlier (value :: Json.valuesOf key fields) final ↔
        ∃ next, once key earlier data value = .ok next ∧
          Filled data next (Json.valuesOf key fields) final :=
    filled_cons key
  -- each known key has a field of its own in the draft, and reading it leaves the others alone
  simp only [keys, List.mem_cons, List.not_mem_nil, or_false] at h
  rcases h with rfl | rfl | rfl | rfl | rfl
  all_goals
    simp only [completes_iff, hothers, Json.valuesOf_cons, Option.some.injEq, String.reduceEq, ↓reduceIte,
      hfilled, readField, pure, Except.pure, Json.bind_eq_ok_iff, Except.ok.injEq,
      exists_exists_and_eq_and]
    grind

theorem readField_other (h : ∀ key ∈ keys, field.1 ≠ some key) :
    draft.readField field.1 field.2 = .ok final ↔
      (field.1.isSome = true ∧ field.2.intact = true) ∧ draft = final := by
  obtain ⟨key, value⟩ := field
  cases key with
  | none => simp [readField]
  | some key =>
    simp only [keys, List.forall_mem_cons, ne_eq, Option.some.injEq] at h
    unfold readField
    simp only [h, if_false, Json.bind_eq_ok_iff, Json.ignore_eq_ok_iff, Option.isSome_some, true_and]
    simp [pure, Except.pure]

theorem completes_cons_other (h : ∀ key ∈ keys, field.1 ≠ some key) :
    draft.Completes (field :: fields) final ↔
      (field.1.isSome = true ∧ field.2.intact = true) ∧ draft.Completes fields final := by
  have hvalues {key : String} (hkey : key ∈ keys) :
      Json.valuesOf key (field :: fields) = Json.valuesOf key fields := by
    rw [Json.valuesOf_cons, if_neg (h key hkey)]
  have hothers : Json.OthersSound keys (field :: fields) ↔
      (field.1.isSome = true ∧ field.2.intact = true) ∧ Json.OthersSound keys fields := by
    rw [Json.othersSound_cons]
    exact and_congr_left' (forall_prop_of_true h)
  simp only [completes_iff, hothers]
  rw [hvalues (by decide), hvalues (by decide), hvalues (by decide), hvalues (by decide),
    hvalues (by decide)]
  simp only [and_left_comm]

theorem readFields_eq_ok_iff : draft.readFields fields = .ok final ↔ draft.Completes fields final := by
  induction fields generalizing draft with
  | nil =>
    unfold readFields
    rw [Except.ok.injEq, completes_nil]
  | cons field rest ih =>
    unfold readFields
    simp only [Json.bind_eq_ok_iff, ih]
    by_cases hknown : ∃ key ∈ keys, field.1 = some key
    · obtain ⟨key, hkey, heq⟩ := hknown
      rw [← Prod.eta field, heq, completes_cons_known hkey]
    · have hother : ∀ key ∈ keys, field.1 ≠ some key := fun key hkey heq => hknown ⟨key, hkey, heq⟩
      simp only [readField_other hother, completes_cons_other hother, and_assoc, exists_and_left,
        exists_eq_left']

theorem exists_filled_getD (key : String) (h : Json.Reads data form Fit) (hdefault : Fit default) :
    (∃ final, Filled data none values final ∧ final.getD default = a) ↔
      Fit a ∧ Json.Optional.Given ⟨key, form a, a = default⟩ values := by
  rw [Json.Optional.given_iff]
  constructor
  · rintro ⟨_, _ | hgiven, rfl⟩
    · exact ⟨hdefault, .inr ⟨rfl, rfl⟩⟩
    · obtain ⟨rfl, hfit⟩ := (h _ _).1 hgiven
      exact ⟨hfit, .inl rfl⟩
  · rintro ⟨hfit, rfl | ⟨rfl, rfl⟩⟩
    · exact ⟨some a, .given ((h _ _).2 ⟨rfl, hfit⟩), rfl⟩
    · exact ⟨none, .kept none, rfl⟩

theorem exists_filled_ids (key : String) {ids : List AssetId} :
    (∃ final, Filled (Json.decodeList AssetId.ofJson) none values final ∧ final.getD [] = ids) ↔
      (∀ id ∈ ids, id.Legible) ∧
        Json.Optional.Given ⟨key, .array (ids.map AssetId.toJson), ids = []⟩ values :=
  exists_filled_getD key AssetId.reads_ofJson.decodeList (List.forall_mem_nil _)

theorem filled_none_some {id : AssetId} : Filled AssetId.ofJson none values (some id) ↔
    id.Legible ∧ values = [id.toJson] := by
  constructor
  · rintro ⟨⟩
    next h =>
    obtain ⟨rfl, hlegible⟩ := (AssetId.reads_ofJson _ _).1 h
    exact ⟨hlegible, rfl⟩
  · rintro ⟨hlegible, rfl⟩
    exact .given ((AssetId.reads_ofJson _ _).2 ⟨rfl, hlegible⟩)

theorem toModule_eq_ok_iff {m : Module} : draft.toModule = .ok m ↔
    draft.primarySource = some m.primarySource ∧ draft.sources.getD [] = m.sources ∧
      draft.dependencies.getD [] = m.dependencies ∧ draft.supported.getD true = m.supported ∧
        draft.unsupportedLibraries.getD [] = m.unsupportedLibraries := by
  obtain ⟨primarySource, sources, dependencies, supported, unsupportedLibraries⟩ := draft
  obtain ⟨⟩ := m
  cases primarySource <;> simp [toModule]

end Draft

variable {m : Module} {os : List Json.Optional} {rest : List Json}

theorem legible_iff : m.Legible ↔ m.primarySource.Legible ∧ (∀ id ∈ m.sources, id.Legible) ∧
    (∀ id ∈ m.dependencies, id.Legible) ∧ ∀ id ∈ m.unsupportedLibraries, id.Legible := by
  simp [Legible, ids, or_imp, forall_and]

theorem exists_nextItem (key : String) (h : Json.Reads data form Fit) (hdefault : Fit default) :
    (∃ rest, nextItem data default values = .ok (a, rest) ∧ Json.Optional.GivenInOrder os rest) ↔
      Fit a ∧ Json.Optional.GivenInOrder (⟨key, form a, a = default⟩ :: os) values := by
  cases values with
  | nil =>
    constructor
    · rintro ⟨rest, heq, hrest⟩
      cases heq
      cases hrest with
      | omitted isDefault => exact ⟨hdefault, .omitted (List.forall_mem_cons.2 ⟨rfl, isDefault⟩)⟩
    · rintro ⟨-, ⟨isDefault⟩⟩
      obtain ⟨rfl, hos⟩ := List.forall_mem_cons.1 isDefault
      exact ⟨[], rfl, .omitted hos⟩
  | cons value others =>
    simp only [nextItem, Json.map_eq_ok_iff, h value]
    constructor
    · rintro ⟨rest, ⟨b, ⟨rfl, hfit⟩, heq⟩, hrest⟩
      cases heq
      exact ⟨hfit, .next hrest⟩
    · rintro ⟨hfit, ⟨⟩⟩
      exact ⟨others, ⟨a, ⟨rfl, hfit⟩, rfl⟩, ‹_›⟩

theorem givenInOrder_nil_iff : Json.Optional.GivenInOrder [] values ↔ values = [] := by
  constructor
  · rintro ⟨⟩
    rfl
  · rintro rfl
    exact .omitted nofun

theorem exists_nextItem_ids (key : String) {ids : List AssetId} :
    (∃ rest, nextItem (Json.decodeList AssetId.ofJson) [] values = .ok (ids, rest) ∧
      Json.Optional.GivenInOrder os rest) ↔
      (∀ id ∈ ids, id.Legible) ∧
        Json.Optional.GivenInOrder (⟨key, .array (ids.map AssetId.toJson), ids = []⟩ :: os) values :=
  exists_nextItem key AssetId.reads_ofJson.decodeList (List.forall_mem_nil _)

theorem exists_nextItem_flag (key : String) {flag : Bool} :
    (∃ rest, nextItem Json.decodeBoolean true values = .ok (flag, rest) ∧
      Json.Optional.GivenInOrder os rest) ↔
      Json.Optional.GivenInOrder (⟨key, .boolean flag, flag = true⟩ :: os) values := by
  rw [exists_nextItem key Json.reads_decodeBoolean trivial, true_and]

theorem ofItems_eq_ok_iff : ofItems (value :: values) = .ok m ↔
    m.Legible ∧ value = m.primarySource.toJson ∧ Json.Optional.GivenInOrder m.optionals values := by
  unfold ofItems
  simp only [Json.bind_eq_ok_iff, Prod.exists]
  rw [legible_iff]
  constructor
  · rintro ⟨_, hprimary, _, _, hsources, _, _, hdependencies, _, _, hsupported, _, _, hlibraries, hm⟩
    split at hm
    case isFalse => cases hm
    next hempty =>
    cases hm
    obtain ⟨rfl, hlegible⟩ := (AssetId.reads_ofJson _ _).1 hprimary
    -- what the last items leave is what the items before them have to read
    have hend := givenInOrder_nil_iff.2 (List.isEmpty_iff.1 hempty)
    obtain ⟨hlibraries, hend⟩ :=
      (exists_nextItem_ids "unsupported_libraries").1 ⟨_, hlibraries, hend⟩
    have hend := (exists_nextItem_flag "is_supported").1 ⟨_, hsupported, hend⟩
    obtain ⟨hdependencies, hend⟩ := (exists_nextItem_ids "dependencies").1 ⟨_, hdependencies, hend⟩
    obtain ⟨hsources, hend⟩ := (exists_nextItem_ids "sources").1 ⟨_, hsources, hend⟩
    exact ⟨⟨hlegible, hsources, hdependencies, hlibraries⟩, rfl, hend⟩
  · rintro ⟨⟨hlegible, hsources, hdependencies, hlibraries⟩, rfl, hitems⟩
    obtain ⟨_, hsources, hitems⟩ := (exists_nextItem_ids "sources").2 ⟨hsources, hitems⟩
    obtain ⟨_, hdependencies, hitems⟩ := (exists_nextItem_ids "dependencies").2 ⟨hdependencies, hitems⟩
    obtain ⟨_, hsupported, hitems⟩ := (exists_nextItem_flag "is_supported").2 hitems
    obtain ⟨_, hlibraries, hitems⟩ :=
      (exists_nextItem_ids "unsupported_libraries").2 ⟨hlibraries, hitems⟩
    obtain rfl := givenInOrder_nil_iff.1 hitems
    exact ⟨_, (AssetId.reads_ofJson _ _).2 ⟨rfl, hlegible⟩, _, _, hsources, _, _, hdependencies, _, _,
      hsupported, _, _, hlibraries, rfl⟩

theorem exists_completes_iff : (∃ final, Draft.Completes {} fields final ∧ final.toModule = .ok m) ↔
    m.Legible ∧ m.Form (.object fields) := by
  rw [legible_iff]
  simp only [Draft.toModule_eq_ok_iff]
  constructor
  · rintro ⟨final, completes, hprimary, hsources, hdependencies, hsupported, hlibraries⟩
    obtain ⟨hlegible, hvalues⟩ := Draft.filled_none_some.1 (hprimary ▸ completes.primarySource)
    obtain ⟨hsources, gsources⟩ :=
      (Draft.exists_filled_ids "sources").1 ⟨_, completes.sources, hsources⟩
    obtain ⟨hdependencies, gdependencies⟩ :=
      (Draft.exists_filled_ids "dependencies").1 ⟨_, completes.dependencies, hdependencies⟩
    obtain ⟨-, gsupported⟩ :=
      (Draft.exists_filled_getD "is_supported" Json.reads_decodeBoolean trivial).1
        ⟨_, completes.supported, hsupported⟩
    obtain ⟨hlibraries, glibraries⟩ := (Draft.exists_filled_ids "unsupported_libraries").1
      ⟨_, completes.unsupportedLibraries, hlibraries⟩
    refine ⟨⟨hlegible, hsources, hdependencies, hlibraries⟩, .object hvalues ?_ completes.others⟩
    simp only [optionals, List.forall_mem_cons, List.not_mem_nil, false_imp_iff, implies_true, and_true]
    exact ⟨gsources, gdependencies, gsupported, glibraries⟩
  · rintro ⟨⟨hlegible, hsources, hdependencies, hlibraries⟩, ⟨hvalues, hoptionals, hothers⟩⟩
    simp only [optionals, List.forall_mem_cons, List.not_mem_nil, false_imp_iff, implies_true,
      and_true] at hoptionals
    obtain ⟨gsources, gdependencies, gsupported, glibraries⟩ := hoptionals
    obtain ⟨_, fsources, hsources⟩ := (Draft.exists_filled_ids "sources").2 ⟨hsources, gsources⟩
    obtain ⟨_, fdependencies, hdependencies⟩ :=
      (Draft.exists_filled_ids "dependencies").2 ⟨hdependencies, gdependencies⟩
    obtain ⟨_, fsupported, hsupported⟩ :=
      (Draft.exists_filled_getD "is_supported" Json.reads_decodeBoolean trivial).2
        ⟨trivial, gsupported⟩
    obtain ⟨_, flibraries, hlibraries⟩ :=
      (Draft.exists_filled_ids "unsupported_libraries").2 ⟨hlibraries, glibraries⟩
    exact ⟨⟨some m.primarySource, _, _, _, _⟩,
      ⟨Draft.filled_none_some.2 ⟨hlegible, hvalues⟩, fsources, fdependencies, fsupported, flibraries,
        hothers⟩,
      rfl, hsources, hdependencies, hsupported, hlibraries⟩

theorem ofJson_eq_ok_iff : ofJson value = .ok m ↔ m.Legible ∧ m.Form value := by
  cases value with
  | object fields =>
    unfold ofJson
    simp only [Json.bind_eq_ok_iff, Draft.readFields_eq_ok_iff]
    exact exists_completes_iff
  | array values =>
    cases values with
    | nil =>
      constructor
      · nofun
      · rintro ⟨-, ⟨⟩⟩
    | cons value rest =>
      rw [ofJson, ofItems_eq_ok_iff]
      constructor
      · rintro ⟨hlegible, rfl, hitems⟩
        exact ⟨hlegible, .array hitems⟩
      · rintro ⟨hlegible, ⟨⟩⟩
        exact ⟨hlegible, rfl, ‹_›⟩
  | _ =>
    constructor
    · nofun
    · rintro ⟨-, ⟨⟩⟩

theorem form_toJson (m : Module) : m.Form m.toJson := by
  refine .object rfl ?_ ?_
  · simp only [optionals, List.forall_mem_cons]
    exact ⟨.once, .once, .once, .once, nofun⟩
  · simp [Json.OthersSound, keys]

end Module

end DartBundle
