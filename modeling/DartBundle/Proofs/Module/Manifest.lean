import DartBundle.Proofs.Json.Writing
import DartBundle.Proofs.Module.Forms
import DartBundle.Proofs.Module.Ownership
/-!
This module contains how manifests may be written, and that all manifests of the same modules describe the
same graph. The one that is written for a graph describes this graph.
-/

namespace DartBundle

namespace Module

theorem writable_ids (ids : List AssetId) : (Json.array (ids.map AssetId.toJson)).Writable := by
  apply Json.writable_array
  intro value hvalue
  obtain ⟨id, -, rfl⟩ := List.mem_map.1 hvalue
  exact Json.writable_text id.display

theorem writable_toJson (m : Module) : m.toJson.Writable := by
  apply Json.writable_object
  simp only [List.forall_mem_cons]
  exact ⟨⟨rfl, Json.writable_text m.primarySource.display⟩, ⟨rfl, writable_ids m.sources⟩,
    ⟨rfl, writable_ids m.dependencies⟩, ⟨rfl, Json.writable_boolean m.supported⟩,
    ⟨rfl, writable_ids m.unsupportedLibraries⟩, nofun⟩

end Module

namespace ModuleGraph

inductive ManifestForm (modules : List Module) : Json → Prop
  | object {fields : List (Option String × Json)} {values : List Json}
    (listed : Json.valuesOf "modules" fields = [.array values])
    (forms : List.Forall₂ Module.Form modules values)
    (others : Json.OthersSound ["modules"] fields) : ManifestForm modules (.object fields)
  | array {values : List Json} (forms : List.Forall₂ Module.Form modules values) :
    ManifestForm modules (.array [.array values])

def Legible (g : ModuleGraph) : Prop :=
  ∀ m ∈ g.modules, m.Legible

variable {g : ModuleGraph} {modules : List Module} {earlier : Option (List Module)} {value : Json}
  {fields : List (Option String × Json)} {text : String}

theorem decodeList_modules_eq_ok_iff : Json.decodeList Module.ofJson value = .ok modules ↔
    (∀ m ∈ modules, m.Legible) ∧
      ∃ values, value = .array values ∧ List.Forall₂ Module.Form modules values := by
  rw [Json.decodeList_eq_ok_iff fun _ _ => Module.ofJson_eq_ok_iff]
  simp only [List.forall₂_and_left]
  constructor
  · rintro ⟨values, rfl, hlegible, hforms⟩
    exact ⟨hlegible, values, rfl, hforms⟩
  · rintro ⟨hlegible, values, rfl, hforms⟩
    exact ⟨values, rfl, hlegible, hforms⟩

theorem readManifest_eq_ok_iff : readManifest earlier fields = .ok modules ↔
    Module.Draft.Filled (Json.decodeList Module.ofJson) earlier (Json.valuesOf "modules" fields)
      (some modules) ∧ Json.OthersSound ["modules"] fields := by
  induction fields generalizing earlier with
  | nil =>
    have hothers := Json.othersSound_nil ["modules"]
    cases earlier <;> simp [readManifest, Json.valuesOf, Module.Draft.filled_nil, hothers]
  | cons field rest ih =>
    obtain ⟨key, value⟩ := field
    rw [Json.othersSound_cons, Json.valuesOf_cons, List.forall_mem_singleton]
    by_cases hkey : key = some "modules"
    · subst hkey
      rw [if_pos rfl, readManifest, if_pos rfl, Json.bind_eq_ok_iff, Module.Draft.filled_cons "modules"]
      simp [ih, ← exists_and_right, and_assoc]
    · rw [if_neg hkey, forall_prop_of_true hkey]
      cases key with
      | none => simp [readManifest]
      | some key =>
        rw [Option.some.injEq] at hkey
        rw [readManifest, if_neg hkey, Json.bind_eq_ok_iff]
        simp only [Json.ignore_eq_ok_iff, ih]
        simp [and_left_comm]

theorem manifest_eq_ok_iff :
    manifest value = .ok modules ↔ (∀ m ∈ modules, m.Legible) ∧ ManifestForm modules value := by
  fun_cases manifest value with
  | case1 fields =>
    rw [readManifest_eq_ok_iff]
    constructor
    · rintro ⟨hlisted, hothers⟩
      generalize hvalues : Json.valuesOf "modules" fields = values at hlisted
      cases hlisted with
      | given h =>
        obtain ⟨hlegible, _, rfl, hforms⟩ := decodeList_modules_eq_ok_iff.1 h
        exact ⟨hlegible, .object hvalues hforms hothers⟩
    · rintro ⟨hlegible, ⟨hlisted, hforms, hothers⟩⟩
      rw [hlisted]
      exact ⟨.given (decodeList_modules_eq_ok_iff.2 ⟨hlegible, _, rfl, hforms⟩), hothers⟩
  | case2 =>
    constructor
    · nofun
    · rintro ⟨-, ⟨⟩⟩
  | case3 value rest =>
    rw [Json.bind_eq_ok_iff]
    constructor
    · rintro ⟨_, hmodules, h⟩
      split at h
      · next hrest =>
        cases h
        obtain ⟨hlegible, _, rfl, hforms⟩ := decodeList_modules_eq_ok_iff.1 hmodules
        rw [List.isEmpty_iff.1 hrest]
        exact ⟨hlegible, .array hforms⟩
      · cases h
    · rintro ⟨hlegible, ⟨⟩⟩
      next hforms => exact ⟨modules, decodeList_modules_eq_ok_iff.2 ⟨hlegible, _, rfl, hforms⟩, rfl⟩
  | case4 _ hobject hempty harray =>
    constructor
    · nofun
    · rintro ⟨-, hform⟩
      cases hform with
      | object => exact absurd rfl (hobject _)
      | array => exact absurd rfl (harray _ _)

theorem writable_toJson (g : ModuleGraph) : g.toJson.Writable := by
  refine Json.writable_object (List.forall_mem_singleton.2 ⟨rfl, Json.writable_array ?_⟩)
  intro value hvalue
  obtain ⟨m, -, rfl⟩ := List.mem_map.1 hvalue
  exact m.writable_toJson

theorem manifestForm_toJson (g : ModuleGraph) : ManifestForm g.modules g.toJson := by
  refine .object rfl ?_ (by simp [Json.OthersSound])
  rw [List.forall₂_map_right_iff, List.forall₂_same]
  exact fun m _ => m.form_toJson

theorem parse_of_spells (h : value.Spells text) (hform : ManifestForm modules value)
    (hlegible : ∀ m ∈ modules, m.Legible) : parse text = ofModules modules := by
  unfold parse
  rw [Json.decode_of_spells h, manifest_eq_ok_iff.2 ⟨hlegible, hform⟩]

theorem ofModules_modules (g : ModuleGraph) : ofModules g.modules = .ok g :=
  ofModules_eq_ok g.distinct

theorem parse_render (h : g.Legible) : parse g.render = .ok g := by
  have hspells := Json.spells_writePretty g.writable_toJson
  exact (parse_of_spells hspells g.manifestForm_toJson h).trans g.ofModules_modules

theorem legible_of_parse (h : parse text = .ok g) : g.Legible := by
  unfold parse at h
  split at h
  · cases h
  · next modules hdecode =>
    obtain rfl := modules_of_ofModules h
    exact (manifest_eq_ok_iff.1 (Json.decode_eq_ok_iff.1 hdecode).1).1

theorem forms_decoded_alike :
    (∀ (m : Module) (value : Json) (text : String), (∀ id ∈ m.ids, AssetId.parse id.display = .ok id) →
      value.Spells text → (Json.decode Module.ofJson text = .ok m ↔ m.Form value)) ∧
    ∀ (modules : List Module) (value : Json) (text : String),
      (∀ m ∈ modules, ∀ id ∈ m.ids, AssetId.parse id.display = .ok id) → value.Spells text →
        ManifestForm modules value → parse text = ofModules modules ∧
          ∀ g, ofModules modules = .ok g → parse text = parse g.render := by
  refine ⟨?_, ?_⟩
  · intro m value text hids hspells
    have hlegible : m.Legible := fun id hid => AssetId.parse_display_iff.1 (hids id hid)
    rw [Json.decode_of_spells hspells, Module.ofJson_eq_ok_iff]
    exact and_iff_right hlegible
  · intro modules value text hids hspells hform
    have hlegible : ∀ m ∈ modules, m.Legible :=
      fun m hm id hid => AssetId.parse_display_iff.1 (hids m hm id hid)
    have hparse := parse_of_spells hspells hform hlegible
    refine ⟨hparse, ?_⟩
    intro g hg
    obtain rfl := modules_of_ofModules hg
    rw [hparse, hg, parse_render hlegible]

def quoted : Module where
  primarySource := ⟨"a\n\"", "lib/x|y"⟩
  sources := [⟨"é", "s"⟩, ⟨"é", "s"⟩]
  unsupportedLibraries := [⟨"dart:io", "\u0001"⟩]

def bare : Module where
  primarySource := ⟨"a", "x"⟩

def quotedForm : Json := .object [
  (some "unsupported_libraries", .array [.text (some "dart:io|\u0001")]),
  (some "note", .object [(some "sources", .array [.boolean false])]),
  (some "sources", .array [.text (some "é|s"), .text (some "é|s")]),
  (some "primary_source", .text (some "a\n\"|lib/x|y"))]

theorem form_quotedForm : quoted.Form quotedForm := by
  refine .object rfl ?_ ?_
  · simp only [Module.optionals, List.forall_mem_cons]
    exact ⟨.once, .omitted rfl, .omitted rfl, .once, List.forall_mem_nil _⟩
  · simp [Json.OthersSound, Module.keys, Json.intact, Json.intactFields, Json.intactItems]

theorem writable_quotedForm : quotedForm.Writable := by
  have hlibraries := Module.writable_ids quoted.unsupportedLibraries
  have hsources := Module.writable_ids quoted.sources
  have hprimary := Json.writable_text quoted.primarySource.display
  have hflags := Json.writable_array (List.forall_mem_singleton.2 (Json.writable_boolean false))
  have hnote : (Json.object [(some "sources", .array [.boolean false])]).Writable :=
    Json.writable_object (List.forall_mem_singleton.2 ⟨rfl, hflags⟩)
  apply Json.writable_object
  simp only [List.forall_mem_cons]
  exact ⟨⟨rfl, hlibraries⟩, ⟨rfl, hnote⟩, ⟨rfl, hsources⟩, ⟨rfl, hprimary⟩, nofun⟩

theorem parse_display_quoted : ∀ m ∈ [quoted, bare], ∀ id ∈ m.ids, AssetId.parse id.display = .ok id := by
  decide

theorem quoted_decoded_alike :
    Json.decode Module.ofJson quotedForm.writePretty = .ok quoted ∧
      Json.decode Module.ofJson " [\"\\u0061|x\"\t]" = .ok bare ∧
        ∃ g, ofModules [quoted, bare] = .ok g ∧
          parse (Json.array [.array [quotedForm, .array [bare.primarySource.toJson]]]).writePretty =
            parse g.render := by
  have hquoted := parse_display_quoted quoted (by simp)
  have hbare := parse_display_quoted bare (by simp)
  have hform : bare.Form (.array [bare.primarySource.toJson]) :=
    .array (.omitted (by simp [Module.optionals, bare]))
  have hspells : (Json.array [bare.primarySource.toJson]).Spells " [\"\\u0061|x\"\t]" := by
    have hnames : Json.Names [.ofUnit 0x61, .char '|', .char 'x']
        ['\\', 'u', '0', '0', '6', '1', '|', 'x'] :=
      .unit rfl (.plain (by decide) (by decide) (by decide)
        (.plain (by decide) (by decide) (by decide) .nil))
    have hend : Json.Laid [.closeArray] ['\t', ']'] := .blank rfl (.punctuation .closeArray rfl .nil)
    have hid := Json.Laid.punctuation (.text hnames) rfl hend
    exact .blank rfl (.punctuation .openArray rfl hid)
  refine ⟨?_, ?_, ?_⟩
  · exact (forms_decoded_alike.1 quoted quotedForm _ hquoted
      (Json.spells_writePretty writable_quotedForm)).2 form_quotedForm
  · exact (forms_decoded_alike.1 bare _ _ hbare hspells).2 hform
  · have hwritable : (Json.array [.array [quotedForm, .array [bare.primarySource.toJson]]]).Writable := by
      have hbare := Json.writable_array (List.forall_mem_singleton.2
        (Json.writable_text bare.primarySource.display))
      exact Json.writable_array (List.forall_mem_singleton.2
        (Json.writable_array (by simp [writable_quotedForm, hbare, AssetId.toJson])))
    obtain ⟨-, hgraph⟩ := forms_decoded_alike.2 [quoted, bare] _ _ parse_display_quoted
      (Json.spells_writePretty hwritable) (.array (.cons form_quotedForm (.cons hform .nil)))
    have hg := ofModules_eq_ok (show ([quoted, bare].map Module.id).Nodup by decide)
    exact ⟨_, hg, hgraph _ hg⟩

theorem manifest_round_trip :
    (∀ text g, parse text = .ok g → g.Legible ∧ parse g.render = .ok g) ∧
    ∀ modules g, (∀ m ∈ modules, m.Legible) → ofModules modules = .ok g →
      g.modules = modules ∧ parse g.render = .ok g := by
  refine ⟨?_, ?_⟩
  · intro text g h
    have hlegible := legible_of_parse h
    exact ⟨hlegible, parse_render hlegible⟩
  · intro modules g hlegible h
    obtain rfl := modules_of_ofModules h
    exact ⟨rfl, parse_render hlegible⟩

theorem quoted_round_trip :
    (∃ g, parse "\x7b\"modules\":[[\"\\u0061|x\"]],\"version\":1e0\x7d" = .ok g ∧ parse g.render = .ok g) ∧
      ∃ g, ofModules [quoted, bare] = .ok g ∧ parse g.render = .ok g := by
  have hread : (parse "\x7b\"modules\":[[\"\\u0061|x\"]],\"version\":1e0\x7d").toOption.isSome = true := by
    decide +kernel
  obtain ⟨g, hsome⟩ := Option.isSome_iff_exists.1 hread
  have hparse := eq_ok_of_toOption hsome
  have hg := ofModules_eq_ok (show ([quoted, bare].map Module.id).Nodup by decide)
  have hlegible : ∀ m ∈ [quoted, bare], m.Legible :=
    fun m hm id hid => AssetId.parse_display_iff.1 (parse_display_quoted m hm id hid)
  exact ⟨⟨g, hparse, (manifest_round_trip.1 _ g hparse).2⟩,
    ⟨_, hg, (manifest_round_trip.2 _ _ hlegible hg).2⟩⟩

end ModuleGraph

end DartBundle
