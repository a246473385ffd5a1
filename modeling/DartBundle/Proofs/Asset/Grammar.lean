import DartBundle.Proofs.Asset.Written
import DartBundle.Proofs.Json.Writing
import DartBundle.Proofs.Path
/-!
This module contains the grammar of asset ids: a package without a bar, a bar, and segments with slashes
between them. The texts of this form are exactly those that are read as ids.
-/

namespace DartBundle

namespace AssetId

structure IsSegment (segment : List Char) : Prop where
  nonempty : segment ≠ []
  separate : '/' ∉ segment
  ne_up : segment ≠ ['.', '.']

inductive IsPath : List Char → Prop
  | last {segment : List Char} (h : IsSegment segment) : IsPath segment
  | step {segment rest : List Char} (h : IsSegment segment) (path : IsPath rest) :
    IsPath (segment ++ '/' :: rest)

/--
Whether a text is of the form of an id. The first bar ends the package, the path may hold others.
-/
inductive IsForm : List Char → Prop
  | intro {package path : List Char} (named : package ≠ []) (first : '|' ∉ package)
    (segments : IsPath path) (plain : '\\' ∉ path) : IsForm (package ++ '|' :: path)

variable {id a b : AssetId} {text : String} {path : List Char}

theorem isPath_intercalate {segments : List (List Char)} (hne : segments ≠ [])
    (h : ∀ segment ∈ segments, IsSegment segment) : IsPath (['/'].intercalate segments) := by
  induction segments with
  | nil => exact absurd rfl hne
  | cons segment rest ih =>
    obtain ⟨hsegment, hrest⟩ := List.forall_mem_cons.1 h
    cases rest with
    | nil =>
      rw [List.intercalate_singleton]
      exact .last hsegment
    | cons next others =>
      rw [List.intercalate_cons_cons, List.append_assoc, List.singleton_append]
      exact .step hsegment (ih (List.cons_ne_nil next others) hrest)

theorem isSegment_of_isPath (h : IsPath path) : ∀ segment ∈ List.splitOn '/' path, IsSegment segment := by
  induction h with
  | last h =>
    rw [List.splitOn_eq_singleton h.separate]
    exact List.forall_mem_singleton.2 h
  | step h _ ih =>
    rw [List.splitOn_append_cons_self, List.splitOn_eq_singleton h.separate]
    exact List.forall_mem_cons.2 ⟨h, ih⟩

theorem isPath_iff : IsPath path ↔ ∀ segment ∈ List.splitOn '/' path, IsSegment segment := by
  constructor
  · exact isSegment_of_isPath
  · intro h
    have hjoined := isPath_intercalate (List.splitOn_ne_nil '/' path) h
    rwa [List.intercalate_splitOn] at hjoined

theorem ne_nil_of_isPath (h : IsPath path) : path ≠ [] := by
  cases h with
  | last h => exact h.nonempty
  | step h _ => simp

theorem head?_of_isPath (h : IsPath path) : path.head? ≠ some '/' := by
  have hhead : ∀ {segment : List Char}, IsSegment segment → ∀ rest, (segment ++ rest).head? ≠ some '/' := by
    intro segment hsegment rest hsome
    cases segment with
    | nil => exact hsegment.nonempty rfl
    | cons c others =>
      obtain rfl := Option.some.inj hsome
      exact hsegment.separate List.mem_cons_self
  cases h with
  | last h => simpa using hhead h []
  | step h _ => exact hhead h _

theorem isPath_of_segments (h : ∀ segment ∈ List.splitOn '/' path, segment ≠ [] ∧ segment ≠ ['.', '.']) :
    IsPath path := by
  rw [isPath_iff]
  intro segment hsegment
  obtain ⟨hnonempty, hup⟩ := h segment hsegment
  exact ⟨hnonempty, Text.not_mem_of_mem_splitOn hsegment, hup⟩

theorem validate_eq_ok_iff : id.validate = .ok () ↔
    id.package.toList ≠ [] ∧ IsPath id.path.toList ∧ '\\' ∉ id.path.toList := by
  unfold validate
  dsimp only
  constructor
  · intro h
    split at h
    · cases h
    split at h
    · cases h
    split at h
    · cases h
    next hnamed hrelative hsegments =>
    simp only [Bool.or_eq_true, String.isEmpty_iff, ← String.toList_eq_nil_iff, not_or] at hnamed
    simp only [Bool.or_eq_true, decide_eq_true_eq, List.contains_iff_mem, not_or] at hrelative
    refine ⟨hnamed.1, ?_, hrelative.2⟩
    apply isPath_of_segments
    simpa using hsegments
  · rintro ⟨hpackage, hpath, hplain⟩
    have hsegments := isPath_iff.1 hpath
    rw [if_neg, if_neg, if_neg]
    · simp only [List.any_eq_true, not_exists, not_and, Bool.or_eq_true, decide_eq_true_eq,
        List.isEmpty_iff, not_or]
      intro segment hsegment
      exact ⟨(hsegments segment hsegment).nonempty, (hsegments segment hsegment).ne_up⟩
    · simp only [Bool.or_eq_true, decide_eq_true_eq, List.contains_iff_mem, not_or]
      exact ⟨head?_of_isPath hpath, hplain⟩
    · simp only [Bool.or_eq_true, String.isEmpty_iff, ← String.toList_eq_nil_iff, not_or]
      exact ⟨hpackage, ne_nil_of_isPath hpath⟩

theorem exists_parse_iff : (∃ id, parse text = .ok id) ↔ IsForm text.toList := by
  simp only [parse_eq_ok_iff]
  constructor
  · rintro ⟨id, rfl, hvalid, hfirst⟩
    obtain ⟨hnamed, hpath, hplain⟩ := validate_eq_ok_iff.1 hvalid
    rw [toList_display]
    exact .intro hnamed hfirst hpath hplain
  · intro h
    generalize htext : text.toList = cs at h
    cases h with
    | @intro package path hnamed hfirst hpath hplain =>
      refine ⟨⟨String.ofList package, String.ofList path⟩, ?_, ?_, ?_⟩
      · rw [← String.toList_inj, htext, toList_display, String.toList_ofList, String.toList_ofList]
      · rw [validate_eq_ok_iff, String.toList_ofList, String.toList_ofList]
        exact ⟨hnamed, hpath, hplain⟩
      · rwa [String.toList_ofList]

theorem legible_iff : id.Legible ↔ id.validate = .ok () ∧ '|' ∉ id.package.toList := by
  constructor
  · rintro ⟨hvalid, hseparate⟩
    exact ⟨hvalid, hseparate⟩
  · rintro ⟨hvalid, hseparate⟩
    exact ⟨hvalid, hseparate⟩

theorem decode_eq_ok_iff (h : id.toJson.Spells text) : Json.decode ofJson text = .ok id ↔ id.Legible := by
  rw [Json.decode_of_spells h, reads_ofJson]
  exact and_iff_right rfl

theorem parse_reads_forms :
    (∀ text, (∃ id, parse text = .ok id) ↔ IsForm text.toList) ∧
      (∀ text id, parse text = .ok id → id.display = text) ∧
      (∀ id : AssetId, parse id.display = .ok id ↔ id.validate = .ok () ∧ '|' ∉ id.package.toList) ∧
      (∀ (text text' : String) (a b : AssetId), parse text = .ok a → parse text' = .ok b →
        a.display = b.display → a = b) ∧
      ∀ id : AssetId, id.toJson.Spells id.toJson.writePretty ∧
        ∀ text, id.toJson.Spells text →
          (Json.decode ofJson text = .ok id ↔ id.validate = .ok () ∧ '|' ∉ id.package.toList) := by
  refine ⟨fun _ => exists_parse_iff, ?_, ?_, ?_, ?_⟩
  · intro text id h
    exact (parse_eq_ok_iff.1 h).1.symm
  · intro id
    rw [parse_display_iff, legible_iff]
  · intro text text' a b ha hb h
    have hread : parse a.display = .ok a := parse_display_iff.2 (parse_eq_ok_iff.1 ha).2
    have hread' : parse b.display = .ok b := parse_display_iff.2 (parse_eq_ok_iff.1 hb).2
    rw [h, hread'] at hread
    exact (Except.ok.inj hread).symm
  · intro id
    refine ⟨Json.spells_writePretty (Json.writable_text id.display), ?_⟩
    intro text hspells
    rw [decode_eq_ok_iff hspells, legible_iff]

theorem parse_reads_barred_path :
    IsForm "a|b/./c|d".toList ∧ parse "a|b/./c|d" = .ok ⟨"a", "b/./c|d"⟩ ∧
      (⟨"a", "b/./c|d"⟩ : AssetId).display = "a|b/./c|d" ∧
      Json.decode ofJson (toJson ⟨"a", "b/./c|d"⟩).writePretty = .ok ⟨"a", "b/./c|d"⟩ := by
  obtain ⟨hread, hwritten, hagain, hone, hjson⟩ := parse_reads_forms
  have hname : IsSegment ['c', '|', 'd'] := ⟨by decide, by decide, by decide⟩
  have hdot : IsSegment ['.'] := ⟨by decide, by decide, by decide⟩
  have hfirst : IsSegment ['b'] := ⟨by decide, by decide, by decide⟩
  have hpath : IsPath "b/./c|d".toList := .step hfirst (.step hdot (.last hname))
  have hform : IsForm "a|b/./c|d".toList :=
    .intro (List.cons_ne_nil 'a' []) (by decide) hpath (by decide)
  have hparse : parse "a|b/./c|d" = .ok ⟨"a", "b/./c|d"⟩ := by
    apply (hagain ⟨"a", "b/./c|d"⟩).2
    exact ⟨by rfl, by decide⟩
  obtain ⟨id, hid⟩ := (hread "a|b/./c|d").2 hform
  obtain rfl : id = ⟨"a", "b/./c|d"⟩ := hone _ _ id _ hid hparse (hwritten _ id hid)
  obtain ⟨hspells, hdecode⟩ := hjson ⟨"a", "b/./c|d"⟩
  exact ⟨hform, hparse, hwritten _ _ hparse, (hdecode _ hspells).2 ((hagain _).1 hparse)⟩

end AssetId

end DartBundle
