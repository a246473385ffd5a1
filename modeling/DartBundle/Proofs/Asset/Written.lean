import DartBundle.Asset.Json
import DartBundle.Proofs.Json.Decoding
/-!
This module contains the written form of asset ids. A text is read as an id exactly if it is the written
form of the id and the id is legible, so no id has two written forms and every legible id has one.
-/

namespace DartBundle

namespace AssetId

/--
Whether an id is found again in its written form: it is valid, and the first separator is the one behind
the package.
-/
structure Legible (id : AssetId) : Prop where
  valid : id.validate = .ok ()
  separate : '|' ∉ id.package.toList

variable {id : AssetId} {text : String}

theorem toList_display (id : AssetId) :
    id.display.toList = id.package.toList ++ '|' :: id.path.toList := by
  simp [display]

theorem cut?_display (h : '|' ∉ id.package.toList) :
    Text.cut? '|' id.display.toList = some (id.package.toList, id.path.toList) := by
  rw [toList_display]
  exact Text.cut?_append id.path.toList h

theorem eq_display_of_cut? {package path : List Char}
    (h : Text.cut? '|' text.toList = some (package, path)) :
    text = (AssetId.mk (String.ofList package) (String.ofList path)).display ∧ '|' ∉ package := by
  obtain ⟨htext, hpackage⟩ := Text.cut?_eq_some h
  refine ⟨?_, hpackage⟩
  rw [← String.toList_inj, toList_display, htext, String.toList_ofList, String.toList_ofList]

theorem parse_eq_ok_iff : parse text = .ok id ↔ text = id.display ∧ id.Legible := by
  unfold parse
  constructor
  · intro h
    split at h
    · cases h
    · next package path hcut =>
      obtain ⟨hvalid, hvalidate, rfl⟩ := Json.map_eq_ok_iff.1 h
      obtain ⟨htext, hpackage⟩ := eq_display_of_cut? hcut
      refine ⟨htext, hvalidate, ?_⟩
      rw [String.toList_ofList]
      exact hpackage
  · rintro ⟨rfl, hvalid, hseparate⟩
    rw [cut?_display hseparate]
    dsimp only
    rw [String.ofList_toList, String.ofList_toList, hvalid]
    rfl

theorem parse_display_iff : parse id.display = .ok id ↔ id.Legible := by
  rw [parse_eq_ok_iff]
  exact and_iff_right rfl

theorem reads_ofJson : Json.Reads ofJson toJson Legible := by
  intro value id
  unfold ofJson toJson
  rw [Json.bind_eq_ok_iff]
  simp only [Json.decodeText_eq_ok_iff]
  constructor
  · rintro ⟨text, rfl, h⟩
    split at h
    · next read hparse =>
      cases h
      obtain ⟨rfl, hlegible⟩ := parse_eq_ok_iff.1 hparse
      exact ⟨rfl, hlegible⟩
    · cases h
  · rintro ⟨rfl, hlegible⟩
    refine ⟨id.display, rfl, ?_⟩
    rw [parse_display_iff.2 hlegible]
    rfl

end AssetId

end DartBundle
