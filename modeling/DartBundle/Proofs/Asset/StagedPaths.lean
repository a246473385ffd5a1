import DartBundle.Proofs.Staging.Addresses
/-!
This module contains which assets are staged at one path. Libraries are kept apart by their packages, all
other assets are not, and such an asset may have for its own path the one at which a library is staged.
-/

namespace DartBundle

theorem Text.append_sep_inj {sep : Char} {as bs cs ds : List Char} (has : sep ∉ as) (hbs : sep ∉ bs) :
    as ++ sep :: cs = bs ++ sep :: ds ↔ as = bs ∧ cs = ds := by
  constructor
  · intro h
    have hcut := cut?_append cs has
    rw [h, cut?_append ds hbs, Option.some.injEq, Prod.mk.injEq] at hcut
    exact ⟨hcut.1.symm, hcut.2.symm⟩
  · rintro ⟨rfl, rfl⟩
    rfl

namespace AssetId

variable {a b id : AssetId} {rest rest' : String}

def MeetsPage (library page : AssetId) : Prop :=
  page.isLibrary = false ∧ ∃ rest, library.path = "lib/" ++ rest ∧
    page.path = "packages/" ++ library.package ++ "/" ++ rest

theorem isLibrary_iff : id.isLibrary = true ↔ ∃ rest, id.path = "lib/" ++ rest := by
  unfold isLibrary
  rw [Option.isSome_iff_exists]
  constructor
  · rintro ⟨rest, hrest⟩
    refine ⟨String.ofList rest, ?_⟩
    rw [path_eq_iff, hrest, String.toList_ofList]
  · rintro ⟨rest, hpath⟩
    exact ⟨rest.toList, path_eq_iff.1 hpath⟩

theorem stagingPath_of_page (h : id.isLibrary = false) : id.stagingPath = id.path := by
  apply stagingPath_of_not_library
  rw [← isLibrary_iff, h]
  exact Bool.false_ne_true

theorem toList_stagingPath (h : id.path = "lib/" ++ rest) :
    id.stagingPath.toList = "packages/".toList ++ (id.package.toList ++ '/' :: rest.toList) := by
  rw [stagingPath_of_library h]
  simp

theorem eq_of_libraries (ha : '/' ∉ a.package.toList) (hb : '/' ∉ b.package.toList)
    (hlibrary : a.isLibrary = true) (hlibrary' : b.isLibrary = true)
    (h : a.stagingPath = b.stagingPath) : a = b := by
  obtain ⟨rest, hpath⟩ := isLibrary_iff.1 hlibrary
  obtain ⟨rest', hpath'⟩ := isLibrary_iff.1 hlibrary'
  rw [← String.toList_inj, toList_stagingPath hpath, toList_stagingPath hpath',
    List.append_right_inj] at h
  obtain ⟨hpackage, hrest⟩ := (Text.append_sep_inj ha hb).1 h
  rw [String.toList_inj] at hpackage hrest
  rw [hrest, ← hpath'] at hpath
  exact ext hpackage hpath

theorem MeetsPage.library (h : a.MeetsPage b) : a.isLibrary = true := by
  obtain ⟨-, rest, hpath, -⟩ := h
  exact isLibrary_iff.2 ⟨rest, hpath⟩

theorem stagingPath_eq_of_library_iff (hlibrary : a.isLibrary = true) (hpage : b.isLibrary = false) :
    a.stagingPath = b.stagingPath ↔ a.MeetsPage b := by
  rw [stagingPath_of_page hpage]
  unfold MeetsPage
  constructor
  · intro h
    obtain ⟨rest, hpath⟩ := isLibrary_iff.1 hlibrary
    rw [stagingPath_of_library hpath] at h
    exact ⟨hpage, rest, hpath, h.symm⟩
  · rintro ⟨-, rest, hpath, hmeets⟩
    rw [stagingPath_of_library hpath, hmeets]

theorem stagingPath_eq_of_pages_iff (hne : a ≠ b) (hpage : a.isLibrary = false)
    (hpage' : b.isLibrary = false) :
    a.stagingPath = b.stagingPath ↔ a.path = b.path ∧ a.package ≠ b.package := by
  rw [stagingPath_of_page hpage, stagingPath_of_page hpage']
  constructor
  · intro hpath
    exact ⟨hpath, fun hpackage => hne (ext hpackage hpath)⟩
  · exact And.left

theorem stagingPath_eq_iff (ha : '/' ∉ a.package.toList) (hb : '/' ∉ b.package.toList) (hne : a ≠ b) :
    (a.stagingPath = b.stagingPath ↔
        a.isLibrary = false ∧ b.isLibrary = false ∧ a.path = b.path ∧ a.package ≠ b.package ∨
          a.MeetsPage b ∨ b.MeetsPage a) ∧
      (a.isLibrary = true → b.isLibrary = true → a.stagingPath ≠ b.stagingPath) := by
  have hlibraries : a.isLibrary = true → b.isLibrary = true → a.stagingPath ≠ b.stagingPath :=
    fun hlibrary hlibrary' h => hne (eq_of_libraries ha hb hlibrary hlibrary' h)
  refine ⟨?_, hlibraries⟩
  -- a library meets a page only, so at most one of the three cases can arise
  cases hlibrary : a.isLibrary with
  | false =>
    have hmeets : ¬ a.MeetsPage b := fun h => Bool.false_ne_true (hlibrary.symm.trans h.library)
    cases hlibrary' : b.isLibrary with
    | false =>
      have hmeets' : ¬ b.MeetsPage a := fun h => Bool.false_ne_true (hlibrary'.symm.trans h.library)
      rw [stagingPath_eq_of_pages_iff hne hlibrary hlibrary']
      simp [hmeets, hmeets']
    | true =>
      rw [eq_comm, stagingPath_eq_of_library_iff hlibrary' hlibrary]
      simp [hmeets]
  | true =>
    have hmeets' : ¬ b.MeetsPage a := fun h => Bool.false_ne_true (h.1.symm.trans hlibrary)
    cases hlibrary' : b.isLibrary with
    | false =>
      rw [stagingPath_eq_of_library_iff hlibrary hlibrary']
      simp [hmeets']
    | true =>
      have hmeets : ¬ a.MeetsPage b := fun h => Bool.false_ne_true (h.1.symm.trans hlibrary')
      simp [hlibraries hlibrary hlibrary', hmeets, hmeets']

theorem stagingPath_eq_of_homonyms :
    parse "a|lib/x" = .ok ⟨"a", "lib/x"⟩ ∧ parse "b|lib/x" = .ok ⟨"b", "lib/x"⟩ ∧
      parse "b|packages/a/x" = .ok ⟨"b", "packages/a/x"⟩ ∧
      parse "a|packages/a/x" = .ok ⟨"a", "packages/a/x"⟩ ∧
      stagingPath ⟨"a", "lib/x"⟩ ≠ stagingPath ⟨"b", "lib/x"⟩ ∧
      stagingPath ⟨"a", "lib/x"⟩ = stagingPath ⟨"b", "packages/a/x"⟩ ∧
      stagingPath ⟨"a", "packages/a/x"⟩ = stagingPath ⟨"b", "packages/a/x"⟩ := by
  have ha : '/' ∉ "a".toList := by decide
  have hb : '/' ∉ "b".toList := by decide
  refine ⟨by rfl, by rfl, by rfl, by rfl, ?_, ?_, ?_⟩
  · exact (stagingPath_eq_iff ha hb (by decide)).2 rfl rfl
  · exact (stagingPath_eq_iff ha hb (by decide)).1.2 (.inr (.inl ⟨rfl, "x", rfl, rfl⟩))
  · exact (stagingPath_eq_iff ha hb (by decide)).1.2 (.inl ⟨rfl, rfl, rfl, by decide⟩)

example : stagingPath ⟨"a", "lib/b/c"⟩ = stagingPath ⟨"a/b", "lib/c"⟩ := by decide

end AssetId

end DartBundle
