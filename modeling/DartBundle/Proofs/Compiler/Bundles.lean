import DartBundle.Proofs.Asset.Siblings
/-!
This module contains when the bundles of different entry points are different assets. Entry points that have
the same extension keep what comes before it, so their bundles differ as they do, unless one of them has
nothing but the extension for a name.
-/

namespace DartBundle

namespace AssetId

variable {a b id : AssetId} {front rest : List Char} {extension : String}

def StartsName (front : List Char) : Prop :=
  front = [] ∨ front.getLast? = some '/'

theorem startsName_iff : StartsName front ↔ (splitName front).2 = [] := by
  unfold StartsName
  rw [splitName_eq]
  dsimp only
  rw [List.rtakeWhile_eq_nil_iff]
  constructor
  · rintro (rfl | hslash) hne
    · exact absurd rfl hne
    · rw [List.getLast?_eq_some_getLast hne, Option.some.injEq] at hslash
      simp [hslash]
  · intro h
    by_cases hne : front = []
    · exact .inl hne
    · right
      have hlast := h hne
      rw [decide_eq_true_eq, not_not] at hlast
      rw [List.getLast?_eq_some_getLast hne, hlast]

theorem not_startsName_append (hslash : '/' ∉ rest) : ¬ StartsName (front ++ '.' :: rest) := by
  have hadded : '/' ∉ '.' :: rest := by
    simp [hslash]
  rw [startsName_iff, splitName_append front hadded]
  simp

theorem stem_dot (hdot : '.' ∉ rest) : stem ('.' :: rest) = '.' :: rest := by
  have hrest : ∀ c ∈ rest.reverse, decide (c ≠ '.') = true := by
    intro c hc
    rw [decide_eq_true_eq]
    rintro rfl
    exact hdot (List.mem_reverse.1 hc)
  unfold stem
  rw [List.reverse_cons, List.dropWhile_append_of_pos hrest]
  rfl

theorem toList_pathWithoutExtension (hpath : id.path.toList = front ++ '.' :: rest) (hdot : '.' ∉ rest)
    (hslash : '/' ∉ rest) :
    (StartsName front → id.pathWithoutExtension = id.path) ∧
      (¬ StartsName front → id.pathWithoutExtension.toList = front) := by
  have hadded : '/' ∉ '.' :: rest := by
    simp [hslash]
  have hfront := splitName_append_eq front
  unfold pathWithoutExtension
  dsimp only
  rw [hpath, splitName_append front hadded, startsName_iff]
  dsimp only
  constructor
  · intro hname
    rw [hname, List.append_nil] at hfront
    rw [hname, List.nil_append, stem_dot hdot, hfront, ← hpath, String.ofList_toList]
  · intro hname
    rw [stem_append_dot hname hdot, hfront, String.toList_ofList]

theorem changeExtension_eq_iff :
    a.changeExtension extension = b.changeExtension extension ↔
      a.package = b.package ∧ a.pathWithoutExtension = b.pathWithoutExtension := by
  unfold changeExtension
  rw [AssetId.mk.injEq]
  apply and_congr_right
  intro _
  rw [← String.toList_inj, String.toList_append, String.toList_append, List.append_left_inj,
    String.toList_inj]

structure DoubledBy (suffix : List Char) (a b : AssetId) : Prop where
  package : a.package = b.package
  path : ∃ directory, StartsName directory ∧ a.path.toList = directory ++ suffix ∧
    b.path.toList = a.path.toList ++ suffix

theorem DoubledBy.pathWithoutExtension (h : DoubledBy ('.' :: rest) a b) (hdot : '.' ∉ rest)
    (hslash : '/' ∉ rest) : a.pathWithoutExtension = b.pathWithoutExtension := by
  obtain ⟨directory, hstarts, ha, hb⟩ := h.path
  have hname : ¬ StartsName a.path.toList := by
    rw [ha]
    exact not_startsName_append hslash
  rw [(toList_pathWithoutExtension ha hdot hslash).1 hstarts, ← String.toList_inj,
    (toList_pathWithoutExtension hb hdot hslash).2 hname]

theorem pathWithoutExtension_eq_iff {front' : List Char} (ha : a.path.toList = front ++ '.' :: rest)
    (hb : b.path.toList = front' ++ '.' :: rest) (hdot : '.' ∉ rest) (hslash : '/' ∉ rest)
    (hpackage : a.package = b.package) :
    a.pathWithoutExtension = b.pathWithoutExtension ↔
      a = b ∨ DoubledBy ('.' :: rest) a b ∨ DoubledBy ('.' :: rest) b a := by
  constructor
  · intro h
    obtain ⟨hhidden, hvisible⟩ := toList_pathWithoutExtension ha hdot hslash
    obtain ⟨hhidden', hvisible'⟩ := toList_pathWithoutExtension hb hdot hslash
    by_cases hstarts : StartsName front
    · by_cases hstarts' : StartsName front'
      · rw [hhidden hstarts, hhidden' hstarts'] at h
        exact .inl (AssetId.ext hpackage h)
      · -- what is left of the second path is the whole of the first one
        rw [hhidden hstarts] at h
        have hfront := hvisible' hstarts'
        rw [← h] at hfront
        refine .inr (.inl ⟨hpackage, front, hstarts, ha, ?_⟩)
        rw [hb, hfront]
    · by_cases hstarts' : StartsName front'
      · rw [hhidden' hstarts'] at h
        have hfront := hvisible hstarts
        rw [h] at hfront
        refine .inr (.inr ⟨hpackage.symm, front', hstarts', hb, ?_⟩)
        rw [ha, hfront]
      · have hfront := hvisible hstarts
        rw [h, hvisible' hstarts'] at hfront
        rw [hfront, ← ha, String.toList_inj] at hb
        exact .inl (AssetId.ext hpackage hb.symm)
  · rintro (rfl | hdoubled | hdoubled)
    · rfl
    · exact hdoubled.pathWithoutExtension hdot hslash
    · exact (hdoubled.pathWithoutExtension hdot hslash).symm

theorem changeExtension_eq_iff_of_suffix (ha : '.' :: rest <:+ a.path.toList)
    (hb : '.' :: rest <:+ b.path.toList) (hdot : '.' ∉ rest) (hslash : '/' ∉ rest) :
    a.changeExtension extension = b.changeExtension extension ↔
      a = b ∨ DoubledBy ('.' :: rest) a b ∨ DoubledBy ('.' :: rest) b a := by
  obtain ⟨front, hfront⟩ := ha
  obtain ⟨front', hfront'⟩ := hb
  rw [changeExtension_eq_iff]
  constructor
  · rintro ⟨hpackage, h⟩
    exact (pathWithoutExtension_eq_iff hfront.symm hfront'.symm hdot hslash hpackage).1 h
  · intro h
    have hpackage : a.package = b.package := by
      rcases h with rfl | hdoubled | hdoubled
      · rfl
      · exact hdoubled.package
      · exact hdoubled.package.symm
    exact ⟨hpackage, (pathWithoutExtension_eq_iff hfront.symm hfront'.symm hdot hslash hpackage).2 h⟩

end AssetId

namespace Invocation

open AssetId

theorem bundles_of_dart_files_eq_iff {a b : AssetId} (ha : ".dart".toList <:+ a.path.toList)
    (hb : ".dart".toList <:+ b.path.toList) (packageConfig packageConfig' : String)
    (area area' : StagingArea) (config : CompilerConfig) (sdk sdk' : Sdk) :
    ((build a packageConfig area config sdk).bundle =
        (build b packageConfig' area' config sdk').bundle ↔
      a = b ∨ DoubledBy ".dart".toList a b ∨ DoubledBy ".dart".toList b a) ∧
    ((build a packageConfig area config sdk).sourceMap =
        (build b packageConfig' area' config sdk').sourceMap ↔
      a = b ∨ DoubledBy ".dart".toList a b ∨ DoubledBy ".dart".toList b a) := by
  have hdot : '.' ∉ "dart".toList := by decide
  have hslash : '/' ∉ "dart".toList := by decide
  constructor
  · exact changeExtension_eq_iff_of_suffix ha hb hdot hslash
  · exact changeExtension_eq_iff_of_suffix ha hb hdot hslash

theorem bundles_of_hidden_and_tripled_ne :
    validate ⟨"a", "lib/.dart"⟩ = .ok () ∧ validate ⟨"a", "lib/.dart.dart.dart"⟩ = .ok () ∧
      (build ⟨"a", "lib/.dart"⟩ "c" ⟨"/s"⟩ {} ⟨"/k"⟩).bundle ≠
        (build ⟨"a", "lib/.dart.dart.dart"⟩ "c" ⟨"/s"⟩ {} ⟨"/k"⟩).bundle ∧
      (build ⟨"a", "lib/.dart"⟩ "c" ⟨"/s"⟩ {} ⟨"/k"⟩).sourceMap ≠
        (build ⟨"a", "lib/.dart.dart.dart"⟩ "c" ⟨"/s"⟩ {} ⟨"/k"⟩).sourceMap := by
  obtain ⟨hbundle, hmap⟩ := bundles_of_dart_files_eq_iff (a := ⟨"a", "lib/.dart"⟩)
    (b := ⟨"a", "lib/.dart.dart.dart"⟩) (by decide) (by decide) "c" "c" ⟨"/s"⟩ ⟨"/s"⟩ {} ⟨"/k"⟩ ⟨"/k"⟩
  have happart : ¬ ((⟨"a", "lib/.dart"⟩ : AssetId) = ⟨"a", "lib/.dart.dart.dart"⟩ ∨
      DoubledBy ".dart".toList ⟨"a", "lib/.dart"⟩ ⟨"a", "lib/.dart.dart.dart"⟩ ∨
        DoubledBy ".dart".toList ⟨"a", "lib/.dart.dart.dart"⟩ ⟨"a", "lib/.dart"⟩) := by
    rintro (h | ⟨-, -, -, -, h⟩ | ⟨-, -, -, -, h⟩)
    · exact absurd h (by decide)
    · exact absurd h (by decide)
    · exact absurd h (by decide)
  exact ⟨by rfl, by rfl, mt hbundle.1 happart, mt hmap.1 happart⟩

theorem bundle_shared_with_hidden :
    validate ⟨"a", ".dart"⟩ = .ok () ∧ validate ⟨"a", ".dart.dart"⟩ = .ok () ∧
      ".dart".toList <:+ ".dart.dart".toList ∧ (⟨"a", ".dart"⟩ : AssetId) ≠ ⟨"a", ".dart.dart"⟩ ∧
      (build ⟨"a", ".dart"⟩ "c" ⟨"/s"⟩ {} ⟨"/k"⟩).bundle =
        (build ⟨"a", ".dart.dart"⟩ "c" ⟨"/s"⟩ {} ⟨"/k"⟩).bundle ∧
      (build ⟨"a", ".dart"⟩ "c" ⟨"/s"⟩ {} ⟨"/k"⟩).sourceMap =
        (build ⟨"a", ".dart.dart"⟩ "c" ⟨"/s"⟩ {} ⟨"/k"⟩).sourceMap := by
  refine ⟨by rfl, by rfl, by decide, by decide, ?_, ?_⟩
  · decide +kernel
  · decide +kernel

end Invocation

end DartBundle
