import DartBundle.Proofs.Asset.Written
import DartBundle.Proofs.FileTree.Lexical
import DartBundle.Proofs.Staging.Addresses
/-!
This module contains how the package configs of different entry points are kept apart. Each has a name made
of a digest of the written form of its entry point, and two ids share a written form only if the separator
can be read at two places of it.
-/

namespace DartBundle

namespace Sha256

def fingerprint (text : String) : List UInt8 :=
  (digest text.toUTF8.toList).take 16

theorem length_fingerprint (text : String) : (fingerprint text).length = 16 := by
  simp [fingerprint]

theorem hex_cons (byte : UInt8) (rest : List UInt8) :
    hex (byte :: rest) =
      hexDigit (byte.toNat / 16) :: hexDigit (byte.toNat % 16) :: hex rest := by
  rfl

theorem take_hex (count : Nat) (bytes : List UInt8) :
    (hex bytes).take (2 * count) = hex (bytes.take count) := by
  induction count generalizing bytes with
  | zero => rfl
  | succ count ih =>
    cases bytes with
    | nil => rfl
    | cons byte rest =>
      rw [hex_cons, List.take_succ_cons, hex_cons, ← ih rest]
      rfl

theorem hexDigit_inj {m n : Nat} (hm : m < 16) (hn : n < 16) (h : hexDigit m = hexDigit n) :
    m = n := by
  have hdigits : ∀ m < 16, ∀ n < 16, hexDigit m = hexDigit n → m = n := by decide
  exact hdigits m hm n hn h

theorem hex_injective : Function.Injective hex := by
  intro as bs h
  induction as generalizing bs with
  | nil =>
    cases bs with
    | nil => rfl
    | cons b rest => cases h
  | cons a as ih =>
    cases bs with
    | nil => cases h
    | cons b bs =>
      simp only [hex_cons, List.cons.injEq] at h
      obtain ⟨hhigh, hlow, hrest⟩ := h
      have := a.toNat_lt
      have := b.toNat_lt
      have hdiv := hexDigit_inj (by omega) (by omega) hhigh
      have hmod := hexDigit_inj (by omega) (by omega) hlow
      have hbyte : a = b := UInt8.toNat_inj.1 (by omega)
      rw [hbyte, ih hrest]

theorem mem_of_mem_hex {bytes : List UInt8} {c : Char} (h : c ∈ hex bytes) :
    c ∈ "0123456789abcdef".toList := by
  have hdigit : ∀ n < 16, hexDigit n ∈ "0123456789abcdef".toList := by decide
  obtain ⟨byte, -, hbyte⟩ := List.mem_flatMap.1 h
  have := byte.toNat_lt
  rcases List.mem_pair.1 hbyte with rfl | rfl
  · exact hdigit _ (by omega)
  · exact hdigit _ (by omega)

end Sha256

namespace AssetId

variable {a b : AssetId}

def CutBefore (a b : AssetId) : Prop :=
  ∃ middle, b.package = a.package ++ "|" ++ middle ∧ a.path = middle ++ "|" ++ b.path

theorem not_cutBefore (h : '|' ∉ b.package.toList) : ¬ a.CutBefore b := by
  rintro ⟨middle, hpackage, -⟩
  rw [hpackage] at h
  simp at h

theorem display_eq_of_cutBefore (h : a.CutBefore b) : a.display = b.display := by
  obtain ⟨middle, hpackage, hpath⟩ := h
  unfold display
  rw [hpackage, hpath]
  simp only [String.append_assoc]

theorem cutBefore_of_append {added : List Char} (hpackage : b.package.toList = a.package.toList ++ added)
    (hpath : '|' :: a.path.toList = added ++ '|' :: b.path.toList) : a = b ∨ a.CutBefore b := by
  cases added with
  | nil =>
    left
    rw [List.append_nil, String.toList_inj] at hpackage
    rw [List.nil_append, List.cons.injEq, String.toList_inj] at hpath
    exact ext hpackage.symm hpath.2
  | cons c middle =>
    right
    rw [List.cons_append, List.cons.injEq] at hpath
    obtain ⟨rfl, hpath⟩ := hpath
    refine ⟨String.ofList middle, ?_, ?_⟩
    · rw [← String.toList_inj, hpackage]
      simp
    · rw [← String.toList_inj, hpath]
      simp

theorem display_eq_iff : a.display = b.display ↔ a = b ∨ a.CutBefore b ∨ b.CutBefore a := by
  constructor
  · intro h
    rw [← String.toList_inj, toList_display, toList_display, List.append_eq_append_iff] at h
    rcases h with ⟨added, hpackage, hpath⟩ | ⟨added, hpackage, hpath⟩
    · exact (cutBefore_of_append hpackage hpath).imp id .inl
    · exact (cutBefore_of_append hpackage hpath).imp Eq.symm .inr
  · rintro (rfl | h | h)
    · rfl
    · exact display_eq_of_cutBefore h
    · exact (display_eq_of_cutBefore h).symm

end AssetId

namespace PackageConfig

variable {a b : AssetId}

theorem path_eq (entry : AssetId) :
    path entry = ".dart_tool/package_config_" ++
      String.ofList (Sha256.hex (Sha256.fingerprint entry.display)) ++ ".json" := by
  unfold Sha256.fingerprint
  rw [← Sha256.take_hex, ← String.toList_inj]
  simp [path, directory, scratchFileName]

theorem path_eq_iff :
    path a = path b ↔ Sha256.fingerprint a.display = Sha256.fingerprint b.display := by
  rw [path_eq, path_eq]
  constructor
  · intro h
    rw [String.append_left_inj, String.append_right_inj, String.ofList_inj] at h
    exact Sha256.hex_injective h
  · intro h
    rw [h]

theorem steps_path (entry : AssetId) :
    Path.steps (path entry) = [directory, scratchFileName entry "package_config" "json"] := by
  have hname : '/' ∉ (scratchFileName entry "package_config" "json").toList :=
    slash_not_mem_scratchFileName (by decide) (by decide)
  have hpath : path entry = String.ofList
      (directory.toList ++ '/' :: (scratchFileName entry "package_config" "json").toList) := by
    rw [← String.toList_inj]
    simp [path]
  have hempty : (scratchFileName entry "package_config" "json").isEmpty = false := by
    rw [← Bool.not_eq_true, String.isEmpty_iff, ← String.toList_inj]
    simp [scratchFileName]
  rw [hpath, Path.steps_ofList_append, String.ofList_toList, String.ofList_toList,
    Path.steps_of_not_mem (by decide), Path.steps_of_not_mem hname, hempty]
  rfl

theorem path_inj_of_name
    (h : scratchFileName a "package_config" "json" = scratchFileName b "package_config" "json") :
    path a = path b := by
  unfold path
  rw [h]

end PackageConfig

namespace StagingArea

open FileTree

variable {a b : AssetId} {t u v : FileTree} {area : StagingArea}

theorem locate_config (t : FileTree) (area : StagingArea) (entry : AssetId) :
    t.locate (area.resolve (PackageConfig.path entry)) =
      scratchFileName entry "package_config" "json" ::
        PackageConfig.directory :: t.locate area.root := by
  have hlong : ∀ dots : String, dots.toList.length ≤ 2 →
      scratchFileName entry "package_config" "json" ≠ dots := by
    intro dots hdots h
    rw [← h] at hdots
    simp [scratchFileName] at hdots
  unfold StagingArea.resolve
  rw [locate_resolve, PackageConfig.steps_path, List.foldl_cons, List.foldl_cons, List.foldl_nil,
    stepFrom_of_ne (hlong _ (by decide)) (hlong _ (by decide)),
    stepFrom_of_ne (by decide) (by decide)]

theorem locate_config_iff :
    t.locate (area.resolve (PackageConfig.path a)) =
        t.locate (area.resolve (PackageConfig.path b)) ↔
      PackageConfig.path a = PackageConfig.path b := by
  constructor
  · intro h
    rw [locate_config, locate_config, List.cons.injEq] at h
    exact PackageConfig.path_inj_of_name h.1
  · intro h
    rw [h]

theorem read_config_of_writes {first second : Closure} {p q : String} (plain : t.Plain)
    (hfirst : area.writePackageConfig first t = .ok p u)
    (hsecond : area.writePackageConfig second u = .ok q v) :
    v.read (area.resolve p) =
      .ok (if p = q then (PackageConfig.ofClosure second).render.toUTF8
        else (PackageConfig.ofClosure first).render.toUTF8) := by
  have hwrites := writePackageConfig_ok plain hfirst
  have plain' := hwrites.confined.plain plain
  rw [(writePackageConfig_ok plain' hsecond).read_other plain' hwrites.read]
  obtain rfl := writePackageConfig_path hfirst
  obtain rfl := writePackageConfig_path hsecond
  simp only [locate_config_iff]

theorem package_configs_apart_iff {a b : AssetId}
    (apart : Sha256.fingerprint a.display = Sha256.fingerprint b.display → a.display = b.display) :
    (∃ digits : List Char, digits.length = 32 ∧ (∀ c ∈ digits, c ∈ "0123456789abcdef".toList) ∧
        PackageConfig.path a =
          ".dart_tool/package_config_" ++ String.ofList digits ++ ".json") ∧
      (PackageConfig.path a = PackageConfig.path b ↔ a = b ∨ a.CutBefore b ∨ b.CutBefore a) ∧
      ('|' ∉ a.package.toList → '|' ∉ b.package.toList →
        (PackageConfig.path a = PackageConfig.path b ↔ a = b)) ∧
      ∀ (area : StagingArea) (first second : Closure) (t u v : FileTree) (p q : String), t.Plain →
        first.entry = a → second.entry = b → area.writePackageConfig first t = .ok p u →
          area.writePackageConfig second u = .ok q v →
            p = PackageConfig.path a ∧ q = PackageConfig.path b ∧
              v.read (area.resolve p) =
                .ok (if p = q then (PackageConfig.ofClosure second).render.toUTF8
                  else (PackageConfig.ofClosure first).render.toUTF8) := by
  have hpath : PackageConfig.path a = PackageConfig.path b ↔ a = b ∨ a.CutBefore b ∨ b.CutBefore a := by
    rw [PackageConfig.path_eq_iff, ← AssetId.display_eq_iff]
    exact ⟨apart, congrArg Sha256.fingerprint⟩
  refine ⟨⟨_, ?_, fun c => Sha256.mem_of_mem_hex, PackageConfig.path_eq a⟩, hpath, ?_, ?_⟩
  · rw [Sha256.length_hex, Sha256.length_fingerprint]
  · intro ha hb
    rw [hpath]
    exact or_iff_left (not_or.2 ⟨AssetId.not_cutBefore hb, AssetId.not_cutBefore ha⟩)
  · rintro area first second t u v p q plain rfl rfl hfirst hsecond
    exact ⟨writePackageConfig_path hfirst, writePackageConfig_path hsecond,
      read_config_of_writes plain hfirst hsecond⟩

theorem package_configs_of_pages_apart :
    Sha256.fingerprint "a|web/x" ≠ Sha256.fingerprint "a|web/y" ∧
      PackageConfig.path ⟨"a", "web/x"⟩ ≠ PackageConfig.path ⟨"a", "web/y"⟩ ∧
      ∃ p q u v, writePackageConfig ⟨"/"⟩ ⟨⟨"a", "web/x"⟩, []⟩ .empty = .ok p u ∧
        writePackageConfig ⟨"/"⟩ ⟨⟨"a", "web/y"⟩, [⟨⟨"b", "lib/z"⟩, [], [], true, []⟩]⟩ u = .ok q v ∧
          v.read (resolve ⟨"/"⟩ p) =
            .ok (PackageConfig.ofClosure ⟨⟨"a", "web/x"⟩, []⟩).render.toUTF8 := by
  have hfingerprints : Sha256.fingerprint "a|web/x" ≠ Sha256.fingerprint "a|web/y" := by
    decide +kernel
  obtain ⟨-, -, happart, hreads⟩ := package_configs_apart_iff
    (a := ⟨"a", "web/x"⟩) (b := ⟨"a", "web/y"⟩) fun h => absurd h hfingerprints
  have hpaths : PackageConfig.path ⟨"a", "web/x"⟩ ≠ PackageConfig.path ⟨"a", "web/y"⟩ := by
    rw [Ne, happart (by decide) (by decide)]
    decide
  have hx : resolve ⟨"/"⟩ (PackageConfig.path ⟨"a", "web/x"⟩) =
      "/.dart_tool/package_config_8817ac0d6f6b017d2de8d7825143b180.json" := by
    decide +kernel
  have hy : resolve ⟨"/"⟩ (PackageConfig.path ⟨"a", "web/y"⟩) =
      "/.dart_tool/package_config_016e497de197debb781f5027b09e74d4.json" := by
    decide +kernel
  obtain ⟨u, v, hfirst, hsecond⟩ : ∃ u v,
      writePackageConfig ⟨"/"⟩ ⟨⟨"a", "web/x"⟩, []⟩ .empty =
          .ok (PackageConfig.path ⟨"a", "web/x"⟩) u ∧
        writePackageConfig ⟨"/"⟩ ⟨⟨"a", "web/y"⟩, [⟨⟨"b", "lib/z"⟩, [], [], true, []⟩]⟩ u =
          .ok (PackageConfig.path ⟨"a", "web/y"⟩) v := by
    simp only [writePackageConfig_eq_ok_iff, true_and, hx, hy]
    exact ⟨_, _, Work.eq_ok_of_answer? (by decide +kernel),
      Work.eq_ok_of_answer? (by decide +kernel)⟩
  obtain ⟨-, -, hread⟩ := hreads _ _ _ _ _ _ _ _ plain_empty rfl rfl hfirst hsecond
  rw [if_neg hpaths] at hread
  exact ⟨hfingerprints, hpaths, _, _, _, _, hfirst, hsecond, hread⟩

theorem package_config_shared_by_cut :
    AssetId.validate ⟨"a|b", "web/x"⟩ = .ok () ∧ AssetId.validate ⟨"a", "b|web/x"⟩ = .ok () ∧
      (⟨"a|b", "web/x"⟩ : AssetId) ≠ ⟨"a", "b|web/x"⟩ ∧
        PackageConfig.path ⟨"a|b", "web/x"⟩ = PackageConfig.path ⟨"a", "b|web/x"⟩ := by
  refine ⟨by rfl, by rfl, by decide, ?_⟩
  have hdisplay : AssetId.display ⟨"a|b", "web/x"⟩ = AssetId.display ⟨"a", "b|web/x"⟩ := by decide
  rw [PackageConfig.path_eq, PackageConfig.path_eq, hdisplay]

end StagingArea

end DartBundle
