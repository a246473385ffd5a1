import DartBundle.Proofs.Asset.Containment
import Mathlib.Data.List.DropRight
/-!
This module contains what an id keeps when the extension of its path is changed. The directory of the
path stays, and so does the stem of the name in it, so the new id is as valid as the old one was and is
staged beside it.
-/

namespace DartBundle

namespace AssetId

variable {id : AssetId} {path name added front back : List Char} {extension : String}

theorem splitName_eq (path : List Char) :
    splitName path = (path.rdropWhile (· ≠ '/'), path.rtakeWhile (· ≠ '/')) := rfl

theorem splitName_append_eq (path : List Char) : (splitName path).1 ++ (splitName path).2 = path := by
  rw [splitName_eq]
  apply List.rdropWhile_append_rtakeWhile

theorem slash_not_mem_name (path : List Char) : '/' ∉ (splitName path).2 := by
  intro h
  have := List.mem_rtakeWhile_imp h
  simp at this

theorem splitName_append (path : List Char) (h : '/' ∉ added) :
    splitName (path ++ added) = ((splitName path).1, (splitName path).2 ++ added) := by
  have hadded : ∀ c ∈ added.reverse, decide (c ≠ '/') = true := by
    intro c hc
    rw [decide_eq_true_eq]
    rintro rfl
    exact h (List.mem_reverse.1 hc)
  unfold splitName
  rw [List.reverse_append, List.dropWhile_append_of_pos hadded, List.takeWhile_append_of_pos hadded,
    List.reverse_append, List.reverse_reverse]

theorem splitName_directory (path : List Char) :
    splitName (splitName path).1 = ((splitName path).1, []) := by
  have hdirectory : (splitName (splitName path).1).1 = (splitName path).1 := by
    simp only [splitName_eq]
    apply List.rdropWhile_idempotent
  have happ := splitName_append_eq (splitName path).1
  rw [hdirectory, List.append_right_eq_self] at happ
  apply Prod.ext
  · exact hdirectory
  · exact happ

theorem split_getLast? (path : List Char) :
    (List.splitOn '/' path).getLast? = some (splitName path).2 := by
  have hname : (List.splitOn '/' (splitName path).2).getLast? = some (splitName path).2 := by
    rw [List.splitOn_eq_singleton (slash_not_mem_name path)]
    rfl
  rw [← hname]
  conv => lhs; rw [← splitName_append_eq path]
  by_cases hnil : (splitName path).1 = []
  · rw [hnil, List.nil_append]
  · have hlast : (splitName path).1.getLast hnil = '/' := by
      have := List.rdropWhile_last_not (fun c => decide (c ≠ '/')) path hnil
      rw [decide_eq_true_eq, not_not] at this
      exact this
    rw [← List.dropLast_concat_getLast hnil, hlast, List.append_assoc, List.singleton_append,
      Text.getLast?_splitOn_append]

theorem stem_eq_or (name : List Char) :
    stem name = name ∨ stem name ≠ [] ∧ ∃ rest, '.' ∉ rest ∧ name = stem name ++ '.' :: rest := by
  have happ := List.takeWhile_append_dropWhile (p := fun c => decide (c ≠ '.')) (l := name.reverse)
  have hfree : '.' ∉ (name.reverse.takeWhile fun c => decide (c ≠ '.')).reverse := by
    intro h
    have := List.mem_takeWhile_imp (List.mem_reverse.1 h)
    simp at this
  unfold stem
  split
  · exact .inl rfl
  · exact .inl rfl
  · next dot front hne hdrop =>
    have hdot : dot = '.' := by
      have := List.head?_dropWhile_not (fun c => decide (c ≠ '.')) name.reverse
      rw [hdrop] at this
      simpa using this
    refine .inr ⟨?_, _, hfree, ?_⟩
    · intro hnil
      exact hne (List.reverse_eq_nil_iff.1 hnil)
    · rw [hdrop, hdot] at happ
      rw [← List.reverse_inj, List.reverse_append, List.reverse_cons, List.reverse_reverse,
        List.reverse_reverse, List.append_assoc, List.singleton_append]
      exact happ.symm

theorem stem_append_dot (hfront : front ≠ []) (h : '.' ∉ added) :
    stem (front ++ '.' :: added) = front := by
  have hadded : ∀ c ∈ added.reverse, decide (c ≠ '.') = true := by
    intro c hc
    rw [decide_eq_true_eq]
    rintro rfl
    exact h (List.mem_reverse.1 hc)
  have hdrop : (front ++ '.' :: added).reverse.dropWhile (· ≠ '.') = '.' :: front.reverse := by
    rw [List.reverse_append, List.reverse_cons, List.append_assoc,
      List.dropWhile_append_of_pos hadded]
    rfl
  unfold stem
  rw [hdrop]
  cases hreverse : front.reverse with
  | nil => exact absurd (List.reverse_eq_nil_iff.1 hreverse) hfront
  | cons c cs =>
    dsimp only
    rw [← hreverse, List.reverse_reverse]

theorem stem_ne_nil (h : name ≠ []) : stem name ≠ [] := by
  rcases stem_eq_or name with heq | ⟨hne, -⟩
  · rwa [heq]
  · exact hne

theorem slash_not_mem_stem (path : List Char) : '/' ∉ stem (splitName path).2 := by
  intro h
  apply slash_not_mem_name path
  rcases stem_eq_or (splitName path).2 with heq | ⟨-, rest, -, heq⟩
  · rwa [heq] at h
  · rw [heq]
    exact List.mem_append_left _ h

theorem splitName_pathWithoutExtension (id : AssetId) :
    splitName id.pathWithoutExtension.toList =
      ((splitName id.path.toList).1, stem (splitName id.path.toList).2) := by
  unfold pathWithoutExtension
  dsimp only
  rw [String.toList_ofList, splitName_append _ (slash_not_mem_stem _), splitName_directory,
    List.nil_append]

theorem splitName_changeExtension (id : AssetId) (h : '/' ∉ extension.toList) :
    splitName (id.changeExtension extension).path.toList =
      ((splitName id.path.toList).1, stem (splitName id.path.toList).2 ++ extension.toList) := by
  unfold changeExtension
  rw [String.toList_append, splitName_append _ h, splitName_pathWithoutExtension]

theorem exists_path_eq (id : AssetId) :
    ∃ suffix, id.path = id.pathWithoutExtension ++ suffix ∧
      (suffix = "" ∨ ∃ rest, suffix = "." ++ rest ∧ '.' ∉ rest.toList ∧ '/' ∉ rest.toList) := by
  have hpath := splitName_append_eq id.path.toList
  have hslash := slash_not_mem_name id.path.toList
  unfold pathWithoutExtension
  generalize splitName id.path.toList = parts at hpath hslash
  dsimp only
  rcases stem_eq_or parts.2 with heq | ⟨-, rest, hdot, heq⟩
  · refine ⟨"", ?_, .inl rfl⟩
    rw [heq, hpath, String.ofList_toList, String.append_empty]
  · refine ⟨"." ++ String.ofList rest, ?_, .inr ⟨_, rfl, ?_, ?_⟩⟩
    · rw [← String.toList_inj, ← hpath]
      simpa using heq
    · rwa [String.toList_ofList]
    · intro h
      rw [String.toList_ofList] at h
      apply hslash
      rw [heq]
      exact List.mem_append_right _ (List.mem_cons_of_mem _ h)

theorem slash_not_mem_suffix {suffix : String}
    (h : suffix = "" ∨ ∃ rest, suffix = "." ++ rest ∧ '.' ∉ rest.toList ∧ '/' ∉ rest.toList) :
    '/' ∉ suffix.toList := by
  rcases h with rfl | ⟨rest, rfl, -, hslash⟩
  · decide
  · rw [String.toList_append, List.mem_append, not_or]
    exact ⟨by decide, hslash⟩

theorem isPath_append (h : IsPath (front ++ back)) (hback : '/' ∉ back) (hadded : '/' ∉ added)
    (hname : ∃ c ∈ added, c ≠ '.') : IsPath (front ++ added) := by
  obtain ⟨segments, last, hsplit, hold⟩ := Text.splitOn_append front hback
  obtain ⟨segments', last', hsplit', hnew⟩ := Text.splitOn_append front hadded
  obtain ⟨rfl, hlast⟩ := List.append_inj' (hsplit.symm.trans hsplit') rfl
  cases hlast
  obtain ⟨c, hmem, hc⟩ := hname
  rw [isPath_iff] at h ⊢
  rw [hold] at h
  rw [hnew]
  intro segment hsegment
  rcases List.mem_append.1 hsegment with hfirst | hsecond
  · exact h segment (List.mem_append_left _ hfirst)
  · rw [List.mem_singleton] at hsecond
    subst hsecond
    refine ⟨?_, ?_, ?_⟩
    · intro hnil
      rw [(List.append_eq_nil_iff.1 hnil).2] at hmem
      cases hmem
    · have hsplit : last ++ added ∈ List.splitOn '/' (front ++ added) := by
        rw [hnew]
        exact List.mem_append_right _ List.mem_cons_self
      exact Text.not_mem_of_mem_splitOn hsplit
    · intro hup
      have hdots : c ∈ ['.', '.'] := by
        rw [← hup]
        exact List.mem_append_right _ hmem
      simp [hc] at hdots

theorem validate_changeExtension (valid : id.validate = .ok ()) (hslash : '/' ∉ extension.toList)
    (hplain : '\\' ∉ extension.toList) (hname : ∃ c ∈ extension.toList, c ≠ '.') :
    (id.changeExtension extension).validate = .ok () := by
  obtain ⟨hpackage, hpath, hbackslash⟩ := validate_eq_ok_iff.1 valid
  obtain ⟨suffix, heq, hsuffix⟩ := exists_path_eq id
  rw [heq, String.toList_append] at hpath hbackslash
  apply validate_eq_ok_iff.2
  refine ⟨hpackage, ?_, ?_⟩
  · unfold changeExtension
    rw [String.toList_append]
    exact isPath_append hpath (slash_not_mem_suffix hsuffix) hslash hname
  · unfold changeExtension
    rw [String.toList_append, List.mem_append, not_or]
    exact ⟨fun h => hbackslash (List.mem_append_left _ h), hplain⟩

theorem isLibrary_changeExtension (id : AssetId) (hslash : '/' ∉ extension.toList) :
    (id.changeExtension extension).isLibrary = id.isLibrary := by
  obtain ⟨suffix, heq, hsuffix⟩ := exists_path_eq id
  unfold isLibrary changeExtension
  conv => rhs; rw [heq]
  rw [String.toList_append, String.toList_append, belowLibraryRoot?_append _ hslash,
    belowLibraryRoot?_append _ (slash_not_mem_suffix hsuffix), Option.isSome_map, Option.isSome_map]

def stagingStem (id : AssetId) : String :=
  stagingPath ⟨id.package, id.pathWithoutExtension⟩

theorem stagingPath_changeExtension (id : AssetId) (hslash : '/' ∉ extension.toList) :
    (id.changeExtension extension).stagingPath = id.stagingStem ++ extension :=
  stagingPath_append _ _ hslash

theorem exists_stagingPath_eq (id : AssetId) :
    ∃ suffix, '/' ∉ suffix.toList ∧ id.stagingPath = id.stagingStem ++ suffix := by
  obtain ⟨suffix, heq, hsuffix⟩ := exists_path_eq id
  have hslash := slash_not_mem_suffix hsuffix
  refine ⟨suffix, hslash, ?_⟩
  unfold stagingStem
  rw [← stagingPath_append _ _ hslash, ← heq]

theorem directory_stagingPath_changeExtension (id : AssetId) (hslash : '/' ∉ extension.toList) :
    (splitName (id.changeExtension extension).stagingPath.toList).1 =
      (splitName id.stagingPath.toList).1 := by
  obtain ⟨suffix, hsuffix, heq⟩ := exists_stagingPath_eq id
  rw [stagingPath_changeExtension id hslash, heq, String.toList_append, String.toList_append,
    splitName_append _ hslash, splitName_append _ hsuffix]

theorem name_ne_nil_of_validate (valid : id.validate = .ok ()) :
    (splitName id.path.toList).2 ≠ [] := by
  obtain ⟨-, hpath, -⟩ := validate_eq_ok_iff.1 valid
  have hname := List.mem_of_getLast? (split_getLast? id.path.toList)
  exact (isPath_iff.1 hpath _ hname).nonempty

theorem pathWithoutExtension_changeExtension {rest : String} (valid : id.validate = .ok ())
    (hdot : '.' ∉ rest.toList) (hslash : '/' ∉ rest.toList) :
    (id.changeExtension ("." ++ rest)).pathWithoutExtension = id.pathWithoutExtension := by
  have hslash' : '/' ∉ ("." ++ rest).toList := by simp [hslash]
  have hsplit := splitName_changeExtension id hslash'
  have hstem : stem (stem (splitName id.path.toList).2 ++ ("." ++ rest).toList) =
      stem (splitName id.path.toList).2 := by
    rw [String.toList_append]
    exact stem_append_dot (stem_ne_nil (name_ne_nil_of_validate valid)) hdot
  unfold pathWithoutExtension
  rw [hsplit]
  dsimp only
  rw [hstem]

theorem changeExtension_twice {rest : String} (valid : id.validate = .ok ())
    (hdot : '.' ∉ rest.toList) (hslash : '/' ∉ rest.toList) :
    (id.changeExtension ("." ++ rest)).changeExtension ("." ++ rest) =
      id.changeExtension ("." ++ rest) := by
  have hsame := pathWithoutExtension_changeExtension valid hdot hslash
  apply AssetId.ext
  · rfl
  · exact congrArg (fun path => path ++ ("." ++ rest)) hsame

theorem getLast?_stagingStem (id : AssetId) :
    (List.splitOn '/' id.stagingStem.toList).getLast? = some (stem (splitName id.path.toList).2) := by
  unfold stagingStem
  rw [split_stagingPath_getLast?, split_getLast?, splitName_pathWithoutExtension]

theorem ne_up_of_name (valid : id.validate = .ok ()) :
    String.ofList (splitName id.path.toList).2 ≠ ".." := by
  obtain ⟨-, hpath, -⟩ := validate_eq_ok_iff.1 valid
  have hname := List.mem_of_getLast? (split_getLast? id.path.toList)
  intro hup
  apply (isPath_iff.1 hpath _ hname).ne_up
  rw [← String.toList_ofList (l := (splitName id.path.toList).2), hup]
  rfl

end AssetId

namespace StagingArea

open FileTree AssetId

variable {t u : FileTree} {area : StagingArea} {reader : Reader} {id : AssetId} {written : Bool}
  {extension : String}

theorem steps_pathFor_getLast? (area : StagingArea) (valid : id.validate = .ok ()) :
    (Path.steps (area.pathFor id)).getLast? = some (String.ofList (splitName id.path.toList).2) := by
  apply Path.steps_getLast? _ (name_ne_nil_of_validate valid)
  unfold pathFor resolve
  rw [Path.split_resolve_getLast?, split_stagingPath_getLast?, split_getLast?]

theorem steps_pathFor_dropLast (area : StagingArea) (valid : id.validate = .ok ())
    (habs : Path.isAbsolute area.root = true) (hslash : '/' ∉ extension.toList) :
    (Path.steps (area.pathFor (id.changeExtension extension))).dropLast =
      (Path.steps (area.pathFor id)).dropLast := by
  obtain ⟨suffix, hsuffix, heq⟩ := exists_stagingPath_eq id
  have hstem := stem_ne_nil (name_ne_nil_of_validate valid)
  have hempty : (area.resolve id.stagingStem).isEmpty = false :=
    Path.isEmpty_of_isAbsolute (Path.isAbsolute_resolve _ habs)
  have hfile : Path.namesDirectory (area.resolve id.stagingStem) = false := by
    apply Path.namesDirectory_of_getLast? _ hstem
    unfold resolve
    rw [Path.split_resolve_getLast?, getLast?_stagingStem]
  have hold : area.pathFor id = area.resolve id.stagingStem ++ suffix := by
    unfold pathFor
    rw [heq]
    exact Path.resolve_append _ _ hsuffix
  have hnew : area.pathFor (id.changeExtension extension) =
      area.resolve id.stagingStem ++ extension := by
    unfold pathFor
    rw [stagingPath_changeExtension id hslash]
    exact Path.resolve_append _ _ hslash
  obtain ⟨front, last, hsteps, hadded⟩ := Path.steps_append hempty hfile hsuffix
  obtain ⟨front', last', hsteps', hadded'⟩ := Path.steps_append hempty hfile hslash
  obtain ⟨rfl, -⟩ := List.append_inj' (hsteps.symm.trans hsteps') rfl
  rw [hold, hnew, hadded, hadded', List.dropLast_concat, List.dropLast_concat]

theorem locate_eq_stepFrom {path last : String} (t : FileTree)
    (h : (Path.steps path).getLast? = some last) :
    t.locate path = stepFrom ((Path.steps path).dropLast.foldl stepFrom (t.start path)) last := by
  obtain ⟨front, hsteps⟩ := List.getLast?_eq_some_iff.1 h
  unfold locate
  rw [hsteps, List.foldl_append, List.dropLast_concat]
  rfl

theorem stage_opens_directory (plain : t.Plain) (habs : Path.isAbsolute area.root = true)
    (valid : id.validate = .ok ()) (hslash : '/' ∉ extension.toList)
    (hname : ∃ c ∈ extension.toList, c ≠ '.')
    (hvalid : (id.changeExtension extension).validate = .ok ())
    (h : area.stage reader id t = .ok written u) :
    ∃ d e, u.locate (area.pathFor id) = String.ofList (splitName id.path.toList).2 :: d ∧
      u.locate (area.pathFor (id.changeExtension extension)) =
        String.ofList (splitName (id.changeExtension extension).path.toList).2 :: d ∧
      u.get? d = some e ∧ e.isDirectory = true := by
  obtain ⟨content, -, hwrites⟩ := stage_ok plain h
  have plain' := hwrites.confined.plain plain
  have hpathAbs : Path.isAbsolute (area.pathFor id) = true := Path.isAbsolute_resolve _ habs
  have hnewAbs : Path.isAbsolute (area.pathFor (id.changeExtension extension)) = true :=
    Path.isAbsolute_resolve _ habs
  obtain ⟨l, e, hat, -⟩ := read_eq_ok_iff.1 hwrites.read
  obtain ⟨d, last, hholder⟩ := holder_of_follow plain' hpathAbs hat.follow
  have hfollow := follow_of_holder (b := true) plain' hholder
  rw [hat.follow, Except.ok.injEq] at hfollow
  obtain ⟨-, hlast, hwalk, e', hget, hdir, -⟩ := (holder_eq_ok_iff plain').1 hholder
  rw [steps_pathFor_getLast? area valid, Option.getD_some] at hlast
  rw [start_of_absolute hpathAbs] at hwalk
  -- a directory has no name that ends in a dot, and is no file
  have hdot : last ≠ "." := by
    rintro rfl
    have hfile := hat.isFile
    rw [hfollow] at hat
    rw [show stepFrom d "." = d from rfl] at hat
    rw [hat.get?, Option.some.injEq] at hget
    subst hget
    rw [isDirectory_of_isFile hfile] at hdir
    cases hdir
  refine ⟨d, e', ?_, ?_, hget, hdir⟩
  · rw [locate_eq plain' hat.follow, hfollow, hlast]
    exact stepFrom_of_ne hdot (hlast ▸ ne_up_of_name valid)
  · rw [locate_eq_stepFrom u (steps_pathFor_getLast? area hvalid),
      steps_pathFor_dropLast area valid habs hslash, start_of_absolute hnewAbs,
      ← eq_foldl_of_foldlM hwalk]
    apply stepFrom_of_ne _ (ne_up_of_name hvalid)
    intro hnewDot
    have hdots : (splitName (id.changeExtension extension).path.toList).2 = ['.'] := by
      rw [← String.toList_ofList (l := (splitName _).2), hnewDot]
      rfl
    rw [splitName_changeExtension id hslash] at hdots
    obtain ⟨c, hmem, hc⟩ := hname
    have hmem' : c ∈ ['.'] := by
      rw [← hdots]
      exact List.mem_append_right _ hmem
    exact hc (List.mem_singleton.1 hmem')

end StagingArea

theorem AssetDirectories.write_of_valid {id : AssetId} (d : AssetDirectories) (bytes : ByteArray)
    (t : FileTree) (valid : id.validate = .ok ()) :
    d.write id bytes t = FileWork.ofDisk (Disk.replaceFile (d.outputPath id) bytes) t := by
  unfold write
  rw [Work.bind_of_ok (FileWork.mapError_eq_ok_iff.2 ⟨valid, rfl⟩)]

namespace AssetId

open FileTree

theorem changed_extension_stays_beside :
    (∀ (id : AssetId) (extension : String), id.validate = .ok () → '/' ∉ extension.toList →
      '\\' ∉ extension.toList → (∃ c ∈ extension.toList, c ≠ '.') →
        (id.changeExtension extension).validate = .ok () ∧
        (id.changeExtension extension).package = id.package ∧
        splitName (id.changeExtension extension).path.toList =
          ((splitName id.path.toList).1, stem (splitName id.path.toList).2 ++ extension.toList) ∧
        stem (splitName id.path.toList).2 ≠ [] ∧
        (id.changeExtension extension).isLibrary = id.isLibrary ∧
        (splitName (id.changeExtension extension).stagingPath.toList).1 =
          (splitName id.stagingPath.toList).1 ∧
        (∀ (area : StagingArea) (reader : Reader) (t u : FileTree) (written : Bool), t.Plain →
          Path.isAbsolute area.root = true → area.stage reader id t = .ok written u →
            ∃ d e, u.locate (area.pathFor id) = String.ofList (splitName id.path.toList).2 :: d ∧
              u.locate (area.pathFor (id.changeExtension extension)) =
                String.ofList (splitName (id.changeExtension extension).path.toList).2 :: d ∧
              u.get? d = some e ∧ e.isDirectory = true) ∧
        ∀ (packageConfig : String) (area : StagingArea) (config : CompilerConfig) (sdk : Sdk)
          (d : AssetDirectories) (bytes : ByteArray) (t : FileTree),
          config.bundleExtension = extension → ∀ output,
            output = (Invocation.build id packageConfig area config sdk).bundle ∨
              output = (Invocation.build id packageConfig area config sdk).sourceMap →
            d.write output bytes t =
              FileWork.ofDisk (Disk.replaceFile (d.outputPath output) bytes) t) ∧
      (∀ id : AssetId, ∃ suffix, id.path = id.pathWithoutExtension ++ suffix ∧
        (suffix = "" ∨ ∃ rest, suffix = "." ++ rest ∧ '.' ∉ rest.toList ∧ '/' ∉ rest.toList)) ∧
      ∀ (id : AssetId) (rest : String), id.validate = .ok () → '.' ∉ rest.toList →
        '/' ∉ rest.toList →
          (id.changeExtension ("." ++ rest)).changeExtension ("." ++ rest) =
            id.changeExtension ("." ++ rest) := by
  refine ⟨?_, exists_path_eq, fun _ _ => changeExtension_twice⟩
  intro id extension valid hslash hbackslash hname
  have hvalid := validate_changeExtension valid hslash hbackslash hname
  refine ⟨hvalid, rfl, splitName_changeExtension id hslash,
    stem_ne_nil (name_ne_nil_of_validate valid), isLibrary_changeExtension id hslash,
    directory_stagingPath_changeExtension id hslash, ?_, ?_⟩
  · intro area reader t u written plain habs h
    exact StagingArea.stage_opens_directory plain habs valid hslash hname hvalid h
  · intro packageConfig area config sdk d bytes t hconfig output houtput
    subst hconfig
    apply d.write_of_valid bytes t
    rcases houtput with rfl | rfl
    · exact hvalid
    · -- what is put behind the extension for the source map is as harmless as the extension
      obtain ⟨c, hmem, hc⟩ := hname
      apply validate_changeExtension valid
      · simp [CompilerConfig.sourceMapExtension, hslash]
      · simp [CompilerConfig.sourceMapExtension, hbackslash]
      · refine ⟨c, ?_, hc⟩
        unfold CompilerConfig.sourceMapExtension
        rw [String.toList_append]
        exact List.mem_append_left _ hmem

theorem changed_extension_of_hidden_file :
    (changeExtension ⟨"a", "lib/b.c/.d"⟩ ".js").validate = .ok () ∧
      (changeExtension ⟨"a", "lib/b.c/.d"⟩ ".js").path = "lib/b.c/.d.js" ∧
      (∃ u d e, StagingArea.stage ⟨"/s"⟩ (fun _ _ => .ok ⟨#[1]⟩) ⟨"a", "lib/b.c/.d"⟩ .empty = .ok true u ∧
        u.locate "/s/packages/a/b.c/.d.js" = ".d.js" :: d ∧ u.get? d = some e ∧
          e.isDirectory = true) ∧
      (changeExtension ⟨"a", "lib/b.c/.d"⟩ ".js").changeExtension ".js" =
        changeExtension ⟨"a", "lib/b.c/.d"⟩ ".js" := by
  obtain ⟨hkept, -, htwice⟩ := changed_extension_stays_beside
  have valid : validate ⟨"a", "lib/b.c/.d"⟩ = .ok () := by rfl
  obtain ⟨hvalid, -, -, -, -, -, hdirectory, -⟩ :=
    hkept ⟨"a", "lib/b.c/.d"⟩ ".js" valid (by decide) (by decide) ⟨'j', by decide, by decide⟩
  have hstage : StagingArea.stage ⟨"/s"⟩ (fun _ _ => .ok ⟨#[1]⟩) ⟨"a", "lib/b.c/.d"⟩ .empty =
      .ok true _ := Work.eq_ok_of_answer? (by decide +kernel)
  obtain ⟨d, e, -, hplace, hget, hdir⟩ := hdirectory ⟨"/s"⟩ _ _ _ _ plain_empty (by decide) hstage
  refine ⟨hvalid, by decide, ⟨_, d, e, hstage, hplace, hget, hdir⟩, ?_⟩
  exact htwice _ "js" valid (by decide) (by decide)

end AssetId

end DartBundle
