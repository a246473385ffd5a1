import DartBundle.Proofs.Asset.Containment
/-!
This module contains when the outputs of different assets are kept apart. An output lies below the directory
of its package, so two of them meet exactly if the directory of one package lies in that of the other by the
very steps that the one path has in front of the other.
-/

namespace DartBundle

namespace Path

open FileTree

variable {path other : String}

def names (path : String) : List String :=
  (Path.steps path).filter fun step => decide (step ≠ ".")

theorem foldl_stepFrom_of_ne_up {way : List String} (here : Location) (h : ∀ step ∈ way, step ≠ "..") :
    way.foldl stepFrom here = (way.filter fun step => decide (step ≠ ".")).reverse ++ here := by
  induction way generalizing here with
  | nil => rfl
  | cons step rest ih =>
    obtain ⟨hstep, hrest⟩ := List.forall_mem_cons.1 h
    rw [List.foldl_cons, ih _ hrest]
    by_cases hdot : step = "."
    · simp [hdot, stepFrom]
    · simp [hdot, stepFrom_of_ne hdot hstep]

theorem names_eq_steps (h : "." ∉ Path.steps path) : names path = Path.steps path := by
  unfold names
  rw [List.filter_eq_self]
  intro step hstep
  rw [decide_eq_true_eq]
  rintro rfl
  exact h hstep

theorem eq_of_steps_eq (hpath : [] ∉ List.splitOn '/' path.toList)
    (hother : [] ∉ List.splitOn '/' other.toList) (h : Path.steps path = Path.steps other) :
    path = other := by
  have hself : ∀ {segments : List (List Char)}, [] ∉ segments →
      (segments.filter fun segment => !segment.isEmpty) = segments := by
    intro segments hsegments
    rw [List.filter_eq_self]
    intro segment hsegment
    cases segment with
    | nil => exact absurd hsegment hsegments
    | cons c rest => rfl
  unfold Path.steps at h
  rw [hself hpath, hself hother] at h
  have hsplit := List.map_injective_iff.2 (fun _ _ => String.ofList_inj.1) h
  have hjoined := congrArg (List.intercalate ['/']) hsplit
  rwa [List.intercalate_splitOn, List.intercalate_splitOn, String.toList_inj] at hjoined

theorem locate_join_name {name : String} (t : FileTree) (base : String) (h : IsName name) :
    t.locate (Path.join base name) = name :: t.locate base := by
  have hempty : name.isEmpty = false := by
    rw [← Bool.not_eq_true, String.isEmpty_iff]
    exact h.nonempty
  rw [locate_join t base (not_isAbsolute h.separate), steps_of_not_mem h.separate, hempty]
  exact stepFrom_of_ne h.ne_here h.ne_up

end Path

namespace AssetId

variable {id : AssetId}

theorem nil_not_mem_split_of_validate (h : id.validate = .ok ()) :
    [] ∉ List.splitOn '/' id.path.toList := by
  obtain ⟨-, hpath, -⟩ := validate_eq_ok_iff.1 h
  intro hmem
  exact (isPath_iff.1 hpath [] hmem).nonempty rfl

end AssetId

namespace AssetDirectories

open FileTree

variable {d : AssetDirectories} {a b : AssetId} {t u : FileTree} {bytes : ByteArray}

def packageDirectory (d : AssetDirectories) (package : String) : String :=
  Path.join d.outputDirectory package

/--
Whether the directory of the second package lies in that of the first by the steps that the first path has
in front of the second one.
-/
def Encloses (d : AssetDirectories) (t : FileTree) (a b : AssetId) : Prop :=
  ∃ between, t.locate (d.packageDirectory b.package) =
      between.reverse ++ t.locate (d.packageDirectory a.package) ∧
    Path.names a.path = between ++ Path.names b.path

theorem locate_outputPath (t : FileTree) (valid : a.validate = .ok ()) :
    t.locate (d.outputPath a) =
      (Path.names a.path).reverse ++ t.locate (d.packageDirectory a.package) := by
  unfold outputPath packageDirectory Path.names
  rw [locate_resolve]
  exact Path.foldl_stepFrom_of_ne_up _ (AssetId.ne_up_of_validate valid)

theorem encloses_iff :
    d.Encloses t a b ↔ ∃ between,
      (Path.names a.path).reverse = (Path.names b.path).reverse ++ between ∧
        t.locate (d.packageDirectory b.package) =
          between ++ t.locate (d.packageDirectory a.package) := by
  constructor
  · rintro ⟨between, hdirectory, hnames⟩
    exact ⟨between.reverse, by rw [hnames, List.reverse_append], hdirectory⟩
  · rintro ⟨between, hnames, hdirectory⟩
    refine ⟨between.reverse, by rw [hdirectory, List.reverse_reverse], ?_⟩
    rw [← List.reverse_inj, hnames, List.reverse_append, List.reverse_reverse]

theorem locate_outputPath_iff (ha : a.validate = .ok ()) (hb : b.validate = .ok ()) :
    t.locate (d.outputPath a) = t.locate (d.outputPath b) ↔
      d.Encloses t a b ∨ d.Encloses t b a := by
  rw [locate_outputPath t ha, locate_outputPath t hb, List.append_eq_append_iff, or_comm,
    encloses_iff, encloses_iff]

theorem locate_outputPath_iff_names (ha : a.validate = .ok ()) (hb : b.validate = .ok ())
    (hname : Path.IsName a.package) (hname' : Path.IsName b.package) :
    t.locate (d.outputPath a) = t.locate (d.outputPath b) ↔
      a.package = b.package ∧ Path.names a.path = Path.names b.path := by
  rw [locate_outputPath t ha, locate_outputPath t hb]
  unfold packageDirectory
  rw [Path.locate_join_name t _ hname, Path.locate_join_name t _ hname']
  constructor
  · intro h
    obtain ⟨hnames, hdirectory⟩ := List.append_inj' h rfl
    exact ⟨(List.cons.inj hdirectory).1, List.reverse_inj.1 hnames⟩
  · rintro ⟨hpackage, hnames⟩
    rw [hpackage, hnames]

theorem locate_outputPath_iff_eq (ha : a.validate = .ok ()) (hb : b.validate = .ok ())
    (hname : Path.IsName a.package) (hname' : Path.IsName b.package)
    (hdot : "." ∉ Path.steps a.path) (hdot' : "." ∉ Path.steps b.path) :
    t.locate (d.outputPath a) = t.locate (d.outputPath b) ↔ a = b := by
  rw [locate_outputPath_iff_names ha hb hname hname', Path.names_eq_steps hdot,
    Path.names_eq_steps hdot']
  constructor
  · rintro ⟨hpackage, hsteps⟩
    have hpath := Path.eq_of_steps_eq (AssetId.nil_not_mem_split_of_validate ha)
      (AssetId.nil_not_mem_split_of_validate hb) hsteps
    exact AssetId.ext hpackage hpath
  · rintro rfl
    exact ⟨rfl, rfl⟩

theorem read_outputPath_of_writes (plain : t.Plain) (h : d.write a bytes t = .ok () u) :
    u.read (d.outputPath a) = .ok bytes ∧ ∀ bytes' v, d.write b bytes' u = .ok () v →
      v.read (d.outputPath a) =
        .ok (if t.locate (d.outputPath a) = t.locate (d.outputPath b) then bytes' else bytes) := by
  have hwrites := write_ok plain h
  refine ⟨hwrites.read, fun bytes' v h' => ?_⟩
  have plain' := hwrites.confined.plain plain
  rw [(write_ok plain' h').read_other plain' hwrites.read]
  simp only [hwrites.confined.toKeeps.locate]

theorem outputs_apart_iff {text text' : String} (ha : AssetId.parse text = .ok a)
    (hb : AssetId.parse text' = .ok b) (d : AssetDirectories) (t : FileTree) :
    (t.locate (d.outputPath a) = t.locate (d.outputPath b) ↔
        d.Encloses t a b ∨ d.Encloses t b a) ∧
      (Path.IsName a.package → Path.IsName b.package →
        (t.locate (d.outputPath a) = t.locate (d.outputPath b) ↔
            a.package = b.package ∧ Path.names a.path = Path.names b.path) ∧
          ("." ∉ Path.steps a.path → "." ∉ Path.steps b.path →
            (t.locate (d.outputPath a) = t.locate (d.outputPath b) ↔ a = b))) ∧
      (t.Plain → ∀ bytes u, d.write a bytes t = .ok () u →
        u.read (d.outputPath a) = .ok bytes ∧ ∀ bytes' v, d.write b bytes' u = .ok () v →
          v.read (d.outputPath a) =
            .ok (if t.locate (d.outputPath a) = t.locate (d.outputPath b) then bytes'
              else bytes)) := by
  have hvalid := AssetId.validate_of_parse ha
  have hvalid' := AssetId.validate_of_parse hb
  refine ⟨locate_outputPath_iff hvalid hvalid', ?_, ?_⟩
  · intro hname hname'
    exact ⟨locate_outputPath_iff_names hvalid hvalid' hname hname',
      locate_outputPath_iff_eq hvalid hvalid' hname hname'⟩
  · intro plain bytes u h
    exact read_outputPath_of_writes plain h

theorem outputs_of_homonyms_apart :
    AssetId.parse "a|web/x" = .ok ⟨"a", "web/x"⟩ ∧ AssetId.parse "b|web/x" = .ok ⟨"b", "web/x"⟩ ∧
      (∀ (d : AssetDirectories) (t : FileTree),
        t.locate (d.outputPath ⟨"a", "web/x"⟩) ≠ t.locate (d.outputPath ⟨"b", "web/x"⟩)) ∧
      ∃ u v, AssetDirectories.write ⟨"/o", .empty⟩ ⟨"a", "web/x"⟩ ⟨#[1]⟩ .empty = .ok () u ∧
        AssetDirectories.write ⟨"/o", .empty⟩ ⟨"b", "web/x"⟩ ⟨#[2]⟩ u = .ok () v ∧
          v.read "/o/a/web/x" = .ok ⟨#[1]⟩ := by
  have ha : AssetId.parse "a|web/x" = .ok ⟨"a", "web/x"⟩ := by rfl
  have hb : AssetId.parse "b|web/x" = .ok ⟨"b", "web/x"⟩ := by rfl
  have happart : ∀ (d : AssetDirectories) (t : FileTree),
      t.locate (d.outputPath ⟨"a", "web/x"⟩) ≠ t.locate (d.outputPath ⟨"b", "web/x"⟩) := by
    intro d t
    rw [Ne, ((outputs_apart_iff ha hb d t).2.1 ⟨by decide, by decide, by decide, by decide⟩
      ⟨by decide, by decide, by decide, by decide⟩).1]
    decide
  have hfirst : AssetDirectories.write ⟨"/o", .empty⟩ ⟨"a", "web/x"⟩ ⟨#[1]⟩ .empty = .ok () _ :=
    Work.eq_ok_of_answer? (by decide +kernel)
  have hsecond : AssetDirectories.write ⟨"/o", .empty⟩ ⟨"b", "web/x"⟩ ⟨#[2]⟩
      (Work.left (AssetDirectories.write ⟨"/o", .empty⟩ ⟨"a", "web/x"⟩ ⟨#[1]⟩ .empty)) =
        .ok () _ :=
    Work.eq_ok_of_answer? (by decide +kernel)
  obtain ⟨-, -, hwrites⟩ := outputs_apart_iff ha hb ⟨"/o", .empty⟩ .empty
  have hread := ((hwrites plain_empty _ _ hfirst).2 _ _ hsecond)
  rw [if_neg (happart _ _)] at hread
  have hpath : AssetDirectories.outputPath ⟨"/o", .empty⟩ ⟨"a", "web/x"⟩ = "/o/a/web/x" := by
    decide +kernel
  rw [hpath] at hread
  exact ⟨ha, hb, happart, _, _, hfirst, hsecond, hread⟩

theorem output_overwritten_from_outer_package :
    AssetId.parse "a/b|c" = .ok ⟨"a/b", "c"⟩ ∧ AssetId.parse "a|b/c" = .ok ⟨"a", "b/c"⟩ ∧
      (⟨"a/b", "c"⟩ : AssetId) ≠ ⟨"a", "b/c"⟩ ∧
      AssetDirectories.outputPath ⟨"/o", .empty⟩ ⟨"a/b", "c"⟩ =
        AssetDirectories.outputPath ⟨"/o", .empty⟩ ⟨"a", "b/c"⟩ ∧
      ∃ u v, AssetDirectories.write ⟨"/o", .empty⟩ ⟨"a/b", "c"⟩ ⟨#[1]⟩ .empty = .ok () u ∧
        AssetDirectories.write ⟨"/o", .empty⟩ ⟨"a", "b/c"⟩ ⟨#[2]⟩ u = .ok () v ∧
          v.read (AssetDirectories.outputPath ⟨"/o", .empty⟩ ⟨"a/b", "c"⟩) = .ok ⟨#[2]⟩ := by
  refine ⟨by rfl, by rfl, by decide, by decide +kernel, _, _, Work.eq_ok_of_answer? ?_,
    Work.eq_ok_of_answer? ?_, eq_ok_of_toOption ?_⟩
  · decide +kernel
  · decide +kernel
  · decide +kernel

example :
    FileTree.empty.locate (AssetDirectories.outputPath ⟨"/o", .empty⟩ ⟨"a", "b/./c"⟩) =
      FileTree.empty.locate (AssetDirectories.outputPath ⟨"/o", .empty⟩ ⟨"a", "b/c"⟩) := by
  decide +kernel

end AssetDirectories

end DartBundle
