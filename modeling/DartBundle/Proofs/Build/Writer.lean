import DartBundle.Build.Publish
import DartBundle.Proofs.Compiler.Invocation
/-!
This module contains what writers do to a workspace. Both kinds of them leave the staged source map alone
when a bundle is published, since the two never have the same name.
-/

namespace DartBundle

namespace AssetDirectories

open FileTree

variable {d : AssetDirectories} {t u : FileTree} {id : AssetId} {bytes : ByteArray} {e : Error}

theorem write_ok (plain : t.Plain) (h : d.write id bytes t = .ok () u) :
    Writes (d.outputPath id) bytes t u := by
  obtain ⟨_, t', hvalid, hreplace⟩ := Work.bind_eq_ok_iff.1 h
  obtain ⟨-, rfl⟩ := FileWork.ofExcept_eq_ok_iff.1 hvalid
  exact writes_replaceFile plain (FileWork.ofDisk_eq_ok_iff.1 hreplace)

theorem write_error (plain : t.Plain) (h : d.write id bytes t = .error e u) : ConfinedTo [] t u := by
  rcases Work.bind_eq_error_iff.1 h with hvalid | ⟨_, t', hvalid, hreplace⟩
  · obtain ⟨-, rfl⟩ := FileWork.ofExcept_eq_error_iff.1 hvalid
    exact .refl _ _
  · obtain ⟨-, rfl⟩ := FileWork.ofExcept_eq_ok_iff.1 hvalid
    obtain ⟨_, -, hdisk⟩ := FileWork.ofDisk_eq_error_iff.1 hreplace
    exact Disk.replaceFile_error plain hdisk

end AssetDirectories

namespace Writer

open FileTree

def SparesSourceMap (write : Writer) (i : Invocation) : Prop :=
  ∀ content w v, w.files.Plain → w.files.read i.outputFile = .ok content →
    write i.bundle content w = .ok () v →
      v.files.isFile i.sourceMapFile = w.files.isFile i.sourceMapFile ∧
        ∀ map, v.files.read i.sourceMapFile = .ok map ↔ w.files.read i.sourceMapFile = .ok map

theorem memory_sparesSourceMap (i : Invocation) : memory.SparesSourceMap i := by
  intro content w v _ _ h
  cases h
  exact ⟨rfl, fun _ => .rfl⟩

theorem directories_sparesSourceMap (d : AssetDirectories) {i : Invocation}
    (placed : i.Placed)
    (hname : (List.splitOn '/' i.outputFile.toList).getLast? =
      (List.splitOn '/' i.bundle.path.toList).getLast?) : (directories d).SparesSourceMap i := by
  intro content w v plain hread h
  obtain ⟨t, hwrite, rfl⟩ := Build.onFiles_eq_ok_iff.1 h
  obtain ⟨_, t', hvalid, hreplace⟩ := Work.bind_eq_ok_iff.1 hwrite
  obtain ⟨-, rfl⟩ := FileWork.ofExcept_eq_ok_iff.1 hvalid
  obtain ⟨hconfined, d', last', e', hholder', -, -, hlocate, -⟩ :=
    Disk.replaceFile_ok plain (FileWork.ofDisk_eq_ok_iff.1 hreplace)
  obtain ⟨l, e, hat, -⟩ := read_eq_ok_iff.1 hread
  obtain ⟨holder, last, hholder⟩ := holder_of_follow plain placed.bundle hat.follow
  have hempty := Path.isEmpty_of_isAbsolute placed.bundle
  have hmapAbs := placed.sourceMap
  rw [placed.beside] at hmapAbs
  -- the published bundle has the name of the staged one, which the source map has not
  have hlast : last = last' := by
    rw [← ((holder_eq_ok_iff plain).1 hholder).2.1,
      ← ((holder_eq_ok_iff (hconfined.plain plain)).1 hholder').2.1,
      Path.steps_getLast?_congr hempty hat.name
        (hname.trans (Path.split_resolve_getLast? (Path.join d.outputDirectory i.bundle.package)
          i.bundle.path).symm)]
    rfl
  have hsame : ∀ l e, t.FileAt i.sourceMapFile l e ↔ w.files.FileAt i.sourceMapFile l e := by
    intro l e
    rw [placed.beside]
    apply hconfined.fileAt_append plain hat.name (by decide) hmapAbs hholder
    intro hfollow
    rw [follow_append plain hat.name (by decide) (by decide) hmapAbs hholder hfollow, hlocate,
      List.mem_singleton, hlast]
    intro heq
    simpa using congrArg (fun text : String => text.toList) (List.cons.inj heq).1
  exact ⟨isFile_congr hsame, fun _ => read_congr hsame⟩

def all (write : Writer) : List (AssetId × ByteArray) → Build Unit
  | [] => return
  | asset :: rest => do
    write asset.1 asset.2
    write.all rest

variable {assets : List (AssetId × ByteArray)} {w v : Workspace} {d : AssetDirectories}

theorem get?_outputs_of_memory_all (distinct : (assets.map Prod.fst).Nodup)
    (h : memory.all assets w = .ok () v) (id : AssetId) :
    v.outputs.get? id = (assets.lookup id).or (w.outputs.get? id) := by
  induction assets generalizing w with
  | nil =>
    cases h
    rfl
  | cons asset rest ih =>
    obtain ⟨_, w', hwrite, hrest⟩ := Work.bind_eq_ok_iff.1 h
    rw [List.map_cons, List.nodup_cons] at distinct
    rw [ih distinct.2 hrest, List.lookup_cons]
    cases hwrite
    dsimp only
    rw [MemoryAssets.get?_insert]
    by_cases hid : id = asset.1
    · -- an id is written once, so what has been written under it first stays
      subst hid
      have hnone : rest.lookup asset.1 = none := by
        rw [List.lookup_eq_none_iff]
        intro other hother
        rw [bne_iff_ne]
        intro heq
        exact distinct.1 (heq ▸ List.mem_map_of_mem hother)
      rw [hnone, if_pos rfl, beq_self_eq_true]
      rfl
    · rw [if_neg hid, beq_eq_false_iff_ne.2 hid]

theorem confined_directories_all (plain : w.files.Plain) (h : (directories d).all assets w = .ok () v) :
    ConfinedTo (assets.map fun asset => w.files.locate (d.outputPath asset.1)) w.files v.files := by
  induction assets generalizing w with
  | nil =>
    cases h
    exact .refl _ _
  | cons asset rest ih =>
    obtain ⟨_, w', hwrite, hrest⟩ := Work.bind_eq_ok_iff.1 h
    obtain ⟨t, hfiles, rfl⟩ := Build.onFiles_eq_ok_iff.1 hwrite
    have hfirst := (AssetDirectories.write_ok plain hfiles).confined
    have hlater := ih (hfirst.plain plain) hrest
    simp only [hfirst.toKeeps.locate] at hlater
    exact (hfirst.mono_singleton List.mem_cons_self).trans (hlater.mono (List.subset_cons_self _ _))

theorem read_of_directories_all (plain : w.files.Plain)
    (apart : assets.Pairwise fun asset other =>
      w.files.locate (d.outputPath other.1) ≠ w.files.locate (d.outputPath asset.1))
    (h : (directories d).all assets w = .ok () v) :
    ∀ asset ∈ assets, v.files.read (d.outputPath asset.1) = .ok asset.2 := by
  induction assets generalizing w with
  | nil => nofun
  | cons asset rest ih =>
    obtain ⟨_, w', hwrite, hrest⟩ := Work.bind_eq_ok_iff.1 h
    obtain ⟨t, hfiles, rfl⟩ := Build.onFiles_eq_ok_iff.1 hwrite
    have hwrites := AssetDirectories.write_ok plain hfiles
    have plain' := hwrites.confined.plain plain
    obtain ⟨hasset, hothers⟩ := List.pairwise_cons.1 apart
    rw [List.forall_mem_cons]
    constructor
    · refine (confined_directories_all plain' hrest).read plain' ?_ hwrites.read
      rw [List.mem_map]
      rintro ⟨other, hother, heq⟩
      simp only [hwrites.confined.toKeeps.locate] at heq
      exact hasset other hother heq
    · exact ih plain' (by simpa only [hwrites.confined.toKeeps.locate] using hothers) hrest

end Writer

end DartBundle
