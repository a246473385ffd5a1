import DartBundle.Proofs.Build.Publication
import DartBundle.Proofs.Build.Writer
import DartBundle.Proofs.FileTree.Replacement
/-!
This module contains what a build step that fails has published. Errors that come before the bundle is
complete leave the output space alone, and so do failures to write the bundle. The one thing that can be
left behind is a bundle whose source map could not be copied.
-/

namespace DartBundle

namespace FileTree

variable {t u : FileTree} {l : Location} {places : List Location}

structure Spares (shown : Location → Prop) (t u : FileTree) : Prop where
  current : u.current = t.current
  plain : u.Plain
  content : ∀ l, shown l → u.contentAt l = t.contentAt l

variable {shown : Location → Prop}

theorem Spares.trans {v : FileTree} (h : Spares shown t u) (h' : Spares shown u v) :
    Spares shown t v where
  current := h'.current.trans h.current
  plain := h'.plain
  content := fun l hl => (h'.content l hl).trans (h.content l hl)

theorem Spares.locate {path : String} (h : Spares shown t u) : u.locate path = t.locate path := by
  unfold FileTree.locate start
  rw [h.current]

theorem ConfinedTo.spares (h : ConfinedTo places t u) (plain : t.Plain)
    (hplaces : ∀ l ∈ places, ¬ shown l) : Spares shown t u where
  current := h.current
  plain := h.plain plain
  content := fun l hl => h.contentAt fun hmem => hplaces l hmem hl

end FileTree

namespace AssetDirectories

open FileTree

def Shows (d : AssetDirectories) (t : FileTree) (id : AssetId) (l : Location) : Prop :=
  t.locate d.outputDirectory <:+ l ∨ l = t.locate (d.outputPath id)

instance (d : AssetDirectories) (t : FileTree) (id : AssetId) (l : Location) :
    Decidable (d.Shows t id l) :=
  inferInstanceAs (Decidable (_ ∨ _))

end AssetDirectories

namespace BuildStep

open FileTree

variable {step : BuildStep} {compile : Compiler} {graph : ModuleGraph} {entry id : AssetId}
  {area : StagingArea} {reader : Reader} {write : Writer} {t spawned left processed u : FileTree}
  {w v : Workspace} {i : Invocation} {result : Run} {e : Error} {d : AssetDirectories}

/--
Whether a step completes a bundle with some content beside a source map: it is what the compiler has left,
with the preamble in front. In a tree without links the compiler has left the source map as well.
-/
def Completes (step : BuildStep) (compile : Compiler) (graph : ModuleGraph) (entry : AssetId)
    (area : StagingArea) (reader : Reader) (t : FileTree) (content : ByteArray) : Prop :=
  ∃ i result spawned left processed bundle,
    Compiled step compile graph entry area reader i result t spawned left processed ∧
      left.read i.outputFile = .ok bundle ∧ content = step.config.preamble.toUTF8 ++ bundle ∧
        processed.read i.outputFile = .ok content ∧ processed.isFile i.sourceMapFile = true ∧
          (left.Plain → Path.isAbsolute area.root = true → left.isFile i.sourceMapFile = true)

theorem completes_of_compiled {content : ByteArray}
    (h : Compiled step compile graph entry area reader i result t spawned left processed)
    (hread : processed.read i.outputFile = .ok content) (hfile : processed.isFile i.sourceMapFile = true) :
    Completes step compile graph entry area reader t content := by
  obtain ⟨bundle, hbundle, hreplace⟩ := injectPreamble_ok h.injected
  refine ⟨i, result, spawned, left, processed, bundle, h, hbundle,
    Disk.eq_of_read_replaceFile hreplace hread, hread, hfile, ?_⟩
  intro plain habs
  obtain ⟨rfl, -⟩ := prepare_ready h.prepared
  obtain ⟨-, -, -, hsame⟩ := injected_bundle plain (step.placed entry habs) h.injected
  exact (isFile_congr hsame).symm.trans hfile

theorem copyOutput_memory_error (h : area.copyOutput id Writer.memory w = .error e v) : w = v := by
  rcases StagingArea.copyOutput_error h with ⟨_, -, rfl⟩ | ⟨_, -, hwrite⟩
  · rfl
  · cases hwrite

theorem copyOutput_directories_error (plain : w.files.Plain)
    (h : area.copyOutput id (Writer.directories d) w = .error e v) :
    ConfinedTo [] w.files v.files := by
  rcases StagingArea.copyOutput_error h with ⟨_, -, rfl⟩ | ⟨_, -, hwrite⟩
  · exact .refl _ _
  · obtain ⟨t, hdirectories, rfl⟩ := Build.onFiles_eq_error_iff.1 hwrite
    exact AssetDirectories.write_error plain hdirectories

theorem failed_memory
    (h : step.run compile graph entry area reader Writer.memory w = .error e v) :
    v.outputs = w.outputs ∨
      ∃ content, Completes step compile graph entry area reader w.files content ∧
        v.outputs = w.outputs.insert (step.invocation entry area).bundle content := by
  rcases run_error h with
    ⟨u, log, -, rfl⟩ | ⟨i, result, spawned, left, processed, log, hcompiled, hpublish⟩
  · exact .inl rfl
  · obtain ⟨rfl, -⟩ := prepare_ready hcompiled.prepared
    rcases StagingArea.publish_error hpublish with hbundle | ⟨published, hbundle, hfile, hmap⟩
    · left
      rw [← copyOutput_memory_error hbundle]
    · right
      obtain ⟨content, hread, hwrite⟩ := StagingArea.copyOutput_ok hbundle
      cases hwrite
      rw [pathFor_bundle] at hread
      rw [pathFor_sourceMap] at hfile
      refine ⟨content, completes_of_compiled hcompiled hread hfile, ?_⟩
      rw [← copyOutput_memory_error hmap]

/--
Whether neither a step nor its compiler has to do with what counts as output.
-/
structure Apart (step : BuildStep) (compile : Compiler) (graph : ModuleGraph) (entry : AssetId)
    (area : StagingArea) (shown : Location → Prop) (t : FileTree) : Prop where
  plain : t.Plain
  root : Path.isAbsolute area.root = true
  touched : ∀ path ∈ step.touched graph entry area, ¬ shown (t.locate path)
  compiler : ∀ i u result left, u.Plain → compile i u = .ok (result, left) → Spares shown u left

namespace Apart

variable {shown : Location → Prop}

theorem prepare (h : Apart step compile graph entry area shown t) (reader : Reader) :
    Spares shown t (Work.left (step.prepare graph entry area reader t)) := by
  apply (prepare_confined h.plain h.root).spares h.plain
  intro l hl
  obtain ⟨path, hpath, rfl⟩ := List.mem_map.1 hl
  exact h.touched path hpath

theorem run (h : Apart step compile graph entry area shown t)
    (hprepared : step.prepare graph entry area reader t = .ok (.ready i) spawned)
    (hended : compile i spawned = .ok (result, left)) : Spares shown t left := by
  have hprepare := h.prepare reader
  rw [hprepared, Work.left_ok] at hprepare
  exact hprepare.trans (h.compiler i spawned result left hprepare.plain hended)

theorem stopped (h : Apart step compile graph entry area shown t)
    (hstopped : Stopped step compile graph entry area reader t u) : Spares shown t u := by
  cases hstopped with
  | preparing hprepare =>
    have := h.prepare reader
    rw [hprepare] at this
    exact this
  | starting hprepare _ =>
    have := h.prepare reader
    rw [hprepare] at this
    exact this
  | compiling hprepare hended _ => exact h.run hprepare hended
  | injecting hprepare hended _ _ hinject =>
    have hleft := h.run hprepare hended
    exact hleft.trans ((injectPreamble_error hleft.plain hinject).spares hleft.plain nofun)

theorem compiled (h : Apart step compile graph entry area shown t)
    (hcompiled : Compiled step compile graph entry area reader i result t spawned left processed) :
    Spares shown t processed := by
  have hleft := h.run hcompiled.prepared hcompiled.ended
  obtain ⟨rfl, closure, staged, configured, hclosure, -⟩ := prepare_ready hcompiled.prepared
  obtain ⟨bundle, -, hreplace⟩ := injectPreamble_ok hcompiled.injected
  have hconfined := (writes_replaceFile hleft.plain hreplace).confined
  refine hleft.trans (hconfined.spares hleft.plain ?_)
  intro l hl
  rw [List.mem_singleton] at hl
  rw [hl, hleft.locate]
  apply h.touched
  unfold BuildStep.touched
  rw [hclosure]
  simp [paths]

end Apart

theorem isFile_sourceMap_of_confined {places : List Location} (plain : left.Plain)
    (habs : Path.isAbsolute area.root = true)
    (hinject : injectPreamble (step.invocation entry area).outputFile step.config.preamble left =
      .ok () processed)
    (hconfined : ConfinedTo places processed u)
    (hplace : processed.locate (step.invocation entry area).sourceMapFile ∉ places)
    (hfile : u.isFile (step.invocation entry area).sourceMapFile = true) :
    processed.isFile (step.invocation entry area).sourceMapFile = true := by
  obtain ⟨bundle, -, hreplace⟩ := injectPreamble_ok hinject
  obtain ⟨hwritten, d, last, e, hholder, -, -, -, hat, -⟩ := Disk.replaceFile_ok plain hreplace
  have plain' := hwritten.plain plain
  have placed := step.placed entry habs
  have hmapAbs := placed.sourceMap
  obtain ⟨l, e', hat'⟩ := isFile_iff.1 hfile
  rw [placed.beside] at hmapAbs hat' hplace ⊢
  refine isFile_iff.2 ⟨l, e', ?_⟩
  refine (hconfined.fileAt_append plain' hat.name (by decide) hmapAbs hholder ?_).1 hat'
  intro hfollow
  rw [← locate_eq plain' hfollow]
  exact hplace

theorem failed_directories
    (apart : Apart step compile graph entry area
      (d.Shows w.files (step.invocation entry area).bundle) w.files)
    (h : step.run compile graph entry area reader (Writer.directories d) w = .error e v) :
    (∀ l, d.Shows w.files (step.invocation entry area).bundle l →
        v.files.contentAt l = w.files.contentAt l) ∨
      ∃ content, Completes step compile graph entry area reader w.files content ∧
        ∀ l, d.Shows w.files (step.invocation entry area).bundle l →
          v.files.contentAt l =
            if l = w.files.locate (d.outputPath (step.invocation entry area).bundle) then
              some content
            else w.files.contentAt l := by
  rcases run_error h with
    ⟨u, log, hstopped, rfl⟩ | ⟨i, result, spawned, left, processed, log, hcompiled, hpublish⟩
  · exact .inl (apart.stopped hstopped).content
  obtain ⟨rfl, closure, staged, configured, hclosure, -⟩ := prepare_ready hcompiled.prepared
  have hprocessed := apart.compiled hcompiled
  rcases StagingArea.publish_error hpublish with hbundle | ⟨published, hbundle, hfile, hmap⟩
  · left
    have hconfined := copyOutput_directories_error hprocessed.plain hbundle
    exact (hprocessed.trans (hconfined.spares hprocessed.plain nofun)).content
  · right
    obtain ⟨content, hread, hwrite⟩ := StagingArea.copyOutput_ok hbundle
    obtain ⟨t, hdirectories, rfl⟩ := Build.onFiles_eq_ok_iff.1 hwrite
    have hwrites := AssetDirectories.write_ok hprocessed.plain hdirectories
    have plainEnd := hwrites.confined.plain hprocessed.plain
    have hconfined := hwrites.confined
    rw [hprocessed.locate] at hconfined
    rw [pathFor_bundle] at hread
    rw [pathFor_sourceMap] at hfile
    have plainLeft := (apart.run hcompiled.prepared hcompiled.ended).plain
    have hmapFile : processed.isFile (step.invocation entry area).sourceMapFile = true := by
      refine isFile_sourceMap_of_confined plainLeft apart.root hcompiled.injected hconfined ?_ hfile
      rw [hprocessed.locate, List.mem_singleton]
      intro heq
      refine apart.touched (step.invocation entry area).sourceMapFile ?_ (.inr heq)
      unfold touched
      rw [hclosure]
      simp [paths]
    refine ⟨content, completes_of_compiled hcompiled hread hmapFile, ?_⟩
    -- what is published last is the source map, and that has failed
    have hv : ConfinedTo [] t v.files := copyOutput_directories_error plainEnd hmap
    intro l hl
    rw [hv.contentAt List.not_mem_nil]
    split
    · next heq =>
      rw [heq, ← hprocessed.locate, ← hwrites.confined.toKeeps.locate]
      exact contentAt_of_read plainEnd hwrites.read
    · next hne =>
      rw [hconfined.contentAt (by simpa using hne)]
      exact hprocessed.content l hl

theorem failed_step_publishes_bundle_at_most :
    (step.run compile graph entry area reader Writer.memory w = .error e v →
      v.outputs = w.outputs ∨
        ∃ content, Completes step compile graph entry area reader w.files content ∧
          v.outputs = w.outputs.insert (step.invocation entry area).bundle content) ∧
    (Apart step compile graph entry area
        (d.Shows w.files (step.invocation entry area).bundle) w.files →
      step.run compile graph entry area reader (Writer.directories d) w = .error e v →
        (∀ l, d.Shows w.files (step.invocation entry area).bundle l →
            v.files.contentAt l = w.files.contentAt l) ∨
          ∃ content, Completes step compile graph entry area reader w.files content ∧
            ∀ l, d.Shows w.files (step.invocation entry area).bundle l →
              v.files.contentAt l =
                if l = w.files.locate (d.outputPath (step.invocation entry area).bundle) then
                  some content
                else w.files.contentAt l) :=
  ⟨failed_memory, failed_directories⟩

end BuildStep

namespace Sample

open FileTree

def output : AssetDirectories where
  outputDirectory := "/o"

def blocked : FileTree :=
  ((FileTree.empty.create ["o"] .directory 0o755).create ["a", "o"] .directory 0o755).create
    ["w.j.map", "a", "o"] .directory 0o755

theorem exists_blocked_failure :
    ∃ e v, step.run compiler graph ⟨"a", "w"⟩ area reader (Writer.directories output)
        { files := blocked } = .error e v ∧
      v.files.contentAt ["w.j", "a", "o"] = some ("P".toUTF8 ++ ⟨#[66]⟩) := by
  have hrun : ∃ e, step.run compiler graph ⟨"a", "w"⟩ area reader (Writer.directories output)
      { files := blocked } = .error e _ :=
    Work.exists_error_of_answer? (by decide +kernel)
  obtain ⟨e, hrun⟩ := hrun
  exact ⟨e, _, hrun, by decide +kernel⟩

def crossing : ModuleGraph where
  modules := [{ primarySource := ⟨"a", "w/x"⟩ }]
  distinct := by simp

theorem failed_sample_publishes_bundle_alone :
    (∃ e v, step.run compiler graph ⟨"a", "w"⟩ area reader (Writer.directories output)
        { files := blocked } = .error e v ∧
      blocked.contentAt ["w.j", "a", "o"] = none ∧
        v.files.contentAt ["w.j", "a", "o"] = some ("P".toUTF8 ++ ⟨#[66]⟩)) ∧
      AssetDirectories.outputPath ⟨area.root, .empty⟩ ⟨"w", "x"⟩ = area.pathFor ⟨"a", "w/x"⟩ ∧
      ∃ e v, step.run (fun _ _ => .error .notFound) crossing ⟨"a", "w/x"⟩ area reader
          (Writer.directories ⟨area.root, .empty⟩) { files := .empty } = .error e v ∧
        FileTree.empty.contentAt ["x", "w", "s"] = none ∧
          v.files.contentAt ["x", "w", "s"] = some ⟨#[1]⟩ := by
  obtain ⟨e, v, hrun, hcontent⟩ := exists_blocked_failure
  have hstaged : ∃ e, step.run (fun _ _ => .error .notFound) crossing ⟨"a", "w/x"⟩ area reader
      (Writer.directories ⟨area.root, .empty⟩) { files := .empty } = .error e _ :=
    Work.exists_error_of_answer? (by decide +kernel)
  obtain ⟨e', hrun'⟩ := hstaged
  exact ⟨⟨e, v, hrun, by decide +kernel, hcontent⟩, by decide +kernel, e', _, hrun', rfl,
    by decide +kernel⟩

theorem blocked_plain : blocked.Plain :=
  ((plain_empty.create (List.cons_ne_nil _ _) (by simp)).create (List.cons_ne_nil _ _)
    (by simp)).create (List.cons_ne_nil _ _) (by simp)

theorem apart : BuildStep.Apart step compiler graph ⟨"a", "w"⟩ area
    (output.Shows blocked (step.invocation ⟨"a", "w"⟩ area).bundle) blocked where
  plain := blocked_plain
  root := by decide
  touched := by decide +kernel
  compiler := by
    intro i u result left plain h
    cases h
    refine ⟨?_, ?_, ?_⟩
    · rw [current_create, current_create]
    · exact (plain.create (List.cons_ne_nil _ _) (by simp)).create (List.cons_ne_nil _ _)
        (by simp)
    · intro l hl
      apply contentAt_congr
      rw [get?_create _ _ _ _ _ (List.cons_ne_nil _ _), get?_create _ _ _ _ _ (List.cons_ne_nil _ _),
        if_neg, if_neg]
      · rintro rfl
        exact absurd hl (by decide +kernel)
      · rintro rfl
        exact absurd hl (by decide +kernel)

theorem failed_sample :
    (∃ e v, step.run compiler graph ⟨"a", "x"⟩ area reader Writer.memory { files := blocked } =
        .error e v ∧
      (v.outputs = {} ∨ ∃ content,
        BuildStep.Completes step compiler graph ⟨"a", "x"⟩ area reader blocked content ∧
          v.outputs = MemoryAssets.insert {} (step.invocation ⟨"a", "x"⟩ area).bundle content)) ∧
    ∃ e v, step.run compiler graph ⟨"a", "w"⟩ area reader (Writer.directories output)
        { files := blocked } = .error e v ∧
      ((∀ l, output.Shows blocked (step.invocation ⟨"a", "w"⟩ area).bundle l →
          v.files.contentAt l = blocked.contentAt l) ∨
        ∃ content, BuildStep.Completes step compiler graph ⟨"a", "w"⟩ area reader blocked content ∧
          ∀ l, output.Shows blocked (step.invocation ⟨"a", "w"⟩ area).bundle l →
            v.files.contentAt l =
              if l = blocked.locate (output.outputPath (step.invocation ⟨"a", "w"⟩ area).bundle) then
                some content
              else blocked.contentAt l) := by
  have hmemory : ∃ e, step.run compiler graph ⟨"a", "x"⟩ area reader Writer.memory
      { files := blocked } = .error e _ :=
    Work.exists_error_of_answer? (by decide +kernel)
  obtain ⟨e, hrun⟩ := hmemory
  obtain ⟨e', v', hrun', -⟩ := exists_blocked_failure
  constructor
  · have hfailed := (BuildStep.failed_step_publishes_bundle_at_most (d := output)).1 hrun
    exact ⟨e, _, hrun, hfailed⟩
  · have hfailed := BuildStep.failed_step_publishes_bundle_at_most.2 apart hrun'
    exact ⟨e', v', hrun', hfailed⟩

end Sample

end DartBundle
