import DartBundle.Proofs.Build.Run
import DartBundle.Proofs.Build.Writer
/-!
This module contains what a build step that succeeds has published: the bundle that its own compiler
run has made, with the preamble in front, and the source map of that run as it is.
-/

namespace DartBundle

def Compiler.KeepsPlain (compile : Compiler) : Prop :=
  ∀ i t result u, t.Plain → compile i t = .ok (result, u) → u.Plain

theorem injectPreamble_ok {path preamble : String} {t u : FileTree}
    (h : injectPreamble path preamble t = .ok () u) :
    ∃ content, t.read path = .ok content ∧
      Disk.replaceFile path (preamble.toUTF8 ++ content) t = .ok () u := by
  obtain ⟨content, v, hasked, hreplace⟩ := Work.bind_eq_ok_iff.1 (FileWork.ofDisk_eq_ok_iff.1 h)
  obtain ⟨hread, rfl⟩ := Disk.ask_eq_ok_iff.1 hasked
  exact ⟨content, hread, hreplace⟩

theorem injectPreamble_error {path preamble : String} {t u : FileTree} {e : Error} (plain : t.Plain)
    (h : injectPreamble path preamble t = .error e u) : FileTree.ConfinedTo [] t u := by
  obtain ⟨fault, -, hdisk⟩ := FileWork.ofDisk_eq_error_iff.1 h
  rcases Work.bind_eq_error_iff.1 hdisk with hasked | ⟨content, v, hasked, hreplace⟩
  · obtain ⟨-, rfl⟩ := Disk.ask_eq_error_iff.1 hasked
    exact .refl _ _
  · obtain ⟨-, rfl⟩ := Disk.ask_eq_ok_iff.1 hasked
    exact Disk.replaceFile_error plain hreplace

namespace BuildStep

open FileTree

variable {step : BuildStep} {compile : Compiler} {graph : ModuleGraph} {entry : AssetId}
  {area : StagingArea} {reader : Reader} {t spawned left processed : FileTree} {w v : Workspace}
  {i : Invocation} {result : Run} {artifacts : Artifacts}

theorem spawned_plain (plain : t.Plain) (habs : Path.isAbsolute area.root = true)
    (h : step.prepare graph entry area reader t = .ok (.ready i) spawned) : spawned.Plain := by
  have hconfined : ConfinedTo ((step.touched graph entry area).map t.locate) t
      (Work.left (step.prepare graph entry area reader t)) := prepare_confined plain habs
  rw [h] at hconfined
  exact hconfined.plain plain

theorem injected_bundle (plain : left.Plain) (placed : i.Placed)
    (h : injectPreamble i.outputFile step.config.preamble left = .ok () processed) :
    ∃ bundle, left.read i.outputFile = .ok bundle ∧
      Writes i.outputFile (step.config.preamble.toUTF8 ++ bundle) left processed ∧
        ∀ l e, processed.FileAt i.sourceMapFile l e ↔ left.FileAt i.sourceMapFile l e := by
  obtain ⟨bundle, hread, hreplace⟩ := injectPreamble_ok h
  refine ⟨bundle, hread, writes_replaceFile plain hreplace, ?_⟩
  obtain ⟨hconfined, d, last, e, hholder, -, -, hlocate, hat, -⟩ := Disk.replaceFile_ok plain hreplace
  have hmapAbs := placed.sourceMap
  rw [placed.beside] at hmapAbs ⊢
  have hbefore := holder_of_read hconfined.toKeeps plain (hconfined.plain plain) placed.bundle hread
    hholder
  intro l e
  exact hconfined.fileAt_append plain hat.name (by decide) hmapAbs hbefore
    (not_mem_of_follow_append plain hat.name (by decide) (by decide) hmapAbs hlocate hbefore)

theorem compiled_bundle (plain : t.Plain) (keeps : compile.KeepsPlain)
    (habs : Path.isAbsolute area.root = true)
    (h : Compiled step compile graph entry area reader i result t spawned left processed) :
    ∃ bundle, left.read i.outputFile = .ok bundle ∧
      Writes i.outputFile (step.config.preamble.toUTF8 ++ bundle) left processed ∧
        ∀ l e, processed.FileAt i.sourceMapFile l e ↔ left.FileAt i.sourceMapFile l e := by
  have plainLeft := keeps i spawned result left (spawned_plain plain habs h.prepared) h.ended
  obtain ⟨rfl, -⟩ := prepare_ready h.prepared
  exact injected_bundle plainLeft (step.placed entry habs) h.injected

theorem bundle_ne_sourceMap (step : BuildStep) (entry : AssetId) (area : StagingArea) :
    (step.invocation entry area).bundle ≠ (step.invocation entry area).sourceMap := by
  intro h
  have := congrArg (fun id : AssetId => id.path.toList.length) h
  simp [invocation, Invocation.build, AssetId.changeExtension, CompilerConfig.sourceMapExtension]
    at this

theorem pathFor_bundle (step : BuildStep) (entry : AssetId) (area : StagingArea) :
    area.pathFor (step.invocation entry area).bundle = (step.invocation entry area).outputFile :=
  Invocation.pathFor_bundle_build ..

theorem pathFor_sourceMap (step : BuildStep) (entry : AssetId) (area : StagingArea) :
    area.pathFor (step.invocation entry area).sourceMap =
      (step.invocation entry area).sourceMapFile :=
  Invocation.pathFor_sourceMap_build ..

theorem find_outputFile_of_prepare (plain : t.Plain) (habs : Path.isAbsolute area.root = true)
    (h : step.prepare graph entry area reader t = .ok (.ready i) spawned) :
    spawned.find i.outputFile true = .error .notFound := by
  obtain ⟨rfl, closure, staged, configured, -, hprepared⟩ := prepare_ready h
  have hcleared := Invocation.clearStale_ok (hprepared.plain plain).2 (step.placed entry habs)
    hprepared.cleared
  exact hcleared.2.2.1

theorem publish_compiled {bundle : ByteArray} {write : Writer} {log : List Event}
    (plain : processed.Plain) (hspares : write.SparesSourceMap (step.invocation entry area))
    (hread : processed.read (step.invocation entry area).outputFile = .ok bundle)
    (hsame : ∀ l e, processed.FileAt (step.invocation entry area).sourceMapFile l e ↔
      left.FileAt (step.invocation entry area).sourceMapFile l e)
    (h : area.publish (step.invocation entry area) write { w with files := processed, log } =
      .ok artifacts v) :
    artifacts.bundle = (step.invocation entry area).bundle ∧
      ∃ copied, write (step.invocation entry area).bundle bundle { w with files := processed, log } =
          .ok () copied ∧
        (artifacts.sourceMap = none ∧
            left.isFile (step.invocation entry area).sourceMapFile = false ∧ copied = v ∨
          artifacts.sourceMap = some (step.invocation entry area).sourceMap ∧
            left.isFile (step.invocation entry area).sourceMapFile = true ∧
            ∃ map, left.read (step.invocation entry area).sourceMapFile = .ok map ∧
              write (step.invocation entry area).sourceMap map copied = .ok () v) := by
  obtain ⟨hbundle, copied, hcopy, hmap⟩ := StagingArea.publish_ok h
  obtain ⟨content, hcontent, hwrite⟩ := StagingArea.copyOutput_ok hcopy
  rw [pathFor_bundle] at hcontent
  rw [hread, Except.ok.injEq] at hcontent
  subst hcontent
  -- the source map is still what the compiler has left when its turn comes
  obtain ⟨hfile, hfound⟩ := hspares _ { w with files := processed, log } _ plain hread hwrite
  rw [pathFor_sourceMap, hfile, isFile_congr hsame] at hmap
  refine ⟨hbundle, copied, hwrite, ?_⟩
  rcases hmap with ⟨hleft, hid, hcopyMap⟩ | ⟨hleft, hid, rfl⟩
  · obtain ⟨map, hmapRead, hwriteMap⟩ := StagingArea.copyOutput_ok hcopyMap
    rw [pathFor_sourceMap] at hmapRead
    exact .inr ⟨hid, hleft, map, (read_congr hsame).1 ((hfound map).1 hmapRead), hwriteMap⟩
  · exact .inl ⟨hid, hleft, rfl⟩

theorem built_publishes_bundle (plain : w.files.Plain) (keeps : compile.KeepsPlain)
    (habs : Path.isAbsolute area.root = true)
    (h : step.run compile graph entry area reader Writer.memory w = .ok (.built artifacts) v) :
    ∃ closure i spawned result left bundle,
      graph.closure entry = .ok (.resolved closure) ∧ i = step.invocation entry area ∧
        step.prepare graph entry area reader w.files = .ok (.ready i) spawned ∧
        spawned.find i.outputFile true = .error .notFound ∧
        compile i spawned = .ok (result, left) ∧ result.exitCode = some 0 ∧
        left.read i.outputFile = .ok bundle ∧ artifacts.bundle = i.bundle ∧
        i.bundle ≠ i.sourceMap ∧
        (artifacts.sourceMap = none ∧ left.isFile i.sourceMapFile = false ∧
            (∀ id, v.outputs.get? id =
              if id = i.bundle then some (step.config.preamble.toUTF8 ++ bundle)
              else w.outputs.get? id) ∨
          artifacts.sourceMap = some i.sourceMap ∧ ∃ map, left.read i.sourceMapFile = .ok map ∧
            ∀ id, v.outputs.get? id =
              if id = i.bundle then some (step.config.preamble.toUTF8 ++ bundle)
              else if id = i.sourceMap then some map
              else w.outputs.get? id) := by
  obtain ⟨i, result, spawned, left, processed, published, hcompiled, hpublish, rfl⟩ := run_built h
  obtain ⟨bundle, hread, hwrites, hmapAt⟩ := compiled_bundle plain keeps habs hcompiled
  have habsent := find_outputFile_of_prepare plain habs hcompiled.prepared
  have plainLeft :=
    keeps i spawned result left (spawned_plain plain habs hcompiled.prepared) hcompiled.ended
  have plainProcessed := hwrites.confined.plain plainLeft
  obtain ⟨rfl, closure, -, -, hclosure, -⟩ := prepare_ready hcompiled.prepared
  have hdistinct := bundle_ne_sourceMap step entry area
  obtain ⟨hbundle, copied, hwrite, hmap⟩ := publish_compiled plainProcessed
    (Writer.memory_sparesSourceMap _) hwrites.read hmapAt hpublish
  cases hwrite
  refine ⟨closure, _, spawned, result, left, bundle, hclosure, rfl, hcompiled.prepared, habsent,
    hcompiled.ended, hcompiled.exited, hread, hbundle, hdistinct, ?_⟩
  rcases hmap with ⟨hid, hfile, rfl⟩ | ⟨hid, hfile, map, hmapRead, hwriteMap⟩
  · refine .inl ⟨hid, hfile, ?_⟩
    intro id
    exact MemoryAssets.get?_insert ..
  · refine .inr ⟨hid, map, hmapRead, ?_⟩
    cases hwriteMap
    intro id
    dsimp only
    rw [MemoryAssets.get?_insert, MemoryAssets.get?_insert]
    by_cases hidBundle : id = (step.invocation entry area).bundle
    · rw [if_neg (hidBundle ▸ hdistinct), if_pos hidBundle, if_pos hidBundle]
    · rw [if_neg hidBundle, if_neg hidBundle]

end BuildStep

namespace Sample

/-!
A build of one module in an empty file tree, whose compiler leaves a bundle and a source map of one byte
each.
-/

def step : BuildStep := ⟨{ bundleExtension := ".j", preamble := "P" }, ⟨"/k"⟩⟩

def graph : ModuleGraph where
  modules := [{ primarySource := ⟨"a", "w"⟩ }]
  distinct := by simp

def area : StagingArea := ⟨"/s"⟩

def reader : Reader := fun _ _ => .ok ⟨#[1]⟩

def compiler : Compiler := fun _ t =>
  .ok (⟨some 0, .empty, .empty, 0⟩,
    (t.create ["w.j", "s"] (.file ⟨#[66]⟩) 0o644).create ["w.j.map", "s"] (.file ⟨#[77]⟩) 0o644)

theorem compiler_keepsPlain : compiler.KeepsPlain := by
  intro i t result u plain h
  cases h
  exact (plain.create (List.cons_ne_nil _ _) (by simp)).create (List.cons_ne_nil _ _) (by simp)

theorem built_publishes_sample :
    ∃ v, ∃ left : FileTree, ∃ bundle,
      step.run compiler graph ⟨"a", "w"⟩ area reader Writer.memory { files := .empty } =
        .ok (.built ⟨⟨"a", "w.j"⟩, some ⟨"a", "w.j.map"⟩⟩) v ∧
      left.read "/s/w.j" = .ok bundle ∧
        v.outputs.get? ⟨"a", "w.j"⟩ = some ("P".toUTF8 ++ bundle) ∧
          ∃ map, left.read "/s/w.j.map" = .ok map ∧ v.outputs.get? ⟨"a", "w.j.map"⟩ = some map := by
  have habs : Path.isAbsolute area.root = true := by decide
  have hrun : step.run compiler graph ⟨"a", "w"⟩ area reader Writer.memory { files := .empty } =
      .ok (.built ⟨⟨"a", "w.j"⟩, some ⟨"a", "w.j.map"⟩⟩) _ :=
    Work.eq_ok_of_answer? (by decide +kernel)
  obtain ⟨closure, i, spawned, result, left, bundle, -, rfl, -, -, -, -, hread, -, -, hnone | hsome⟩ :=
    BuildStep.built_publishes_bundle FileTree.plain_empty compiler_keepsPlain habs hrun
  · cases hnone.1
  · obtain ⟨-, map, hmap, hget⟩ := hsome
    have hout : (step.invocation ⟨"a", "w"⟩ area).outputFile = "/s/w.j" := by decide +kernel
    have hmapFile : (step.invocation ⟨"a", "w"⟩ area).sourceMapFile = "/s/w.j.map" := by
      decide +kernel
    have hbundleId : (step.invocation ⟨"a", "w"⟩ area).bundle = ⟨"a", "w.j"⟩ := by decide +kernel
    have hmapId : (step.invocation ⟨"a", "w"⟩ area).sourceMap = ⟨"a", "w.j.map"⟩ := by
      decide +kernel
    rw [hout] at hread
    rw [hmapFile] at hmap
    rw [hbundleId, hmapId] at hget
    refine ⟨_, left, bundle, hrun, hread, ?_, map, hmap, ?_⟩
    · rw [hget, if_pos rfl, show step.config.preamble = "P" from rfl]
    · rw [hget, if_neg (by decide), if_pos rfl]

end Sample

end DartBundle
