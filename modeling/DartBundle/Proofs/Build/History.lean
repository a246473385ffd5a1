import DartBundle.Proofs.Build.Publication
import DartBundle.Proofs.Build.Writer
import DartBundle.Proofs.Compiler.Confined
import DartBundle.Proofs.Staging.Agreement
/-!
This module contains why a build does not depend on what has been in its file tree before, as long as the
compiler looks at nothing but the staged sources and the package config: those are the same in all trees
when the compiler is started, and what it makes of them decides what is published.
-/

namespace DartBundle

namespace BuildStep

open FileTree

variable {step : BuildStep} {compile : Compiler} {graph : ModuleGraph} {entry : AssetId}
  {area : StagingArea} {reader reader' : Reader} {write write' : Writer} {t t' : FileTree}
  {w v w' v' : Workspace} {closure : Closure} {artifacts : Artifacts} {outcome outcome' : Outcome}
  {seen : List String} {clock : FileTree → Nat}
  {make : Invocation → List (Except FileFault ByteArray) → Except FileFault Product}

def inputs (graph : ModuleGraph) (entry : AssetId) (area : StagingArea) : List String :=
  match graph.closure entry with
  | .ok (.resolved closure) =>
    closure.sources.map area.pathFor ++ [area.resolve (PackageConfig.path entry)]
  | _ => []

def published (step : BuildStep) (i : Invocation) (bundle : ByteArray) (map? : Option ByteArray) :
    List (AssetId × ByteArray) :=
  (i.bundle, step.config.preamble.toUTF8 ++ bundle) :: (map?.map fun map => (i.sourceMap, map)).toList

/--
Whether a step has started its compiler and ends with some assets written, one after the other and nothing
else, from where the preamble had been put in front of what that compiler has left.
-/
structure Publishes (step : BuildStep) (compile : Compiler) (graph : ModuleGraph) (entry : AssetId)
    (area : StagingArea) (reader : Reader) (write : Writer) (assets : List (AssetId × ByteArray))
    (w v : Workspace) : Prop where
  writes : ∃ result spawned left processed u,
    Compiled step compile graph entry area reader (step.invocation entry area) result w.files spawned left
        processed ∧
      write.all assets
          { w with
            files := processed
            log := w.log ++ [.starting (step.invocation entry area)] ++
              printed ((step.invocation entry area).completion result left) } = .ok () u ∧
        v.files = u.files ∧ v.outputs = u.outputs
  memory : write = Writer.memory → ∀ id, v.outputs.get? id = (assets.lookup id).or (w.outputs.get? id)
  directories : ∀ d, write = Writer.directories d →
    ∀ asset ∈ assets, v.files.read (d.outputPath asset.1) = .ok asset.2

theorem nodup_published (step : BuildStep) (entry : AssetId) (area : StagingArea) (bundle : ByteArray)
    (map? : Option ByteArray) :
    ((step.published (step.invocation entry area) bundle map?).map Prod.fst).Nodup := by
  unfold published
  cases map? with
  | none => simp
  | some map => simp [bundle_ne_sourceMap]

theorem outputPath_sourceMap (step : BuildStep) (entry : AssetId) (area : StagingArea)
    (d : AssetDirectories) : d.outputPath (step.invocation entry area).sourceMap =
      d.outputPath (step.invocation entry area).bundle ++ ".map" := by
  unfold AssetDirectories.outputPath invocation Invocation.build AssetId.changeExtension
    CompilerConfig.sourceMapExtension
  dsimp only
  rw [← String.append_assoc]
  exact Path.resolve_append _ _ (by decide)

theorem published_apart (step : BuildStep) (entry : AssetId) (area : StagingArea) (d : AssetDirectories)
    (t : FileTree) (bundle : ByteArray) (map? : Option ByteArray) :
    (step.published (step.invocation entry area) bundle map?).Pairwise fun asset other =>
      t.locate (d.outputPath other.1) ≠ t.locate (d.outputPath asset.1) := by
  unfold published
  cases map? with
  | none => simp
  | some map =>
    simp only [Option.map_some, Option.toList_some, List.pairwise_cons, List.mem_singleton, forall_eq,
      outputPath_sourceMap]
    exact ⟨t.locate_append_ne _ (by decide) (by decide), nofun, .nil⟩

theorem confined_keepsPlain : (Compiler.confined seen make clock).KeepsPlain := by
  intro i t result u plain h
  obtain ⟨product, -, -, rfl⟩ := Compiler.confined_ok h
  have hfirst := (leave_confined plain i.outputFile product.bundle?).1
  exact (leave_confined (hfirst.plain plain) i.sourceMapFile product.sourceMap?).1.plain
    (hfirst.plain plain)

theorem isAbsolute_of_mem_inputs (habs : Path.isAbsolute area.root = true) {path : String}
    (h : path ∈ inputs graph entry area) : Path.isAbsolute path = true := by
  unfold inputs at h
  split at h
  · rcases List.mem_append.1 h with hsource | hconfig
    · obtain ⟨id, -, rfl⟩ := List.mem_map.1 hsource
      exact Path.isAbsolute_resolve _ habs
    · rw [List.mem_singleton.1 hconfig]
      exact Path.isAbsolute_resolve _ habs
  · cases h

theorem Prepared.places {staged configured spawned : FileTree} {d : Location} {last : String}
    (h : Prepared step entry area reader closure t staged configured spawned) (plain : t.Plain)
    (habs : Path.isAbsolute area.root = true)
    (hfile : Path.namesDirectory (step.invocation entry area).outputFile = false)
    (hholder : spawned.holder (step.invocation entry area).outputFile = .ok (d, last)) :
    configured.holder (step.invocation entry area).outputFile = .ok (d, last) ∧
      spawned.holder (step.invocation entry area).sourceMapFile = .ok (d, last ++ ".map") ∧
        spawned.get? ((last ++ ".map") :: d) = none := by
  have plainConfigured := (h.plain plain).2
  have placed := step.placed entry habs
  obtain ⟨hconfined, hclears, -, -, hgone⟩ :=
    Invocation.clearStale_ok plainConfigured placed h.cleared
  have plainSpawned := hconfined.plain plainConfigured
  -- only files have been taken away, so the directory was there before
  have hbefore := hclears.back.holder plainSpawned plainConfigured hholder
  have hmap := Invocation.clearStale_holder plainConfigured placed hfile h.cleared hbefore
  obtain ⟨hdot, hup⟩ : last ++ ".map" ≠ "." ∧ last ++ ".map" ≠ ".." := ne_dots_of_append (by decide)
  refine ⟨hbefore, hclears.toKeeps.holder plainConfigured plainSpawned hmap, ?_⟩
  rw [← locate_of_name plainConfigured hmap hdot hup]
  exact hgone _ hmap

theorem built_of_product (plain : w.files.Plain) (habs : Path.isAbsolute area.root = true)
    (hspares : write.SparesSourceMap (step.invocation entry area))
    (h : step.run (Compiler.confined seen make clock) graph entry area reader write w =
      .ok (.built artifacts) v) :
    ∃ closure staged configured spawned product bundle d last,
      graph.closure entry = .ok (.resolved closure) ∧
        Prepared step entry area reader closure w.files staged configured spawned ∧
        configured.holder (step.invocation entry area).outputFile = .ok (d, last) ∧
        Path.namesDirectory (step.invocation entry area).outputFile = false ∧
        make (step.invocation entry area) (seen.map spawned.read) = .ok product ∧
        product.bundle? = some bundle ∧
        artifacts = ⟨(step.invocation entry area).bundle,
          product.sourceMap?.map fun _ => (step.invocation entry area).sourceMap⟩ ∧
        step.Publishes (.confined seen make clock) graph entry area reader write
          (step.published (step.invocation entry area) bundle product.sourceMap?) w v := by
  obtain ⟨i, result, spawned, left, processed, ended, hcompiled, hpublish, rfl⟩ := run_built h
  obtain ⟨rfl, closure, staged, configured, hclosure, hprepared⟩ := prepare_ready hcompiled.prepared
  obtain ⟨bundle, hread, hwrites, hmapAt⟩ :=
    compiled_bundle plain confined_keepsPlain habs hcompiled
  obtain ⟨product, hmake, -, hleft⟩ := Compiler.confined_ok hcompiled.ended
  have plainSpawned := spawned_plain plain habs hcompiled.prepared
  have habsent := find_outputFile_of_prepare plain habs hcompiled.prepared
  have placed := step.placed entry habs
  -- nothing was there when the compiler was started, so the bundle is what it has made
  rw [hleft, placed.beside] at hread
  obtain ⟨hbundle, d, last, hholder, -, -, hfile, hchange, hcreate⟩ :=
    leave_bundle plainSpawned placed.bundle habsent hread
  obtain ⟨hholder', hmap, hnone⟩ := hprepared.places plain habs hfile hholder
  rw [placed.beside] at hmap
  obtain ⟨hisFile, hmapRead⟩ := leave_sourceMap plainSpawned hholder hchange hcreate hmap hnone
    product.sourceMap?
  rw [← placed.beside, ← hleft] at hisFile hmapRead
  have plainProcessed :=
    hwrites.confined.plain (confined_keepsPlain _ _ _ _ plainSpawned hcompiled.ended)
  obtain ⟨hbundleId, copied, hwrite, hmapCopied⟩ :=
    publish_compiled plainProcessed hspares hwrites.read hmapAt hpublish
  rw [hisFile] at hmapCopied
  have hpublished : artifacts = ⟨(step.invocation entry area).bundle,
        product.sourceMap?.map fun _ => (step.invocation entry area).sourceMap⟩ ∧
      write.all (step.published (step.invocation entry area) bundle product.sourceMap?)
        { w with
          files := processed
          log := w.log ++ [.starting (step.invocation entry area)] ++
            printed ((step.invocation entry area).completion result left) } = .ok () ended := by
    unfold published
    cases artifacts
    cases hbundleId
    rcases hmapCopied with ⟨hmapId, hnoMap, rfl⟩ | ⟨hmapId, -, map, hmapped, hwriteMap⟩
    · rw [Option.isSome_eq_false_iff, Option.isNone_iff_eq_none] at hnoMap
      rw [hnoMap]
      cases hmapId
      exact ⟨rfl, Work.bind_of_ok hwrite⟩
    · rw [(hmapRead map).1 hmapped]
      cases hmapId
      exact ⟨rfl, (Work.bind_of_ok hwrite).trans (Work.bind_of_ok hwriteMap)⟩
  obtain ⟨hartifacts, hall⟩ := hpublished
  refine ⟨closure, staged, configured, spawned, product, bundle, d, last, hclosure, hprepared,
    hholder', hfile, hmake, hbundle, hartifacts, ?_⟩
  constructor
  · exact ⟨result, spawned, left, processed, ended, hcompiled, hall, rfl, rfl⟩
  · rintro rfl id
    exact Writer.get?_outputs_of_memory_all (step.nodup_published entry area bundle _) hall id
  · rintro directories rfl asset hasset
    have hall' := Writer.read_of_directories_all plainProcessed
      (step.published_apart entry area _ _ bundle _) hall
    exact hall' asset hasset

theorem read_inputs_congr {staged configured spawned staged' configured' spawned' : FileTree}
    {found found' : Location × String} (plain : t.Plain) (plain' : t'.Plain)
    (habs : Path.isAbsolute area.root = true)
    (hclosure : graph.closure entry = .ok (.resolved closure))
    (hreaders : Reader.Agree closure.sources ((closure.sources.map area.pathFor).map t.locate)
      reader t reader' t')
    (h : Prepared step entry area reader closure t staged configured spawned)
    (h' : Prepared step entry area reader' closure t' staged' configured' spawned')
    (hfile : Path.namesDirectory (step.invocation entry area).outputFile = false)
    (hholder : configured.holder (step.invocation entry area).outputFile = .ok found)
    (hholder' : configured'.holder (step.invocation entry area).outputFile = .ok found') :
    (inputs graph entry area).map spawned.read = (inputs graph entry area).map spawned'.read := by
  obtain ⟨plainStaged, plainConfigured⟩ := h.plain plain
  obtain ⟨plainStaged', plainConfigured'⟩ := h'.plain plain'
  obtain ⟨count, hsources⟩ := h.sources
  obtain ⟨count', hsources'⟩ := h'.sources
  -- the trees agree before the way is cleared, and clearing takes the same paths away from both
  apply List.map_congr_left
  intro path hpath
  have hpathAbs := isAbsolute_of_mem_inputs habs hpath
  have hagree : FileTree.Agree configured configured' path := by
    apply StagingArea.writePackageConfig_agree plainStaged plainStaged' habs h.config h'.config hpathAbs
    rw [ModuleGraph.closure_entry hclosure]
    unfold inputs at hpath
    rw [hclosure] at hpath
    rcases List.mem_append.1 hpath with hsource | hconfig
    · right
      exact StagingArea.stageAll_agree plain plain' habs (List.Subset.refl _) hreaders hsources
        hsources' hpathAbs (.inl hsource)
    · exact .inl (List.mem_singleton.1 hconfig)
  exact Invocation.clearStale_read_congr plainConfigured plainConfigured' (step.placed entry habs)
    hfile h.cleared h'.cleared hholder hholder' hpathAbs hagree

theorem outcome_independent_of_history (plain : w.files.Plain) (plain' : w'.files.Plain)
    (habs : Path.isAbsolute area.root = true)
    (hreaders : ∀ closure, graph.closure entry = .ok (.resolved closure) →
      Reader.Agree closure.sources ((closure.sources.map area.pathFor).map w.files.locate)
        reader w.files reader' w'.files)
    (hspares : write.SparesSourceMap (step.invocation entry area))
    (hspares' : write'.SparesSourceMap (step.invocation entry area))
    (h : step.run (.confined (inputs graph entry area) make clock) graph entry area reader write w =
      .ok outcome v)
    (h' : step.run (.confined (inputs graph entry area) make clock) graph entry area reader' write' w' =
      .ok outcome' v') :
    outcome = outcome' ∧
      ((∃ reason, outcome = .skipped reason ∧ graph.closure entry = .ok (.unsupported reason) ∧
          v.files = w.files ∧ v.outputs = w.outputs ∧ v'.files = w'.files ∧ v'.outputs = w'.outputs) ∨
        ∃ contents product bundle, make (step.invocation entry area) contents = .ok product ∧
          product.bundle? = some bundle ∧
          outcome = .built ⟨(step.invocation entry area).bundle,
            product.sourceMap?.map fun _ => (step.invocation entry area).sourceMap⟩ ∧
          step.Publishes (.confined (inputs graph entry area) make clock) graph entry area reader write
            (step.published (step.invocation entry area) bundle product.sourceMap?) w v ∧
          step.Publishes (.confined (inputs graph entry area) make clock) graph entry area reader' write'
            (step.published (step.invocation entry area) bundle product.sourceMap?) w' v') := by
  cases outcome with
  | skipped reason =>
    obtain ⟨hclosure, hfiles, houtputs⟩ := run_skipped h
    cases outcome' with
    | skipped reason' =>
      obtain ⟨hclosure', hfiles', houtputs'⟩ := run_skipped h'
      have hsame := hclosure'
      rw [hclosure, Except.ok.injEq, Verdict.unsupported.injEq] at hsame
      rw [hsame]
      exact ⟨rfl, .inl ⟨reason', rfl, hclosure', hfiles, houtputs, hfiles', houtputs'⟩⟩
    | built artifacts' =>
      obtain ⟨closure, _, _, _, _, _, _, _, hclosure', -⟩ := built_of_product plain' habs hspares' h'
      rw [hclosure] at hclosure'
      cases hclosure'
  | built artifacts =>
    obtain ⟨closure, staged, configured, spawned, product, bundle, d, last, hclosure, hprepared,
      hholder, hfile, hmake, hbundle, hartifacts, hpublishes⟩ := built_of_product plain habs hspares h
    cases outcome' with
    | skipped reason' =>
      rw [(run_skipped h').1] at hclosure
      cases hclosure
    | built artifacts' =>
      obtain ⟨closure', staged', configured', spawned', product', bundle', d', last', hclosure',
        hprepared', hholder', -, hmake', hbundle', hartifacts', hpublishes'⟩ :=
        built_of_product plain' habs hspares' h'
      rw [hclosure, Except.ok.injEq, Verdict.resolved.injEq] at hclosure'
      subst hclosure'
      -- both compilers have read the same, so they have made the same
      have hinputs := read_inputs_congr plain plain' habs hclosure (hreaders closure hclosure)
        hprepared hprepared' hfile hholder hholder'
      rw [← hinputs, hmake, Except.ok.injEq] at hmake'
      subst hmake'
      rw [hbundle, Option.some.injEq] at hbundle'
      subst hbundle'
      rw [hartifacts, hartifacts']
      exact ⟨rfl, .inr ⟨_, product, bundle, hmake, hbundle, rfl, hpublishes, hpublishes'⟩⟩

theorem directories_sparesSourceMap (d : AssetDirectories) (habs : Path.isAbsolute area.root = true) :
    (Writer.directories d).SparesSourceMap (step.invocation entry area) :=
  Writer.directories_sparesSourceMap d (step.placed entry habs)
    (Invocation.split_outputFile_build_getLast? ..)

end BuildStep

namespace Sample

open FileTree

def copy : Invocation → List (Except FileFault ByteArray) → Except FileFault Product :=
  fun _ contents => .ok ⟨some 0, .empty, .empty, contents.head?.bind Except.toOption, some ⟨#[77]⟩⟩

def used : FileTree :=
  ((FileTree.empty.create ["s"] .directory 0o755).create ["w.j", "s"] (.file ⟨#[3]⟩) 0o644).create
    ["w", "s"] (.file ⟨#[4]⟩) 0o644

theorem used_plain : used.Plain :=
  ((plain_empty.create (List.cons_ne_nil _ _) (by simp)).create (List.cons_ne_nil _ _)
    (by simp)).create (List.cons_ne_nil _ _) (by simp)

def sourceReader : Reader := fun _ id =>
  if id = ⟨"a", "w"⟩ then .ok ⟨#[1]⟩ else .error (.assetNotFound id)

theorem reader_agree (ids : List AssetId) (places : List Location) (t t' : FileTree) :
    Reader.Agree ids places reader t sourceReader t' := by
  intro id _ u u' _ _ content content' hread hread'
  unfold sourceReader at hread'
  split at hread'
  · cases hread
    cases hread'
    rfl
  · cases hread'

theorem outcome_in_used_area :
    ∃ v v' bundle map, step.run (.confined (BuildStep.inputs graph ⟨"a", "w"⟩ area) copy fun _ => 0) graph
          ⟨"a", "w"⟩ area reader Writer.memory { files := .empty } =
        .ok (.built ⟨⟨"a", "w.j"⟩, some ⟨"a", "w.j.map"⟩⟩) v ∧
      step.run (.confined (BuildStep.inputs graph ⟨"a", "w"⟩ area) copy fun _ => 0) graph
          ⟨"a", "w"⟩ area sourceReader (Writer.directories ⟨"/o", .empty⟩) { files := used } =
        .ok (.built ⟨⟨"a", "w.j"⟩, some ⟨"a", "w.j.map"⟩⟩) v' ∧
      (v.outputs.get? ⟨"a", "w.j"⟩ = some ("P".toUTF8 ++ bundle) ∧
        v'.files.read "/o/a/w.j" = .ok ("P".toUTF8 ++ bundle)) ∧
      v.outputs.get? ⟨"a", "w.j.map"⟩ = some map ∧ v'.files.read "/o/a/w.j.map" = .ok map := by
  have habs : Path.isAbsolute area.root = true := by decide
  have hmemory : ∃ v, step.run (.confined (BuildStep.inputs graph ⟨"a", "w"⟩ area) copy fun _ => 0)
      graph ⟨"a", "w"⟩ area reader Writer.memory { files := .empty } =
        .ok (.built ⟨⟨"a", "w.j"⟩, some ⟨"a", "w.j.map"⟩⟩) v :=
    ⟨_, Work.eq_ok_of_answer? (by decide +kernel)⟩
  have hdirectories : ∃ v, step.run (.confined (BuildStep.inputs graph ⟨"a", "w"⟩ area) copy fun _ => 0)
      graph ⟨"a", "w"⟩ area sourceReader (Writer.directories ⟨"/o", .empty⟩) { files := used } =
        .ok (.built ⟨⟨"a", "w.j"⟩, some ⟨"a", "w.j.map"⟩⟩) v :=
    ⟨_, Work.eq_ok_of_answer? (by decide +kernel)⟩
  obtain ⟨v, hrun⟩ := hmemory
  obtain ⟨v', hrun'⟩ := hdirectories
  obtain ⟨-, ⟨reason, hskipped, -⟩ | ⟨contents, product, bundle, -, -, houtcome, hpublishes, hpublishes'⟩⟩ :=
    BuildStep.outcome_independent_of_history plain_empty used_plain
      habs (fun closure _ => reader_agree _ _ _ _) (Writer.memory_sparesSourceMap _)
      (BuildStep.directories_sparesSourceMap _ habs) hrun hrun'
  · cases hskipped
  have hbundle : (step.invocation ⟨"a", "w"⟩ area).bundle = ⟨"a", "w.j"⟩ := by decide +kernel
  have hsourceMap : (step.invocation ⟨"a", "w"⟩ area).sourceMap = ⟨"a", "w.j.map"⟩ := by decide +kernel
  cases hmap : product.sourceMap? with
  | none =>
    rw [hmap] at houtcome
    cases houtcome
  | some map =>
    have hmemory := hpublishes.memory rfl
    have hfiles := hpublishes'.directories _ rfl
    unfold BuildStep.published at hmemory hfiles
    rw [hmap, hbundle, hsourceMap] at hmemory hfiles
    refine ⟨v, v', bundle, map, hrun, hrun', ⟨hmemory _, ?_⟩, hmemory _, ?_⟩
    · have hpath : AssetDirectories.outputPath ⟨"/o", .empty⟩ ⟨"a", "w.j"⟩ = "/o/a/w.j" := by decide +kernel
      rw [← hpath]
      exact hfiles (_, _) List.mem_cons_self
    · have hpath : AssetDirectories.outputPath ⟨"/o", .empty⟩ ⟨"a", "w.j.map"⟩ = "/o/a/w.j.map" := by
        decide +kernel
      rw [← hpath]
      exact hfiles (_, _) (List.mem_cons_of_mem _ List.mem_cons_self)

end Sample

end DartBundle
