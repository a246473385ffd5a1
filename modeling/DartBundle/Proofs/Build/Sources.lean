import DartBundle.Proofs.Build.Publication
import DartBundle.Proofs.Staging.Faithful
/-!
This module contains which sources are in place when the compiler is started. All of them have been
staged by then, but the package config has been written after them, and the bundle and the source map of
an earlier run have been removed: a source in one of these places is lost.
-/

namespace DartBundle

namespace FileTree

variable {t u : FileTree} {path other : String}

/--
Whether a path leads to the place of another one. It leads nowhere if a directory on the way is missing.
-/
def LeadsTo (t : FileTree) (path other : String) : Prop :=
  (t.follow path true).toOption = some (t.locate other)

instance : Decidable (t.LeadsTo path other) :=
  inferInstanceAs (Decidable (_ = _))

theorem leadsTo_iff : t.LeadsTo path other ↔ t.follow path true = .ok (t.locate other) := by
  unfold LeadsTo
  constructor
  · exact eq_ok_of_toOption
  · intro h
    rw [h]
    rfl

theorem Keeps.leadsTo (h : Keeps t u) (plain : t.Plain) (plain' : u.Plain)
    (hleads : t.LeadsTo path other) : u.LeadsTo path other := by
  rw [leadsTo_iff] at hleads ⊢
  rw [h.locate]
  exact h.follow plain plain' hleads

theorem Clears.leadsTo_iff (h : Clears t u) (plain : t.Plain) (plain' : u.Plain) :
    u.LeadsTo path other ↔ t.LeadsTo path other :=
  ⟨h.back.leadsTo plain' plain, h.toKeeps.leadsTo plain plain'⟩

theorem Clears.read (h : Clears t u) (plain : t.Plain) (plain' : u.Plain) {content : ByteArray}
    (hread : u.read path = .ok content) : t.read path = .ok content := by
  obtain ⟨l, e, hat, hreadable, hkind⟩ := read_eq_ok_iff.1 hread
  have hat' := h.back.fileAt plain' plain hat (h.old hat.get?) hat.isFile
  exact read_eq_ok_iff.2 ⟨l, e, hat', hreadable, hkind⟩

end FileTree

open FileTree

namespace Invocation

variable {t u : FileTree} {path other : String} {content : ByteArray} {i : Invocation}

theorem removeIfPresent_of_holder_error {fault : FileFault} (hholder : t.holder path = .error fault)
    (h : removeIfPresent path t = .ok () u) : t = u := by
  obtain rfl := removeIfPresent_holder h hholder
  unfold removeIfPresent at h
  rw [Disk.remove_of_holder_error hholder] at h
  cases h
  rfl

theorem removeIfPresent_read_iff (plain : t.Plain) (habs : Path.isAbsolute path = true)
    (h : removeIfPresent path t = .ok () u) :
    u.read other = .ok content ↔ t.read other = .ok content ∧ ¬ t.LeadsTo path other := by
  obtain ⟨hconfined, hclears, -, hgone⟩ := removeIfPresent_ok plain habs h
  have plain' := hconfined.plain plain
  constructor
  · intro hread
    refine ⟨hclears.read plain plain' hread, ?_⟩
    intro hleads
    rw [leadsTo_iff] at hleads
    obtain ⟨d, last, hholder⟩ := holder_of_follow plain habs hleads
    have hempty := hgone _ hholder
    obtain ⟨l, e, hat, -⟩ := read_eq_ok_iff.1 hread
    have hplace : t.locate path = l := by
      rw [locate_eq plain hleads, ← hclears.toKeeps.locate, locate_eq plain' hat.follow]
    rw [hplace, hat.get?] at hempty
    cases hempty
  · rintro ⟨hread, hleads⟩
    cases hholder : t.holder path with
    | error fault =>
      obtain rfl := removeIfPresent_of_holder_error hholder h
      exact hread
    | ok found =>
      have hfollow := follow_of_holder (b := true) plain hholder
      apply hconfined.read plain _ hread
      rw [List.mem_singleton]
      intro hplace
      apply hleads
      rw [leadsTo_iff, hplace, locate_eq plain hfollow]
      exact hfollow

theorem clearStale_read_iff (plain : t.Plain) (placed : i.Placed) (h : i.clearStale t = .ok () u) :
    u.read other = .ok content ↔
      t.read other = .ok content ∧ ¬ u.LeadsTo i.outputFile other ∧
        ¬ u.LeadsTo i.sourceMapFile other := by
  obtain ⟨_, v, hfirst, hsecond⟩ := Work.bind_eq_ok_iff.1 (FileWork.ofDisk_eq_ok_iff.1 h)
  obtain ⟨hconfined, hclears, -⟩ := removeIfPresent_ok plain placed.bundle hfirst
  have plain' := hconfined.plain plain
  obtain ⟨hconfined', hclears', -⟩ := removeIfPresent_ok plain' placed.sourceMap hsecond
  have plain'' := hconfined'.plain plain'
  -- taking files away changes no directory, so the paths lead where they have led before
  rw [(hclears.trans hclears').leadsTo_iff plain plain'', hclears'.leadsTo_iff plain' plain'',
    removeIfPresent_read_iff plain' placed.sourceMap hsecond,
    removeIfPresent_read_iff plain placed.bundle hfirst, and_assoc]

end Invocation

namespace BuildStep

open ModuleGraph (entry_mem_sources)

variable {step : BuildStep} {graph : ModuleGraph} {entry : AssetId} {area : StagingArea}
  {reader : Reader} {t spawned : FileTree} {closure : Closure} {i : Invocation}

theorem Prepared.read_source_iff {staged configured : FileTree} {source : String}
    {content : ByteArray} (h : Prepared step entry area reader closure t staged configured spawned)
    (plain : t.Plain) (habs : Path.isAbsolute area.root = true)
    (hread : staged.read source = .ok content) :
    spawned.read source = .ok content ↔
      (t.locate source = t.locate (area.resolve (PackageConfig.path entry)) →
          (PackageConfig.ofClosure closure).render.toUTF8 = content) ∧
        ¬ spawned.LeadsTo (step.invocation entry area).outputFile source ∧
          ¬ spawned.LeadsTo (step.invocation entry area).sourceMapFile source := by
  obtain ⟨plainStaged, plainConfigured⟩ := h.plain plain
  obtain ⟨count, hsources⟩ := h.sources
  have hkeeps := (StagingArea.keeps_of_stageAll plain hsources).1
  have hwrites := StagingArea.writePackageConfig_ok plainStaged h.config
  rw [Invocation.clearStale_read_iff plainConfigured (step.placed entry habs) h.cleared]
  apply and_congr_left'
  rw [hwrites.read_other plainStaged hread, hkeeps.locate, hkeeps.locate, Except.ok.injEq]
  split
  · next hplace => simp [hplace]
  · next hplace => simp [hplace]

theorem source_in_place_iff (plain : t.Plain) (habs : Path.isAbsolute area.root = true)
    (hclosure : graph.closure entry = .ok (.resolved closure))
    (hapart : closure.sources.Pairwise fun a b =>
      t.locate (area.pathFor a) ≠ t.locate (area.pathFor b))
    (h : step.prepare graph entry area reader t = .ok (.ready i) spawned) :
    i = step.invocation entry area ∧ entry ∈ closure.sources ∧
      (area.given reader closure.sources t).map Prod.fst = closure.sources ∧
      ∀ a ∈ area.given reader closure.sources t,
        spawned.read (area.pathFor a.1) = .ok a.2 ↔
          (t.locate (area.pathFor a.1) = t.locate (area.resolve (PackageConfig.path entry)) →
              (PackageConfig.ofClosure closure).render.toUTF8 = a.2) ∧
            ¬ spawned.LeadsTo i.outputFile (area.pathFor a.1) ∧
              ¬ spawned.LeadsTo i.sourceMapFile (area.pathFor a.1) := by
  obtain ⟨rfl, closure', staged, configured, hclosure', hprepared⟩ := prepare_ready h
  rw [hclosure, Except.ok.injEq, Verdict.resolved.injEq] at hclosure'
  subst hclosure'
  obtain ⟨count, hsources⟩ := hprepared.sources
  have hids := StagingArea.map_fst_given plain hsources
  refine ⟨rfl, entry_mem_sources hclosure, hids, ?_⟩
  have huncontested : area.Uncontested (area.given reader closure.sources t) t := by
    rw [← hids, List.pairwise_map] at hapart
    exact StagingArea.uncontested_of_pairwise hapart
  have hholds := StagingArea.holds_of_uncontested plain hsources huncontested
  intro a ha
  exact hprepared.read_source_iff plain habs (hholds a ha)

end BuildStep

namespace Sample

open StagingArea

theorem library_in_place :
    ∃ i spawned, step.prepare (paired ⟨"b", "lib/w"⟩) ⟨"a", "w"⟩ area packageReader .empty =
        .ok (.ready i) spawned ∧
      spawned.read "/s/w" = .ok ⟨#[1]⟩ ∧ spawned.read "/s/packages/b/w" = .ok ⟨#[2]⟩ := by
  have habs : Path.isAbsolute area.root = true := by decide
  have hclosure : (paired ⟨"b", "lib/w"⟩).closure ⟨"a", "w"⟩ =
      .ok (.resolved (pairedClosure ⟨"b", "lib/w"⟩)) :=
    eq_ok_of_toOption (by decide +kernel)
  have hapart : (pairedClosure ⟨"b", "lib/w"⟩).sources.Pairwise fun a b =>
      FileTree.empty.locate (area.pathFor a) ≠ FileTree.empty.locate (area.pathFor b) := by
    decide +kernel
  have hspawned : ∃ spawned, step.prepare (paired ⟨"b", "lib/w"⟩) ⟨"a", "w"⟩ area packageReader .empty =
        .ok (.ready (step.invocation ⟨"a", "w"⟩ area)) spawned ∧
      ∀ id ∈ (pairedClosure ⟨"b", "lib/w"⟩).sources,
        FileTree.empty.locate (area.pathFor id) ≠
            FileTree.empty.locate (area.resolve (PackageConfig.path ⟨"a", "w"⟩)) ∧
          ¬ spawned.LeadsTo (step.invocation ⟨"a", "w"⟩ area).outputFile (area.pathFor id) ∧
            ¬ spawned.LeadsTo (step.invocation ⟨"a", "w"⟩ area).sourceMapFile (area.pathFor id) :=
    ⟨_, Work.eq_ok_of_answer? (by decide +kernel), by decide +kernel⟩
  obtain ⟨spawned, hready, hfree⟩ := hspawned
  obtain ⟨-, -, hids, hplaces⟩ :=
    BuildStep.source_in_place_iff plain_empty habs hclosure hapart hready
  refine ⟨_, spawned, hready, read_of_holds_paired_library ?_⟩
  intro a ha
  have hid : a.1 ∈ (pairedClosure ⟨"b", "lib/w"⟩).sources := by
    rw [← hids]
    exact List.mem_map_of_mem ha
  obtain ⟨hconfig, hends⟩ := hfree a.1 hid
  exact (hplaces a ha).2 ⟨fun hplace => absurd hplace hconfig, hends⟩

theorem source_named_like_bundle_removed :
    (paired ⟨"a", "w.j"⟩).closure ⟨"a", "w"⟩ =
        .ok (.resolved (pairedClosure ⟨"a", "w.j"⟩)) ∧
      ((pairedClosure ⟨"a", "w.j"⟩).sources.Pairwise fun a b =>
        FileTree.empty.locate (area.pathFor a) ≠ FileTree.empty.locate (area.pathFor b)) ∧
      ⟨"a", "w.j"⟩ ∈ (pairedClosure ⟨"a", "w.j"⟩).sources ∧
      ∃ i spawned, step.prepare (paired ⟨"a", "w.j"⟩) ⟨"a", "w"⟩ area packageReader .empty =
          .ok (.ready i) spawned ∧
        spawned.isFile (area.pathFor ⟨"a", "w.j"⟩) = false := by
  have hspawned : ∃ spawned, step.prepare (paired ⟨"a", "w.j"⟩) ⟨"a", "w"⟩ area packageReader .empty =
        .ok (.ready (step.invocation ⟨"a", "w"⟩ area)) spawned ∧
      spawned.isFile (area.pathFor ⟨"a", "w.j"⟩) = false :=
    ⟨_, Work.eq_ok_of_answer? (by decide +kernel), by decide +kernel⟩
  refine ⟨eq_ok_of_toOption ?_, ?_, ?_, _, hspawned⟩
  · decide +kernel
  · decide +kernel
  · decide +kernel

end Sample

end DartBundle
