import DartBundle.Proofs.Compiler.Invocation
import DartBundle.Proofs.Staging.Area
/-!
This module contains what two trees have in common when the same sources have been staged in both. What
was there before makes no difference to what can be read on the staged paths, and neither does clearing
the way for the compiler, although a source may lie where the bundle has to go.
-/

namespace DartBundle

namespace FileTree

variable {t u t' u' : FileTree} {path other : String} {content : ByteArray}

def Agree (t t' : FileTree) (path : String) : Prop :=
  ∃ content, t.read path = .ok content ∧ t'.read path = .ok content

theorem Writes.agree (h : Writes path content t u) (h' : Writes path content t' u') :
    Agree u u' path :=
  ⟨content, h.read, h'.read⟩

theorem Writes.agree_other (h : Writes path content t u) (h' : Writes path content t' u')
    (plain : t.Plain) (plain' : t'.Plain) (habs : Path.isAbsolute path = true)
    (hother : Path.isAbsolute other = true) (hagree : Agree t t' other) : Agree u u' other := by
  obtain ⟨old, hread, hread'⟩ := hagree
  -- paths from the root on that lead to one place do so in every tree
  have hplace : t'.locate other = t'.locate path ↔ t.locate other = t.locate path := by
    rw [locate_of_absolute (t := t') (u := t) hother, locate_of_absolute (t := t') (u := t) habs]
  refine ⟨if t.locate other = t.locate path then content else old, h.read_other plain hread, ?_⟩
  have hnew := h'.read_other plain' hread'
  simp only [hplace] at hnew
  exact hnew

end FileTree

open FileTree

/--
Whether two readers give the same bytes for some assets whenever both give any. Each reader is asked in
a tree of its own, which may have changed at some places in the meantime.
-/
def Reader.Agree (ids : List AssetId) (places : List Location) (reader : Reader) (t : FileTree)
    (reader' : Reader) (t' : FileTree) : Prop :=
  ∀ id ∈ ids, ∀ u u', ConfinedTo places t u → ConfinedTo places t' u' →
    ∀ content content', reader u id = .ok content → reader' u' id = .ok content' → content = content'

theorem Reader.Agree.tail {id : AssetId} {ids : List AssetId} {places : List Location}
    {reader reader' : Reader} {t u t' u' : FileTree}
    (h : Reader.Agree (id :: ids) places reader t reader' t') (hu : ConfinedTo places t u)
    (hu' : ConfinedTo places t' u') : Reader.Agree ids places reader u reader' u' :=
  fun other hother v v' hv hv' =>
    h other (List.mem_cons_of_mem _ hother) v v' (hu.trans hv) (hu'.trans hv')

namespace StagingArea

variable {area : StagingArea} {reader reader' : Reader} {t u t' u' : FileTree} {ids : List AssetId}
  {places : List Location} {count count' : Nat}

theorem stageAll_cons_ok {id : AssetId} (h : area.stageAll reader (id :: ids) t = .ok count u) :
    ∃ written v others, area.stage reader id t = .ok written v ∧
      area.stageAll reader ids v = .ok others u := by
  obtain ⟨written, v, others, hstage, hrest, -⟩ := stageAll_cons_eq_ok_iff.1 h
  exact ⟨written, v, others, hstage, hrest⟩

theorem stageAll_agree (plain : t.Plain) (plain' : t'.Plain)
    (habs : Path.isAbsolute area.root = true)
    (hplaces : (ids.map area.pathFor).map t.locate ⊆ places)
    (hreaders : Reader.Agree ids places reader t reader' t')
    (h : area.stageAll reader ids t = .ok count u)
    (h' : area.stageAll reader' ids t' = .ok count' u') {path : String}
    (hpath : Path.isAbsolute path = true)
    (hagree : path ∈ ids.map area.pathFor ∨ FileTree.Agree t t' path) : FileTree.Agree u u' path := by
  -- what the trees agree on is not lost when another source is staged, even in the same place
  induction ids generalizing t t' count count' with
  | nil =>
    cases h
    cases h'
    exact hagree.resolve_left List.not_mem_nil
  | cons id rest ih =>
    obtain ⟨_, v, others, hstage, hrest⟩ := stageAll_cons_ok h
    obtain ⟨_, v', others', hstage', hrest'⟩ := stageAll_cons_ok h'
    obtain ⟨content, hread, hwrites⟩ := stage_ok plain hstage
    obtain ⟨content', hread', hwrites'⟩ := stage_ok plain' hstage'
    have hsame : content = content' := hreaders id List.mem_cons_self t t' (.refl _ _) (.refl _ _)
      content content' hread hread'
    subst hsame
    have hid : Path.isAbsolute (area.pathFor id) = true := Path.isAbsolute_resolve _ habs
    have hplace : t.locate (area.pathFor id) ∈ places := hplaces (by simp)
    have hplace' : t'.locate (area.pathFor id) ∈ places := by
      rw [locate_of_absolute (t := t') (u := t) hid]
      exact hplace
    have hmoved := hwrites.confined.mono_singleton hplace
    have hmoved' := hwrites'.confined.mono_singleton hplace'
    refine ih (hmoved.plain plain) (hmoved'.plain plain') ?_ (hreaders.tail hmoved hmoved') hrest
      hrest' ?_
    · rw [hmoved.toKeeps.map_locate]
      exact fun l hl => hplaces (List.mem_cons_of_mem _ hl)
    · rcases hagree with hmem | hagree
      · rcases List.mem_cons.1 hmem with rfl | hmem
        · exact .inr (hwrites.agree hwrites')
        · exact .inl hmem
      · exact .inr (hwrites.agree_other hwrites' plain plain' hid hpath hagree)

theorem writePackageConfig_agree {closure : Closure} {relative relative' path : String}
    (plain : t.Plain) (plain' : t'.Plain) (habs : Path.isAbsolute area.root = true)
    (h : area.writePackageConfig closure t = .ok relative u)
    (h' : area.writePackageConfig closure t' = .ok relative' u')
    (hpath : Path.isAbsolute path = true)
    (hagree : path = area.resolve (PackageConfig.path closure.entry) ∨ FileTree.Agree t t' path) :
    FileTree.Agree u u' path := by
  have hwrites := writePackageConfig_ok plain h
  have hwrites' := writePackageConfig_ok plain' h'
  rw [writePackageConfig_path h] at hwrites
  rw [writePackageConfig_path h'] at hwrites'
  rcases hagree with heq | hagree
  · rw [heq]
    exact hwrites.agree hwrites'
  · exact hwrites.agree_other hwrites' plain plain' (Path.isAbsolute_resolve _ habs) hpath hagree

end StagingArea

namespace Invocation

variable {i : Invocation} {t u t' u' : FileTree} {path : String} {content : ByteArray}
  {d : Location} {last : String}

theorem clearStale_read (plain : t.Plain) (placed : i.Placed)
    (hfile : Path.namesDirectory i.outputFile = false) (h : i.clearStale t = .ok () u)
    (hholder : t.holder i.outputFile = .ok (d, last))
    (hpath : Path.isAbsolute path = true) (hread : t.read path = .ok content) :
    u.read path =
      if t.locate path ∈ [t.locate i.outputFile, t.locate i.sourceMapFile] then .error .notFound
      else .ok content := by
  obtain ⟨hconfined, hclears, -, hgone, hgoneMap⟩ := clearStale_ok plain placed h
  have plain' := hconfined.plain plain
  split
  · next hmem =>
    apply hclears.read_eq_notFound plain plain' hpath hread
    rcases List.mem_cons.1 hmem with heq | hmem
    · rw [heq]
      exact hgone _ hholder
    · rw [List.mem_singleton.1 hmem]
      exact hgoneMap _ (clearStale_holder plain placed hfile h hholder)
  · next hmem => exact hconfined.read plain hmem hread

theorem clearStale_read_congr (plain : t.Plain) (plain' : t'.Plain) (placed : i.Placed)
    (hfile : Path.namesDirectory i.outputFile = false)
    (h : i.clearStale t = .ok () u) (h' : i.clearStale t' = .ok () u') {found : Location × String}
    (hholder : t.holder i.outputFile = .ok (d, last)) (hholder' : t'.holder i.outputFile = .ok found)
    (hpath : Path.isAbsolute path = true) (hagree : FileTree.Agree t t' path) :
    u.read path = u'.read path := by
  obtain ⟨content, hread, hread'⟩ := hagree
  rw [clearStale_read plain placed hfile h hholder hpath hread,
    clearStale_read plain' placed hfile h' hholder' hpath hread',
    locate_of_absolute (t := t) (u := t') hpath,
    locate_of_absolute (t := t) (u := t') placed.bundle,
    locate_of_absolute (t := t) (u := t') placed.sourceMap]

end Invocation

end DartBundle
