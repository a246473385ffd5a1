import DartBundle.Proofs.Build.Run
/-!
This module contains which parts of a step log nothing, and which do not blame the compiler when they fail.
That is all but the verdict on what the compiler has left, and what a foreign writer may do.
-/

namespace DartBundle

def Blameless {σ α : Type} (result : EStateM.Result Error σ α) : Prop :=
  ∀ f s, result ≠ .error (.compiler f) s

namespace Blameless

variable {σ α β : Type} {x : EStateM Error σ α} {f : α → EStateM Error σ β} {s : σ} {t : FileTree}
  {w : Workspace} {result : EStateM.Result Error σ α} {e : Error}

theorem ne (blameless : Blameless result) (h : result = .error e s) : ∀ f, e ≠ .compiler f := by
  rintro f rfl
  exact blameless f s h

theorem bind (hx : Blameless (x s)) (hf : ∀ a v, x s = .ok a v → Blameless (f a v)) :
    Blameless ((x >>= f) s) := by
  intro failure u h
  rcases Work.bind_eq_error_iff.1 h with h | ⟨a, v, ha, h⟩
  · exact hx failure u h
  · exact hf a v ha failure u h

theorem ofDisk (operation : Disk α) : Blameless (FileWork.ofDisk operation t) := by
  intro failure u h
  obtain ⟨_, heq, -⟩ := FileWork.ofDisk_eq_error_iff.1 h
  cases heq

theorem whileStaging (asset : AssetId) (work : FileWork α) :
    Blameless (FileWork.whileStaging asset work t) := by
  intro failure u h
  obtain ⟨_, heq, -⟩ := FileWork.whileStaging_eq_error_iff.1 h
  cases heq

theorem onFiles {work : FileWork α} (h : Blameless (work w.files)) : Blameless (Build.onFiles work w) := by
  intro failure v hv
  obtain ⟨u, hu, -⟩ := Build.onFiles_eq_error_iff.1 hv
  exact h failure u hu

end Blameless

structure Silent {α : Type} (w : Workspace) (result : EStateM.Result Error Workspace α) : Prop where
  log : (Work.left result).log = w.log
  blameless : Blameless result

namespace Silent

variable {α β : Type} {x : Build α} {f : α → Build β} {w v : Workspace} {a : α} {e : Error}
  {result : EStateM.Result Error Workspace α}

theorem log_of_ok (silent : Silent w result) (h : result = .ok a v) : v.log = w.log := by
  subst h
  exact silent.log

theorem log_of_error (silent : Silent w result) (h : result = .error e v) : v.log = w.log := by
  subst h
  exact silent.log

theorem bind (hx : Silent w (x w)) (hf : ∀ a v, x w = .ok a v → Silent v (f a v)) :
    Silent w ((x >>= f) w) := by
  refine ⟨?_, hx.blameless.bind fun a v ha => (hf a v ha).blameless⟩
  cases ha : x w with
  | ok a v =>
    rw [Work.bind_of_ok ha, (hf a v ha).log]
    exact hx.log_of_ok ha
  | error e v =>
    rw [Work.bind_of_error ha]
    exact hx.log_of_error ha

theorem onFiles {work : FileWork α} (h : Blameless (work w.files)) : Silent w (Build.onFiles work w) := by
  refine ⟨?_, h.onFiles⟩
  unfold Build.onFiles
  cases work w.files <;> rfl

theorem pure : Silent w ((Pure.pure a : Build α) w) :=
  ⟨rfl, nofun⟩

end Silent

namespace Writer

def Quiet (write : Writer) : Prop :=
  ∀ id content w, Silent w (write id content w)

theorem memory_quiet : memory.Quiet := by
  intro id content w
  exact ⟨rfl, nofun⟩

theorem directories_quiet (d : AssetDirectories) : (directories d).Quiet := by
  intro id content w
  apply Silent.onFiles
  refine .bind ?_ fun _ _ _ => .ofDisk _
  -- the one error that the tree does not raise is that of an id that is not valid
  intro failure u h
  obtain ⟨fault, -, hfault, -⟩ := FileWork.mapError_eq_error_iff.1 h
  cases hfault

end Writer

namespace StagingArea

variable {area : StagingArea} {write : Writer} {w : Workspace}

theorem copyOutput_silent (quiet : write.Quiet) (id : AssetId) :
    Silent w (area.copyOutput id write w) :=
  .bind (.onFiles (.ofDisk _)) fun content v _ => quiet id content v

theorem publish_silent (quiet : write.Quiet) (i : Invocation) : Silent w (area.publish i write w) := by
  refine .bind (copyOutput_silent quiet i.bundle) fun _ v _ => .bind ?_ fun _ _ _ => .pure
  unfold copyOutputIfPresent
  rw [Work.get_bind]
  split
  · exact .bind (copyOutput_silent quiet i.sourceMap) fun _ _ _ => .pure
  · exact .pure

theorem stageAll_blameless (area : StagingArea) (reader : Reader) (ids : List AssetId) (t : FileTree) :
    Blameless (area.stageAll reader ids t) := by
  induction ids generalizing t with
  | nil => nofun
  | cons id rest ih => exact .bind (.whileStaging _ _) fun _ v _ => .bind (ih v) fun _ _ _ => nofun

end StagingArea

theorem injectPreamble_blameless (path preamble : String) (t : FileTree) :
    Blameless (injectPreamble path preamble t) :=
  .ofDisk _

namespace BuildStep

theorem prepare_blameless (step : BuildStep) (graph : ModuleGraph) (entry : AssetId)
    (area : StagingArea) (reader : Reader) (t : FileTree) :
    Blameless (step.prepare graph entry area reader t) := by
  refine .bind ?_ fun verdict v _ => ?_
  · intro failure u h
    obtain ⟨hclosure, -⟩ := FileWork.ofExcept_eq_error_iff.1 h
    obtain ⟨missing, requiredBy, heq⟩ := ModuleGraph.closure_error hclosure
    cases heq
  · cases verdict with
    | unsupported reason => nofun
    | resolved closure =>
      refine .bind (.bind (area.stageAll_blameless reader _ v) fun _ staged _ => ?_) fun _ _ _ => nofun
      refine .bind (.bind (.whileStaging _ _) fun _ _ _ => nofun) fun path configured _ => ?_
      exact .bind (.ofDisk _) fun _ _ _ => nofun

end BuildStep

end DartBundle
