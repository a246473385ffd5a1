import DartBundle.Build.Workspace
/-!
This module contains what can be said about work that may fail from how it has ended: each step of it
has ended before, and left a state that the next one starts from.
-/

namespace DartBundle

theorem eq_ok_of_toOption {ε α : Type} {x : Except ε α} {a : α} (h : x.toOption = some a) :
    x = .ok a := by
  cases x with
  | error e => cases h
  | ok found =>
    cases h
    rfl

namespace Work

variable {ε σ α β : Type} {x : EStateM ε σ α} {f : α → EStateM ε σ β} {s u : σ} {b : β} {e : ε}

theorem bind_eq_ok_iff :
    (x >>= f) s = .ok b u ↔ ∃ a v, x s = .ok a v ∧ f a v = .ok b u := by
  change EStateM.bind x f s = _ ↔ _
  unfold EStateM.bind
  cases x s with
  | ok a v =>
    constructor
    · intro h
      exact ⟨a, v, rfl, h⟩
    · rintro ⟨_, _, h, hf⟩
      cases h
      exact hf
  | error e v => simp

theorem bind_eq_error_iff :
    (x >>= f) s = .error e u ↔
      x s = .error e u ∨ ∃ a v, x s = .ok a v ∧ f a v = .error e u := by
  change EStateM.bind x f s = _ ↔ _
  unfold EStateM.bind
  cases x s with
  | ok a v =>
    constructor
    · intro h
      exact .inr ⟨a, v, rfl, h⟩
    · rintro (h | ⟨_, _, h, hf⟩)
      · cases h
      · cases h
        exact hf
  | error e v => simp

theorem bind_of_ok {a : α} (h : x s = .ok a u) : (x >>= f) s = f a u := by
  change EStateM.bind x f s = _
  unfold EStateM.bind
  rw [h]

theorem bind_of_error (h : x s = .error e u) : (x >>= f) s = .error e u := by
  change EStateM.bind x f s = _
  unfold EStateM.bind
  rw [h]

theorem bind_congr {y : EStateM ε σ α} (h : x s = y s) : (x >>= f) s = (y >>= f) s := by
  change EStateM.bind x f s = EStateM.bind y f s
  unfold EStateM.bind
  rw [h]

theorem bind_bind {γ : Type} {g : β → EStateM ε σ γ} :
    ((x >>= f) >>= g) s = (x >>= fun a => f a >>= g) s := by
  rw [bind_assoc]

theorem get_bind {f : σ → EStateM ε σ β} : (get >>= f) s = f s s := rfl

theorem throw_bind : (throw e >>= f) s = .error e s := rfl

theorem throw_run : (throw e : EStateM ε σ α) s = .error e s := rfl

theorem pure_run {a : α} : (pure a : EStateM ε σ α) s = .ok a s := rfl

theorem set_run {v : σ} : (set v : EStateM ε σ PUnit) s = .ok ⟨⟩ v := rfl

def left : EStateM.Result ε σ α → σ
  | .ok _ s => s
  | .error _ s => s

@[simp]
theorem left_ok {a : α} : left (.ok a s : EStateM.Result ε σ α) = s := rfl

@[simp]
theorem left_error : left (.error e s : EStateM.Result ε σ α) = s := rfl

def answer? : EStateM.Result ε σ α → Option α
  | .ok a _ => some a
  | .error _ _ => none

theorem eq_ok_of_answer? {result : EStateM.Result ε σ α} {a : α} (h : answer? result = some a) :
    result = .ok a (left result) := by
  cases result with
  | ok other s =>
    cases h
    rfl
  | error e s => cases h

theorem exists_error_of_answer? {result : EStateM.Result ε σ α} (h : answer? result = none) :
    ∃ e, result = .error e (left result) := by
  cases result with
  | ok a s => cases h
  | error e s => exact ⟨e, rfl⟩

@[simp]
theorem left_ite {c : Prop} [Decidable c] {a : α} :
    left (if c then .ok a s else .error e s : EStateM.Result ε σ α) = s := by
  split <;> rfl

end Work

namespace FileWork

variable {α : Type} {t u : FileTree} {a : α} {e : Error} {asset : AssetId}

theorem ofDisk_eq_ok_iff {operation : Disk α} :
    ofDisk operation t = .ok a u ↔ operation t = .ok a u := by
  unfold ofDisk
  cases operation t <;> simp

theorem ofDisk_eq_error_iff {operation : Disk α} :
    ofDisk operation t = .error e u ↔ ∃ fault, e = .file fault ∧ operation t = .error fault u := by
  unfold ofDisk
  cases operation t with
  | ok _ _ => simp
  | error fault v =>
    constructor
    · intro h
      cases h
      exact ⟨fault, rfl, rfl⟩
    · rintro ⟨_, rfl, h⟩
      cases h
      rfl

theorem ofExcept_eq_ok_iff {result : Except Error α} :
    ofExcept result t = .ok a u ↔ result = .ok a ∧ t = u := by
  unfold ofExcept
  cases result <;> simp

theorem ofExcept_eq_error_iff {result : Except Error α} :
    ofExcept result t = .error e u ↔ result = .error e ∧ t = u := by
  unfold ofExcept
  cases result <;> simp

theorem mapError_eq_ok_iff {ε : Type} {result : Except ε α} {put : ε → Error} :
    ofExcept (result.mapError put) t = .ok a u ↔ result = .ok a ∧ t = u := by
  rw [ofExcept_eq_ok_iff]
  cases result with
  | ok _ =>
    constructor
    · rintro ⟨h, rfl⟩
      cases h
      exact ⟨rfl, rfl⟩
    · rintro ⟨h, rfl⟩
      cases h
      exact ⟨rfl, rfl⟩
  | error fault =>
    constructor
    · rintro ⟨h, -⟩
      cases h
    · rintro ⟨h, -⟩
      cases h

theorem mapError_eq_error_iff {ε : Type} {result : Except ε α} {put : ε → Error} :
    ofExcept (result.mapError put) t = .error e u ↔ ∃ fault, result = .error fault ∧ e = put fault ∧ t = u := by
  rw [ofExcept_eq_error_iff]
  cases result with
  | ok _ =>
    constructor
    · rintro ⟨h, -⟩
      cases h
    · rintro ⟨_, h, -⟩
      cases h
  | error fault =>
    constructor
    · rintro ⟨h, rfl⟩
      cases h
      exact ⟨fault, rfl, rfl, rfl⟩
    · rintro ⟨_, h, rfl, rfl⟩
      cases h
      exact ⟨rfl, rfl⟩

theorem whileStaging_eq_ok_iff {work : FileWork α} :
    whileStaging asset work t = .ok a u ↔ work t = .ok a u := by
  unfold whileStaging
  cases work t <;> simp

theorem whileStaging_eq_error_iff {work : FileWork α} :
    whileStaging asset work t = .error e u ↔
      ∃ cause, e = .staging asset cause ∧ work t = .error cause u := by
  unfold whileStaging
  cases work t with
  | ok _ _ => simp
  | error cause v =>
    constructor
    · intro h
      cases h
      exact ⟨cause, rfl, rfl⟩
    · rintro ⟨_, rfl, h⟩
      cases h
      rfl

end FileWork

namespace Build

variable {α : Type} {w v : Workspace} {a : α} {e : Error}

theorem onFiles_eq_ok_iff {work : FileWork α} :
    onFiles work w = .ok a v ↔ ∃ t, work w.files = .ok a t ∧ { w with files := t } = v := by
  unfold onFiles
  cases work w.files with
  | ok b t =>
    constructor
    · intro h
      cases h
      exact ⟨t, rfl, rfl⟩
    · rintro ⟨_, h, rfl⟩
      cases h
      rfl
  | error _ _ => simp

theorem onFiles_eq_error_iff {work : FileWork α} :
    onFiles work w = .error e v ↔ ∃ t, work w.files = .error e t ∧ { w with files := t } = v := by
  unfold onFiles
  cases work w.files with
  | ok _ _ => simp
  | error _ t =>
    constructor
    · intro h
      cases h
      exact ⟨t, rfl, rfl⟩
    · rintro ⟨_, h, rfl⟩
      cases h
      rfl

theorem onFiles_of_ok {work : FileWork α} {t u : FileTree} (h : work t = .ok a u)
    (hw : w.files = t) : onFiles work w = .ok a { w with files := u } := by
  subst hw
  exact onFiles_eq_ok_iff.2 ⟨u, h, rfl⟩

theorem onFiles_of_error {work : FileWork α} {t u : FileTree} (h : work t = .error e u)
    (hw : w.files = t) : onFiles work w = .error e { w with files := u } := by
  subst hw
  exact onFiles_eq_error_iff.2 ⟨u, h, rfl⟩

theorem log_run (event : Event) : log event w = .ok () { w with log := w.log ++ [event] } := rfl

end Build

end DartBundle
