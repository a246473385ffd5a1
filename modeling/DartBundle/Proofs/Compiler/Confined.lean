import DartBundle.Compiler.Completion
import DartBundle.Proofs.Compiler.Invocation
/-!
This module contains compilers that see nothing of a file tree but what can be read at given paths, and
that write nothing but the bundle and the source map, and what such a compiler leaves in a tree in which
neither has been there.
-/

namespace DartBundle

namespace FileTree

variable {t u : FileTree} {l d : Location} {path last : String} {content : ByteArray}
  {content? map? : Option ByteArray}

def leave (t : FileTree) (path : String) (content? : Option ByteArray) : FileTree :=
  match content?, t.holder path with
  | some content, .ok (d, last) =>
    if last = "." || last = ".." || Path.namesDirectory path || !t.mayChange d ||
        t.kind? (last :: d) = some .directory then t
    else t.create (last :: d) (.file content) 0o644
  | _, _ => t

theorem leave_none (t : FileTree) (path : String) : t.leave path none = t := rfl

theorem leave_cases (t : FileTree) (path : String) (content? : Option ByteArray) :
    t.leave path content? = t ∨
      ∃ content d last, content? = some content ∧ t.holder path = .ok (d, last) ∧ last ≠ "." ∧
        last ≠ ".." ∧ t.mayChange d = true ∧ t.kind? (last :: d) ≠ some .directory ∧
          t.leave path content? = t.create (last :: d) (.file content) 0o644 := by
  unfold leave
  cases content? with
  | none => exact .inl rfl
  | some content =>
    cases hholder : t.holder path with
    | error fault => exact .inl rfl
    | ok found =>
      dsimp only
      split
      · exact .inl rfl
      · next h =>
        simp only [Bool.or_eq_true, decide_eq_true_eq, Bool.not_eq_true', not_or,
          Bool.not_eq_false] at h
        obtain ⟨⟨⟨⟨hdot, hup⟩, -⟩, hchange⟩, hdir⟩ := h
        exact .inr ⟨content, found.1, found.2, rfl, rfl, hdot, hup, hchange, hdir, rfl⟩

theorem leave_eq_create (hholder : t.holder path = .ok (d, last)) (hdot : last ≠ ".")
    (hup : last ≠ "..") (hname : Path.namesDirectory path = false) (hchange : t.mayChange d = true)
    (hdir : t.kind? (last :: d) ≠ some .directory) :
    t.leave path (some content) = t.create (last :: d) (.file content) 0o644 := by
  unfold leave
  rw [hholder]
  dsimp only
  rw [if_neg]
  simp [hdot, hup, hname, hchange, hdir]

theorem keeps_of_create {mode : Nat} (hl : l ≠ []) (hgone : isGone l = false) :
    Keeps (t.create l (.file content) mode) t where
  current := (current_create ..).symm
  directory := by
    intro other e hother hdir
    rw [get?_create _ _ _ _ _ hl] at hother
    split at hother
    · cases hother
      cases hdir
    · exact hother
  gone := by
    intro other hother
    rw [get?_create _ _ _ _ _ hl, if_neg]
    rintro rfl
    rw [hgone] at hother
    cases hother

theorem leave_confined (plain : t.Plain) (path : String) (content? : Option ByteArray) :
    ConfinedTo [t.locate path] t (t.leave path content?) ∧ Keeps (t.leave path content?) t := by
  rcases leave_cases t path content? with
    hsame | ⟨content, d, last, -, hholder, hdot, hup, -, hdir, hcreate⟩
  · rw [hsame]
    exact ⟨.refl _ _, .refl _⟩
  · have hgone := isGone_of_holder plain hholder hdot
    rw [hcreate, locate_of_name plain hholder hdot hup]
    exact ⟨confinedTo_create (List.cons_ne_nil _ _) hdir hgone fun _ => nofun,
      keeps_of_create (List.cons_ne_nil _ _) hgone⟩

theorem leave_bundle (plain : t.Plain) (habs : Path.isAbsolute path = true)
    (hmiss : t.find path true = .error .notFound)
    (hread : ((t.leave path content?).leave (path ++ ".map") map?).read path = .ok content) :
    content? = some content ∧ ∃ d last, t.holder path = .ok (d, last) ∧ last ≠ "." ∧ last ≠ ".." ∧
      Path.namesDirectory path = false ∧ t.mayChange d = true ∧
        t.leave path content? = t.create (last :: d) (.file content) 0o644 := by
  obtain ⟨hfirst, hback⟩ := leave_confined plain path content?
  have plain' := hfirst.plain plain
  obtain ⟨hsecond, hback'⟩ := leave_confined plain' (path ++ ".map") map?
  have plain'' := hsecond.plain plain'
  obtain ⟨l, e, hat, -, hkind⟩ := read_eq_ok_iff.1 hread
  have hfollow := (hback'.trans hback).follow (c := true) plain'' plain hat.follow
  have hnone : t.get? l = none := by
    cases hget : t.get? l with
    | none => rfl
    | some e' =>
      have hfound : t.find path true = .ok (l, e') :=
        find_eq_ok_iff.2 ⟨hfollow, .inl ⟨hget, by simp [hat.name]⟩⟩
      rw [hfound] at hmiss
      cases hmiss
  obtain ⟨d, last, hholder⟩ := holder_of_follow plain habs hfollow
  rw [follow_of_holder plain hholder] at hfollow
  cases hfollow
  have hholder' := hfirst.toKeeps.holder plain plain' hholder
  -- the source map lies elsewhere, so the file has come with the bundle
  have hget : (t.leave path content?).get? (stepFrom d last) = some e := by
    rw [← hat.get?]
    rcases leave_cases (t.leave path content?) (path ++ ".map") map? with
      hsame | ⟨_, d', last', -, hmap, -, -, -, -, hcreate⟩
    · rw [hsame]
    · have := eq_of_holder_append plain' hat.name (by decide) hholder' hmap
      cases this
      rw [hcreate, get?_create _ _ _ _ _ (List.cons_ne_nil _ _), if_neg (stepFrom_ne_append (by decide))]
  rcases leave_cases t path content? with
    hsame | ⟨written, d', last', hcontent, hholder'', hdot, hup, hchange, -, hcreate⟩
  · rw [hsame, hnone] at hget
    cases hget
  · rw [hholder] at hholder''
    cases hholder''
    rw [hcreate, get?_create _ _ _ _ _ (List.cons_ne_nil _ _), stepFrom_of_ne hdot hup,
      if_pos rfl] at hget
    cases hget
    cases hkind
    exact ⟨hcontent, d, last, hholder, hdot, hup, hat.name, hchange, hcreate⟩

theorem leave_new (plain : t.Plain) (hholder : t.holder path = .ok (d, last)) (hdot : last ≠ ".")
    (hup : last ≠ "..") (hname : Path.namesDirectory path = false) (hchange : t.mayChange d = true)
    (hnone : t.get? (last :: d) = none) (content? : Option ByteArray) :
    (t.leave path content?).isFile path = content?.isSome ∧
      ∀ content, (t.leave path content?).read path = .ok content ↔ content? = some content := by
  obtain ⟨hconfined, -⟩ := leave_confined plain path content?
  have plain' := hconfined.plain plain
  have hfollow :=
    follow_of_name (b := true) plain' (hconfined.toKeeps.holder plain plain' hholder) hdot hup
  cases content? with
  | none =>
    rw [leave_none] at hfollow ⊢
    have hmissing : ∀ l e, ¬ t.FileAt path l e := by
      intro l e hat
      have hl := hat.follow
      rw [hfollow] at hl
      cases hl
      rw [hat.get?] at hnone
      cases hnone
    constructor
    · rw [Option.isSome_none, ← Bool.not_eq_true, isFile_iff]
      rintro ⟨l, e, hat⟩
      exact hmissing l e hat
    · intro content
      rw [read_eq_ok_iff]
      constructor
      · rintro ⟨l, e, hat, -⟩
        exact absurd hat (hmissing l e)
      · intro h
        cases h
  | some written =>
    have hdir : t.kind? (last :: d) ≠ some .directory := by simp [kind?, hnone]
    have hat : (t.leave path (some written)).FileAt path (last :: d)
        ⟨.file written, t.nextNumber, 0o644, t.now⟩ := by
      refine ⟨hfollow, ?_, rfl, hname⟩
      rw [leave_eq_create hholder hdot hup hname hchange hdir,
        get?_create _ _ _ _ _ (List.cons_ne_nil _ _), if_pos rfl]
    have hread := read_eq_ok_iff.2 ⟨_, _, hat, by simp [Entry.isReadable], rfl⟩
    constructor
    · exact isFile_iff.2 ⟨_, _, hat⟩
    · intro content
      rw [hread, Except.ok.injEq, Option.some.injEq]

theorem leave_sourceMap (plain : t.Plain) (hholder : t.holder path = .ok (d, last))
    (hchange : t.mayChange d = true)
    (hcreate : t.leave path content? = t.create (last :: d) (.file content) 0o644)
    (hmap : t.holder (path ++ ".map") = .ok (d, last ++ ".map"))
    (hnone : t.get? ((last ++ ".map") :: d) = none) (map? : Option ByteArray) :
    ((t.leave path content?).leave (path ++ ".map") map?).isFile (path ++ ".map") = map?.isSome ∧
      ∀ map, ((t.leave path content?).leave (path ++ ".map") map?).read (path ++ ".map") = .ok map ↔
        map? = some map := by
  obtain ⟨hconfined, -⟩ := leave_confined plain path content?
  have plain' := hconfined.plain plain
  obtain ⟨hdot, hup⟩ : last ++ ".map" ≠ "." ∧ last ++ ".map" ≠ ".." := ne_dots_of_append (by decide)
  have hname : Path.namesDirectory (path ++ ".map") = false :=
    Path.namesDirectory_append (by decide) (by decide)
  have hne : (last ++ ".map") :: d ≠ last :: d := by
    intro h
    simpa using congrArg (fun text : String => text.toList) (List.cons.inj h).1
  have hnone' : (t.leave path content?).get? ((last ++ ".map") :: d) = none := by
    rw [hcreate, get?_create _ _ _ _ _ (List.cons_ne_nil _ _), if_neg hne, hnone]
  have hchange' : (t.leave path content?).mayChange d = true := by
    obtain ⟨-, -, -, e, hget, hdir, -⟩ := (holder_eq_ok_iff plain).1 hholder
    rwa [hconfined.mayChange hget hdir]
  exact leave_new plain' (hconfined.toKeeps.holder plain plain' hmap) hdot hup hname hchange' hnone'
    map?

end FileTree

structure Product where
  exitCode : Option Int
  stdout : ByteArray
  stderr : ByteArray
  bundle? : Option ByteArray
  sourceMap? : Option ByteArray

/--
The compiler that makes of an invocation and of what can be read at some paths what a function says,
in whatever time, and writes nothing but the bundle and the source map.
-/
def Compiler.confined (inputs : List String)
    (make : Invocation → List (Except FileFault ByteArray) → Except FileFault Product)
    (clock : FileTree → Nat) : Compiler := fun i t =>
  match make i (inputs.map t.read) with
  | .error fault => .error fault
  | .ok product =>
    .ok (⟨product.exitCode, product.stdout, product.stderr, clock t⟩,
      (t.leave i.outputFile product.bundle?).leave i.sourceMapFile product.sourceMap?)

theorem Compiler.confined_ok {inputs : List String}
    {make : Invocation → List (Except FileFault ByteArray) → Except FileFault Product}
    {clock : FileTree → Nat} {i : Invocation} {t u : FileTree} {result : Run}
    (h : confined inputs make clock i t = .ok (result, u)) :
    ∃ product, make i (inputs.map t.read) = .ok product ∧ result.exitCode = product.exitCode ∧
      u = (t.leave i.outputFile product.bundle?).leave i.sourceMapFile product.sourceMap? := by
  unfold confined at h
  cases hmake : make i (inputs.map t.read) with
  | error fault =>
    rw [hmake] at h
    cases h
  | ok product =>
    rw [hmake] at h
    cases h
    exact ⟨product, rfl, rfl, rfl⟩

end DartBundle
