import DartBundle.Proofs.Build.Alarms
import DartBundle.Proofs.CommandLine.Build
/-!
This module contains that the compiler is started as the dry run says. Which command a program run starts is
seen from outside: it is the one whose answer matters.
-/

namespace DartBundle

namespace CommandLine

variable {env : Environment} {args : List String} {entry graph : String} {packages : List String}
  {directory output root : String} {flags : List String} {verbose : Bool} {t u spawned : FileTree}
  {id : AssetId} {g : ModuleGraph} {d : AssetDirectories} {area : StagingArea} {i : Invocation}
  {c : Command}

/--
Whether a run of the program starts a command: it ends otherwise on a machine that differs in this command
alone.
-/
def Starts (env : Environment) (args : List String) (t : FileTree) (c : Command) : Prop :=
  ∃ machine : Machine, (∀ other, other ≠ c → machine other = env.machine other) ∧
    run { env with machine } args t ≠ run env args t

structure Launches (env : Environment) (t : FileTree) (entry graph : String) (packages : List String)
    (directory output root : String) (flags : List String) (id : AssetId) (g : ModuleGraph)
    (d : AssetDirectories) (area : StagingArea) (u : FileTree) (i : Invocation) (spawned : FileTree) :
    Prop where
  accepted : Accepted t entry graph packages output root id g d
  made : StagingArea.create directory t = .ok area u
  prepared : BuildStep.prepare ⟨compilerConfig env flags, ⟨root⟩⟩ g id area d.reader u =
    .ok (.ready i) spawned

section

variable (reads : read false args =
  .request (.build entry graph packages (some directory) output (some root) flags) verbose)

include reads

theorem run_congr {machine : Machine}
    (h : ∀ id g d area u i spawned,
      Launches env t entry graph packages directory output root flags id g d area u i spawned →
        machine i.command = env.machine i.command) :
    run { env with machine } args t = run env args t := by
  cases hinspect : inspect t entry graph packages output root with
  | error f => rw [run_of_refused reads hinspect, run_of_refused reads hinspect]
  | ok named =>
    obtain ⟨id, g, d⟩ := named
    have accepted := inspect_eq_ok_iff.1 hinspect
    rw [run_of_accepted reads accepted, run_of_accepted reads accepted]
    cases made : StagingArea.create directory t with
    | error e u => rw [compileIn_of_unmade made, compileIn_of_unmade made]
    | ok area u =>
      rw [compileIn_of_made made, compileIn_of_made made]
      apply congrArg (finish verbose)
      apply compileAt_congr
      apply BuildStep.run_congr
      intro i spawned prepared
      exact congrFun (h id g d area u i spawned ⟨accepted, made, prepared⟩) spawned

def failingAt (env : Environment) (c : Command) (left : FileTree) : Machine := fun other t =>
  if other = c then .ok (⟨some 1, .empty, .empty, 0⟩, left) else env.machine other t

theorem starts_iff : Starts env args t c ↔ ∃ id g d area u i spawned,
    Launches env t entry graph packages directory output root flags id g d area u i spawned ∧
      c = i.command := by
  constructor
  · rintro ⟨machine, hother, hdiffers⟩
    by_contra hnone
    refine hdiffers (run_congr reads fun id g d area u i spawned launches => hother _ fun heq => ?_)
    exact hnone ⟨id, g, d, area, u, i, spawned, launches, heq.symm⟩
  · rintro ⟨id, g, d, area, u, i, spawned, ⟨accepted, made, prepared⟩, rfl⟩
    -- the compiler fails on a tree of a later time, so it is seen that it was started
    let left := (run env args t).2.later 1
    have ended : (failingAt env i.command left).compiler i spawned =
        .ok (⟨some 1, .empty, .empty, 0⟩, left) := by
      simp only [Machine.compiler, failingAt, if_true]
    have failed : BuildStep.run ⟨compilerConfig env flags, ⟨root⟩⟩ (failingAt env i.command left).compiler g
        id area d.reader (.directories d) { files := u } = _ :=
      BuildStep.run_of_failed prepared ended (.inl (by decide))
    refine ⟨failingAt env i.command left, fun other hne => ?_, fun hsame => ?_⟩
    · funext t
      exact if_neg hne
    · have hleft : (run { env with machine := failingAt env i.command left } args t).2 = left := by
        rw [run_of_accepted reads accepted, compileIn_of_made made]
        exact congrArg (fun ended => (finish verbose ended).2) (compileAt_of_failed failed)
      rw [hsame] at hleft
      have hnow := congrArg FileTree.now hleft
      exact absurd hnow (Nat.succ_ne_self _).symm

end

def planned (env : Environment) (root : String) (flags : List String) (id : AssetId) (area : StagingArea) :
    Invocation :=
  Invocation.build id (PackageConfig.path id) area (compilerConfig env flags) ⟨root⟩

def shown (i : Invocation) : String :=
  "cd " ++ i.workingDirectory ++ "\n" ++ " ".intercalate (i.program :: i.arguments) ++ "\n"

theorem run_of_arguments
    (reads : read false args = .request (.arguments entry directory (some root) flags) verbose)
    (parsed : AssetId.parse entry = .ok id) (made : StagingArea.create directory t = .ok area u) :
    run env args t = ({ exitCode := 0, stdout := shown (planned env root flags id area) }, u) := by
  have hparse : parseEntry entry { files := t } = .ok id { files := t } := by
    rw [parseEntry_run, parsed]
  rw [run_request reads, Request.run]
  change finish verbose ((parseEntry entry >>= _) _) = _
  rw [Work.bind_of_ok hparse, Work.bind_of_ok (makeArea_of_made made)]
  rfl

theorem Launches.eq_planned
    (h : Launches env t entry graph packages directory output root flags id g d area u i spawned) :
    i = planned env root flags id area :=
  (BuildStep.prepare_ready h.prepared).1

theorem compiler_started_as_shown (env : Environment) {args' : List String} {verbose' : Bool}
    (builds : read false args =
      .request (.build entry graph packages (some directory) output (some root) flags) verbose)
    (shows : read false args' = .request (.arguments entry directory (some root) flags) verbose') :
    (∀ id area t u, AssetId.parse entry = .ok id → StagingArea.create directory t = .ok area u →
      run env args' t = ({ exitCode := 0, stdout := shown (planned env root flags id area) }, u)) ∧
    ∀ t c, Starts env args t c ↔ ∃ id g d area u spawned,
      Launches env t entry graph packages directory output root flags id g d area u
        (planned env root flags id area) spawned ∧
      c = ⟨(planned env root flags id area).program, (planned env root flags id area).arguments,
        some (planned env root flags id area).workingDirectory⟩ := by
  refine ⟨fun id area t u => run_of_arguments shows, fun t c => (starts_iff builds).trans ?_⟩
  constructor
  · rintro ⟨id, g, d, area, u, i, spawned, launches, rfl⟩
    obtain rfl := launches.eq_planned
    exact ⟨id, g, d, area, u, spawned, launches, rfl⟩
  · rintro ⟨id, g, d, area, u, spawned, launches, rfl⟩
    exact ⟨id, g, d, area, u, _, spawned, launches, rfl⟩

end CommandLine

namespace Sample

open CommandLine

def idle : Environment where
  searched := ""
  home := "/"
  machineOptions := " --x  --y "
  machine := fun _ t => .ok (⟨some 0, .empty, .empty, 0⟩, t)

theorem equipped_started_as_shown :
    (∃ u, run idle ["args", "a|w", "--staging-dir", "/s", "--sdk", "/k", "--arg", "-O1"] equipped =
      ({ exitCode := 0, stdout := shown (planned idle "/k" ["-O1"] ⟨"a", "w"⟩ ⟨"/s"⟩) }, u)) ∧
    Starts idle ["build", "--arg=-O1", "--sdk=/k", "-o", "/o", "-pa=/q", "-p", "a=/p", "--graph", "/g",
        "--staging-dir", "/s", "a|w"] equipped
      ⟨"/k/bin/dart", (planned idle "/k" ["-O1"] ⟨"a", "w"⟩ ⟨"/s"⟩).arguments, some "/s"⟩ := by
  have hbuild : read false ["build", "--arg=-O1", "--sdk=/k", "-o", "/o", "-pa=/q", "-p", "a=/p", "--graph",
      "/g", "--staging-dir", "/s", "a|w"] =
        .request (.build "a|w" "/g" ["a=/q", "a=/p"] (some "/s") "/o" (some "/k") ["-O1"]) false := by
    decide +kernel
  have hshow : read false ["args", "a|w", "--staging-dir", "/s", "--sdk", "/k", "--arg", "-O1"] =
      .request (.arguments "a|w" "/s" (some "/k") ["-O1"]) false := by
    decide +kernel
  have hmade : StagingArea.create "/s" equipped = .ok ⟨"/s"⟩ _ :=
    Work.eq_ok_of_answer? (by decide +kernel)
  obtain ⟨hshown, hstarts⟩ := compiler_started_as_shown idle hbuild hshow
  refine ⟨⟨_, hshown _ _ _ _ accepted_equipped.parsed hmade⟩, (hstarts _ _).2 ⟨_, _, _, _, _, _,
    ⟨accepted_equipped, hmade, Work.eq_ok_of_answer? (by decide +kernel)⟩, ?_⟩⟩
  decide +kernel

end Sample

end DartBundle
