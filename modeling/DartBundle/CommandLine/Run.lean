import DartBundle.Build.Step
import DartBundle.CommandLine.Arguments
import DartBundle.CommandLine.Report
import DartBundle.Module.Manifest
/-!
This module contains the commands of the program. A command works on a file tree; what it prints and
how it ends are its result.
-/

namespace DartBundle

namespace CommandLine

structure Environment where
  searched : String
  home : String
  machineOptions : String := ""
  temporary : String := "/tmp"
  machine : Machine

structure Finish where
  exitCode : Nat
  stdout : String := ""
  stderr : String := ""

abbrev Action := EStateM Failure Workspace

namespace Action

def ofBuild (part : Build α) : Action α := fun w =>
  match part w with
  | .ok a w => .ok a w
  | .error e w => .error (.ofError e) w

def ofExcept (result : Except Error α) : Action α :=
  ofBuild (Build.onFiles (FileWork.ofExcept result))

def because (context : String) (part : Action α) : Action α := fun w =>
  match part w with
  | .ok a w => .ok a w
  | .error f w => .error (f.because context) w

end Action

def parseEntry (text : String) : Action AssetId :=
  Action.ofExcept ((AssetId.parse text).mapError Error.invalidAssetId)

def loadGraph (path : String) : Action ModuleGraph := do
  let w ← get
  Action.because ("Failed to load module graph " ++ path)
    (Action.ofExcept (ModuleGraph.load w.files path))

def detectSdk (env : Environment) : Action Sdk := do
  let directories := (Text.split ':' env.searched.toList).map fun directory =>
    Path.expandHome env.home (String.ofList directory)
  let w ← get
  Action.because "Could not locate the Dart SDK"
    (Action.ofExcept (Sdk.detect directories w.files))

def chooseSdk (env : Environment) : Option String → Action Sdk
  | none => detectSdk env
  | some root => do
    let w ← get
    Action.because "Invalid Dart SDK" (Action.ofExcept (Sdk.checked root w.files))

def parsePackage (text : String) : Except Failure (String × String) :=
  match Text.cut? '=' text.toList with
  | some (c :: name, d :: directory) =>
    .ok (String.ofList (c :: name), String.ofList (d :: directory))
  | _ => .error (.ofText s!"Invalid package `{text}`, expected NAME=DIR")

def addPackages (d : AssetDirectories) : List String → Except Failure AssetDirectories
  | [] => .ok d
  | text :: rest => do
    let (name, directory) ← parsePackage text
    addPackages (d.addPackage name directory) rest

def compilerConfig (env : Environment) (compilerArguments : List String) : CompilerConfig :=
  (CompilerConfig.addCompilerArguments {} compilerArguments).setMachineOptions env.machineOptions

/--
Does something with a staging area in a directory, or else in a temporary directory that is removed
when it has ended.
-/
def withStaging (env : Environment) (directory : Option String) (body : StagingArea → Action α) :
    Action α :=
  match directory with
  | some path => do
    body (← Action.ofBuild (Build.onFiles (StagingArea.create path)))
  | none => do
    let path ← Action.because "Failed to create staging directory" <|
      Action.ofBuild (Build.onFiles (FileWork.ofDisk (Disk.makeTemporaryDirectory env.temporary)))
    let compiled : Action α := do
      body (← Action.ofBuild (Build.onFiles (StagingArea.create path)))
    let clear (w : Workspace) : Workspace :=
      match Disk.removeAll path w.files with
      | .ok _ files => { w with files }
      | .error _ files => { w with files }
    fun w =>
      match compiled w with
      | .ok a w => .ok a (clear w)
      | .error f w => .error f (clear w)

def seconds (milliseconds : Nat) : String :=
  let hundredths := (milliseconds + 5) / 10
  let places := toString (hundredths % 100)
  s!"{hundredths / 100}." ++ (if places.length = 1 then "0" else "") ++ places

def elapsed (log : List Event) : Nat :=
  log.foldl (fun total event =>
    match event with
    | .compiled _ _ milliseconds => total + milliseconds
    | _ => total) 0

def describe (entry : AssetId) (directories : AssetDirectories) (milliseconds : Nat) :
    Outcome → String
  | .built artifacts =>
    let files := artifacts.bundle :: artifacts.sourceMap.toList
    s!"Compiled {entry.display} in {seconds milliseconds}s\n" ++
      String.join (files.map fun id => "  " ++ directories.outputPath id ++ "\n")
  | .skipped reason => s!"Skipped {entry.display} (unsupported libraries: {reason.display})\n"

def runBuild (env : Environment) (entry graph : String) (packages : List String)
    (stagingDirectory : Option String) (outputDirectory : String) (sdk : Option String)
    (compilerArguments : List String) : Action String := do
  let sdk ← chooseSdk env sdk
  let entry ← parseEntry entry
  let graph ← loadGraph graph
  -- all that can be refused is looked at before the staging area is made
  let directories ← match addPackages ⟨outputDirectory, .empty⟩ packages with
    | .ok directories => pure directories
    | .error f => throw f
  let step : BuildStep := ⟨compilerConfig env compilerArguments, sdk⟩
  let outcome ← withStaging env stagingDirectory fun area =>
    Action.because ("Failed to compile " ++ entry.display) <| Action.ofBuild <|
      step.run env.machine.compiler graph entry area directories.reader (.directories directories)
  return describe entry directories (elapsed (← get).log) outcome

def runClosure (entry graph : String) : Action String := do
  let entry ← parseEntry entry
  let graph ← loadGraph graph
  match ← Action.ofExcept (graph.closure entry) with
  | .resolved closure => return String.join (closure.ids.map fun id => id.display ++ "\n")
  | .unsupported reason =>
    return s!"Unsupported libraries reachable from {entry.display}:\n" ++
      String.join (reason.libraries.map fun id => "  " ++ id.display ++ "\n")

def runArguments (env : Environment) (entry stagingDirectory : String) (sdk : Option String)
    (compilerArguments : List String) : Action String := do
  let sdk ← match sdk with
    -- nothing is started, so the SDK is not checked
    | some root => pure ⟨root⟩
    | none => detectSdk env
  let entry ← parseEntry entry
  let area ← Action.ofBuild (Build.onFiles (StagingArea.create stagingDirectory))
  let i := Invocation.build entry (PackageConfig.path entry) area
    (compilerConfig env compilerArguments) sdk
  return s!"cd {i.workingDirectory}\n{i.commandLine}\n"

def Request.run (env : Environment) : Request → Action String
  | .build entry graph packages stagingDirectory outputDirectory sdk compilerArguments =>
    runBuild env entry graph packages stagingDirectory outputDirectory sdk compilerArguments
  | .closure entry graph => runClosure entry graph
  | .arguments entry stagingDirectory sdk compilerArguments =>
    runArguments env entry stagingDirectory sdk compilerArguments

def levelName : Level → String
  | .debug => "DEBUG"
  | .info => "INFO"
  | .warning => "WARN"
  | .error => "ERROR"

def isTold (verbose : Bool) (level : Level) : Bool :=
  verbose || level = .warning || level = .error

def renderLog (verbose : Bool) (log : List Event) : String :=
  String.join ((log.filter fun event => isTold verbose event.level).map fun event =>
    let fields := event.fields.map fun (name, value) => " " ++ name ++ "=" ++ value
    levelName event.level ++ " " ++ event.message ++ String.join fields ++ "\n")

def usage : String :=
  "Usage: nodepack [-v] <build|closure|args> <ENTRY> [OPTIONS]\n"

def run (env : Environment) (args : List String) (t : FileTree) : Finish × FileTree :=
  match read false args with
  | .help => ({ exitCode := 0, stdout := usage }, t)
  | .version => ({ exitCode := 0, stdout := "nodepack 0.1.0\n" }, t)
  | .misuse => ({ exitCode := 2, stderr := usage }, t)
  | .request request verbose =>
    match request.run env { files := t } with
    | .ok stdout w => ({ exitCode := 0, stdout, stderr := renderLog verbose w.log }, w.files)
    | .error failure w =>
      ({ exitCode := 1, stderr := renderLog verbose w.log ++ failure.report }, w.files)

end CommandLine

end DartBundle
