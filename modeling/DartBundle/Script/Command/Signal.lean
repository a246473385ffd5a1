import DartBundle.Script.Command.Options
/-!
This module contains the signals by their names, and the commands `kill` and `trap`.
-/

namespace DartBundle

namespace Script

def signalNames : List String :=
  ["EXIT", "HUP", "INT", "QUIT", "ILL", "TRAP", "ABRT", "BUS", "FPE", "KILL", "USR1", "SEGV",
    "USR2", "PIPE", "ALRM", "TERM", "16", "CHLD", "CONT", "STOP", "TSTP", "TTIN", "TTOU", "URG",
    "XCPU", "XFSZ", "VTALRM", "PROF", "WINCH", "IO", "PWR", "SYS", "32", "33", "RTMIN"] ++
  ((List.range 15).map fun n => s!"RTMIN+{n + 1}") ++
  ((List.range 14).map fun n => s!"RTMAX-{14 - n}") ++ ["RTMAX"]

def signalText (signal : Nat) : String :=
  match signal with
  | 1 => "Hangup"
  | 3 => "Quit"
  | 4 => "Illegal instruction"
  | 5 => "Trace/breakpoint trap"
  | 6 => "Aborted"
  | 7 => "Bus error"
  | 8 => "Floating point exception"
  | 9 => "Killed"
  | 10 => "User defined signal 1"
  | 11 => "Segmentation fault"
  | 12 => "User defined signal 2"
  | 14 => "Alarm clock"
  | 15 => "Terminated"
  | 16 => "Stack fault"
  | 24 => "CPU time limit exceeded"
  | 25 => "File size limit exceeded"
  | 26 => "Virtual timer expired"
  | 27 => "Profiling timer expired"
  | 29 => "I/O possible"
  | 30 => "Power failure"
  | 31 => "Bad system call"
  | n => s!"Real-time signal {n - 34}"

def signalName? (signal : Nat) : Option String :=
  signalNames[signal]?

def signal? (word : Octets) : Option Nat :=
  match Octets.toNat? word with
  | some n => if n < signalNames.length then some n else none
  | none => signalNames.findIdx? fun name => name.toList = word.map Octets.toUpper

namespace Shell

def report (ending : Ending) : Act Unit := do
  match ending with
  | .killed signal =>
    if signal ≠ 2 && signal ≠ 13 then
      complain (Octets.ascii (signalText signal))
  | .exited _ => pure ()

def settle (ending : Ending) : Act Unit := do
  report ending
  setStatus ending.status

def send (signal process : Nat) : Act Bool := do
  let s ← get
  if signal = 0 then
    return process = s.number || s.above.contains process ||
      s.jobs.any fun job => job.process.number = process
  else if process = s.number then
    deliver signal
    return true
  else if s.above.contains process then
    set { s with posted := (process, signal) :: s.posted }
    return true
  else if s.jobs.any fun job => job.process.number = process then
    set { s with jobs := s.jobs.map fun (job : Job) =>
      if job.process.number = process && s.files.now < job.finish.getD (s.files.now + 1) &&
          !idleSignals.contains signal then
        { job with ending := .killed signal, finish := some s.files.now }
      else
        job }
    return true
  else
    return false

def killUsage : String :=
  "Usage: kill [-s sigspec | -signum | -sigspec] [pid | job]... or\nkill -l [exitstatus]"

def kill (words : List Octets) : Act Nat := do
  let usage {α : Type} : Act α := fault (Octets.ascii killUsage)
  let (signal, targets) : Option Nat × List Octets ← match words with
    | [] => usage
    | ('-' :: name) :: rest =>
      match if name = Octets.ascii "EXIT" then none else signal? name with
      | some signal => pure (some signal, rest)
      | none => do
        let (options, rest) ← takeOptions "s:" words
        match options.getLast? with
        | none => pure (none, rest)
        | some (_, name) =>
          match signal? name with
          | some signal => pure (some signal, rest)
          | none => fault (Octets.ascii "invalid signal number or name: " ++ name)
    | words => pure (none, words)
  if targets.isEmpty then
    usage
  else
    let mut status := 0
    for target in targets do
      let found ← match target with
        | '%' :: _ => fault (Octets.ascii "No such job: " ++ target)
        | '-' :: rest => do
          let _ ← natural rest
          pure false
        | target => do send (signal.getD 15) (← natural target)
      if !found then
        complainHere (Octets.ascii "No such process\n")
        status := 1
    return status

def trap (words : List Octets) : Act Nat := do
  let (_, words) ← takeOptions "" words
  match words with
  | [] =>
    let traps := (← get).traps
    let lines := (List.range signalNames.length).filterMap fun n =>
      (traps.lookup n).map fun action =>
        let name := ((signalName? n).getD "").toList
        Octets.ascii "trap -- " ++ quoted action ++ ' ' :: name ++ ['\n']
    put lines.flatten
  | first :: rest =>
    let (action, events) : Option Octets × List Octets :=
      if rest.isEmpty || (Octets.toNat? first).any (· < signalNames.length) then
        (none, words)
      else if first = ['-'] then
        (none, rest)
      else
        (some first, rest)
    await action events
where
  await (action : Option Octets) : List Octets → Act Nat
    | [] => return 0
    | event :: events => do
      match signal? event with
      | none =>
        complain (Octets.ascii "trap: " ++ event ++ Octets.ascii ": bad trap")
        return 1
      | some signal =>
        modify fun s => { s with
          traps := match action with
            | some action => s.traps.insert signal action
            | none => s.traps.erase signal }
        await action events

end Shell

end Script

end DartBundle
