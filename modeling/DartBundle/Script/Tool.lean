import DartBundle.Script.Tool.Edit
import DartBundle.Script.Tool.Lines
import DartBundle.Script.Tool.Listing
import DartBundle.Script.Tool.Transfer
import DartBundle.Script.Tool.Translate
/-!
This module contains the programs of the machine by their names. These are the programs that the
scripts call which stand in for a compiler, with the options that they use; there is no more of a
program here than that.
-/

namespace DartBundle

namespace Script

namespace Tool

def duration? (word : Octets) : Option Nat := do
  let (whole, rest) := word.span Octets.isDigit
  match rest with
  | [] => (Octets.toNat? whole).map (1000 * ·)
  | '.' :: digits =>
    let places ← Octets.toNat? digits
    let seconds ← if whole.isEmpty then some 0 else Octets.toNat? whole
    some (1000 * seconds + 1000 * places / Nat.pow 10 digits.length)
  | _ => none

def sleep : Tool := fun call =>
  call.withOptions "" 1 fun o =>
    call.withOperands o fun word rest =>
      match rest, duration? word with
      | word :: _, _ => call.extra word
      | [], none => call.misuse 1 (phrase "invalid time interval " (Octets.inMarks word))
      | [], some time => do
        modify fun s => { s with files := s.files.later time }
        Shell.collect
        return 0

end Tool

def tool? (name : String) : Option Tool :=
  match name with
  | "basename" => some Tool.basename
  | "cat" => some Tool.cat
  | "chmod" => some Tool.chmod
  | "cmp" => some Tool.cmp
  | "cp" => some Tool.cp
  | "cut" => some Tool.cut
  | "dirname" => some Tool.dirname
  | "find" => some Tool.find
  | "grep" => some Tool.grep
  | "head" => some Tool.head
  | "ln" => some Tool.ln
  | "ls" => some Tool.ls
  | "mkdir" => some Tool.mkdir
  | "mv" => some Tool.mv
  | "od" => some Tool.od
  | "readlink" => some Tool.readlink
  | "rm" => some Tool.rm
  | "rmdir" => some Tool.rmdir
  | "sed" => some Tool.sed
  | "sleep" => some Tool.sleep
  | "sort" => some Tool.sort
  | "stat" => some Tool.stat
  | "tail" => some Tool.tail
  | "touch" => some Tool.touch
  | "tr" => some Tool.tr
  | "uniq" => some Tool.uniq
  | "wc" => some Tool.wc
  | _ => none

end Script

end DartBundle
