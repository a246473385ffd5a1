import DartBundle.Script.Tool.Options
/-!
This module contains what the programs that work line by line have in common.
-/

namespace DartBundle

namespace Octets

def records (octets : Octets) : List Octets :=
  octets.splitBy fun c _ => c ≠ '\n'

def padLeft (width : Nat) (text : Octets) : Octets :=
  List.replicate (width - text.length) ' ' ++ text

end Octets

namespace Script

namespace Call

def shown (word : Octets) : Octets :=
  Octets.orInQuotes true word

def forEachInput (call : Call) (words : List Octets) (act : Octets → Octets → Act Unit) : Act Nat :=
  forEach (orInput words) fun word => do
    match ← read word with
    | .ok octets => do
      act word octets
      return true
    | .error fault => do
      call.complainOf (shown word) fault
      return false

end Call

end Script

end DartBundle
