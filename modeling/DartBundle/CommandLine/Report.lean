import DartBundle.Error
/-!
This module contains the report of a failure: what has failed, and below it what has caused that.
-/

namespace DartBundle

namespace CommandLine

structure Failure where
  messages : List String

namespace Failure

def ofError (e : Error) : Failure :=
  ⟨e.chain⟩

def ofText (text : String) : Failure :=
  ⟨[text]⟩

def because (context : String) (f : Failure) : Failure :=
  ⟨context :: f.messages⟩

def indent (first : String) (others : Nat) (text : String) : String :=
  let lines := (Text.split '\n' text.toList).map String.ofList
  first ++ ("\n" ++ String.ofList (List.replicate others ' ')).intercalate lines

def numbered (n : Nat) : List String → List String
  | [] => []
  | cause :: rest =>
    let number := toString n
    let blanks := String.ofList (List.replicate (5 - number.length) ' ')
    indent (blanks ++ number ++ ": ") 7 cause :: numbered (n + 1) rest

def causes : List String → String
  | [] => ""
  | [cause] => "\n\nCaused by:\n" ++ indent "    " 4 cause
  | several => "\n\nCaused by:\n" ++ "\n".intercalate (numbered 0 several)

def report (f : Failure) : String :=
  "Error: " ++ f.messages.head?.getD "" ++ causes (f.messages.drop 1) ++ "\n"

end Failure

end CommandLine

end DartBundle
