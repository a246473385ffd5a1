import DartBundle.Json.Token
/-!
This module contains JSON values and the reading of tokens into them. A text with a fault is read up
to the fault, where the value is broken; so whoever decodes the value meets what is wrong with it in
the order of the text. A reading keeps the open arrays and objects on a stack and takes one token at
a time.
-/

namespace DartBundle

inductive Json
  | null
  | boolean (value : Bool)
  | number (numeral : Json.Numeral)
  /-- A string. It has no content if it names half of a surrogate pair. -/
  | text (content : Option String)
  | array (items : List Json)
  | object (fields : List (Option String × Json))
  | broken

namespace Json

inductive Frame
  | array (items : List Json)
  | object (fields : List (Option String × Json)) (key : Option String)

inductive Reading
  -- items and fields that have been read are held last one first
  | start (stack : List Frame)
  | firstItem (stack : List Frame)
  | afterItem (items : List Json) (stack : List Frame)
  | firstKey (stack : List Frame)
  | nextKey (fields : List (Option String × Json)) (stack : List Frame)
  | afterKey (fields : List (Option String × Json)) (key : Option String) (stack : List Frame)
  | afterField (fields : List (Option String × Json)) (stack : List Frame)
  | done (value : Json)

def complete (value : Json) : List Frame → Reading
  | [] => .done value
  | .array items :: stack => .afterItem (value :: items) stack
  | .object fields key :: stack => .afterField ((key, value) :: fields) stack

def begin (token : Token) (stack : List Frame) : Option Reading :=
  match token with
  | .null => some (complete .null stack)
  | .boolean value => some (complete (.boolean value) stack)
  | .number numeral => some (complete (.number numeral) stack)
  | .text content => some (complete (.text content) stack)
  | .openArray => some (.firstItem stack)
  | .openObject => some (.firstKey stack)
  | _ => none

def Reading.step : Reading → Token → Option Reading
  | .start stack, token => begin token stack
  | .firstItem stack, .closeArray => some (complete (.array []) stack)
  | .firstItem stack, token => begin token (.array [] :: stack)
  | .afterItem items stack, .comma => some (.start (.array items :: stack))
  | .afterItem items stack, .closeArray => some (complete (.array items.reverse) stack)
  | .firstKey stack, .closeObject => some (complete (.object []) stack)
  | .firstKey stack, .text key => some (.afterKey [] key stack)
  | .nextKey fields stack, .text key => some (.afterKey fields key stack)
  | .afterKey fields key stack, .colon => some (.start (.object fields key :: stack))
  | .afterField fields stack, .comma => some (.nextKey fields stack)
  | .afterField fields stack, .closeObject => some (complete (.object fields.reverse) stack)
  | _, _ => none

def close (value : Json) : List Frame → Json
  | [] => value
  | .array items :: stack => close (.array (value :: items).reverse) stack
  | .object fields key :: stack => close (.object ((key, value) :: fields).reverse) stack

def Reading.abandon : Reading → Json
  | .start stack => close .broken stack
  | .firstItem stack => close (.array [.broken]) stack
  | .afterItem items stack => close (.array (.broken :: items).reverse) stack
  | .firstKey stack => close (.object [(none, .broken)]) stack
  | .nextKey fields stack => close (.object ((none, .broken) :: fields).reverse) stack
  | .afterKey fields key stack => close (.object ((key, .broken) :: fields).reverse) stack
  | .afterField fields stack => close (.object ((none, .broken) :: fields).reverse) stack
  | .done value => value

/--
A value as far as it could be read, and whether the text is that value and nothing else.
-/
structure Document where
  value : Json
  complete : Bool

def Reading.finish (r : Reading) : List Token → Document
  | [] => ⟨r.abandon, r matches .done _⟩
  | token :: rest =>
    match r.step token with
    | some r => r.finish rest
    | none => ⟨r.abandon, false⟩

def read (text : String) : Document :=
  (Reading.start []).finish (scan text.toList)

mutual

def intact : Json → Bool
  | .broken => false
  | .array items => intactItems items
  | .object fields => intactFields fields
  | _ => true

def intactItems : List Json → Bool
  | [] => true
  | item :: rest => intact item && intactItems rest

def intactFields : List (Option String × Json) → Bool
  | [] => true
  | (_, value) :: rest => intact value && intactFields rest

end

end Json

end DartBundle
