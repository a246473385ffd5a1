import DartBundle.Decimal.Shortest
import DartBundle.Json.Number
import DartBundle.Json.Place
import DartBundle.Json.Value
import DartBundle.Text.Quoted
/-!
This module contains the decoding of JSON values into data. A decoder stops at the first thing in
the text that it cannot take.
-/

namespace DartBundle

namespace Json

inductive Found
  | null
  | boolean (value : Bool)
  | number (value : Number)
  | text (content : String)
  | sequence
  | map

def Found.describe : Found → String
  | .null => "null"
  | .boolean value => s!"boolean `{value}`"
  | .number (.natural value) => s!"integer `{value}`"
  | .number (.negative value) => s!"integer `-{value}`"
  | .number (.real value) => "floating point `" ++ Shortest.text value ++ "`"
  | .text content => "string " ++ Text.quote content
  | .sequence => "sequence"
  | .map => "map"

inductive DecodeFault
  | malformed
  | wrongType (found : Found) (expected : String)
  | tooShort (expected : String)
  | missingField (name : String)
  | duplicateField (name : String)
  /-- The value has the right type, but is refused for a reason. A place in the text that the reason
  tells at its end is not told again. -/
  | refused (reason : String)

def DecodeFault.message : DecodeFault → String
  | .malformed => "malformed JSON"
  | .wrongType found expected => s!"invalid type: {found.describe}, expected {expected}"
  | .tooShort expected => s!"invalid length 0, expected {expected}"
  | .missingField name => s!"missing field `{name}`"
  | .duplicateField name => s!"duplicate field `{name}`"
  | .refused reason => withoutPlace reason

abbrev Decoded (α : Type) := Except DecodeFault α

/--
Refuses a value because of its type, or because the text goes wrong inside of it.
-/
def wrongType (value : Json) (expected : String) : DecodeFault :=
  match value with
  | .null => .wrongType .null expected
  | .boolean value => .wrongType (.boolean value) expected
  | .number numeral =>
    match numeral.value? with
    | some value => .wrongType (.number value) expected
    | none => .malformed
  | .text (some content) => .wrongType (.text content) expected
  | .text none => .malformed
  | .array _ => .wrongType .sequence expected
  | .object _ => .wrongType .map expected
  | .broken => .malformed

def decodeText : Json → Decoded String
  | .text (some content) => .ok content
  | value => .error (wrongType value "a string")

def decodeBoolean : Json → Decoded Bool
  | .boolean value => .ok value
  | value => .error (wrongType value "a boolean")

def decodeItems (item : Json → Decoded α) : List Json → Decoded (List α)
  | [] => .ok []
  | value :: rest => do
    let a ← item value
    let as ← decodeItems item rest
    return a :: as

def decodeList (item : Json → Decoded α) : Json → Decoded (List α)
  | .array items => decodeItems item items
  | value => .error (wrongType value "a sequence")

def ignore (value : Json) : Decoded Unit :=
  if value.intact then .ok () else .error .malformed

def decode (data : Json → Decoded α) (text : String) : Decoded α := do
  let document := read text
  -- what is wrong with the value comes before what is wrong with the text behind it
  let a ← data document.value
  if document.complete then return a else .error .malformed

end Json

end DartBundle
