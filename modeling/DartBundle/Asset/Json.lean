import DartBundle.Asset.Id
import DartBundle.Json.Decode
import DartBundle.Json.Layout
/-!
This module contains the JSON form of asset ids, a string that holds the written form.
-/

namespace DartBundle

namespace AssetId

def toJson (id : AssetId) : Json :=
  .text (some id.display)

def ofJson (value : Json) : Json.Decoded AssetId := do
  let text ← Json.decodeText value
  match parse text with
  | .ok id => return id
  | .error fault => .error (.refused ("invalid asset id: " ++ fault.message))

end AssetId

end DartBundle
