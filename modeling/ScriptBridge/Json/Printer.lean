import ScriptBridge.Json.Basic
import ScriptBridge.Number.Layout
import ScriptBridge.Text.Quoted

/-!
# Data trees as text

The compact printed form: no blanks, fields in key order.
-/

namespace ScriptBridge.Json

mutual

/-- A value in compact form, its doubles in a layout. -/
def printWith (layout : NumberLayout) : Json → String
  | .null => "null"
  | .bool true => "true"
  | .bool false => "false"
  | .int n => toString n
  | .float f => layout.print f
  | .string s => quote s
  | .array [] => "[]"
  | .array (item :: items) => "[" ++ printWith layout item ++ printItems layout items
  | .object [] => "\x7b\x7d"
  | .object ((key, value) :: fields) =>
    "\x7b" ++ quote key ++ ":" ++ printWith layout value ++ printFields layout fields

/-- The items after the first, and the closing bracket. -/
def printItems (layout : NumberLayout) : List Json → String
  | [] => "]"
  | item :: items => "," ++ printWith layout item ++ printItems layout items

/-- The fields after the first, and the closing brace. -/
def printFields (layout : NumberLayout) : List (String × Json) → String
  | [] => "\x7d"
  | (key, value) :: fields =>
    "," ++ quote key ++ ":" ++ printWith layout value ++ printFields layout fields

end

/-- A value in compact form. -/
def print (json : Json) : String := json.printWith .data

end ScriptBridge.Json
