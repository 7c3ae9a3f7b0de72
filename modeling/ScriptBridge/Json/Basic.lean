import ScriptBridge.Table
import ScriptBridge.Number.Binary64

/-!
# Data trees

The values of the data format in which messages and settings travel. Whole numbers that fit a
signed or an unsigned 64-bit word stay integers and all other numbers are doubles. The fields of an
object are kept in key order, each key once.
-/

namespace ScriptBridge

/-- A value of the data format. -/
inductive Json where
  | null
  | bool (b : Bool)
  | int (n : Int)
  | float (f : Float)
  | string (s : String)
  | array (items : List Json)
  | object (fields : List (String × Json))
  deriving Inhabited

namespace Json

/-- An object of fields in any order, the last field of a key counting. -/
def ofFields (fields : List (String × Json)) : Json := .object (Entries.ofList fields)

/-- The fields, if the value is an object. -/
def fields? : Json → Option (List (String × Json))
  | .object fields => some fields
  | _ => none

/-- The text, if the value is a string. -/
def string? : Json → Option String
  | .string s => some s
  | _ => none

/-- A field of an object. -/
def field? (json : Json) (key : String) : Option Json :=
  json.fields?.bind (Entries.find? key)

/-- How deep arrays and objects nest. -/
def depth : Json → Nat
  | .array items => depths items + 1
  | .object fields => fieldDepths fields + 1
  | _ => 0
where
  /-- The greatest depth among items. -/
  depths : List Json → Nat
    | [] => 0
    | item :: rest => max item.depth (depths rest)
  /-- The greatest depth among fields. -/
  fieldDepths : List (String × Json) → Nat
    | [] => 0
    | (_, value) :: rest => max value.depth (fieldDepths rest)

end Json

end ScriptBridge
