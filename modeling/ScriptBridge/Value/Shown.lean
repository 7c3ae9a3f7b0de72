import ScriptBridge.Number.Layout
import ScriptBridge.Text.Shown
import ScriptBridge.Value.Basic

/-!
# Values in diagnoses

The description of a value for diagnosis: its variant with its content. How an identity is shown is
left to the caller, since identities differ from run to run.
-/

namespace ScriptBridge

/-- A callback in a diagnosis. -/
def Callback.shown (function : Callback) : String :=
  "ScriptCallback(" ++ toString function.id ++ ")"

/-- A native object in a diagnosis. -/
def ObjectRef.shown (showIdentity : Nat → String) (object : ObjectRef) : String :=
  "NativeRef \x7b type: " ++ ScriptBridge.shown object.typeName ++ ", identity: " ++
    showIdentity object.identity ++ " \x7d"

namespace Value

mutual

/-- A value in a diagnosis. -/
def shown (showIdentity : Nat → String) : Value → String
  | .undefined => "Undefined"
  | .null => "Null"
  | .bool b => "Bool(" ++ (if b then "true" else "false") ++ ")"
  | .int n => "Int(" ++ toString n.toInt ++ ")"
  | .float f => "Float(" ++ NumberLayout.shown.print f ++ ")"
  | .string s => "String(" ++ ScriptBridge.shown s ++ ")"
  | .date t => "Date(" ++ t.printShown ++ ")"
  | .bytes octets => "Bytes([" ++ ", ".intercalate (octets.map (toString ·.toNat)) ++ "])"
  | .array items => "Array([" ++ ", ".intercalate (shownItems showIdentity items) ++ "])"
  | .object fields =>
    "Object(\x7b" ++ ", ".intercalate (shownFields showIdentity fields) ++ "\x7d)"
  | .native ref => "Native(" ++ ref.shown showIdentity ++ ")"
  | .callback function => "Callback(" ++ function.shown ++ ")"
  | .described text => "Opaque(" ++ ScriptBridge.shown text ++ ")"

/-- Items in a diagnosis. -/
def shownItems (showIdentity : Nat → String) : List Value → List String
  | [] => []
  | item :: items => shown showIdentity item :: shownItems showIdentity items

/-- Fields in a diagnosis. -/
def shownFields (showIdentity : Nat → String) : List (String × Value) → List String
  | [] => []
  | (key, value) :: fields =>
    (ScriptBridge.shown key ++ ": " ++ shown showIdentity value) :: shownFields showIdentity fields

end

end Value

end ScriptBridge
