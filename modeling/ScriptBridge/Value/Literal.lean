import ScriptBridge.Number.Layout
import ScriptBridge.Text.Quoted
import ScriptBridge.Text.Utf8
import ScriptBridge.Value.Basic

/-!
# Values as script literals

A value is written as an expression of the script language. Two parts of that are left open: an
*engine* may claim values for literals of its own, before anything else looks at them, and a
*resolver* says how a native object is referred to. The resolver keeps a state, because referring to
an object for the first time may give it a name; it is asked once for each occurrence, from left to
right.
-/

namespace ScriptBridge

/-- Literals that an engine claims for itself. -/
abbrev EngineLiterals := Value → Option String

namespace EngineLiterals

/-- An engine without literals of its own. -/
def plain : EngineLiterals := fun _ => none

/-- An engine that has typed arrays of octets. -/
def typedArrays : EngineLiterals
  | .bytes octets =>
    some ("new Uint8Array([" ++ ", ".intercalate (octets.map (toString ·.toNat)) ++ "])")
  | _ => none

end EngineLiterals

/-- How native objects are referred to. -/
abbrev Resolver (σ : Type) := ObjectRef → StateM σ String

/-- What stands for an object where references do not exist: text that names its type. -/
def unresolved (object : ObjectRef) : String := quote ("[native " ++ object.typeName ++ "]")

namespace Value

/-- The literal of a value that holds no others. -/
def leafLiteral : Value → String
  | .null => "null"
  | .bool true => "true"
  | .bool false => "false"
  | .int n => toString n.toInt
  | .float f => NumberLayout.literal.print f
  | .string s => quote s
  | .date t => quote t.printMillis
  | .bytes octets => quote (Utf8.decodeLossy octets)
  | .described text => quote text
  | _ => "undefined"

variable {σ : Type}

mutual

/-- The literal of a value. -/
def literalWith (engine : EngineLiterals) (resolve : Resolver σ) : Value → StateM σ String
  | .array items =>
    match engine (.array items) with
    | some text => pure text
    | none => do
      let texts ← itemLiterals engine resolve items
      pure ("[" ++ ", ".intercalate texts ++ "]")
  | .object fields =>
    match engine (.object fields) with
    | some text => pure text
    | none => do
      let texts ← fieldLiterals engine resolve fields
      pure ("\x7b" ++ ", ".intercalate texts ++ "\x7d")
  | .native ref =>
    match engine (.native ref) with
    | some text => pure text
    | none => resolve ref
  | value =>
    match engine value with
    | some text => pure text
    | none => pure value.leafLiteral

/-- The literals of items, in order. -/
def itemLiterals (engine : EngineLiterals) (resolve : Resolver σ) :
    List Value → StateM σ (List String)
  | [] => pure []
  | item :: items => do
    let text ← literalWith engine resolve item
    let texts ← itemLiterals engine resolve items
    pure (text :: texts)

/-- The literals of fields, in order. -/
def fieldLiterals (engine : EngineLiterals) (resolve : Resolver σ) :
    List (String × Value) → StateM σ (List String)
  | [] => pure []
  | (key, value) :: fields => do
    let text ← literalWith engine resolve value
    let texts ← fieldLiterals engine resolve fields
    pure ((quote key ++ ": " ++ text) :: texts)

end

/-- The literal of a value for an engine, without references. -/
def literalFor (engine : EngineLiterals) (value : Value) : String :=
  (literalWith engine (fun ref => pure (unresolved ref)) value : StateM Unit String).run () |>.1

/-- The literal of a value without references or literals of an engine. -/
def literal (value : Value) : String := value.literalFor .plain

end Value

end ScriptBridge
