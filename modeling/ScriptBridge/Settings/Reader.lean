import ScriptBridge.Json.Reader
import ScriptBridge.Settings.Basic

/-!
# Settings from text

Settings are read straight from text, setting by setting, and each kind of setting admits only its
own form of value. A record of settings is an object or an array. In an object unknown keys are
passed over and a known key may stand once; in an array the settings stand in order and trailing
ones may be missing. A setting that is not given keeps its default.
-/

namespace ScriptBridge

open Json.Reader (dropBlanks)

namespace Settings

/-- Reads a value into a record and gives what follows. -/
abbrev Field (α : Type) := α → List Char → Option (α × List Char)

/-- A text setting. -/
def text? (chars : List Char) : Option (String × List Char) :=
  match dropBlanks chars with
  | '"' :: rest => (Quoted.decode? rest).map fun (s, rest) => (String.ofList s, rest)
  | _ => none

/-- A setting that is on or off. -/
def flag? (chars : List Char) : Option (Bool × List Char) :=
  match dropBlanks chars with
  | 't' :: 'r' :: 'u' :: 'e' :: rest => some (true, rest)
  | 'f' :: 'a' :: 'l' :: 's' :: 'e' :: rest => some (false, rest)
  | _ => none

/-- The unsigned word that a number denotes, if it is written as a plain natural number. -/
def plainNatural? (number : Json.NumberText) : Option Nat :=
  let n := Json.NumberText.ofDigits number.whole
  if number.negative ∨ number.fraction.isSome ∨ number.exponent.isSome then none
  else if n ≤ Json.NumberText.greatestUnsigned then some n
  else none

/-- A limit: null or an unsigned word. -/
def limit? (chars : List Char) : Option (Option Nat × List Char) :=
  match dropBlanks chars with
  | 'n' :: 'u' :: 'l' :: 'l' :: rest => some (none, rest)
  | chars => do
    let (number, rest) ← Json.NumberText.scan? chars
    let n ← plainNatural? number
    return (some n, rest)

/-- Reads the fields of an object and the closing brace, `seen` being the known keys so far. -/
def members? {α : Type} (fields : List (String × Field α)) :
    Nat → List String → α → List Char → Option (α × List Char)
  | 0, _, _, _ => none
  | calls + 1, seen, record, chars => do
    let (key, rest) ← text? chars
    match dropBlanks rest with
    | ':' :: rest =>
      let (record, seen, rest) ←
        match fields.find? fun field => field.1 = key with
        | some field =>
          if seen.contains key then none
          else (field.2 record rest).map fun (record, rest) => (record, key :: seen, rest)
        | none => (Json.Reader.skip? rest).map fun rest => (record, seen, rest)
      match dropBlanks rest with
      | '}' :: rest => some (record, rest)
      | ',' :: rest => members? fields calls seen record rest
      | _ => none
    | _ => none

/-- Reads the items of an array and the closing bracket. -/
def items? {α : Type} : List (String × Field α) → α → List Char → Option (α × List Char)
  | [], _, _ => none
  | (_, field) :: fields, record, chars => do
    let (record, rest) ← field record chars
    match dropBlanks rest with
    | ']' :: rest => some (record, rest)
    | ',' :: rest => items? fields record rest
    | _ => none

/-- Reads a record, starting from its defaults. -/
def record? {α : Type} (fields : List (String × Field α)) (defaults : α) (chars : List Char) :
    Option (α × List Char) :=
  match dropBlanks chars with
  | '{' :: rest =>
    match dropBlanks rest with
    | '}' :: rest => some (defaults, rest)
    | rest => members? fields (rest.length + 1) [] defaults rest
  | '[' :: rest =>
    match dropBlanks rest with
    | ']' :: rest => some (defaults, rest)
    | rest => items? fields defaults rest
  | _ => none

/-- The limits of the engine, in order. -/
def engineFields : List (String × Field EngineLimits) :=
  [(settingKeys.memory, fun limits chars =>
      (limit? chars).map fun (memory, rest) => ({ limits with memory }, rest)),
    (settingKeys.stack, fun limits chars =>
      (limit? chars).map fun (stack, rest) => ({ limits with stack }, rest))]

/-- The settings, in order. -/
def fields : List (String × Field Settings) :=
  [(settingKeys.logLevel, fun settings chars =>
      (text? chars).map fun (logLevel, rest) => ({ settings with logLevel }, rest)),
    (settingKeys.urlPrefix, fun settings chars =>
      (text? chars).map fun (urlPrefix, rest) => ({ settings with urlPrefix }, rest)),
    (settingKeys.traceMessages, fun settings chars =>
      (flag? chars).map fun (traceMessages, rest) => ({ settings with traceMessages }, rest)),
    (settingKeys.engine, fun settings chars =>
      (record? engineFields {} chars).map fun (engine, rest) => ({ settings with engine }, rest))]

/-- The settings that a text gives. -/
def parse? (text : String) : Option Settings := do
  let (settings, rest) ← record? fields {} text.toList
  match dropBlanks rest with
  | [] => return settings
  | _ => none

end Settings

end ScriptBridge
