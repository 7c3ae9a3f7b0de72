import ScriptBridge.Json.NumberText
import ScriptBridge.Text.Quoted

/-!
# Data trees from text

A reader by recursive descent on lists of characters. Every call takes at least one character, so
the length of the text bounds the calls; nesting is bounded separately, because a limit on it is
part of the format's contract here.

`Json.parse?` reads a whole text. `Reader.skip?` passes over a value whose meaning is not wanted:
it checks the grammar, but no number is converted, no surrogate paired and no depth limited.
-/

namespace ScriptBridge.Json

namespace Reader

/-- Blanks of the data format. -/
def isBlank (c : Char) : Bool := c = ' ' ∨ c = '\n' ∨ c = '\t' ∨ c = '\r'

/-- What follows leading blanks. -/
def dropBlanks (text : List Char) : List Char := text.dropWhile isBlank

mutual

/-- Reads one value of limited depth. -/
def value? : Nat → Nat → List Char → Option (Json × List Char)
  | 0, _, _ => none
  | calls + 1, depth, text =>
    match dropBlanks text with
    | 'n' :: 'u' :: 'l' :: 'l' :: rest => some (.null, rest)
    | 't' :: 'r' :: 'u' :: 'e' :: rest => some (.bool true, rest)
    | 'f' :: 'a' :: 'l' :: 's' :: 'e' :: rest => some (.bool false, rest)
    | '"' :: rest => (Quoted.decode? rest).map fun (s, rest) => (.string (String.ofList s), rest)
    | '[' :: rest =>
      match depth with
      | 0 => none
      | depth + 1 =>
        match dropBlanks rest with
        | ']' :: rest => some (.array [], rest)
        | rest => (items? calls depth rest).map fun (items, rest) => (.array items, rest)
    | '{' :: rest =>
      match depth with
      | 0 => none
      | depth + 1 =>
        match dropBlanks rest with
        | '}' :: rest => some (.object [], rest)
        | rest => (fields? calls depth rest).map fun (fields, rest) => (ofFields fields, rest)
    | rest => do
      let (number, rest) ← NumberText.scan? rest
      let value ← number.value?
      return (value, rest)

/-- Reads the items of an array, of which there is one, and the closing bracket. -/
def items? : Nat → Nat → List Char → Option (List Json × List Char)
  | 0, _, _ => none
  | calls + 1, depth, text => do
    let (item, rest) ← value? calls depth text
    match dropBlanks rest with
    | ']' :: rest => some ([item], rest)
    | ',' :: rest =>
      let (items, rest) ← items? calls depth rest
      return (item :: items, rest)
    | _ => none

/-- Reads the fields of an object, of which there is one, and the closing brace. -/
def fields? : Nat → Nat → List Char → Option (List (String × Json) × List Char)
  | 0, _, _ => none
  | calls + 1, depth, text => do
    match dropBlanks text with
    | '"' :: rest =>
      let (key, rest) ← Quoted.decode? rest
      match dropBlanks rest with
      | ':' :: rest =>
        let (value, rest) ← value? calls depth rest
        match dropBlanks rest with
        | '}' :: rest => some ([(String.ofList key, value)], rest)
        | ',' :: rest =>
          let (fields, rest) ← fields? calls depth rest
          return ((String.ofList key, value) :: fields, rest)
        | _ => none
      | _ => none
    | _ => none

end

/-- What is still open while a value is passed over. -/
inductive Open where
  | array
  | object
  deriving DecidableEq

/-- Passes over a value, given what is open around it, and over what closes all of that. -/
def skipIn? : Nat → List Open → List Char → Option (List Char)
  | 0, _, _ => none
  | calls + 1, stack, text =>
    match dropBlanks text with
    | 'n' :: 'u' :: 'l' :: 'l' :: rest => close? calls stack rest
    | 't' :: 'r' :: 'u' :: 'e' :: rest => close? calls stack rest
    | 'f' :: 'a' :: 'l' :: 's' :: 'e' :: rest => close? calls stack rest
    | '"' :: rest => do close? calls stack (← Quoted.skip? rest)
    | '[' :: rest =>
      match dropBlanks rest with
      | ']' :: rest => close? calls stack rest
      | rest => skipIn? calls (.array :: stack) rest
    | '{' :: rest =>
      match dropBlanks rest with
      | '}' :: rest => close? calls stack rest
      | rest => do skipIn? calls (.object :: stack) (← key? rest)
    | rest => do
      let (_, rest) ← NumberText.scan? rest
      close? calls stack rest
where
  /-- Passes over a key and its colon. -/
  key? (text : List Char) : Option (List Char) :=
    match dropBlanks text with
    | '"' :: rest => do
      match dropBlanks (← Quoted.skip? rest) with
      | ':' :: rest => some rest
      | _ => none
    | _ => none
  /-- Goes on after a value: a comma and the next one, or the end of what is open. -/
  close? : Nat → List Open → List Char → Option (List Char)
    | 0, _, _ => none
    | _ + 1, [], text => some text
    | calls + 1, .array :: stack, text =>
      match dropBlanks text with
      | ']' :: rest => close? calls stack rest
      | ',' :: rest => skipIn? calls (.array :: stack) rest
      | _ => none
    | calls + 1, .object :: stack, text =>
      match dropBlanks text with
      | '}' :: rest => close? calls stack rest
      | ',' :: rest => do skipIn? calls (.object :: stack) (← key? rest)
      | _ => none

/-- Enough calls for a text. -/
def callsFor (text : List Char) : Nat := 2 * text.length + 2

/-- Passes over one value and gives what follows it. -/
def skip? (text : List Char) : Option (List Char) := skipIn? (callsFor text) [] text

theorem dropBlanks_dropBlanks (text : List Char) :
    dropBlanks (dropBlanks text) = dropBlanks text := by
  induction text with
  | nil => rfl
  | cons c text ih =>
    by_cases hc : isBlank c = true
    · have hdropped : dropBlanks (c :: text) = dropBlanks text := List.dropWhile_cons_of_pos hc
      rw [hdropped, ih]
    · have hkept : dropBlanks (c :: text) = c :: text := List.dropWhile_cons_of_neg hc
      rw [hkept, hkept]

theorem dropBlanks_blank {c : Char} (hc : isBlank c = true) (text : List Char) :
    dropBlanks (c :: text) = dropBlanks text := List.dropWhile_cons_of_pos hc

/-- Values may stand behind blanks. -/
theorem value?_dropBlanks (calls depth : Nat) (text : List Char) :
    value? calls depth (dropBlanks text) = value? calls depth text := by
  cases calls with
  | zero => rfl
  | succ calls => rw [value?, value?, dropBlanks_dropBlanks]

/-- Items may stand behind blanks. -/
theorem items?_dropBlanks (calls depth : Nat) (text : List Char) :
    items? calls depth (dropBlanks text) = items? calls depth text := by
  cases calls with
  | zero => rfl
  | succ calls => rw [items?, items?, value?_dropBlanks]

/-- Fields may stand behind blanks. -/
theorem fields?_dropBlanks (calls depth : Nat) (text : List Char) :
    fields? calls depth (dropBlanks text) = fields? calls depth text := by
  cases calls with
  | zero => rfl
  | succ calls => rw [fields?, fields?, dropBlanks_dropBlanks]

/-- Blanks before a value are passed over with it. -/
theorem skipIn?_dropBlanks (calls : Nat) (stack : List Open) (text : List Char) :
    skipIn? calls stack (dropBlanks text) = skipIn? calls stack text := by
  cases calls with
  | zero => rfl
  | succ calls => rw [skipIn?, skipIn?, dropBlanks_dropBlanks]

theorem key?_dropBlanks (text : List Char) : skipIn?.key? (dropBlanks text) = skipIn?.key? text := by
  rw [skipIn?.key?, skipIn?.key?, dropBlanks_dropBlanks]

end Reader

/-- How deep data may nest. -/
def depthLimit : Nat := 127

/-- Reads a whole text as one value of limited depth. -/
def parseWithin? (depth : Nat) (text : String) : Option Json := do
  let chars := text.toList
  let (value, rest) ← Reader.value? (Reader.callsFor chars) depth chars
  match Reader.dropBlanks rest with
  | [] => return value
  | _ => none

/-- Reads a whole text as one value. -/
def parse? (text : String) : Option Json := parseWithin? depthLimit text

end ScriptBridge.Json
