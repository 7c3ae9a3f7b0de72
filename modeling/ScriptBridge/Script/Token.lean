import ScriptBridge.Script.Syntax
import ScriptBridge.Text.Identifier

/-!
# Tokens of scripts

A script is a sequence of names, quoted texts, numbers, patterns and marks, with blanks, line ends
and comments between them. Of these only line ends matter later, because a line end may end a
statement; each token knows whether one stands before it, and also where in the text it stands,
because functions show their text.

A slash starts a pattern or divides, depending on whether a value may stand before it.
-/

namespace ScriptBridge.Script

/-- A token. -/
inductive Token where
  | name (name : String)
  /-- A quoted text. -/
  | text (t : Text)
  | number (f : Float)
  | pattern
  | mark (mark : String)
  deriving Inhabited

/-- A token at its place. -/
structure Lexeme where
  token : Token
  /-- Whether a line ends before it. -/
  startsLine : Bool
  /-- The text from the token on. -/
  here : List Char
  /-- The text after it. -/
  after : List Char
  deriving Inhabited

namespace Token

open Numeral (isBlank isLineEnd)

/-! ## Comments -/

/-- What follows the closing of a comment, and whether a line ended in the comment. -/
def afterComment? : Bool → List Char → Option (Bool × List Char)
  | _, [] => none
  | ended, '*' :: '/' :: rest => some (ended, rest)
  | ended, c :: rest => afterComment? (ended || isLineEnd c) rest

/-! ## Quoted texts -/

/-- The number that hexadecimal digits write, up to a closing brace. -/
def bracedNumber? : Nat → List Char → Option (Nat × List Char)
  | n, '\x7d' :: rest => some (n, rest)
  | n, c :: rest => do
    let digit ← Quoted.hexValue? c
    let n := n * 16 + digit
    if n ≤ 0x10FFFF then bracedNumber? n rest else none
  | _, [] => none

/-- The units of a code point. -/
def codeUnits (n : Nat) : List Nat :=
  if n < 0x10000 then [n] else Text.unitsOf (Char.ofNat n)

/-- The units that an escape stands for, after the backslash; none for an escaped line end. -/
def escape? : List Char → Option (List Nat × List Char)
  | 'u' :: '\x7b' :: d :: rest => do
    let digit ← Quoted.hexValue? d
    let (n, rest) ← bracedNumber? digit rest
    return (codeUnits n, rest)
  | 'u' :: a :: b :: c :: d :: rest => do return ([← Quoted.hex4? a b c d], rest)
  | 'x' :: a :: b :: rest => do return ([← Quoted.hex4? '0' '0' a b], rest)
  | '\r' :: '\n' :: rest => some ([], rest)
  | '0' :: d :: rest => if d.isDigit then none else some ([0], d :: rest)
  | 'v' :: rest => some ([0x0B], rest)
  | c :: rest =>
    if c = 'u' ∨ c = 'x' ∨ c.isDigit then none
    else if isLineEnd c then some ([], rest)
    else
      match c with
      | 'b' => some ([0x08], rest)
      | 'f' => some ([0x0C], rest)
      | 'n' => some ([0x0A], rest)
      | 'r' => some ([0x0D], rest)
      | 't' => some ([0x09], rest)
      | c => some (Text.unitsOf c, rest)
  | [] => none

/-- Reads a quoted text up to its closing mark. What was read is given in reverse, as characters as
long as there are no units without one. -/
def quoted? (closing : Char) (multiline : Bool) :
    Nat → List Char → List Nat → Bool → List Char → Option (Text × List Char)
  | 0, _, _, _, _ => none
  | _, _, _, _, [] => none
  | steps + 1, chars, units, plain, c :: rest => do
    if c = closing then
      if plain then return (.whole (String.ofList chars.reverse), rest)
      else return (Text.ofUnits units.reverse, rest)
    else if (c = '\n' ∨ c = '\r') ∧ ¬ multiline then none
    else if c = '$' ∧ multiline ∧ rest.head? = some '\x7b' then none
    else if c = '\\' then
      let (more, rest) ← escape? rest
      if plain then
        match Text.characters? more with
        | some read => quoted? closing multiline steps (read.reverse ++ chars) [] true rest
        | none =>
          let units := (chars.reverse.flatMap Text.unitsOf).reverse
          quoted? closing multiline steps [] (more.reverse ++ units) false rest
      else quoted? closing multiline steps [] (more.reverse ++ units) false rest
    else if plain then quoted? closing multiline steps (c :: chars) [] true rest
    else quoted? closing multiline steps [] ((Text.unitsOf c).reverse ++ units) false rest

/-! ## Patterns -/

/-- What follows the slash that closes a pattern. Between square brackets a slash closes nothing. -/
def afterPattern? : Bool → List Char → Option (List Char)
  | _, [] => none
  | inBrackets, '\\' :: c :: rest => if isLineEnd c then none else afterPattern? inBrackets rest
  | inBrackets, c :: rest =>
    if isLineEnd c then none
    else if c = '[' then afterPattern? true rest
    else if c = ']' then afterPattern? false rest
    else if c = '/' ∧ ¬ inBrackets then some (rest.dropWhile Identifier.isPart)
    else afterPattern? inBrackets rest

/-! ## Marks -/

/-- All marks. Of two that a text starts with, the longer one stands first. -/
def marks : List String :=
  [">>>=", "===", "!==", ">>>", "...", "**=", "<<=", ">>=", "&&=", "||=", "??=",
    "=>", "==", "!=", "<=", ">=", "&&", "||", "??", "?.", "++", "--", "+=", "-=", "*=", "/=", "%=",
    "&=", "|=", "^=", "<<", ">>", "**",
    "(", ")", "[", "]", "\x7b", "\x7d", ",", ".", ";", ":", "?", "+", "-", "*", "/", "%", "&", "|",
    "^", "!", "~", "<", ">", "="]

/-- What follows a mark, if the text starts with it. -/
def afterMark? : List Char → List Char → Option (List Char)
  | [], rest => some rest
  | c :: cs, d :: rest => if c = d then afterMark? cs rest else none
  | _ :: _, [] => none

/-- The marks with their characters. -/
def markTable : List (String × List Char) := marks.map fun sign => (sign, sign.toList)

/-- Reads a mark. -/
def mark? (chars : List Char) : Option (Token × List Char) :=
  markTable.findSome? fun (sign, cs) => (afterMark? cs chars).map fun rest => (.mark sign, rest)

/-! ## Tokens -/

/-- Words after which no value has been read yet. -/
def isOpenWord (word : String) : Bool :=
  ["return", "typeof", "delete", "void", "new", "throw", "in", "instanceof", "case", "do",
    "else"].contains word

/-- Whether a value may end with a token. -/
def endsValue : Token → Bool
  | .name word => ¬ isOpenWord word
  | .text _ | .number _ | .pattern => true
  | .mark sign => sign = ")" || sign = "]" || sign = "\x7d"

/-- Reads a number, which no digit or name may follow. -/
def number? (chars : List Char) : Option (Token × List Char) := do
  let legacy := match chars with
    | '0' :: d :: _ => d.isDigit
    | _ => false
  if legacy then none
  let (f, rest) ← Numeral.read? chars
  match rest with
  | c :: _ => if Identifier.isPart c then none else return (.number f, rest)
  | [] => return (.number f, [])

/-- Reads the token that a text starts with, in at most so many steps. -/
def token? (steps : Nat) (afterValue : Bool) (chars : List Char) : Option (Token × List Char) :=
  match chars with
  | [] => none
  | c :: rest =>
    if c = '"' ∨ c.toNat = 0x27 then
      (quoted? c false steps [] [] true rest).map fun (t, rest) => (.text t, rest)
    else if c.toNat = 0x60 then
      (quoted? c true steps [] [] true rest).map fun (t, rest) => (.text t, rest)
    else if c.isDigit ∨ (c = '.' ∧ (rest.head?.map Char.isDigit).getD false) then number? chars
    else if Identifier.isStart c then
      some (.name (String.ofList (chars.takeWhile Identifier.isPart)),
        chars.dropWhile Identifier.isPart)
    else if c = '/' ∧ ¬ afterValue then (afterPattern? false rest).map fun rest => (.pattern, rest)
    else mark? chars

/-- Reads all tokens, after those that were read, the last one first. -/
def all? : Nat → Bool → Bool → List Lexeme → List Char → Option (List Lexeme)
  | 0, _, _, _, _ => none
  | _, _, _, read, [] => some read.reverse
  | steps + 1, startsLine, afterValue, read, '/' :: '/' :: rest =>
    all? steps startsLine afterValue read (rest.dropWhile fun c => ¬ isLineEnd c)
  | steps + 1, startsLine, afterValue, read, '/' :: '*' :: rest =>
    match afterComment? startsLine rest with
    | none => none
    | some (startsLine, rest) => all? steps startsLine afterValue read rest
  | steps + 1, startsLine, afterValue, read, c :: rest =>
    if isLineEnd c then all? steps true afterValue read rest
    else if isBlank c then all? steps startsLine afterValue read rest
    else
      match token? (steps + 1) afterValue (c :: rest) with
      | none => none
      | some (token, after) =>
        all? steps false token.endsValue ({ token, startsLine, here := c :: rest, after } :: read)
          after

end Token

/-- The tokens of a text. A first line that names what runs the text is passed over. -/
def tokens? (text : String) : Option (List Lexeme) :=
  match text.toList with
  | '#' :: '!' :: rest =>
    Token.all? (text.length + 1) true false [] (rest.dropWhile fun c => ¬ Numeral.isLineEnd c)
  | chars => Token.all? (text.length + 1) true false [] chars

end ScriptBridge.Script
