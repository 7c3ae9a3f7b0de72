import ScriptBridge.Script.Token

/-!
# The grammar of scripts

How tokens make up expressions and statements. A script is read as a whole before any of it runs, so
a faulty script does nothing. A statement ends at a semicolon, before a closing brace, at the end of
the script, or at the end of a line if what follows could not go on with it.

The grammar is that of expressions with all operators, of functions, and of the statements that
declare, branch, throw and catch; scripts have no loops. Reading is in terms of what is left: each
function takes the tokens from some place on and gives what it read and the tokens after it. The
number of steps bounds the recursion, and a multiple of the number of tokens always suffices.
-/

namespace ScriptBridge.Script

/-- What is allowed where something is read. -/
structure Rules where
  /-- Whether the strict rules hold. -/
  strict : Bool
  /-- Whether it stands in a function, which it may give the result of. -/
  inFunction : Bool := false

namespace Grammar

/-! ## Words -/

/-- Words that are never names. -/
def reserved : List String :=
  ["break", "case", "catch", "class", "const", "continue", "debugger", "default", "delete", "do",
    "else", "enum", "export", "extends", "false", "finally", "for", "function", "if", "import",
    "in", "instanceof", "new", "null", "return", "super", "switch", "this", "throw", "true", "try",
    "typeof", "var", "void", "while", "with"]

/-- Words that are no names under the strict rules. -/
def reservedStrictly : List String :=
  ["implements", "interface", "let", "package", "private", "protected", "public", "static", "yield"]

/-- Whether a word may be used as a name. -/
def Rules.allows (rules : Rules) (word : String) : Bool :=
  ¬ reserved.contains word && ¬ (rules.strict && reservedStrictly.contains word)

/-- Whether a name may be given something. -/
def Rules.binds (rules : Rules) (word : String) : Bool :=
  Rules.allows rules word && ¬ (rules.strict && (word = "eval" || word = "arguments"))

/-! ## Marks -/

/-- What follows a mark, if tokens start with it. -/
def afterMark? (mark : String) : List Lexeme → Option (List Lexeme)
  | { token := .mark other, .. } :: rest => if mark = other then some rest else none
  | _ => none

/-- What follows a word, if tokens start with it. -/
def afterWord? (word : String) : List Lexeme → Option (List Lexeme)
  | { token := .name other, .. } :: rest => if word = other then some rest else none
  | _ => none

/-- Whether tokens go on in the same line. -/
def sameLine : List Lexeme → Bool
  | lexeme :: _ => ¬ lexeme.startsLine
  | [] => false

/-- What follows the end of a statement. -/
def afterEnd? (lexemes : List Lexeme) : Option (List Lexeme) :=
  match lexemes with
  | [] => some []
  | lexeme :: rest =>
    match lexeme.token with
    | .mark ";" => some rest
    | .mark "\x7d" => some lexemes
    | _ => if lexeme.startsLine then some lexemes else none

/-- The text between two places. -/
def textBetween (here after : List Char) : String :=
  String.ofList (here.take (here.length - after.length))

/-! ## Operators -/

/-- The operator of a token between two operands, with how strongly it binds. -/
def binaryOp? : Token → Option (Nat × (Expr → Expr → Expr))
  | .mark mark =>
    match mark with
    | "??" => some (1, .short .fallback)
    | "||" => some (2, .short .either)
    | "&&" => some (3, .short .both)
    | "|" => some (4, .binary .bitOr)
    | "^" => some (5, .binary .bitXor)
    | "&" => some (6, .binary .bitAnd)
    | "==" => some (7, .binary .equal)
    | "!=" => some (7, .binary .notEqual)
    | "===" => some (7, .binary .identical)
    | "!==" => some (7, .binary .notIdentical)
    | "<" => some (8, .binary .less)
    | "<=" => some (8, .binary .lessEqual)
    | ">" => some (8, .binary .greater)
    | ">=" => some (8, .binary .greaterEqual)
    | "<<" => some (9, .binary .shiftLeft)
    | ">>" => some (9, .binary .shiftRight)
    | ">>>" => some (9, .binary .shiftRightUnsigned)
    | "+" => some (10, .binary .add)
    | "-" => some (10, .binary .subtract)
    | "*" => some (11, .binary .multiply)
    | "/" => some (11, .binary .divide)
    | "%" => some (11, .binary .remainder)
    | _ => none
  | .name "in" => some (8, .binary .isIn)
  | .name "instanceof" => some (8, .binary .isInstance)
  | _ => none

/-- The operator of an assignment that makes use of the old value. -/
def updateOp? : String → Option BinaryOp
  | "+=" => some .add
  | "-=" => some .subtract
  | "*=" => some .multiply
  | "/=" => some .divide
  | "%=" => some .remainder
  | "**=" => some .power
  | "&=" => some .bitAnd
  | "|=" => some .bitOr
  | "^=" => some .bitXor
  | "<<=" => some .shiftLeft
  | ">>=" => some .shiftRight
  | ">>>=" => some .shiftRightUnsigned
  | _ => none

/-- The operator before an operand. -/
def unaryOp? : Token → Option UnaryOp
  | .name "typeof" => some .typeof
  | .name "void" => some .void
  | .mark "!" => some .not
  | .mark "-" => some .minus
  | .mark "+" => some .plus
  | .mark "~" => some .invert
  | _ => none

/-- Whether an expression says where something is kept. -/
def isTarget (rules : Rules) : Expr → Bool
  | .member _ _ => true
  | .name word => Rules.binds rules word
  | _ => false

/-! ## Parameters -/

/-- Reads the names of parameters up to the closing mark, after those that were read. -/
def params? (rules : Rules) :
    Nat → List String → List Lexeme → Option (List String × List Lexeme)
  | 0, _, _ => none
  | steps + 1, read, lexemes =>
    match afterMark? ")" lexemes with
    | some rest => some (read.reverse, rest)
    | none =>
      match lexemes with
      | { token := .name word, .. } :: rest =>
        if ¬ Rules.binds rules word then none
        else
          match afterMark? "," rest with
          | some rest => params? rules steps (word :: read) rest
          | none => (afterMark? ")" rest).map fun rest => ((word :: read).reverse, rest)
      | _ => none

/-- Reads the parameters of an arrow and the arrow. -/
def arrow? (rules : Rules) (steps : Nat) : List Lexeme → Option (List String × List Lexeme)
  | { token := .name word, .. } :: { token := .mark "=>", startsLine := false, .. } :: rest =>
    if Rules.binds rules word then some ([word], rest) else none
  | { token := .mark "(", .. } :: rest =>
    match params? rules steps [] rest with
    | some (names, { token := .mark "=>", startsLine := false, .. } :: rest) => some (names, rest)
    | _ => none
  | _ => none

/-- Whether the code of a function starts by asking for the strict rules. -/
def asksForStrict : List Lexeme → Bool
  | { token := .text (.whole "use strict"), .. } :: rest => (afterEnd? rest).isSome
  | _ => false

/-! ## Expressions and statements -/

mutual

/-- Reads an expression. -/
def expression? (rules : Rules) : Nat → List Lexeme → Option (Expr × List Lexeme)
  | 0, _ => none
  | steps + 1, lexemes =>
    match assignment? rules steps lexemes with
    | none => none
    | some (e, rest) => sequence? rules steps e rest

/-- Reads the expressions that follow one after commas. -/
def sequence? (rules : Rules) : Nat → Expr → List Lexeme → Option (Expr × List Lexeme)
  | 0, _, _ => none
  | steps + 1, e, lexemes =>
    match afterMark? "," lexemes with
    | none => some (e, lexemes)
    | some rest =>
      match assignment? rules steps rest with
      | none => none
      | some (next, rest) => sequence? rules steps (.sequence e next) rest

/-- Reads an expression without commas. -/
def assignment? (rules : Rules) : Nat → List Lexeme → Option (Expr × List Lexeme)
  | 0, _ => none
  | steps + 1, lexemes =>
    match arrow? rules steps lexemes with
    | some (names, rest) => arrowBody? rules steps lexemes names rest
    | none => do
      let (left, rest) ← choice? rules steps lexemes
      match rest with
      | { token := .mark "=", .. } :: rest =>
        if ¬ isTarget rules left then none
        else
          let (value, rest) ← assignment? rules steps rest
          let value := match left with
            | .name word => value.named word
            | _ => value
          return (.assign left value, rest)
      | { token := .mark mark, .. } :: more =>
        match updateOp? mark with
        | some op =>
          if ¬ isTarget rules left then none
          else
            let (value, rest) ← assignment? rules steps more
            return (.update op left value, rest)
        | none => return (left, rest)
      | _ => return (left, rest)

/-- Reads what an arrow leads to. -/
def arrowBody? (rules : Rules) : Nat → List Lexeme → List String → List Lexeme →
    Option (Expr × List Lexeme)
  | 0, _, _, _ => none
  | steps + 1, start, names, lexemes => do
    let here := (start.head?.map (·.here)).getD []
    match afterMark? "\x7b" lexemes with
    | some rest =>
      let strict := rules.strict || asksForStrict rest
      let (body, after, rest) ← body? { rules with strict, inFunction := true } steps [] rest
      return (.function (.mk "" names body strict true (textBetween here after)), rest)
    | none =>
      let (value, rest) ← assignment? rules steps lexemes
      let after := (rest.head?.map (·.here)).getD []
      let code := .mk "" names [.give value] rules.strict true (textBetween here after)
      return (.function code, rest)

/-- Reads a choice between two expressions, or an expression without such. -/
def choice? (rules : Rules) : Nat → List Lexeme → Option (Expr × List Lexeme)
  | 0, _ => none
  | steps + 1, lexemes => do
    let (condition, rest) ← operands? rules steps 1 lexemes
    match afterMark? "?" rest with
    | none => return (condition, rest)
    | some rest =>
      let (yes, rest) ← assignment? rules steps rest
      let (no, rest) ← assignment? rules steps (← afterMark? ":" rest)
      return (.choice condition yes no, rest)

/-- Reads operands with operators that bind at least so strongly between them. -/
def operands? (rules : Rules) : Nat → Nat → List Lexeme → Option (Expr × List Lexeme)
  | 0, _, _ => none
  | steps + 1, least, lexemes => do
    let (left, rest) ← unary? rules steps lexemes
    further? rules steps least left rest

/-- Reads operators and operands that follow an operand. -/
def further? (rules : Rules) : Nat → Nat → Expr → List Lexeme → Option (Expr × List Lexeme)
  | 0, _, _, _ => none
  | steps + 1, least, left, lexemes =>
    match lexemes with
    | [] => some (left, [])
    | lexeme :: rest =>
      match binaryOp? lexeme.token with
      | none => some (left, lexemes)
      | some (strength, op) =>
        if strength < least then some (left, lexemes)
        else
          match operands? rules steps (strength + 1) rest with
          | none => none
          | some (right, rest) => further? rules steps least (op left right) rest

/-- Reads an operand with the operators before it. -/
def unary? (rules : Rules) : Nat → List Lexeme → Option (Expr × List Lexeme)
  | 0, _ => none
  | _, [] => none
  | steps + 1, lexeme :: rest => do
    match unaryOp? lexeme.token with
    | some op =>
      let (operand, rest) ← unary? rules steps rest
      -- such an operand is no base of a power
      if (afterMark? "**" rest).isSome then none
      else return (.unary op operand, rest)
    | none =>
      match lexeme.token with
      | .name "delete" =>
        let (operand, rest) ← unary? rules steps rest
        match operand, rules.strict with
        | .name _, true => none
        | _, _ => return (.delete operand, rest)
      | .mark "++" =>
        let (target, rest) ← unary? rules steps rest
        if ¬ isTarget rules target then none
        else return (.update .subtract target (.literal (.number (-1))), rest)
      | .mark "--" =>
        let (target, rest) ← unary? rules steps rest
        if ¬ isTarget rules target then none
        else return (.update .subtract target (.literal (.number 1)), rest)
      | _ =>
        let (operand, rest) ← operand? rules steps (lexeme :: rest)
        match afterMark? "**" rest with
        | none => return (operand, rest)
        | some rest =>
          let (power, rest) ← unary? rules steps rest
          return (.binary .power operand power, rest)

/-- Reads an operand with the operators after it. -/
def operand? (rules : Rules) : Nat → List Lexeme → Option (Expr × List Lexeme)
  | 0, _ => none
  | steps + 1, lexemes => do
    let (e, rest) ← first? rules steps lexemes
    let (e, rest) ← calls? rules steps e rest
    match rest with
    | { token := .mark "++", startsLine := false, .. } :: rest =>
      if isTarget rules e then return (.advance .subtract e, rest) else none
    | { token := .mark "--", startsLine := false, .. } :: rest =>
      if isTarget rules e then return (.advance .add e, rest) else none
    | rest => return (e, rest)

/-- Reads members and calls that follow an expression. -/
def calls? (rules : Rules) : Nat → Expr → List Lexeme → Option (Expr × List Lexeme)
  | 0, _, _ => none
  | steps + 1, e, lexemes =>
    match members? rules steps e lexemes with
    | none => none
    | some (e, rest) =>
      match afterMark? "(" rest with
      | none => some (e, rest)
      | some rest =>
        match items? rules steps ")" [] rest with
        | none => none
        | some (args, rest) => calls? rules steps (.call e args) rest

/-- Reads members that follow an expression. -/
def members? (rules : Rules) : Nat → Expr → List Lexeme → Option (Expr × List Lexeme)
  | 0, _, _ => none
  | steps + 1, e, { token := .mark ".", .. } :: { token := .name word, .. } :: rest =>
    members? rules steps (.member e (.literal (.string word))) rest
  | steps + 1, e, { token := .mark "[", .. } :: rest => do
    let (key, rest) ← expression? rules steps rest
    members? rules steps (.member e key) (← afterMark? "]" rest)
  | _, e, rest => some (e, rest)

/-- Reads what an operand starts with. -/
def first? (rules : Rules) : Nat → List Lexeme → Option (Expr × List Lexeme)
  | 0, _ => none
  | _, [] => none
  | steps + 1, lexeme :: rest =>
    match lexeme.token with
    | .text t => some (.literal (.text t), rest)
    | .number f => some (.literal (.number f), rest)
    | .pattern => some (.pattern, rest)
    | .name "null" => some (.literal .null, rest)
    | .name "true" => some (.literal (.bool true), rest)
    | .name "false" => some (.literal (.bool false), rest)
    | .name "this" => some (.this, rest)
    | .name "function" => do
      let (code, rest) ← function? rules steps lexeme.here rest
      return (.function code, rest)
    | .name "new" => do
      let (maker, rest) ← first? rules steps rest
      let (maker, rest) ← members? rules steps maker rest
      match afterMark? "(" rest with
      | none => return (.make maker [], rest)
      | some rest =>
        let (args, rest) ← items? rules steps ")" [] rest
        return (.make maker args, rest)
    | .name word => if Rules.allows rules word then some (.name word, rest) else none
    | .mark "(" => do
      let (e, rest) ← expression? rules steps rest
      return (e, ← afterMark? ")" rest)
    | .mark "[" => do
      let (items, rest) ← items? rules steps "]" [] rest
      return (.list items, rest)
    | .mark "\x7b" => do
      let (fields, rest) ← fields? rules steps [] rest
      let parents := fields.filter fun
        | .parent _ => true
        | _ => false
      if 1 < parents.length then none else return (.record fields, rest)
    | .mark _ => none

/-- Reads expressions up to a closing mark, after those that were read, the last one first. -/
def items? (rules : Rules) :
    Nat → String → List Expr → List Lexeme → Option (List Expr × List Lexeme)
  | 0, _, _, _ => none
  | steps + 1, closing, read, lexemes =>
    match afterMark? closing lexemes with
    | some rest => some (read.reverse, rest)
    | none =>
      match afterMark? "," lexemes with
      | some rest =>
        -- an item of a list may be left out
        if closing ≠ "]" then none
        else items? rules steps closing (.literal .undefined :: read) rest
      | none =>
        match assignment? rules steps lexemes with
        | none => none
        | some (item, rest) =>
          match afterMark? "," rest with
          | none => (afterMark? closing rest).map fun rest => ((item :: read).reverse, rest)
          | some rest => items? rules steps closing (item :: read) rest

/-- Reads fields up to the closing brace, after those that were read, the last one first. -/
def fields? (rules : Rules) : Nat → List Field → List Lexeme → Option (List Field × List Lexeme)
  | 0, _, _ => none
  | steps + 1, read, lexemes =>
    match afterMark? "\x7d" lexemes with
    | some rest => some (read.reverse, rest)
    | none =>
      match field? rules steps lexemes with
      | none => none
      | some (field, rest) =>
        match afterMark? "," rest with
        | none => (afterMark? "\x7d" rest).map fun rest => ((field :: read).reverse, rest)
        | some rest => fields? rules steps (field :: read) rest

/-- Reads a field. -/
def field? (rules : Rules) : Nat → List Lexeme → Option (Field × List Lexeme)
  | 0, _ => none
  | _, [] => none
  | steps + 1, lexeme :: rest => do
    let shown : Option Text := match lexeme.token with
      | .name word => some (Text.whole word)
      | .text t => some t
      | .number f => some (Text.whole (Numeral.print f))
      | _ => none
    match shown with
    | some key =>
      match afterMark? ":" rest with
      | some rest =>
        let (value, rest) ← assignment? rules steps rest
        if key = Text.whole "__proto__" then return (.parent value, rest)
        else
          let value := match key with
            | .whole word => value.named word
            | .broken _ => value
          return (.value (.literal (.text key)) value, rest)
      | none =>
        match afterMark? "(" rest with
        | some _ =>
          let (code, rest) ← method? rules steps lexeme.here rest
          let code := code.named (key.whole?.getD "")
          return (.value (.literal (.text key)) (.function code), rest)
        | none =>
          match lexeme.token with
          | .name word =>
            if Rules.allows rules word then
              return (.value (.literal (.string word)) (.name word), rest)
            else none
          | _ => none
    | none =>
      let (key, rest) ← expression? rules steps (← afterMark? "[" (lexeme :: rest))
      let rest ← afterMark? "]" rest
      let (value, rest) ← assignment? rules steps (← afterMark? ":" rest)
      return (.value key value, rest)

/-- Reads a function after its first word: its name, if it has one, and the rest. -/
def function? (rules : Rules) : Nat → List Char → List Lexeme → Option (Code × List Lexeme)
  | 0, _, _ => none
  | steps + 1, here, lexemes => do
    match lexemes with
    | { token := .name word, .. } :: rest =>
      if ¬ Rules.binds rules word then none
      else
        let (code, rest) ← method? rules steps here rest
        return (code.named word, rest)
    | lexemes => method? rules steps here lexemes

/-- Reads the parameters and the statements of a function. -/
def method? (rules : Rules) : Nat → List Char → List Lexeme → Option (Code × List Lexeme)
  | 0, _, _ => none
  | steps + 1, here, lexemes => do
    let (names, rest) ← params? rules steps [] (← afterMark? "(" lexemes)
    let rest ← afterMark? "\x7b" rest
    let strict := rules.strict || asksForStrict rest
    let (body, after, rest) ← body? { rules with strict, inFunction := true } steps [] rest
    return (.mk "" names body strict false (textBetween here after), rest)

/-- Reads statements up to a closing brace, after those that were read, the last one first; also
gives the text after the brace. -/
def body? (rules : Rules) :
    Nat → List Statement → List Lexeme → Option (List Statement × List Char × List Lexeme)
  | 0, _, _ => none
  | _, _, [] => none
  | steps + 1, read, lexeme :: rest =>
    match lexeme.token with
    | .mark "\x7d" => some (read.reverse, lexeme.after, rest)
    | _ =>
      match statement? rules steps (lexeme :: rest) with
      | none => none
      | some (statements, rest) => body? rules steps (statements.reverse ++ read) rest

/-- Reads a statement, which may declare several names and so be several. -/
def statement? (rules : Rules) : Nat → List Lexeme → Option (List Statement × List Lexeme)
  | 0, _ => none
  | _, [] => none
  | steps + 1, lexeme :: rest => do
    match lexeme.token with
    | .mark ";" => return ([.empty], rest)
    | .mark "\x7b" =>
      let (body, _, rest) ← body? rules steps [] rest
      return ([.block body], rest)
    | .name "var" => declarations? rules steps [] rest
    | .name "const" => declarations? rules steps [] rest
    | .name "function" =>
      match rest with
      | { token := .name word, .. } :: _ =>
        let (code, rest) ← function? rules steps lexeme.here rest
        return ([.function word code], rest)
      | _ => none
    | .name "if" =>
      let (condition, rest) ← expression? rules steps (← afterMark? "(" rest)
      let (yes, rest) ← statement? rules steps (← afterMark? ")" rest)
      match afterWord? "else" rest with
      | none => return ([.branch condition (.block yes) .empty], rest)
      | some rest =>
        let (no, rest) ← statement? rules steps rest
        return ([.branch condition (.block yes) (.block no)], rest)
    | .name "return" =>
      if ¬ rules.inFunction then none
      else
        match afterEnd? rest with
        | some rest => return ([.give (.literal .undefined)], rest)
        | none =>
          let (value, rest) ← expression? rules steps rest
          return ([.give value], ← afterEnd? rest)
    | .name "throw" =>
      if ¬ sameLine rest then none
      else
        let (value, rest) ← expression? rules steps rest
        return ([.throw value], ← afterEnd? rest)
    | .name "try" => attempt? rules steps rest
    | .name "debugger" => return ([.empty], ← afterEnd? rest)
    | .name "let" =>
      match rest, rules.strict with
      | { token := .name _, .. } :: _, _ => declarations? rules steps [] rest
      | _, true => none
      | _, false =>
        let (e, rest) ← expression? rules steps (lexeme :: rest)
        return ([.expr e], ← afterEnd? rest)
    | token =>
      match token, rest with
      | .name word, { token := .mark ":", .. } :: rest =>
        if Rules.allows rules word then statement? rules steps rest else none
      | _, _ =>
        let (e, rest) ← expression? rules steps (lexeme :: rest)
        return ([.expr e], ← afterEnd? rest)

/-- Reads declarations, after those that were read, the last one first. -/
def declarations? (rules : Rules) :
    Nat → List Statement → List Lexeme → Option (List Statement × List Lexeme)
  | 0, _, _ => none
  | steps + 1, read, { token := .name word, .. } :: rest => do
    if ¬ Rules.binds rules word then none
    else
      let (statement, rest) ← match afterMark? "=" rest with
        | none => pure (Statement.declare word, rest)
        | some rest => do
          let (value, rest) ← assignment? rules steps rest
          pure (Statement.define word (value.named word), rest)
      match afterMark? "," rest with
      | some rest => declarations? rules steps (statement :: read) rest
      | none => return ((statement :: read).reverse, ← afterEnd? rest)
  | _, _, _ => none

/-- Reads statements that may throw, after the first word, and what is done then. -/
def attempt? (rules : Rules) : Nat → List Lexeme → Option (List Statement × List Lexeme)
  | 0, _ => none
  | steps + 1, lexemes => do
    let (body, _, rest) ← body? rules steps [] (← afterMark? "\x7b" lexemes)
    let (caught, handler, handles, rest) ← match afterWord? "catch" rest with
      | none => pure ("", [], false, rest)
      | some rest => do
        let (caught, rest) ← match rest with
          | { token := .mark "(", .. } :: { token := .name word, .. } :: rest => do
            if ¬ Rules.binds rules word then none
            else pure (word, ← afterMark? ")" rest)
          | rest => pure ("", rest)
        let (handler, _, rest) ← body? rules steps [] (← afterMark? "\x7b" rest)
        pure (caught, handler, true, rest)
    match afterWord? "finally" rest with
    | some rest =>
      let (last, _, rest) ← body? rules steps [] (← afterMark? "\x7b" rest)
      return ([.attempt body caught handler last handles], rest)
    | none => if handles then return ([.attempt body caught handler [] true], rest) else none

end

/-! ## Scripts -/

/-- How deep brackets stand inside each other, of those that are open and have been. -/
def nesting : Nat → Nat → List Lexeme → Nat
  | _, deepest, [] => deepest
  | depth, deepest, lexeme :: rest =>
    match lexeme.token with
    | .mark mark =>
      if mark = "(" ∨ mark = "[" ∨ mark = "\x7b" then
        nesting (depth + 1) (max deepest (depth + 1)) rest
      else if mark = ")" ∨ mark = "]" ∨ mark = "\x7d" then nesting (depth - 1) deepest rest
      else nesting depth deepest rest
    | _ => nesting depth deepest rest

/-- How deep brackets may stand inside each other. -/
def nestingLimit : Nat := 200

/-- Reads statements up to the end, after those that were read, the last one first. -/
def all? (rules : Rules) (bound : Nat) :
    Nat → List Statement → List Lexeme → Option (List Statement)
  | _, read, [] => some read.reverse
  | 0, _, _ => none
  | steps + 1, read, lexemes =>
    match statement? rules bound lexemes with
    | none => none
    | some (statements, rest) => all? rules bound steps (statements.reverse ++ read) rest

end Grammar

/-- Reads a script, which becomes the code of a function without parameters. -/
def parse? (strict : Bool) (text : String) : Option Code := do
  let lexemes ← tokens? text
  if Grammar.nestingLimit < Grammar.nesting 0 0 lexemes then none
  else
    let strict := strict || Grammar.asksForStrict lexemes
    let body ← Grammar.all? { strict } (16 * lexemes.length + 16) (lexemes.length + 1) [] lexemes
    return .mk "" [] body strict false text

end ScriptBridge.Script
