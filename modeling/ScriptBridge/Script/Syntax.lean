import ScriptBridge.Script.Numeral

/-!
# The syntax of scripts

A script is a list of statements. Expressions, statements and the code of functions contain each
other. A literal holds its value, which is why the values of the script side come first: numbers,
texts and a few singular ones, and the objects, which are known by number.
-/

namespace ScriptBridge.Script

/-! ## Values -/

/-- Names an object of the script side. -/
abbrev ObjectId := Nat

/-- What expressions yield. -/
inductive Datum where
  | undefined
  | null
  | bool (b : Bool)
  | number (f : Float)
  | text (t : Text)
  | object (id : ObjectId)
  deriving Inhabited

namespace Datum

/-- The value of a text of characters. -/
def string (s : String) : Datum := .text (.whole s)

/-- Whether there is nothing that could have members. -/
def isNothing : Datum → Bool
  | .undefined | .null => true
  | _ => false

/-- Whether a value counts as true. -/
def isTruthy : Datum → Bool
  | .undefined | .null => false
  | .bool b => b
  | .number f => ¬ (f == 0 || f.isNaN)
  | .text t => ¬ t.isEmpty
  | .object _ => true

/-- Whether two values are the same; numbers are compared as numbers. -/
def same : Datum → Datum → Bool
  | .undefined, .undefined | .null, .null => true
  | .bool a, .bool b => a = b
  | .number a, .number b => a == b
  | .text a, .text b => a = b
  | .object a, .object b => a = b
  | _, _ => false

/-- The object that a value is. -/
def object? : Datum → Option ObjectId
  | .object id => some id
  | _ => none

end Datum

/-! ## Expressions -/

/-- Operators on one operand. -/
inductive UnaryOp where
  | typeof
  | void
  | not
  | minus
  | plus
  | invert
  deriving DecidableEq, Repr

/-- Operators on two operands, both of which are evaluated. -/
inductive BinaryOp where
  | add | subtract | multiply | divide | remainder | power
  | less | lessEqual | greater | greaterEqual
  | equal | notEqual | identical | notIdentical
  | bitAnd | bitOr | bitXor | shiftLeft | shiftRight | shiftRightUnsigned
  | isIn | isInstance
  deriving DecidableEq, Repr

/-- Operators that may do without their second operand. -/
inductive ShortOp where
  | both
  | either
  /-- The second operand stands in for nothing. -/
  | fallback
  deriving DecidableEq, Repr

mutual

/-- An expression. -/
inductive Expr where
  | literal (d : Datum)
  | name (name : String)
  | this
  | list (items : List Expr)
  | record (fields : List Field)
  | function (code : Code)
  /-- A pattern that texts may match. -/
  | pattern
  | member (object key : Expr)
  | call (function : Expr) (args : List Expr)
  /-- A call that makes something. -/
  | make (function : Expr) (args : List Expr)
  | assign (target value : Expr)
  /-- Assigns what an operator makes of the old value and another one. -/
  | update (op : BinaryOp) (target value : Expr)
  /-- Adds to a number that is kept somewhere, and yields it as it was before. -/
  | advance (op : BinaryOp) (target : Expr)
  | delete (operand : Expr)
  | unary (op : UnaryOp) (operand : Expr)
  | binary (op : BinaryOp) (left right : Expr)
  | short (op : ShortOp) (left right : Expr)
  | choice (condition yes no : Expr)
  | sequence (first second : Expr)

/-- A field of a record. -/
inductive Field where
  | value (key value : Expr)
  /-- Says which object the record takes members from. -/
  | parent (value : Expr)

/-- A statement. -/
inductive Statement where
  | empty
  | expr (e : Expr)
  | declare (name : String)
  | define (name : String) (value : Expr)
  | function (name : String) (code : Code)
  | block (body : List Statement)
  | branch (condition : Expr) (yes no : Statement)
  | give (value : Expr)
  | throw (value : Expr)
  /-- Statements, what is done if they throw, and what is done in any case. -/
  | attempt (body : List Statement) (caught : String) (handler last : List Statement)
    (handles : Bool)

/-- The code of a function. -/
inductive Code where
  | mk (name : String) (params : List String) (body : List Statement) (strict arrow : Bool)
    (source : String)

end

instance : Inhabited Expr := ⟨.this⟩

instance : Inhabited Statement := ⟨.empty⟩

namespace Code

/-- The name of the function. -/
def name : Code → String
  | .mk name _ _ _ _ _ => name

/-- The names of the parameters. -/
def params : Code → List String
  | .mk _ params _ _ _ _ => params

/-- The statements of the function. -/
def body : Code → List Statement
  | .mk _ _ body _ _ _ => body

/-- Whether the strict rules hold in it. -/
def isStrict : Code → Bool
  | .mk _ _ _ strict _ _ => strict

/-- Whether it is an arrow, which has no receiver of its own. -/
def isArrow : Code → Bool
  | .mk _ _ _ _ arrow _ => arrow

/-- The text of the function. -/
def source : Code → String
  | .mk _ _ _ _ _ source => source

/-- The same code under a name, unless it has one. -/
def named (name : String) : Code → Code
  | .mk "" params body strict arrow source => .mk name params body strict arrow source
  | code => code

end Code

/-- An expression under a name: a function that has none takes it. -/
def Expr.named (name : String) : Expr → Expr
  | .function code => .function (code.named name)
  | e => e

/-! ## Declarations -/

mutual

/-- The names that a statement declares. -/
def Statement.declared : Statement → List String
  | .declare name => [name]
  | .define name _ => [name]
  | .function name _ => [name]
  | .block body => declaredIn body
  | .branch _ yes no => yes.declared ++ no.declared
  | .attempt body _ handler last _ => declaredIn body ++ declaredIn handler ++ declaredIn last
  | _ => []

/-- The names that statements declare. -/
def declaredIn : List Statement → List String
  | [] => []
  | statement :: rest => statement.declared ++ declaredIn rest

end

end ScriptBridge.Script
