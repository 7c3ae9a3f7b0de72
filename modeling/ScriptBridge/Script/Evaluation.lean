import ScriptBridge.Script.Grammar
import ScriptBridge.Script.Library

/-!
# Evaluation

How expressions and statements are evaluated, operands from left to right, and what calls do. A name
is a variable of a function around, or else a member of the global object. The code of a function
runs with variables of its own, among which are its parameters and all names that it declares.

Evaluation recurses on what is evaluated; calls are left to a machine. `machineAt` ties the knot:
the calls of code that is called are left to a machine that is one level less deep, and a call on
level 0 overflows the stack.
-/

namespace ScriptBridge.Script

/-- Where code is evaluated. -/
structure Surroundings where
  /-- The variables of the function; nothing outside functions. -/
  scope : Option ScopeId
  /-- What the function was called on. -/
  receiver : Datum
  strict : Bool

/-- Where evaluation goes on. -/
inductive Flow where
  /-- With the next statement; the last expression may have yielded something. -/
  | on (last : Option Datum)
  /-- Out of the function, with its result. -/
  | out (result : Datum)

/-! ## Variables -/

namespace Realm

/-- The scope that has a variable, looking at so many. -/
def holderOf? (realm : Realm) (name : String) : Nat → Option ScopeId → Option ScopeId
  | 0, _ | _, none => none
  | steps + 1, some id =>
    match realm.scopes[id]? with
    | none => none
    | some scope =>
      if scope.slots.any (·.1 = name) then some id else realm.holderOf? name steps scope.around

/-- The value of a variable of a scope. -/
def valueIn? (realm : Realm) (id : ScopeId) (name : String) : Option Datum := do
  let scope ← realm.scopes[id]?
  return (← scope.slots.find? (·.1 = name)).2

/-- Changes a variable of a scope. -/
def setVariable (realm : Realm) (id : ScopeId) (name : String) (d : Datum) : Realm :=
  { realm with
    scopes := realm.scopes.modify id fun scope =>
      { scope with
        slots := scope.slots.map fun entry =>
          if entry.1 = name then (name, d) else entry } }

/-- Adds a scope. -/
def addScope (realm : Realm) (slots : Array (String × Datum)) (around : Option ScopeId) :
    ScopeId × Realm :=
  (realm.scopes.size, { realm with scopes := realm.scopes.push { slots, around } })

end Realm

namespace Machine

variable (machine : Machine)

open Act

/-- The scope that has a variable. -/
def holderOf? (env : Surroundings) (name : String) : Act (Option ScopeId) := do
  let realm ← get
  return realm.holderOf? name (realm.scopes.size + 1) env.scope

/-- The global object as a value. -/
def globalDatum : Datum := .object Realm.globalObject

/-- The value of a name, if it has one. -/
def readName? (env : Surroundings) (name : String) : Act (Option Datum) := do
  let realm ← get
  match ← holderOf? env name with
  | some id => return realm.valueIn? id name
  | none =>
    match realm.find? Realm.globalObject (.whole name) with
    | none => return none
    | some member => return some (← machine.yieldOf globalDatum (some member))

/-- The value of a name. -/
def readName (env : Surroundings) (name : String) : Act Datum := do
  match ← machine.readName? env name with
  | some d => return d
  | none => fail .referenceError ((Text.whole name).shown ++ " is not defined")

/-- Assigns to a name. -/
def writeName (env : Surroundings) (name : String) (d : Datum) : Act Unit := do
  match ← holderOf? env name with
  | some id => modify fun realm => realm.setVariable id name d
  | none =>
    let known := ((← get).find? Realm.globalObject (.whole name)).isSome
    if env.strict ∧ ¬ known then
      fail .referenceError ((Text.whole name).shown ++ " is not defined")
    else machine.write env.strict globalDatum (.whole name) d

/-- Takes a name away, and says whether it is gone. -/
def deleteName (env : Surroundings) (name : String) : Act Bool := do
  match ← holderOf? env name with
  | some _ => return false
  | none => delete false globalDatum (.whole name)

/-! ## Members under evaluated keys -/

/-- Reads the member under a key. -/
def readAt (d key : Datum) : Act Datum := do
  if d.isNothing then machine.read d key.plainText else machine.read d (← machine.toText key)

/-- Assigns to the member under a key. -/
def writeAt (strict : Bool) (d key value : Datum) : Act Unit := do
  if d.isNothing then machine.write strict d key.plainText value
  else machine.write strict d (← machine.toText key) value

/-! ## Operators -/

/-- The word for what a value is. -/
def typeOf (d : Datum) : Act String := do
  match d with
  | .undefined => return "undefined"
  | .null => return "object"
  | .bool _ => return "boolean"
  | .number _ => return "number"
  | .text _ => return "string"
  | .object _ => return if ← isFunction d then "function" else "object"

/-- What an operator makes of its operand. -/
def unary (op : UnaryOp) (d : Datum) : Act Datum := do
  match op with
  | .typeof => return .string (← typeOf d)
  | .void => return .undefined
  | .not => return .bool (¬ d.isTruthy)
  | .minus => return .number (-(← machine.toNumber d))
  | .plus => return .number (← machine.toNumber d)
  | .invert => return .number (Float.ofInt (-1 - Numeral.signed32 (← machine.toNumber d)))

/-- The sum of two values, or their texts put together. -/
def sum (a b : Datum) : Act Datum := do
  let a ← machine.plain a
  let b ← machine.plain b
  match a, b with
  | .text s, b => return .text (s ++ b.plainText)
  | a, .text t => return .text (a.plainText ++ t)
  | a, b => return .number (a.plainNumber + b.plainNumber)

/-- What an operator makes of two numbers. -/
def arithmetic (f : Float → Float → Float) (a b : Datum) : Act Datum := do
  let x ← machine.toNumber a
  let y ← machine.toNumber b
  return .number (f x y)

/-- What an operator makes of two 32-bit integers. -/
def bitwise (f : BitVec 32 → BitVec 32 → BitVec 32) (a b : Datum) : Act Datum := do
  let x ← machine.toNumber a
  let y ← machine.toNumber b
  let word (z : Float) : BitVec 32 := BitVec.ofInt 32 (Numeral.wholePart z)
  return .number (Float.ofInt (f (word x) (word y)).toInt)

/-- Compares two values. -/
def compare (a b : Datum) (test : Datum → Datum → Option Bool) : Act Datum := do
  let a ← machine.plain a
  let b ← machine.plain b
  return .bool ((test a b).getD false)

/-- Whether something has a member under a key. -/
def hasMemberAt (key d : Datum) : Act Datum := do
  match d with
  | .object id =>
    let key ← machine.toText key
    return .bool ((← get).find? id key).isSome
  | _ => misuse "invalid 'in' operand"

/-- What an operator makes of its operands. -/
def binary (op : BinaryOp) (a b : Datum) : Act Datum := do
  match op with
  | .add => machine.sum a b
  | .subtract => machine.arithmetic (· - ·) a b
  | .multiply => machine.arithmetic (· * ·) a b
  | .divide => machine.arithmetic (· / ·) a b
  | .remainder => machine.arithmetic Numeral.remainder a b
  | .power => machine.arithmetic Float.pow a b
  | .less => machine.compare a b comesBefore?
  | .greater => machine.compare a b fun a b => comesBefore? b a
  | .lessEqual => machine.compare a b fun a b => (comesBefore? b a).map not
  | .greaterEqual => machine.compare a b fun a b => (comesBefore? a b).map not
  | .equal => return .bool (← machine.looselySame a b)
  | .notEqual => return .bool (¬ (← machine.looselySame a b))
  | .identical => return .bool (a.same b)
  | .notIdentical => return .bool (¬ a.same b)
  | .bitAnd => machine.bitwise (· &&& ·) a b
  | .bitOr => machine.bitwise (· ||| ·) a b
  | .bitXor => machine.bitwise (· ^^^ ·) a b
  | .shiftLeft => machine.bitwise (fun x y => x <<< (y.toNat % 32)) a b
  | .shiftRight => machine.bitwise (fun x y => x.sshiftRight (y.toNat % 32)) a b
  | .shiftRightUnsigned => do
    let x ← machine.toNumber a
    let y ← machine.toNumber b
    let count := (Numeral.unsigned32 y).toNat % 32
    return .number (Float.ofNat ((Numeral.unsigned32 x).toNat >>> count))
  | .isIn => machine.hasMemberAt a b
  | .isInstance => return .bool (← machine.isInstance a b)

/-! ## Functions -/

/-- A function of some code. -/
def closure (env : Surroundings) (code : Code) : Act Datum := do
  let f : Function := .closure code env.scope env.receiver
  let length := code.params.length
  if code.isArrow then return .object (← addPlainFunction f code.name length)
  else return .object (← addFunction f code.name length)

/-- Defines the functions that statements declare, before any of them runs. -/
def defineFunctions (env : Surroundings) : List Statement → Act Unit
  | [] => return
  | .function name code :: rest => do
    machine.writeName { env with strict := false } name (← closure env (code.named name))
    defineFunctions env rest
  | _ :: rest => defineFunctions env rest

/-- Does something and catches what it throws. -/
def attempt {α : Type} (act : Act α) : Act (Except Datum α) :=
  ExceptT.mk do return .ok (← act.run)

/-- What becomes of something that was thrown or not. -/
def again {α : Type} : Except Datum α → Act α
  | .ok a => return a
  | .error d => throw d

/-- The place of statements that have a variable of their own. -/
def within (env : Surroundings) (name : String) (d : Datum) : Act Surroundings := do
  let scope ← modifyGet fun realm => realm.addScope #[(name, d)] env.scope
  return { env with scope := some scope }

end Machine

/-! ## Expressions and statements -/

section

variable (machine : Machine)

open Act Machine

mutual

/-- Evaluates an expression. -/
def Expr.eval (env : Surroundings) : Expr → Act Datum
  | .literal d => return d
  | .name name => machine.readName env name
  | .this => return env.receiver
  | .list items => do addList (← evalAll env items)
  | .record fields => do
    let id ← addRecord []
    evalFields env id fields
    return .object id
  | .function code => closure env code
  | .pattern => do return .object (← add { parent := some Realm.patternParent })
  | .member object key => do
    let object ← object.eval env
    let key ← key.eval env
    machine.readAt object key
  | .call (.member object key) args => do
    let object ← object.eval env
    let key ← key.eval env
    let function ← machine.readAt object key
    let args ← evalAll env args
    machine.callFunction function object args
  | .call function args => do
    let function ← function.eval env
    let args ← evalAll env args
    machine.callFunction function .undefined args
  | .make function args => do
    let function ← function.eval env
    let args ← evalAll env args
    machine.make function args
  | .assign (.member object key) value => do
    let object ← object.eval env
    let key ← key.eval env
    let value ← value.eval env
    machine.writeAt env.strict object key value
    return value
  | .assign (.name name) value => do
    let value ← value.eval env
    machine.writeName env name value
    return value
  | .assign _ _ => fail .syntaxError "invalid assignment left-hand side"
  | .update op (.member object key) value => do
    let object ← object.eval env
    let key ← key.eval env
    let old ← machine.readAt object key
    let value ← value.eval env
    let value ← machine.binary op old value
    machine.writeAt env.strict object key value
    return value
  | .update op (.name name) value => do
    let old ← machine.readName env name
    let value ← value.eval env
    let value ← machine.binary op old value
    machine.writeName env name value
    return value
  | .update _ _ _ => fail .syntaxError "invalid assignment left-hand side"
  | .advance op (.member object key) => do
    let object ← object.eval env
    let key ← key.eval env
    let old : Datum := .number (← machine.toNumber (← machine.readAt object key))
    machine.writeAt env.strict object key (← machine.binary op old (.number (-1)))
    return old
  | .advance op (.name name) => do
    let old : Datum := .number (← machine.toNumber (← machine.readName env name))
    machine.writeName env name (← machine.binary op old (.number (-1)))
    return old
  | .advance _ _ => fail .syntaxError "invalid increment/decrement operand"
  | .delete (.member object key) => do
    let object ← object.eval env
    let key ← key.eval env
    return .bool (← delete env.strict object (← machine.toText key))
  | .delete (.name name) => do return .bool (← deleteName env name)
  | .delete operand => do
    discard (operand.eval env)
    return .bool true
  | .unary .typeof (.name name) => do
    match ← machine.readName? env name with
    | none => return .string "undefined"
    | some d => machine.unary .typeof d
  | .unary op operand => do machine.unary op (← operand.eval env)
  | .binary op left right => do
    let left ← left.eval env
    let right ← right.eval env
    machine.binary op left right
  | .short op left right => do
    let left ← left.eval env
    let goesOn : Bool := match op with
      | .both => left.isTruthy
      | .either => ¬ left.isTruthy
      | .fallback => left.isNothing
    if goesOn then right.eval env else return left
  | .choice condition yes no => do
    if (← condition.eval env).isTruthy then yes.eval env else no.eval env
  | .sequence first second => do
    discard (first.eval env)
    second.eval env

/-- Evaluates expressions, in order. -/
def evalAll (env : Surroundings) : List Expr → Act (List Datum)
  | [] => return []
  | e :: rest => do
    let d ← e.eval env
    return d :: (← evalAll env rest)

/-- Evaluates a field and adds it to a record. -/
def Field.eval (env : Surroundings) (id : ObjectId) : Field → Act Unit
  | .value key value => do
    let key ← machine.toText (← key.eval env)
    let value ← value.eval env
    put id key (.plain value)
  | .parent value => do
    match ← value.eval env with
    | .object parent => change id fun e => { e with parent := some parent }
    | .null => change id fun e => { e with parent := none }
    | _ => return

/-- Evaluates fields, in order. -/
def evalFields (env : Surroundings) (id : ObjectId) : List Field → Act Unit
  | [] => return
  | field :: rest => do
    field.eval env id
    evalFields env id rest

end

mutual

/-- Runs a statement. -/
def Statement.eval (env : Surroundings) : Statement → Act Flow
  | .empty | .declare _ | .function _ _ => return .on none
  | .expr e => do return .on (some (← e.eval machine env))
  | .define name value => do
    machine.writeName env name (← value.eval machine env)
    return .on none
  | .block body => do
    machine.defineFunctions env body
    evalStatements env none body
  | .branch condition yes no => do
    if (← condition.eval machine env).isTruthy then yes.eval env else no.eval env
  | .give value => do return .out (← value.eval machine env)
  | .throw value => do throw (← value.eval machine env)
  | .attempt body caught handler last handles => do
    let ended ← attempt (evalStatements env none body)
    let ended ← match ended, handles with
      | .error d, true => do
        let inner ← within env caught d
        attempt (evalStatements inner none handler)
      | ended, _ => pure ended
    match ← evalStatements env none last with
    | .out d => return .out d
    | .on _ => again ended

/-- Runs statements in order; the last expression before them may have yielded something. -/
def evalStatements (env : Surroundings) (last : Option Datum) : List Statement → Act Flow
  | [] => return .on last
  | statement :: rest => do
    match ← statement.eval env with
    | .out d => return .out d
    | .on none => evalStatements env last rest
    | .on (some d) => evalStatements env (some d) rest

end

end

namespace Machine

variable (machine : Machine)

open Act

/-! ## Calls -/

/-- The object that holds the arguments of a call. -/
def argumentsObject (args : List Datum) : Act Datum := do
  let items := args.zipIdx.map fun (d, i) => (keyAt i, Member.plain d)
  return .object (← add {
    kind := .arguments
    parent := some Realm.objectParent
    members := ((Text.whole "length", Member.hidden (.ofNat args.length)) :: items).toArray })

/-- What the code of a function is called on. Outside the strict rules that is always an object. -/
def receiverFor (code : Code) (receiver : Datum) : Act Datum := do
  if code.isStrict then return receiver
  else if receiver.isNothing then return globalDatum
  else return .object (← toObject receiver)

/-- Runs the code of a function. -/
def callCode (code : Code) (scope : Option ScopeId) (around receiver : Datum) (args : List Datum) :
    Act Datum := do
  let given := code.params.zipIdx.map fun (name, i) => (name, argument args i)
  let (receiver, given) ← if code.isArrow then pure (around, given)
    else do
      let receiver ← receiverFor code receiver
      pure (receiver, given ++ [("arguments", ← argumentsObject args)])
  let declared := (declaredIn code.body).filter fun name => ¬ given.any (·.1 = name)
  let slots := given ++ declared.eraseDups.map (·, Datum.undefined)
  let scope ← modifyGet fun realm => realm.addScope slots.toArray scope
  let env : Surroundings := { scope := some scope, receiver, strict := code.isStrict }
  machine.defineFunctions env code.body
  match ← evalStatements machine env none code.body with
  | .out d => return d
  | .on _ => return .undefined

/-- Calls something. -/
def callBy (function receiver : Datum) (args : List Datum) : Act Datum := do
  match function with
  | .object id =>
    match (← entity id).function? with
    | none => misuse "not a function"
    | some (.closure code scope around) => machine.callCode code scope around receiver args
    | some (.builtin b) => b.perform machine receiver args
    | some (.bound target receiver first) => machine.call target receiver (first ++ args)
  | _ => misuse "not a function"

/-- Makes something by a call. What code gives is made only if it is an object; otherwise it is the
object that the code is called on. -/
def makeBy (function : Datum) (args : List Datum) : Act Datum := do
  match function with
  | .object id =>
    let realm ← get
    if ¬ realm.makes (realm.objects.size + 1) id then misuse "not a constructor"
    else
      match (realm.entity id).function? with
      | none => misuse "not a constructor"
      | some (.builtin b) => b.produce machine args
      | some (.bound target _ first) => machine.make target (first ++ args)
      | some (.closure code scope around) =>
        let parent := match ← machine.read function (.whole "prototype") with
          | .object parent => parent
          | _ => Realm.objectParent
        let made : Datum := .object (← add { parent := some parent })
        match ← machine.callCode code scope around made args with
        | .object result => return .object result
        | _ => return made
  | _ => misuse "not a constructor"

/-- Runs a script, and gives what its last expression yields. The names that it declares become
members of the global object. -/
def run (strict : Bool) (text : String) : Act Datum := do
  match parse? strict text with
  | none => fail .syntaxError "unexpected token"
  | some code =>
    let env : Surroundings := { scope := none, receiver := globalDatum, strict := code.isStrict }
    for name in declaredIn code.body do
      if ((← get).find? Realm.globalObject (.whole name)).isNone then
        put Realm.globalObject (.whole name) (.plain .undefined)
    machine.defineFunctions env code.body
    match ← evalStatements machine env none code.body with
    | .out d => return d
    | .on last => return last.getD .undefined

/-- The text of a function of some parameters and statements. -/
def functionText (params : List String) (body : String) : String :=
  "(function anonymous(" ++ ",".intercalate params ++ "\n) \x7b\n" ++ body ++ "\n\x7d)"

end Machine

/-! ## The machine -/

open Act

/-- The machine on which calls may be so deep. -/
def machineAt : Nat → Machine
  | 0 => {
    call := fun _ _ _ => fail .internalError "stack overflow"
    make := fun _ _ => fail .internalError "stack overflow"
    evaluate := fun _ => fail .internalError "stack overflow"
    compile := fun _ _ => fail .internalError "stack overflow" }
  | depth + 1 =>
    let inner := machineAt depth
    { call := inner.callBy
      make := inner.makeBy
      evaluate := inner.run false
      compile := fun params body => inner.run false (Machine.functionText params body) }

/-- How deep calls may be. -/
def callDepth : Nat := 400

/-- Runs a script under the strict rules. -/
def runScript (text : String) : Act Datum := (machineAt callDepth).run true text

end ScriptBridge.Script
