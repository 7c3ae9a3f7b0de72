import ScriptBridge.Script.Realm

/-!
# Members and conversions

Values are read and written member by member, and turned into texts, numbers and objects where such
are wanted. Both may call functions: those that read and write a member, and those that an object
has for giving a plainer value.

An assignment that is not possible throws under the strict rules and does nothing otherwise.
-/

namespace ScriptBridge.Script

/-! ## Values that are no objects -/

namespace Datum

/-- A natural number as a value. -/
def ofNat (n : Nat) : Datum := .number n.toFloat

/-- The text of a value that is no object. -/
def plainText : Datum → Text
  | .undefined => .whole "undefined"
  | .null => .whole "null"
  | .bool b => .whole (if b then "true" else "false")
  | .number f => .whole (Numeral.print f)
  | .text t => t
  | .object _ => .whole ""

/-- The number of a value that is no object. -/
def plainNumber : Datum → Float
  | .undefined | .object _ => Numeral.notANumber
  | .null => 0
  | .bool b => if b then 1 else 0
  | .number f => f
  | .text t => Numeral.ofText t

/-- Whether two values cannot be told apart. What is not a number is one value, and the two zeros
are two. -/
def alike : Datum → Datum → Bool
  | .number a, .number b => a.toBits = b.toBits || (a.isNaN && b.isNaN)
  | a, b => a.same b

end Datum

/-- A key in a text about it. -/
def Text.shown (key : Text) : String := "'" ++ key.whole?.getD "" ++ "'"

namespace Realm

/-- The object from which a value that is none takes members. -/
def plainParent? : Datum → Option ObjectId
  | .text _ => some textParent
  | .number _ => some numberParent
  | .bool _ => some boolParent
  | _ => none

/-- The member of a value under a key, its own or inherited. -/
def member? (realm : Realm) (d : Datum) (key : Text) : Option Member :=
  match d with
  | .object id => realm.find? id key
  | d =>
    (Entity.byKind? { kind := .boxed d, parent := none } key).or
      ((plainParent? d).bind (realm.find? · key))

end Realm

namespace Entity

/-- Whether octets have no other members under a key than those by position. -/
def isNumbering (key : Text) : Bool :=
  key = .whole "-0" || key = .whole (Numeral.print (Numeral.ofText key))

/-- A list with an item at a position; positions up to it are filled. -/
def putItem (items : Array Datum) (i : Nat) (d : Datum) : Array Datum :=
  if i < items.size then items.setIfInBounds i d
  else (items ++ Array.replicate (i - items.size) Datum.undefined).push d

/-- A list of a length. -/
def setLength (items : Array Datum) (n : Nat) : Array Datum :=
  if n ≤ items.size then items.extract 0 n
  else items ++ Array.replicate (n - items.size) Datum.undefined

end Entity

/-- How far a list may be filled up at once. -/
def fillLimit : Nat := 100000

namespace Machine

variable (machine : Machine)

open Act

/-! ## Objects of values -/

/-- The object of a value, which is made for those that are none. -/
def toObject (d : Datum) : Act ObjectId := do
  match d, Realm.plainParent? d with
  | .object id, _ => return id
  | d, some parent => add { kind := .boxed d, parent := some parent }
  | _, none => misuse "cannot convert to object"

/-! ## Reading -/

/-- What a member yields to a receiver. -/
def yieldOf (receiver : Datum) (member : Option Member) : Act Datum := do
  match member.map Member.content with
  | none => return .undefined
  | some (.value d _) => return d
  | some (.accessor .undefined _) => return .undefined
  | some (.accessor reader _) => machine.call reader receiver []

/-- Reads a member. -/
def read (d : Datum) (key : Text) : Act Datum := do
  if d.isNothing then
    misuse ("cannot read property " ++ key.shown ++ " of " ++ d.plainText.whole?.getD "")
  else machine.yieldOf d ((← get).member? d key)

/-- Calls something that must be a function. -/
def callFunction (function receiver : Datum) (args : List Datum) : Act Datum := do
  if ← isFunction function then machine.call function receiver args else misuse "not a function"

/-- Calls a member. -/
def callMember (d : Datum) (key : Text) (args : List Datum) : Act Datum := do
  machine.callFunction (← machine.read d key) d args

/-! ## Plainer values -/

/-- Asks an object for a value that is none, by the members of some names. -/
def plainBy (object : Datum) : List String → Act Datum
  | [] => misuse "toPrimitive"
  | name :: names => do
    let function ← machine.read object (.whole name)
    if ← isFunction function then
      match ← machine.call function object [] with
      | .object _ => plainBy object names
      | d => return d
    else plainBy object names

/-- A value that is no object, for a text. -/
def plainForText (d : Datum) : Act Datum := do
  match d with
  | .object _ => machine.plainBy d ["toString", "valueOf"]
  | d => return d

/-- A value that is no object, for a number or for any purpose. -/
def plain (d : Datum) : Act Datum := do
  match d with
  | .object _ => machine.plainBy d ["valueOf", "toString"]
  | d => return d

/-- The text of a value. -/
def toText (d : Datum) : Act Text := do return (← machine.plainForText d).plainText

/-- The number of a value. -/
def toNumber (d : Datum) : Act Float := do return (← machine.plain d).plainNumber

/-! ## Writing -/

/-- Refuses something, which throws under the strict rules. -/
def refuse (strict : Bool) (text : String) : Act Unit := if strict then misuse text else pure ()

/-- The length that a value gives to a list. -/
def toLength (d : Datum) : Act Nat := do
  let f ← machine.toNumber d
  let n := Numeral.unsigned32 f
  if Float.ofInt n == f then return n.toNat else fail .rangeError "invalid array length"

/-- Puts a value in the place of a member of an object, or adds it to the object. -/
def putValue (id : ObjectId) (key : Text) (d : Datum) : Act Unit := do
  let e ← entity id
  match e.kind, position? key with
  | .list items, some i =>
    if i < items.size + fillLimit then
      change id fun e => { e with kind := .list (Entity.putItem items i d) }
    else fail .rangeError "invalid array length"
  | .list _, none =>
    if key = .whole "length" then
      let n ← machine.toLength d
      change id fun e => match e.kind with
        | .list items =>
          if items.size + fillLimit < n then e
          else { e with kind := .list (Entity.setLength items n) }
        | _ => e
    else putPlainly e
  | .octets _, some i =>
    let octet := Numeral.octet (← machine.toNumber d)
    change id fun e => match e.kind with
      | .octets octets => { e with kind := .octets (octets.setIfInBounds i octet) }
      | _ => e
  | .octets _, none =>
    if Entity.isNumbering key then discard (machine.toNumber d) else putPlainly e
  | _, _ => putPlainly e
where
  /-- Puts a value in the place of a member that was added, or adds it. -/
  putPlainly (e : Entity) : Act Unit :=
    match e.added? key with
    | some member => put id key { member with content := .value d true }
    | none => put id key (.plain d)

/-- Assigns to a member. -/
def write (strict : Bool) (target : Datum) (key : Text) (d : Datum) : Act Unit := do
  if target.isNothing then
    misuse ("cannot set property " ++ key.shown ++ " of " ++ target.plainText.whole?.getD "")
  else
    let realm ← get
    match (realm.member? target key).map Member.content with
    | some (.accessor _ .undefined) => refuse strict "no setter for property"
    | some (.accessor _ writer) => discard (machine.call writer target [d])
    | some (.value _ false) => refuse strict (key.shown ++ " is read-only")
    | _ =>
      match target with
      | .object id =>
        let e := realm.entity id
        if e.extensible ∨ (e.own? key).isSome then machine.putValue id key d
        else refuse strict "object is not extensible"
      | _ => refuse strict "not an object"

/-! ## Taking away -/

/-- Takes a member away, and says whether it is gone. -/
def delete (strict : Bool) (d : Datum) (key : Text) : Act Bool := do
  let id ← toObject d
  let e ← entity id
  match e.own? key with
  | none => return true
  | some member =>
    let stays := match e.kind, position? key with
      | .octets _, some _ => true
      | _, _ => ¬ member.configurable
    if stays then
      refuse strict "could not delete property"
      return false
    else
      match e.kind, position? key with
      | .list items, some i =>
        change id fun e => { e with kind := .list (items.setIfInBounds i .undefined) }
      | _, _ => change id fun e => e.take key
      return true

end Machine

/-! ## Defining -/

/-- What is said of a member that is defined. -/
structure Description where
  value : Option Datum := none
  writable : Option Bool := none
  reader : Option Datum := none
  writer : Option Datum := none
  enumerable : Option Bool := none
  configurable : Option Bool := none

namespace Description

/-- Whether a description is of a member that functions read and write. -/
def isAccessor (d : Description) : Bool := d.reader.isSome || d.writer.isSome

/-- Whether a description is of a member that holds a value. -/
def isValue (d : Description) : Bool := d.value.isSome || d.writable.isSome

/-- Whether a part of a description keeps to what there is. -/
def keeps (part : Option Datum) (d : Datum) : Bool := (part.map (·.alike d)).getD true

/-- Whether a member that stays as it is fits a description. -/
def allows (d : Description) (member : Member) : Bool :=
  d.configurable ≠ some true && (d.enumerable.getD member.enumerable = member.enumerable) &&
    match member.content with
    | .value value writable =>
      ¬ d.isAccessor && (writable || (d.writable ≠ some true && keeps d.value value))
    | .accessor reader writer => ¬ d.isValue && keeps d.reader reader && keeps d.writer writer

/-- The member that a description makes of another one, or of none. -/
def apply (d : Description) (member : Option Member) : Member :=
  let content : Content :=
    match d.isAccessor, member.map Member.content with
    | true, some (.accessor reader writer) =>
      .accessor (d.reader.getD reader) (d.writer.getD writer)
    | true, _ => .accessor (d.reader.getD .undefined) (d.writer.getD .undefined)
    | false, some (.value value writable) => .value (d.value.getD value) (d.writable.getD writable)
    | false, some (.accessor reader writer) =>
      if d.isValue then .value (d.value.getD .undefined) (d.writable.getD false)
      else .accessor reader writer
    | false, none => .value (d.value.getD .undefined) (d.writable.getD false)
  { content
    enumerable := d.enumerable.getD ((member.map Member.enumerable).getD false)
    configurable := d.configurable.getD ((member.map Member.configurable).getD false) }

end Description

namespace Machine

variable (machine : Machine)

open Act

/-- Defines a member of an object. -/
def define (id : ObjectId) (key : Text) (description : Description) : Act Unit := do
  let e ← entity id
  let old := e.own? key
  let possible : Bool := match old with
    | none => e.extensible
    | some member => member.configurable || description.allows member
  if ¬ possible then
    misuse (if old.isSome then "property is not configurable" else "object is not extensible")
  else
    match e.byKind? key, description.value with
    | some _, some d => machine.putValue id key d
    | some _, none => return
    | none, value =>
      match e.kind, position? key, description.isAccessor with
      | .list _, some _, false => machine.putValue id key (value.getD .undefined)
      | _, _, _ => put id key (description.apply old)

/-- A truth value among what describes a member. -/
def flag? (d : Datum) (key : String) : Act (Option Bool) := do
  match (← get).member? d (.whole key) with
  | none => return none
  | some member => return some (← machine.yieldOf d (some member)).isTruthy

/-- A value among what describes a member. -/
def part? (d : Datum) (key : String) : Act (Option Datum) := do
  match (← get).member? d (.whole key) with
  | none => return none
  | some member => return some (← machine.yieldOf d (some member))

/-- A function among what describes a member; it may be left undefined. -/
def functionPart? (d : Datum) (key : String) : Act (Option Datum) := do
  match ← machine.part? d key with
  | none => return none
  | some .undefined => return some .undefined
  | some function =>
    if ← isFunction function then return some function else misuse ("invalid " ++ key)

/-- Reads what describes a member. -/
def describe (d : Datum) : Act Description := do
  match d with
  | .object _ =>
    let enumerable ← machine.flag? d "enumerable"
    let configurable ← machine.flag? d "configurable"
    let value ← machine.part? d "value"
    let writable ← machine.flag? d "writable"
    let reader ← machine.functionPart? d "get"
    let writer ← machine.functionPart? d "set"
    let description : Description := { value, writable, reader, writer, enumerable, configurable }
    if description.isValue ∧ description.isAccessor then misuse "cannot have both value and get/set"
    else return description
  | _ => misuse "not an object"

/-! ## Items -/

/-- Whether something is a list. -/
def isList (d : Datum) : Act Bool := do
  match d with
  | .object id =>
    match (← entity id).kind with
    | .list _ => return true
    | _ => return false
  | _ => return false

/-- The length that something says it has. -/
def lengthOf (d : Datum) : Act Nat := do
  let f ← machine.toNumber (← machine.read d (.whole "length"))
  return (Numeral.wholePart f).toNat

/-- How many arguments a call may have. -/
def argumentLimit : Nat := 65534

/-- Some members by position. -/
def itemsAt (d : Datum) : List Nat → Act (List Datum)
  | [] => return []
  | i :: rest => do
    let item ← machine.read d (keyAt i)
    return item :: (← itemsAt d rest)

/-- The items of a list, or of what is like one. -/
def itemsOf (d : Datum) : Act (List Datum) := do
  let n ← machine.lengthOf d
  if argumentLimit < n then fail .rangeError "too many arguments in function call"
  else machine.itemsAt d (List.range n)

/-! ## Comparing -/

/-- Whether two values are equal after they have been made alike. -/
def looselySame (a b : Datum) : Act Bool := do
  match a, b with
  | .object i, .object j => return i = j
  | .object _, b =>
    if b.isNothing then return false else return loosely (← machine.plain a) b
  | a, .object _ =>
    if a.isNothing then return false else return loosely a (← machine.plain b)
  | a, b => return loosely a b
where
  /-- The same for values that are no objects. -/
  loosely (a b : Datum) : Bool :=
    if a.isNothing ∨ b.isNothing then a.isNothing && b.isNothing
    else
      match a, b with
      | .text s, .text t => s = t
      | a, b => a.plainNumber == b.plainNumber

/-- Whether a value comes before another one; nothing if they cannot be compared. -/
def comesBefore? (a b : Datum) : Option Bool :=
  match a, b with
  | .text s, .text t => some (Text.comesBefore s.units t.units)
  | a, b =>
    let x := a.plainNumber
    let y := b.plainNumber
    if x.isNaN ∨ y.isNaN then none else some (x < y)

/-- The function that bound ones lead to, following so many. -/
def unbound (realm : Realm) : Nat → ObjectId → ObjectId
  | 0, id => id
  | steps + 1, id =>
    match (realm.entity id).function? with
    | some (.bound (.object target) _ _) => unbound realm steps target
    | _ => id

/-- Whether something takes members from the object that a function gives to what it makes. -/
def isInstance (d function : Datum) : Act Bool := do
  match function with
  | .object f =>
    if ¬ (← isFunction function) then misuse "invalid 'instanceof' right operand"
    else
      let realm ← get
      let f := unbound realm realm.objects.size f
      match d with
      | .object id =>
        match ← machine.read (Datum.object f) (.whole "prototype") with
        | .object above => return realm.isAbove above realm.objects.size id
        | _ => misuse "operand 'prototype' property is not an object"
      | _ => return false
  | _ => misuse "invalid 'instanceof' right operand"

end Machine

end ScriptBridge.Script
