import ScriptBridge.Script.Members

/-!
# Functions of objects

What every object can do: show itself, tell about its members, and give away or change the object
that it takes members from. Besides these, the functions that make records and look at objects from
outside.
-/

namespace ScriptBridge.Script

/-- An argument of a call; those that are missing are undefined. -/
def argument (args : List Datum) (i : Nat) : Datum := (args[i]?).getD .undefined

namespace Kind

/-- The word for a kind of object. -/
def name : Kind → String
  | .list _ => "Array"
  | .octets _ => "Uint8Array"
  | .arguments => "Arguments"
  | .boxed (.bool _) => "Boolean"
  | .boxed (.number _) => "Number"
  | .boxed (.text _) => "String"
  | .error => "Error"
  | .function _ => "Function"
  | _ => "Object"

end Kind

namespace Entity

/-- An object whose members stay, and also keep their values if that is wanted. -/
def settle (keepValues : Bool) (e : Entity) : Entity :=
  let settleMember (member : Member) : Member :=
    let content := match member.content with
      | .value d writable => .value d (writable && ¬ keepValues)
      | content => content
    { member with content, configurable := false }
  { e with
    extensible := false
    members := e.members.map fun (key, member) => (key, settleMember member) }

/-- Whether nothing about an object can change. -/
def isSettled (e : Entity) : Bool :=
  ¬ e.extensible && e.keys.all fun key =>
    match e.own? key with
    | some ⟨.value _ writable, _, configurable⟩ => ¬ writable && ¬ configurable
    | some ⟨_, _, configurable⟩ => ¬ configurable
    | none => true

end Entity

namespace Machine

variable (machine : Machine)

open Act

/-! ## Of all objects -/

/-- The text of an object, which says only of which kind it is. -/
def showObject (receiver : Datum) : Act Datum := do
  let name ← match receiver with
    | .undefined => pure "Undefined"
    | .null => pure "Null"
    | d => do pure (← entity (← toObject d)).kind.name
  return .string ("[object " ++ name ++ "]")

/-- The member of a receiver's own under a key. -/
def ownMember? (receiver key : Datum) : Act (Option Member) := do
  let key ← machine.toText key
  let id ← toObject receiver
  return (← entity id).own? key

/-- Whether a receiver is among those that something takes members from. -/
def isParentOf (receiver d : Datum) : Act Bool := do
  match d with
  | .object id =>
    let above ← toObject receiver
    let realm ← get
    return realm.isAbove above realm.objects.size id
  | _ => return false

/-- Defines the function that reads or writes a member of a receiver. -/
def defineAccessor (receiver key function : Datum) (reads : Bool) : Act Datum := do
  let id ← toObject receiver
  if ¬ (← isFunction function) then misuse "not a function"
  else
    let key ← machine.toText key
    let description : Description := { enumerable := some true, configurable := some true }
    machine.define id key
      (if reads then { description with reader := some function }
        else { description with writer := some function })
    return .undefined

/-- The function that reads or writes a member of a receiver, if functions do. -/
def findAccessor (receiver key : Datum) (reads : Bool) : Act Datum := do
  let id ← toObject receiver
  let key ← machine.toText key
  match ((← get).find? id key).map Member.content with
  | some (.accessor reader writer) => return if reads then reader else writer
  | _ => return .undefined

/-- The object that something takes members from. -/
def parentOf (d : Datum) : Act Datum := do
  match (← entity (← toObject d)).parent with
  | none => return .null
  | some parent => return .object parent

/-- Makes an object take members from another one, or from none. -/
def setParent (id : ObjectId) (parent : Option ObjectId) : Act Unit := do
  let realm ← get
  let e := realm.entity id
  if e.parent = parent then return
  else if ¬ e.extensible then misuse "object is not extensible"
  else
    let circular := match parent with
      | none => false
      | some parent => parent = id || realm.isAbove id realm.objects.size parent
    if circular then misuse "circular prototype chain"
    else change id fun e => { e with parent }

/-- Makes a receiver take members from an object. What is no object is passed over. -/
def writeParent (receiver d : Datum) : Act Datum := do
  match receiver, d with
  | .undefined, _ | .null, _ => misuse "not an object"
  | .object id, .object parent =>
    setParent id (some parent)
    return .undefined
  | .object id, .null =>
    setParent id none
    return .undefined
  | _, _ => return .undefined

/-! ## About objects -/

/-- The texts of keys as a list. -/
def listOfKeys (keys : List Text) : Act Datum := addList (keys.map .text)

/-- The keys of the members that listings of something show. -/
def shownKeysOf (d : Datum) : Act (List Text) := do
  return (← entity (← toObject d)).shownKeys

/-- The values of members. -/
def valuesOf (d : Datum) (keys : List Text) : Act (List Datum) := keys.mapM (machine.read d)

/-- Assigns the members of something to another one. -/
def assignFrom (target source : Datum) : Act Unit := do
  if source.isNothing then return
  else
    for key in ← shownKeysOf source do
      machine.write true target key (← machine.read source key)

/-- Assigns the members of some values to the first one. -/
def assignAll (args : List Datum) : Act Datum := do
  let target : Datum := .object (← toObject (argument args 0))
  for source in args.drop 1 do
    machine.assignFrom target source
  return target

/-- Makes an object that takes members from another one, or from none. -/
def create (parent members : Datum) : Act Datum := do
  let id ← match parent with
    | .object parent => add { parent := some parent }
    | .null => add { parent := none }
    | _ => misuse "not a prototype"
  match members with
  | .undefined => return .object id
  | members =>
    for key in ← shownKeysOf members do
      machine.define id key (← machine.describe (← machine.read members key))
    return .object id

/-- Defines a member as something describes it. -/
def defineMember (d key description : Datum) : Act Datum := do
  match d with
  | .object id =>
    let key ← machine.toText key
    machine.define id key (← machine.describe description)
    return d
  | _ => misuse "not an object"

/-- A record that describes a member. -/
def describeMember (member : Option Member) : Act Datum := do
  match member with
  | none => return .undefined
  | some member =>
    let fields : List (Text × Datum) := match member.content with
      | .value d writable => [(.whole "value", d), (.whole "writable", .bool writable)]
      | .accessor reader writer => [(.whole "get", reader), (.whole "set", writer)]
    return .object (← addRecord (fields ++
      [(.whole "enumerable", .bool member.enumerable),
        (.whole "configurable", .bool member.configurable)]))

/-- Changes something that is an object, and gives it back. -/
def changed (d : Datum) (f : Entity → Entity) : Act Datum := do
  match d with
  | .object id =>
    change id f
    return d
  | d => return d

/-- Whether something is an object for which a test fails. -/
def isObjectBut (d : Datum) (test : Entity → Bool) : Act Bool := do
  match d with
  | .object id => return ¬ test (← entity id)
  | _ => return false

/-- What the functions of objects and about objects do. -/
def callOfObjects (b : Builtin) (receiver : Datum) (args : List Datum) : Act (Option Datum) := do
  let first := argument args 0
  let second := argument args 1
  match b with
  | .showObject => showObject receiver
  | .showLocally => machine.callMember receiver (.whole "toString") []
  | .itself => do return some (.object (← toObject receiver))
  | .hasMember => do return some (.bool (← machine.ownMember? receiver first).isSome)
  | .isParentOf => do return some (.bool (← isParentOf receiver first))
  | .isEnumerable => do
    return some (.bool (((← machine.ownMember? receiver first).map Member.enumerable).getD false))
  | .defineReader => machine.defineAccessor receiver first second true
  | .defineWriter => machine.defineAccessor receiver first second false
  | .findReader => machine.findAccessor receiver first true
  | .findWriter => machine.findAccessor receiver first false
  | .readParent => parentOf receiver
  | .writeParent => writeParent receiver first
  | .keysOf => do listOfKeys (← shownKeysOf first)
  | .namesOf => do listOfKeys (← entity (← toObject first)).keys
  | .valuesOf => do addList (← machine.valuesOf first (← shownKeysOf first))
  | .entriesOf => do
    let entries ← (← shownKeysOf first).mapM fun key => do
      addList [.text key, ← machine.read first key]
    addList entries
  | .assignAll => machine.assignAll args
  | .create => machine.create first second
  | .defineMember => machine.defineMember first second (argument args 2)
  | .describeMember => do describeMember (← machine.ownMember? first second)
  | .freeze => changed first (Entity.settle true)
  | .seal => changed first (Entity.settle false)
  | .isFrozen => do return some (.bool (¬ (← isObjectBut first Entity.isSettled)))
  | .preventExtensions => changed first fun e => { e with extensible := false }
  | .isExtensible => do return some (.bool (← isObjectBut first fun e => ¬ e.extensible))
  | .parentOf => parentOf first
  | .setParentOf => do
    match second with
    | .object _ | .null =>
      discard (writeParent first second)
      return some first
    | _ => misuse "not a prototype"
  | .areSame => return some (.bool (first.alike second))
  | .hasOwn => do return some (.bool (← machine.ownMember? first second).isSome)
  | _ => return none

end Machine

end ScriptBridge.Script
