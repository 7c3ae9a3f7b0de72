import ScriptBridge.Script.Dialogue
import ScriptBridge.Script.Syntax

/-!
# The objects of the script side

The script side consists of objects. An object has members, each of which holds a value or is read
and written by functions; members it does not have it takes from its *parent*. Lists, octets and
texts in objects have members by position besides. Some objects can be called.

Objects are known by number and live in a *realm*, which has also the variables of functions. A
realm is changed by *acts*, which may end early by throwing a value; what an act did until then
stays done.

This module holds the objects and what can be said of one object by itself. Whatever may call
functions is in terms of a *machine* that calls them.
-/

namespace ScriptBridge.Script

/-! ## Members -/

/-- What a member is. -/
inductive Content where
  | value (d : Datum) (writable : Bool)
  /-- A member that functions read and write; either may be undefined. -/
  | accessor (reader writer : Datum)

/-- A member of an object. -/
structure Member where
  content : Content
  /-- Whether the member is shown when the members of the object are listed. -/
  enumerable : Bool
  /-- Whether the member may be taken away or redefined. -/
  configurable : Bool

namespace Member

/-- A member as assignments make it. -/
def plain (d : Datum) : Member := ⟨.value d true, true, true⟩

/-- A member that listings leave out. -/
def hidden (d : Datum) : Member := ⟨.value d true, false, true⟩

/-- A member that says something about a function. -/
def note (d : Datum) : Member := ⟨.value d false, false, true⟩

/-- A member that stays as it is. -/
def fixed (d : Datum) : Member := ⟨.value d false, false, false⟩

end Member

/-! ## Functions -/

/-- The kinds of errors. -/
inductive ErrorKind where
  | error | typeError | rangeError | referenceError | syntaxError | internalError | evalError
  | uriError | aggregateError
  deriving DecidableEq, Repr

namespace ErrorKind

/-- All kinds, in the order of the objects that stand for them. -/
def all : List ErrorKind :=
  [.error, .typeError, .rangeError, .referenceError, .syntaxError, .internalError, .evalError,
    .uriError, .aggregateError]

/-- The name of a kind. -/
def name : ErrorKind → String
  | .error => "Error"
  | .typeError => "TypeError"
  | .rangeError => "RangeError"
  | .referenceError => "ReferenceError"
  | .syntaxError => "SyntaxError"
  | .internalError => "InternalError"
  | .evalError => "EvalError"
  | .uriError => "URIError"
  | .aggregateError => "AggregateError"

end ErrorKind

/-- The functions that a realm has from the start. -/
inductive Builtin where
  -- of all objects
  | showObject | showLocally | itself | hasMember | isParentOf | isEnumerable
  | defineReader | defineWriter | findReader | findWriter | readParent | writeParent
  -- that make something
  | makeObject | makeFunction | makeList | makeText | makeNumber | makeBool | makeOctets
  | makeError (kind : ErrorKind)
  -- about objects
  | keysOf | valuesOf | entriesOf | namesOf | assignAll | create | defineMember | describeMember
  | freeze | seal | isFrozen | preventExtensions | isExtensible | parentOf | setParentOf | areSame
  | hasOwn
  -- of functions
  | idle | showFunction | call | apply | bind | refuse
  -- of lists
  | map | forEach | filter | slice | push | pop | join | joinLocally | showList | concat | indexOf
  | includes | isList | countOctets
  -- of texts
  | charAt | charCodeAt | indexOfText | lastIndexOfText | sliceText | splitText | concatText
  | includesText | showText
  -- of numbers, truth values and errors
  | showNumber | numberItself | showBool | boolItself | showError
  -- of everything
  | stringify | evaluate | isNotANumber
  -- messages
  | post | ask
  /-- Follows a path of members down from the global object. -/
  | follow
  /-- Known by name only. -/
  | other
  deriving DecidableEq, Repr

/-- Names the variables of a function at work. -/
abbrev ScopeId := Nat

/-- What a call of an object does. -/
inductive Function where
  /-- Runs code, with the variables around it, and with the receiver of what is around it. -/
  | closure (code : Code) (scope : Option ScopeId) (receiver : Datum)
  | builtin (b : Builtin)
  /-- Calls another function with a receiver and first arguments. -/
  | bound (target receiver : Datum) (args : List Datum)

/-! ## Objects -/

/-- The kinds of objects. -/
inductive Kind where
  | plain
  | list (items : Array Datum)
  | octets (octets : Array UInt8)
  /-- The arguments of a call. -/
  | arguments
  /-- A text, a number or a truth value as an object. -/
  | boxed (d : Datum)
  | error
  | function (f : Function)

/-- An object. -/
structure Entity where
  kind : Kind := .plain
  parent : Option ObjectId
  /-- Whether members may be added. -/
  extensible : Bool := true
  /-- The members in the order in which they were added. -/
  members : Array (Text × Member) := #[]

/-- The position that a key denotes, if it denotes one. -/
def position? (key : Text) : Option Nat :=
  match key with
  | .broken _ => none
  | .whole s =>
    match s.toList with
    | [] => none
    | '0' :: rest => if rest.isEmpty then some 0 else none
    | chars =>
      if 10 < chars.length ∨ ¬ chars.all Char.isDigit then none
      else some (chars.foldl (fun n c => n * 10 + (c.toNat - '0'.toNat)) 0)

/-- The key of a position. -/
def keyAt (i : Nat) : Text := .whole (toString i)

namespace Entity

/-- The member under a key among those that were added. -/
def added? (e : Entity) (key : Text) : Option Member :=
  (e.members.find? fun member => member.1 = key).map (·.2)

/-- The member that an object has by its kind. -/
def byKind? (e : Entity) (key : Text) : Option Member :=
  match e.kind with
  | .list items =>
    if key = .whole "length" then some ⟨.value (.number items.size.toFloat) true, false, false⟩
    else ((position? key).bind (items[·]?)).map .plain
  | .octets octets =>
    ((position? key).bind (octets[·]?)).map fun octet => .plain (.number octet.toNat.toFloat)
  | .boxed (.text t) =>
    let units := t.units
    if key = .whole "length" then some (.fixed (.number units.length.toFloat))
    else ((position? key).bind (units[·]?)).map fun n =>
      ⟨.value (.text (Text.ofUnits [n])) false, true, false⟩
  | _ => none

/-- The member of an object under a key, if it has one of its own. -/
def own? (e : Entity) (key : Text) : Option Member := (e.byKind? key).or (e.added? key)

/-- The keys of the members that an object has by its kind and that are positions. -/
def positions (e : Entity) : List Text :=
  match e.kind with
  | .list items => (List.range items.size).map keyAt
  | .octets octets => (List.range octets.size).map keyAt
  | .boxed (.text t) => (List.range t.units.length).map keyAt
  | _ => []

/-- Puts a key among others, positions in ascending order. -/
def insertPosition (key : Nat × Text) : List (Nat × Text) → List (Nat × Text)
  | [] => [key]
  | other :: rest =>
    if key.1 ≤ other.1 then key :: other :: rest else other :: insertPosition key rest

/-- The other keys of members that an object has by its kind. -/
def kindKeys (e : Entity) : List Text :=
  match e.kind with
  | .list _ | .boxed (.text _) => [.whole "length"]
  | _ => []

/-- The keys of all members: first positions in ascending order, then the others, as they were
added. -/
def keys (e : Entity) : List Text :=
  let added := e.members.toList.map (·.1)
  let numbered := (added.filterMap fun key => (position? key).map (·, key)).foldr insertPosition []
  let others := added.filter fun key => (position? key).isNone
  e.positions ++ numbered.map (·.2) ++ e.kindKeys ++ others

/-- The keys of the members that are shown in listings. -/
def shownKeys (e : Entity) : List Text :=
  e.keys.filter fun key => ((e.own? key).map (·.enumerable)).getD false

/-- Adds a member or replaces the one of its key. -/
def put (e : Entity) (key : Text) (member : Member) : Entity :=
  match e.members.findIdx? fun other => other.1 = key with
  | some i => { e with members := e.members.setIfInBounds i (key, member) }
  | none => { e with members := e.members.push (key, member) }

/-- Takes a member away. -/
def take (e : Entity) (key : Text) : Entity :=
  { e with members := e.members.filter fun member => member.1 ≠ key }

/-- What a call of an object does, if it can be called. -/
def function? (e : Entity) : Option Function :=
  match e.kind with
  | .function f => some f
  | _ => none

end Entity

/-! ## Realms -/

/-- The variables of a function at work. -/
structure Scope where
  slots : Array (String × Datum)
  around : Option ScopeId

/-- All objects and variables. -/
structure Realm where
  objects : Array Entity
  scopes : Array Scope := #[]

namespace Realm

/-! The first objects are always the same. -/

/-- The object whose members are the global names. -/
def globalObject : ObjectId := 0

/-- The parent of plain objects. -/
def objectParent : ObjectId := 1

/-- The parent of functions. -/
def functionParent : ObjectId := 2

/-- The parent of lists. -/
def listParent : ObjectId := 3

/-- The parent of texts. -/
def textParent : ObjectId := 4

/-- The parent of numbers. -/
def numberParent : ObjectId := 5

/-- The parent of truth values. -/
def boolParent : ObjectId := 6

/-- The parent of octets. -/
def octetsParent : ObjectId := 7

/-- The parent of patterns. -/
def patternParent : ObjectId := 8

/-- The parent of errors of a kind. -/
def errorParent (kind : ErrorKind) : ObjectId := 9 + ErrorKind.all.idxOf kind

/-- An object. -/
def entity (realm : Realm) (id : ObjectId) : Entity :=
  (realm.objects[id]?).getD { parent := none }

/-- Adds an object. -/
def add (realm : Realm) (e : Entity) : ObjectId × Realm :=
  (realm.objects.size, { realm with objects := realm.objects.push e })

/-- Changes an object. -/
def change (realm : Realm) (id : ObjectId) (f : Entity → Entity) : Realm :=
  { realm with objects := realm.objects.modify id f }

/-- The member that an object has under a key, its own or that of a parent, looking at so many
objects. -/
def findFrom (realm : Realm) (key : Text) : Nat → ObjectId → Option Member
  | 0, _ => none
  | steps + 1, id =>
    let e := realm.entity id
    match e.own? key with
    | some member => some member
    | none => e.parent.bind (findFrom realm key steps)

/-- The member that an object has under a key, its own or that of a parent. -/
def find? (realm : Realm) (id : ObjectId) (key : Text) : Option Member :=
  realm.findFrom key (realm.objects.size + 1) id

/-- Whether an object is among the parents of another one, looking at so many. -/
def isAbove (realm : Realm) (above : ObjectId) : Nat → ObjectId → Bool
  | 0, _ => false
  | steps + 1, id =>
    match (realm.entity id).parent with
    | none => false
    | some parent => parent = above || isAbove realm above steps parent

end Realm

/-! ## Acts -/

/-- Work on the objects, which may throw, and which may talk to native code. -/
abbrev Act := ExceptT Datum (StateT Realm Dialogue)

/-- What acts leave to others: whatever calls functions or runs text. -/
structure Machine where
  /-- Calls something with a receiver and arguments. -/
  call : Datum → Datum → List Datum → Act Datum
  /-- Makes something by a call. -/
  make : Datum → List Datum → Act Datum
  /-- Runs a script under the rules that are not strict. -/
  evaluate : String → Act Datum
  /-- Makes a function from names of parameters and the text of statements. -/
  compile : List String → String → Act Datum

namespace Act

/-- An object. -/
def entity (id : ObjectId) : Act Entity := do return (← get).entity id

/-- Adds an object. -/
def add (e : Entity) : Act ObjectId := modifyGet fun realm => realm.add e

/-- Changes an object. -/
def change (id : ObjectId) (f : Entity → Entity) : Act Unit :=
  modify fun realm => realm.change id f

/-- Adds a member to an object, or replaces it, whatever it was. -/
def put (id : ObjectId) (key : Text) (member : Member) : Act Unit :=
  change id fun e => e.put key member

/-- Adds a record. -/
def addRecord (fields : List (Text × Datum)) : Act ObjectId :=
  add { parent := some Realm.objectParent
        members := (fields.map fun (key, d) => (key, Member.plain d)).toArray }

/-- Adds a list. -/
def addList (items : List Datum) : Act Datum := do
  return .object (← add { kind := .list items.toArray, parent := some Realm.listParent })

/-- Adds a function that can make something: what it makes takes members from an object of its
own. -/
def addFunction (f : Function) (name : String) (length : Nat) : Act ObjectId := do
  let id ← add {
    kind := .function f
    parent := some Realm.functionParent
    members := #[(.whole "length", .note (.number length.toFloat)),
      (.whole "name", .note (.string name))] }
  let parent ← add {
    parent := some Realm.objectParent
    members := #[(.whole "constructor", .hidden (.object id))] }
  put id "prototype" ⟨.value (.object parent) true, false, false⟩
  return id

/-- Adds a function that makes nothing. -/
def addPlainFunction (f : Function) (name : String) (length : Nat) : Act ObjectId :=
  add {
    kind := .function f
    parent := some Realm.functionParent
    members := #[(.whole "length", .note (.number length.toFloat)),
      (.whole "name", .note (.string name))] }

/-- Throws an error. -/
def fail {α : Type} (kind : ErrorKind) (text : String) : Act α := do
  let id ← add {
    kind := .error
    parent := some (Realm.errorParent kind)
    members := #[(.whole "message", .hidden (.string text)),
      (.whole "stack", .hidden (.string ""))] }
  throw (.object id)

/-- Throws an error about the type of something. -/
def misuse {α : Type} (text : String) : Act α := fail .typeError text

/-- Says something to native code. -/
def say {α : Type} (dialogue : Dialogue α) : Act α :=
  ExceptT.mk fun realm => do return (.ok (← dialogue), realm)

/-- Posts a message. -/
def post (name : String) (body : Option String) : Act Unit :=
  say (.post name body fun () => .done ())

/-- Posts a message and waits for the expression that answers it. -/
def ask (name : String) (body : Option String) : Act String := say (.ask name body .done)

/-- Whether something can be called. -/
def isFunction (d : Datum) : Act Bool := do
  match d with
  | .object id => return (← entity id).function?.isSome
  | _ => return false

end Act

end ScriptBridge.Script
