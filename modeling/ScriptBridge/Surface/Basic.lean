import ScriptBridge.Error
import ScriptBridge.Table
import ScriptBridge.Value.Basic

/-!
# Surfaces

The *surface* of a native type is the part of it that scripts can reach: named methods and
properties, and under the empty name either an initializer, which makes instances, or a method,
which makes the object callable. Nothing outside the surface is reachable.
-/

namespace ScriptBridge

/-- A member that scripts can reach. -/
inductive Member where
  /-- A method; `none` stands for any number of arguments. -/
  | method (arity : Option Nat) (returns : Bool)
  | property (writable : Bool)
  | initializer (arity : Nat)
  deriving DecidableEq, Repr, Inhabited

/-- The kinds of member. -/
inductive MemberKind where
  | method
  | property
  | initializer
  deriving DecidableEq, Repr

/-- The word for a kind of member. -/
def MemberKind.name : MemberKind → String
  | .method => "Method"
  | .property => "Property"
  | .initializer => "Initializer"

namespace Member

/-- The kind of a member. -/
def kind : Member → MemberKind
  | .method _ _ => .method
  | .property _ => .property
  | .initializer _ => .initializer

/-- How many arguments a member takes at most, 0 where the question has no answer. -/
def arity : Member → Nat
  | .method arity _ => arity.getD 0
  | .property _ => 0
  | .initializer arity => arity

/-- Whether a member takes any number of arguments. -/
def isVariadic : Member → Bool
  | .method none _ => true
  | _ => false

/-- Whether asking the member gives a value. -/
def returns : Member → Bool
  | .method _ returns => returns
  | .property _ => true
  | .initializer _ => false

/-- Whether the member can be set. -/
def isWritable : Member → Bool
  | .property writable => writable
  | _ => false

/-- A member in a diagnosis. -/
def shown (member : Member) : String :=
  let truth (b : Bool) := if b then "true" else "false"
  "MemberDescriptor \x7b kind: " ++ member.kind.name ++ ", arity: " ++ toString member.arity ++
    ", variadic: " ++ truth member.isVariadic ++ ", returns_value: " ++ truth member.returns ++
    ", has_setter: " ++ truth member.isWritable ++ " \x7d"

/-- The tag by which a stub tells members apart: nothing for a property, otherwise the arity, with
a mark where a value is returned. -/
def tag : Member → String
  | .property _ => ""
  | .initializer arity => "#" ++ toString arity
  | .method arity true => "#" ++ toString (arity.getD 0) ++ "s"
  | .method arity false => "#" ++ toString (arity.getD 0)

end Member

/-- Fits arguments to an arity: missing ones are undefined and surplus ones an error. -/
def fitArguments (name : String) (arity : Option Nat) (args : List Value) :
    Except BridgeError (List Value) :=
  match arity with
  | none => .ok args
  | some arity =>
    if arity < args.length then .error (.arityMismatch name arity args.length)
    else .ok (Value.padTo arity args)

/-- What scripts can reach of a native type. -/
structure Surface where
  typeName : String
  members : Table String Member
  deriving DecidableEq

namespace Surface

/-- A member by name. -/
def member? (surface : Surface) (name : String) : Option Member := surface.members.get? name

/-- The member under the empty name. -/
def defaultMember? (surface : Surface) : Option Member := surface.member? ""

/-- The arity of the initializer, if the default member is one. -/
def initializer? (surface : Surface) : Option Nat :=
  match surface.defaultMember? with
  | some (.initializer arity) => some arity
  | _ => none

/-- Whether scripts can make instances. -/
def isConstructible (surface : Surface) : Bool := surface.initializer?.isSome

/-- The names of the properties, ascending. -/
def propertyNames (surface : Surface) : List String :=
  surface.members.entries.filterMap fun (name, member) =>
    if member.kind = .property then some name else none

end Surface

end ScriptBridge
