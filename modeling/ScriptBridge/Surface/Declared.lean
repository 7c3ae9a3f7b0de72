import ScriptBridge.Surface.Basic

/-!
# Surfaces from declarations

A surface is declared member by member. A name declared more than once would be ambiguous to
scripts, so it is withdrawn altogether, with a warning, whatever the declarations were.
-/

namespace ScriptBridge

/-- One declaration of a member. -/
structure Declaration where
  name : String
  member : Member
  deriving DecidableEq, Repr

namespace Declaration

/-- A method with a bound on its arguments that returns a value. -/
def method (name : String) (arity : Nat) : Declaration := ⟨name, .method (some arity) true⟩

/-- A method with a bound on its arguments that returns nothing. -/
def command (name : String) (arity : Nat) : Declaration := ⟨name, .method (some arity) false⟩

/-- A method of any arguments that returns a value. -/
def variadicMethod (name : String) : Declaration := ⟨name, .method none true⟩

/-- A method of any arguments that returns nothing. -/
def variadicCommand (name : String) : Declaration := ⟨name, .method none false⟩

/-- The object itself as a function. -/
def call (arity : Nat) : Declaration := ⟨"", .method (some arity) true⟩

/-- A property that can only be read. -/
def property (name : String) : Declaration := ⟨name, .property false⟩

/-- A property that can be written. -/
def writableProperty (name : String) : Declaration := ⟨name, .property true⟩

/-- The maker of instances. -/
def initializer (arity : Nat) : Declaration := ⟨"", .initializer arity⟩

end Declaration

/-- Declarations taken so far. -/
structure Declared where
  /-- The last declaration of each name. -/
  members : Table String Member := .empty
  /-- The names declared more than once. -/
  ambiguous : Table String Unit := .empty

namespace Declared

/-- A warning about a name that is withdrawn. -/
structure Warning where
  member : String
  text : String := "member declared more than once; excluded from the script surface"
  deriving DecidableEq, Repr

/-- Takes one more declaration. -/
def declare (declared : Declared) (d : Declaration) : Declared where
  members := declared.members.insert d.name d.member
  ambiguous :=
    if declared.members.contains d.name then declared.ambiguous.insert d.name ()
    else declared.ambiguous

/-- Takes declarations in order. -/
def ofList (declarations : List Declaration) : Declared := declarations.foldl declare {}

/-- The names that are withdrawn. -/
def withdrawn (declared : Declared) : List String := declared.ambiguous.keys

/-- The members that remain. -/
def remaining (declared : Declared) : Table String Member :=
  declared.withdrawn.foldl Table.erase declared.members

/-- One warning for each withdrawn name. -/
def warnings (declared : Declared) : List Warning :=
  declared.withdrawn.map fun name => { member := name }

end Declared

/-- The surface that declarations give. -/
def Surface.ofDeclarations (typeName : String) (declarations : List Declaration) : Surface :=
  ⟨typeName, (Declared.ofList declarations).remaining⟩

end ScriptBridge
