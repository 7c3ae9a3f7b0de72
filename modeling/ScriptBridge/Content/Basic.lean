import ScriptBridge.Calendar.Instant
import ScriptBridge.Files.Tree

/-!
# Content stores

A content store answers for items by path: whether there is one, what is known about it, what it
holds, what a directory lists. It can also be written to. A store is given here by its operations on
some state that contains it, so that stores of different kinds serve the same plugin.
-/

namespace ScriptBridge

/-- A failure of a content store. -/
inductive ContentError where
  | notFound (path : String)
  | io (path text : String)
  deriving DecidableEq, Repr

namespace ContentError

/-- The wording of a failure. -/
def message : ContentError → String
  | .notFound path => "no such file or directory: " ++ path
  | .io path text => path ++ ": " ++ text

/-- Whether there was nothing at the path. -/
def isNotFound : ContentError → Bool
  | .notFound _ => true
  | .io _ _ => false

/-- The failure for a fault met at a path. -/
def ofFault (path : String) : Fault → ContentError
  | .missing => .notFound path
  | fault => .io path fault.text

end ContentError

/-- The kinds of item. -/
inductive ItemKind where
  | file
  | directory
  | symbolicLink
  deriving DecidableEq, Repr

/-- The word for a kind of item. -/
def ItemKind.name : ItemKind → String
  | .file => "File"
  | .directory => "Directory"
  | .symbolicLink => "SymbolicLink"

/-- What is known about an item. -/
structure Metadata where
  /-- The path it was asked for by. -/
  path : String
  created : Instant
  modified : Instant
  /-- Its size in octets, an unsigned word. -/
  size : Nat
  kind : ItemKind
  deriving DecidableEq, Repr

/-- The operations of a store that is part of a state `σ`. -/
structure ContentStore (σ : Type) where
  holds : σ → String → Bool
  stat : σ → String → Except ContentError Metadata
  read : σ → String → Except ContentError (List UInt8)
  list : σ → String → Except ContentError (List String)
  write : σ → String → List UInt8 → Except ContentError σ

end ScriptBridge
