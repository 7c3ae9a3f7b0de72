import ScriptBridge.Content.Basic

/-!
# Stores of files under a root

A store of the files of a tree. With a root, a path means the root followed by the path's names:
separators and dots add nothing, and a path that goes up is refused before anything is looked at.
Without a root, a path means itself.

A file is written under a temporary name into the directory that will hold it and then put in its
place, so that a failed write changes nothing.
-/

namespace ScriptBridge

/-- A store of files, possibly under a root. -/
structure RootedStore where
  root : Option String := none
  deriving DecidableEq, Repr

namespace RootedStore

/-- Adds the names of parts to a path, unless one of them goes up. -/
def extend (path : String) : List Path.Component → Option String
  | [] => some path
  | .name name :: rest => extend (Path.push path name) rest
  | .up :: _ => none
  | .root :: rest => extend path rest
  | .here :: rest => extend path rest

/-- The path that a path means. -/
def resolve (store : RootedStore) (path : String) : Except ContentError String :=
  match store.root with
  | none => .ok path
  | some root =>
    match extend root (Path.components path) with
    | some resolved => .ok resolved
    | none => .error (.notFound path)

/-- The directory into which a file is written before it is put in its place. -/
def stagingDirectory (resolved : String) : String :=
  match Path.parent? resolved with
  | none => "."
  | some "" => "."
  | some parent => parent

/-- The size of the temporary name of a file. -/
def stagedNameSize : Nat := 10

/-- Does something with the path that a path means; a fault is a failure at that path. -/
def atPath {α : Type} (store : RootedStore) (path : String) (act : String → Except Fault α) :
    Except ContentError α := do
  let resolved ← store.resolve path
  (act resolved).mapError (ContentError.ofFault resolved)

/-- Whether something is at a path. -/
def holds (store : RootedStore) (tree : Tree) (path : String) : Bool :=
  match store.atPath path tree.look with
  | .ok _ => true
  | .error _ => false

/-- The kind and size of an item. A directory has no size of its own. -/
def measure : Item → ItemKind × Nat
  | .directory _ => (.directory, 0)
  | .file octets _ => (.file, octets.length)
  | .link target _ => (.symbolicLink, target.utf8ByteSize)

/-- What is known about the item at a path. -/
def stat (store : RootedStore) (tree : Tree) (path : String) : Except ContentError Metadata := do
  let item ← store.atPath path tree.look
  let (kind, size) := measure item
  return { path, created := item.modified, modified := item.modified, size, kind }

/-- The octets of the file at a path. -/
def read (store : RootedStore) (tree : Tree) (path : String) :
    Except ContentError (List UInt8) :=
  store.atPath path tree.read

/-- The names in the directory at a path. -/
def list (store : RootedStore) (tree : Tree) (path : String) :
    Except ContentError (List String) :=
  store.atPath path tree.list

/-- Writes the file at a path. -/
def write (store : RootedStore) (tree : Tree) (path : String) (octets : List UInt8) :
    Except ContentError Tree := do
  let resolved ← store.resolve path
  let staging := stagingDirectory resolved
  discard <| (tree.directoryFor staging stagedNameSize).mapError (ContentError.ofFault staging)
  (tree.replace resolved octets .epoch).mapError (ContentError.ofFault resolved)

/-- The store as part of a state that holds its tree. -/
def within {σ : Type} (store : RootedStore) (tree : σ → Tree) (setTree : σ → Tree → σ) :
    ContentStore σ where
  holds state path := store.holds (tree state) path
  stat state path := store.stat (tree state) path
  read state path := store.read (tree state) path
  list state path := store.list (tree state) path
  write state path octets := (store.write (tree state) path octets).map (setTree state)

end RootedStore

end ScriptBridge
