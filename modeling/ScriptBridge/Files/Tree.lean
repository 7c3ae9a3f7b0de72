import ScriptBridge.Calendar.Instant
import ScriptBridge.Files.Path
import ScriptBridge.Table

/-!
# File trees

A tree of files, directories and symbolic links, with a working directory. Items are kept in one
table under their locations, a location being the list of names from the root. Paths lead to
locations as operating systems have it: every part but the last must lead to a directory, links on
the way are followed, and a path that ends in a separator must lead to a directory.
-/

namespace ScriptBridge

/-- A place in a tree: the names from the root. -/
abbrev Location := List String

/-- What stands at a location. -/
inductive Item where
  | directory (modified : Instant)
  | file (octets : List UInt8) (modified : Instant)
  | link (target : String) (modified : Instant)
  deriving DecidableEq, Repr

namespace Item

/-- When the item was last changed. -/
def modified : Item → Instant
  | .directory modified => modified
  | .file _ modified => modified
  | .link _ modified => modified

/-- Whether the item is a directory. -/
def isDirectory : Item → Bool
  | .directory _ => true
  | _ => false

end Item

/-- Why a path cannot be used. -/
inductive Fault where
  | missing
  | notDirectory
  | isDirectory
  | busy
  | badName
  | nameTooLong
  | tooManyLinks
  deriving DecidableEq, Repr

/-- The operating system's wording of a fault. -/
def Fault.text : Fault → String
  | .missing => "No such file or directory (os error 2)"
  | .notDirectory => "Not a directory (os error 20)"
  | .isDirectory => "Is a directory (os error 21)"
  | .busy => "Device or resource busy (os error 16)"
  | .badName => "file name contained an unexpected NUL byte"
  | .nameTooLong => "File name too long (os error 36)"
  | .tooManyLinks => "Too many levels of symbolic links (os error 40)"

/-- A file tree. -/
structure Tree where
  items : Table Location Item
  /-- The working directory. -/
  workplace : Location

namespace Tree

/-- The starts of a location: the root, then one name more each time. -/
def startsOf (location : Location) : List Location :=
  (List.range (location.length + 1)).map location.take

/-- A tree of nothing but the directories down to its working directory. -/
def empty (workplace : Location) : Tree where
  items := Table.ofList ((startsOf workplace).map fun start => (start, .directory .epoch))
  workplace := workplace

/-- What stands at a location. -/
def item? (tree : Tree) (location : Location) : Option Item := tree.items.get? location

/-- Puts an item at a location. -/
def put (tree : Tree) (location : Location) (item : Item) : Tree :=
  { tree with items := tree.items.insert location item }

/-- Whether a location holds a directory. -/
def isDirectory (tree : Tree) (location : Location) : Bool :=
  ((tree.item? location).map Item.isDirectory).getD false

/-- The names in a directory, ascending. -/
def names (tree : Tree) (location : Location) : List String :=
  tree.items.entries.filterMap fun (place, _) =>
    if place.length = location.length + 1 ∧ location.isPrefixOf place then place.getLast?
    else none

/-! ## Following paths -/

/-- How far a path leads without following links at which it does not end. -/
inductive Walk where
  | arrived (location : Location)
  | failed (fault : Fault)
  /-- A link was met in a directory, with parts of the path still to go. -/
  | met (target : String) (directory : Location) (rest : List String)

/-- Follows names up to the next link. A last name that is a link ends the walk unless links are to
be followed. -/
def advance (tree : Tree) (follow : Bool) : Location → List String → Walk
  | at_, [] => .arrived at_
  | at_, name :: rest =>
    if ¬ tree.isDirectory at_ then .failed .notDirectory
    else if name = "" ∨ name = "." then advance tree follow at_ rest
    else if name = ".." then advance tree follow at_.dropLast rest
    else if 255 < name.utf8ByteSize then .failed .nameTooLong
    else
      let next := at_ ++ [name]
      match tree.item? next with
      | none => .failed .missing
      | some (.link target _) =>
        if rest.isEmpty ∧ ¬ follow then .arrived next else .met target at_ rest
      | some _ => advance tree follow next rest

/-- Where a path of names starts: at the root or in a directory. -/
def start (directory : Location) (path : String) : Location × List String :=
  match Path.segments path with
  | "" :: rest => ([], rest)
  | names => (directory, names)

/-- Follows names through so many links. -/
def travel (tree : Tree) (follow : Bool) : Nat → Location → List String → Except Fault Location
  | links, at_, names =>
    match tree.advance follow at_ names with
    | .arrived location => .ok location
    | .failed fault => .error fault
    | .met target directory rest =>
      match links with
      | 0 => .error .tooManyLinks
      | links + 1 =>
        if target = "" then .error .missing
        else
          let (at_, names) := start directory target
          travel tree follow links at_ (names ++ rest)

/-- How many links a path may lead through. -/
def linkLimit : Nat := 40

/-- A path of so many octets is too long. -/
def pathLimit : Nat := 4096

/-- The location that a path leads to. -/
def locate (tree : Tree) (follow : Bool) (path : String) : Except Fault Location :=
  if path.toList.contains (Char.ofNat 0) then .error .badName
  else if path = "" then .error .missing
  else if pathLimit ≤ path.utf8ByteSize then .error .nameTooLong
  else
    let (at_, names) := start tree.workplace path
    travel tree follow linkLimit at_ names

/-! ## Operations -/

/-- The item that a path leads to, a link at its end being the item. -/
def look (tree : Tree) (path : String) : Except Fault Item := do
  let location ← tree.locate false path
  match tree.item? location with
  | none => .error .missing
  | some item => .ok item

/-- The octets of the file that a path leads to. -/
def read (tree : Tree) (path : String) : Except Fault (List UInt8) := do
  let location ← tree.locate true path
  match tree.item? location with
  | some (.file octets _) => .ok octets
  | some (.directory _) => .error .isDirectory
  | _ => .error .missing

/-- The names in the directory that a path leads to, ascending. -/
def list (tree : Tree) (path : String) : Except Fault (List String) := do
  let location ← tree.locate true path
  if tree.isDirectory location then .ok (tree.names location) else .error .notDirectory

/-- The directory that a path leads to. -/
def directory (tree : Tree) (path : String) : Except Fault Location := do
  let location ← tree.locate true path
  if tree.isDirectory location then .ok location else .error .notDirectory

/-- A path from the root that leads where a path leads. -/
def absolute (tree : Tree) (path : String) : String :=
  match Path.segments path with
  | "" :: _ :: _ => path
  | _ => Path.push ("/" ++ "/".intercalate tree.workplace) path

/-- The directory that a path leads to, if a file may be made there under a name of some size. -/
def directoryFor (tree : Tree) (path : String) (nameSize : Nat) : Except Fault Location := do
  if path.toList.contains (Char.ofNat 0) then .error .badName
  let name := String.ofList (List.replicate nameSize 'x')
  if pathLimit ≤ (Path.push (tree.absolute path) name).utf8ByteSize then .error .nameTooLong
  tree.directory path

/-- Puts a file where a path ends, in the place of a file or link there. A path that ends with a
separator is for directories only. -/
def replace (tree : Tree) (path : String) (octets : List UInt8) (time : Instant) :
    Except Fault Tree := do
  if path.toList.contains (Char.ofNat 0) then .error .badName
  if path = "" then .error .missing
  if pathLimit ≤ path.utf8ByteSize then .error .nameTooLong
  let (at_, names) := start tree.workplace path
  let kept := (names.reverse.dropWhile (· = "")).reverse
  match kept.reverse with
  | [] => .error .busy
  | last :: before =>
    let parent ← travel tree true linkLimit at_ before.reverse
    if ¬ tree.isDirectory parent then .error .notDirectory
    if last = "." ∨ last = ".." then .error .busy
    if 255 < last.utf8ByteSize then .error .nameTooLong
    let location := parent ++ [last]
    if kept.length < names.length then .error .notDirectory
    if tree.isDirectory location then .error .isDirectory
    return tree.put location (.file octets time)

/-- Makes the directories down to a location, where nothing stands. -/
def makeDirectories (tree : Tree) (location : Location) (time : Instant) : Tree :=
  (startsOf location).foldl (fun tree start =>
    if (tree.item? start).isNone then tree.put start (.directory time) else tree) tree

end Tree

end ScriptBridge
