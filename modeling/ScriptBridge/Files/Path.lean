/-!
# Paths

A path is text whose parts are separated by slashes. Repeated and trailing separators and parts
that are a single dot say nothing, except for a dot at the start of a relative path; two dots are a
part of their own. `components` gives the parts that say something, and `push` and `parent?` work on
the text.
-/

namespace ScriptBridge.Path

/-- A part of a path that says something. -/
inductive Component where
  | root
  | here
  | up
  | name (name : String)
  deriving DecidableEq, Repr

/-- The pieces of text between separators. -/
def split : List Char → List (List Char)
  | [] => [[]]
  | '/' :: rest => [] :: split rest
  | c :: rest =>
    match split rest with
    | [] => [[c]]
    | piece :: pieces => (c :: piece) :: pieces

/-- There is always a piece, if an empty one. -/
theorem split_ne_nil (text : List Char) : split text ≠ [] := by
  cases text with
  | nil => exact List.cons_ne_nil _ _
  | cons c text =>
    unfold split
    split
    · exact List.cons_ne_nil _ _
    · exact List.cons_ne_nil _ _
    · split <;> exact List.cons_ne_nil _ _

/-- The pieces of a path between separators. -/
def segments (path : String) : List String := (split path.toList).map String.ofList

/-- The parts that pieces name, dots at this place saying nothing. -/
def componentsOf : List String → List Component
  | [] => []
  | segment :: rest =>
    if segment = "" ∨ segment = "." then componentsOf rest
    else if segment = ".." then .up :: componentsOf rest
    else .name segment :: componentsOf rest

/-- The parts of a path that say something. -/
def components (path : String) : List Component :=
  match segments path with
  | [""] => []
  | "" :: rest => .root :: componentsOf rest
  | "." :: rest => .here :: componentsOf rest
  | pieces => componentsOf pieces

/-- A path with a name added, separated from what is there. -/
def push (path name : String) : String :=
  if path = "" then name
  else if path.toList.getLast? = some '/' then path ++ name
  else path ++ "/" ++ name

/-- Drops pieces that say nothing from the end; the first piece stays. -/
def trimEnd : List String → List String
  | [] => []
  | first :: rest => first :: (rest.reverse.dropWhile fun s => s = "" ∨ s = ".").reverse

/-- The path of pieces. -/
def join (pieces : List String) : String :=
  if pieces = [""] then "/" else "/".intercalate pieces

/-- A path without its last part, unless there is none or it is the root. -/
def parent? (path : String) : Option String :=
  match (trimEnd (segments path)).reverse with
  | [] => none
  | [""] => none
  | [_] => some ""
  | _ :: before => some (join (trimEnd before.reverse))

end ScriptBridge.Path
