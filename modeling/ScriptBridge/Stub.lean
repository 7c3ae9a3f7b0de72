import ScriptBridge.Surface.Basic
import ScriptBridge.Text.Quoted

/-!
# Stubs

A *stub* is the script text that installs the script side of a native object: one line for each
method and property of its surface, wrapped into a call that creates the proxy. The object may
amend each fragment of the text through a hook, which is called with the fragment's key.

`Stub.generate` is written for any monad, so that a hook may be a plain function or may keep a
record of its calls.
-/

namespace ScriptBridge

/-- The script-side global through which stubs reach native code. -/
def scriptGlobal : String := "LatchScripting"

/-- What a stub installs. -/
inductive StubTarget where
  /-- The principal of a channel, at a place. -/
  | plugin (place : String)
  /-- An object that crossed as a value. -/
  | reference (owner : String) (id : Int)
  deriving DecidableEq, Repr

/-- What a stub is generated from. -/
structure Stub where
  /-- The identifier of the channel. -/
  channel : String
  target : StubTarget
  members : Table String Member
  /-- The literals of the properties. -/
  values : Table String String
  urlPrefix : String
  /-- What the object is called in the file name. -/
  description : String

namespace Stub

/-- The name under which engines show the stub. -/
def sourceUrl (stub : Stub) : String := stub.urlPrefix ++ stub.description ++ ".js"

/-- The member under the empty name. -/
def defaultMember? (stub : Stub) : Option Member := stub.members.get? ""

/-- Whether methods are bound to the proxy itself, which they are unless scripts make instances. -/
def bindsEarly (stub : Stub) : Bool :=
  match stub.defaultMember? with
  | some (.initializer _) => false
  | _ => true

/-- A method bound to the proxy when the stub runs. -/
def earlyMethod (opcode : String) : String :=
  scriptGlobal ++ ".invokeNative.bind(exports, " ++ quote opcode ++ ")"

/-- A method bound to its receiver when it is called. -/
def lateMethod (opcode : String) : String :=
  "function() \x7b return " ++ scriptGlobal ++ ".invokeNative.bind(this, " ++ quote opcode ++
    ").apply(null, arguments); \x7d"

/-- The fragment for one member, if it has one: a method under the empty name and the initializer
go into the base instead. -/
def fragment? (stub : Stub) (name : String) (member : Member) : Option String :=
  match member with
  | .method _ _ =>
    if name = "" then none
    else
      let opcode := name ++ member.tag
      let method := if stub.bindsEarly then earlyMethod opcode else lateMethod opcode
      some ("exports[" ++ quote name ++ "] = " ++ method ++ ";")
  | .property writable =>
    let value := (stub.values.get? name).getD "undefined"
    some (scriptGlobal ++ ".defineProperty(exports, " ++ quote name ++
      ", function() \x7b return " ++ value ++ "; \x7d, " ++ (if writable then "true" else "false") ++ ");")
  | .initializer _ => none

/-- The fragments of the members with their names, in name order. -/
def fragments (stub : Stub) : List (String × String) :=
  stub.members.entries.filterMap fun (name, member) =>
    (stub.fragment? name member).map fun fragment => (name, fragment)

/-- The call that creates the proxy. -/
def factory (stub : Stub) (base : String) : String :=
  match stub.target with
  | .plugin place =>
    scriptGlobal ++ ".createPlugin(" ++ quote stub.channel ++ ", " ++ quote place ++ ", " ++
      base ++ ")"
  | .reference owner id =>
    scriptGlobal ++ ".createReference(" ++ quote stub.channel ++ ", " ++ quote owner ++ ", " ++
      toString id ++ ", " ++ base ++ ")"

/-- The key of the base of an object without a default member. -/
def baseKey : String := ".base"

/-- The key of the member lines together. -/
def localKey : String := ".local"

/-- The key of the line that names the source. -/
def sourceUrlKey : String := ".sourceURL"

/-- The key of the whole stub. -/
def globalKey : String := ".global"

variable {m : Type → Type} [Monad m]

/-- The lines of fragments, each amended under its name. -/
def lines (amend : String → String → m String) : List (String × String) → m String
  | [] => pure ""
  | (name, fragment) :: rest => do
    let line ← amend name fragment
    let more ← lines amend rest
    pure (line ++ "\n" ++ more)

/-- What the proxy is based on: the initializer, the object as a function, or nothing. -/
def base (amend : String → String → m String) (stub : Stub) : m String :=
  match stub.defaultMember? with
  | some (.initializer arity) => pure (quote (Member.initializer arity).tag)
  | some member => pure (lateMethod member.tag)
  | none => amend baseKey "null"

/-- The text of the stub, each fragment passed through `amend` under its key. -/
def generate (amend : String → String → m String) (stub : Stub) : m String := do
  let memberLines ← lines amend stub.fragments
  let base ← stub.base amend
  let url ← amend sourceUrlKey ("\n//# sourceURL=" ++ stub.sourceUrl)
  let body ← amend localKey memberLines
  amend globalKey
    ("(function(exports) \x7b\n" ++ body ++ "\x7d)(" ++ stub.factory base ++ ");\n" ++ url)

/-- The text of the stub under a plain hook. -/
def text (amend : String → String → String) (stub : Stub) : String :=
  Id.run (stub.generate fun key fragment => pure (amend key fragment))

end Stub

end ScriptBridge
