import ScriptBridge.Content.Basic
import ScriptBridge.Native
import ScriptBridge.Surface.Declared
import ScriptBridge.Text.Utf8

/-!
# The filesystem plugin

A content store as scripts see it. The plain methods answer at once, and their failures are failures
of native code. The others take a callback, leave the store's work to the background and complete
the callback with what the plain method would have answered.
-/

namespace ScriptBridge

namespace FileSystem

/-- Where the plugin is bound unless another place is asked for. -/
def defaultPlace : String := "io.latch.fs"

/-- The plugin's name in the names of its sources. -/
def description : String := "FileSystem"

/-- The members of the plugin. -/
def declarations : List Declaration :=
  [.method "exists" 1, .method "stat" 1, .method "getContent" 1, .method "getContentBytes" 1,
    .method "getDirectory" 1, .command "statAsync" 2, .command "getDirectoryAsync" 2,
    .command "getContentAsync" 2, .method "writeContent" 2]

/-! ## Arguments -/

/-- A failure of an argument. -/
def badArgument {α : Type} (text : String) : Except BridgeError α := .error (.nativeFailure text)

/-- The path that comes first. -/
def path (args : List Value) : Except BridgeError String :=
  match args.head?.bind Value.string? with
  | some path => .ok path
  | none => badArgument "path must be a string"

/-- The path that comes first, or that of what a `stat` answered. -/
def itemPath (args : List Value) : Except BridgeError String :=
  let text? := match args.head? with
    | some (.object fields) => (Entries.find? "path" fields).bind Value.string?
    | some value => value.string?
    | none => none
  match text? with
  | some path => .ok path
  | none => badArgument "path must be a string or a stat result"

/-- The callback that comes second. -/
def callback (args : List Value) : Except BridgeError Callback :=
  match (args[1]?).bind Value.callback? with
  | some function => .ok function
  | none => badArgument "callback must be a function"

/-- The octet that a value is. -/
def octet? (value : Value) : Option UInt8 := do
  let n ← value.word?
  if 0 ≤ n ∧ n < 256 then some (UInt8.ofNat n.toNatClampNeg) else none

/-- The content that comes second: text, octets, or a list of octets as numbers. -/
def content (args : List Value) : Except BridgeError (List UInt8) :=
  match (args[1]?).getD .undefined with
  | .string text => .ok (Utf8.encode text)
  | .bytes octets => .ok octets
  | .array items =>
    match items.mapM octet? with
    | some octets => .ok octets
    | none => badArgument "content must be a string or bytes"
  | other => badArgument ("content must be a string or bytes, got " ++ other.kind)

/-! ## Answers -/

/-- What is known about an item, as a value. -/
def statValue (metadata : Metadata) : Value :=
  .ofFields
    [("path", .string metadata.path), ("birthtime", .date metadata.created),
      ("mtime", .date metadata.modified), ("size", .ofUnsigned metadata.size),
      ("filetype", .string metadata.kind.name)]

/-- Octets as text. -/
def textValue (octets : List UInt8) : Value := .string (Utf8.decodeLossy octets)

variable {σ : Type}

/-- A failure of the store is one of native code. -/
def native {α : Type} (outcome : Except ContentError α) : Except BridgeError α :=
  outcome.mapError fun e => .nativeFailure e.message

/-- A plain method: an answer from the store for the path. -/
def answer (args : List Value) (ask : σ → String → Except ContentError Value) :
    Native σ (Except BridgeError Value) :=
  match path args with
  | .error e => pure (.error e)
  | .ok path => do return native (ask (← Native.state) path)

/-- A method with a callback: the answer for the path is left to the background. -/
def answerLater (path : Except BridgeError String) (args : List Value)
    (ask : σ → String → Except ContentError Value) : Native σ (Except BridgeError Value) :=
  match path, callback args with
  | .error e, _ => pure (.error e)
  | .ok _, .error e => pure (.error e)
  | .ok path, .ok function =>
    .defer { function, outcome := fun state => (ask state path).mapError (·.message) }
      (.done (.ok .undefined))

/-- Writes to the store. -/
def write (store : ContentStore σ) (args : List Value) : Native σ (Except BridgeError Value) :=
  match path args with
  | .error e => pure (.error e)
  | .ok path =>
    match content args with
    | .error e => pure (.error e)
    | .ok octets => do
      match store.write (← Native.state) path octets with
      | .error e => return native (.error e)
      | .ok state =>
        Native.update fun _ => state
        return .ok (.bool true)

/-- Runs a method of the plugin. -/
def invoke (store : ContentStore σ) (method : String) (args : List Value) :
    Native σ (Except BridgeError Value) :=
  match method with
  | "exists" => answer args fun state path => .ok (.bool (store.holds state path))
  | "stat" => answer args fun state path => (store.stat state path).map statValue
  | "getContent" => answer args fun state path => (store.read state path).map textValue
  | "getContentBytes" => answer args fun state path => (store.read state path).map .bytes
  | "getDirectory" => answer args fun state path => (store.list state path).map Value.ofStrings
  | "statAsync" =>
    answerLater (path args) args fun state path => (store.stat state path).map statValue
  | "getDirectoryAsync" =>
    answerLater (path args) args fun state path => (store.list state path).map Value.ofStrings
  | "getContentAsync" =>
    answerLater (itemPath args) args fun state path => (store.read state path).map textValue
  | "writeContent" => write store args
  | _ => pure (.error (.unknownMember method))

end FileSystem

end ScriptBridge
