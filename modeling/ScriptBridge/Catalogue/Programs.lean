import ScriptBridge.Catalogue.Stock
import ScriptBridge.Json.Reader

/-!
# The catalogue of plugins: programs

What runs when a member of an object of the catalogue is reached.
-/

namespace ScriptBridge.Catalogue

/-- How a method of the catalogue ends. -/
abbrev Ending := Finish (Except BridgeError Value)

/-- Ends with a value. -/
def answer (value : Value) : Native Stock Ending := pure (.returned (.ok value))

/-- Ends with a failure. -/
def fail (e : BridgeError) : Native Stock Ending := pure (.returned (.error e))

/-- Ends with a failure of native code. -/
def failWith (text : String) : Native Stock Ending := fail (.nativeFailure text)

/-- An argument by position. -/
def arg (args : List Value) (i : Nat) : Value := (args[i]?).getD .undefined

/-- The text of the first argument, or another text. -/
def textOr (other : String) (args : List Value) : String := ((arg args 0).string?).getD other

/-- The word of the first argument, or another word. -/
def wordOr (other : Int64) (args : List Value) : Int64 := ((arg args 0).word?).getD other

/-- Carries an intervention out. -/
def intervene : Option Intervention → Native Stock Unit
  | none => pure ()
  | some .reject => .call (.steer .reject) fun _ => .done ()
  | some (.unbind channel) => .call (.unbind channel) fun _ => .done ()

/-! ## Bags -/

namespace Bag

/-- The failures that a bag can be told to report. -/
def denial : String → BridgeError
  | "readonly" => .readOnlyProperty "readonly"
  | "member" => .unknownMember "member"
  | "arity" => .arityMismatch "arity" 1 2
  | "instance" => .unknownInstance (-7)
  | "malformed" => .malformedMessage "malformed"
  | "affinity" => .affinity "affinity"
  | "evaluation" => .evaluation "evaluation"
  | "settings" => .settings "settings"
  | "bound" => .alreadyBound "bound"
  | "empty" => .emptyPlace
  | _ => .contextReleased

/-- The message that a bag sends on: the argument read as data. -/
def nested (value : Value) : Message := ⟨"nested", value.string?.bind Json.parse?⟩

/-- Does something with the attached channel. -/
def withAttached (bag : Bag) (act : ChannelId → Native Stock Ending) : Native Stock Ending :=
  match bag.attached with
  | none => failWith "not attached"
  | some channel => act channel

/-- Completes the callback in the second argument with the first. -/
def finish (args : List Value) : Native Stock Ending :=
  match (arg args 1).callback? with
  | none => failWith "callback required"
  | some function =>
    let outcome := match arg args 0 with
      | .null => Except.error "nothing to finish"
      | value => .ok value
    .call (.complete function outcome) fun reply =>
      .done (.returned (reply.map fun _ => .undefined))

/-- Panics as the argument says. -/
def panic : Value → Native Stock Ending
  | .string text => pure (.panicked (some text))
  | .int _ => pure (.panicked none)
  | _ => pure (.panicked (some "boom"))

/-- Runs a method of a bag. -/
def invoke (ref : ObjectRef) (bag : Bag) (method : String) (args : List Value) :
    Native Stock Ending :=
  match method with
  | "get" => answer ((bag.table.get? (textOr "slot" args)).getD .undefined)
  | "put" =>
    match (arg args 0).string? with
    | none => failWith "key must be a string"
    | some key => do
      Native.update fun stock =>
        stock.changeBag ref fun bag => { bag with table := bag.table.insert key (arg args 1) }
      answer .undefined
  | "args" => answer (.array args)
  | "kinds" => answer (.ofStrings (args.map Value.kind))
  | "record" => do
    Native.update fun stock =>
      stock.changeBag ref fun bag => { bag with calls := bag.calls ++ [args] }
    answer .undefined
  | "pair" => answer (.array args)
  | "thread" => do answer (.string (← Native.threadName))
  | "fail" => failWith (textOr "failed" args)
  | "deny" => fail (denial (textOr "x" args))
  | "panic" => panic (arg args 0)
  | "keep" => do
    let functions := args.filterMap Value.callback?
    Native.update fun stock =>
      stock.changeBag ref fun bag => { bag with kept := bag.kept ++ functions }
    answer .undefined
  | "finish" => finish args
  | "reenter" =>
    withAttached bag fun channel =>
      .call (.dispatchSync channel (nested (arg args 0))) fun reply => answer (.string reply)
  | "repost" =>
    withAttached bag fun channel =>
      .call (.dispatch channel (nested (arg args 0))) fun _ => answer (.string "posted")
  | "show" =>
    withAttached bag fun channel =>
      .call (.serialize channel (arg args 0)) fun reply => answer (.string reply)
  | _ => fail (.unknownMember method)

/-- Reads a property of a bag. -/
def get (ref : ObjectRef) (bag : Bag) (property : String) : Native Stock Value :=
  match property with
  | "slot" => pure ((bag.table.get? "slot").getD .undefined)
  | "peer" => do
    Native.update fun stock => stock.changeBag ref fun bag => { bag with onRead := none }
    intervene bag.onRead
    pure ((bag.table.get? "peer").getD .undefined)
  | "live" =>
    match bag.attached with
    | none => pure .null
    | some channel =>
      .call (.serialize channel ((bag.table.get? "live").getD .undefined)) fun reply =>
        .done (.string reply)
  | _ => pure .undefined

end Bag

/-! ## All kinds -/

/-- Runs a method of a registry. -/
def registryInvoke (names : TypeNames) (favorite child : ObjectRef) (method : String) :
    Native Stock Ending :=
  match method with
  | "child" => answer (.native child)
  | "make" => do
    let (made, stock) := (← Native.state).add (names .greeter) (.greeter "hello")
    Native.update fun _ => stock
    answer (.native made)
  | "all" =>
    answer (.ofFields
      [("z", .native child), ("a", .array [.native favorite, .native child])])
  | _ => fail (.unknownMember method)

/-- Runs a method of an object that holds nothing. -/
def simpleInvoke (kind : Kind) (method : String) (args : List Value) : Native Stock Ending :=
  match kind, method with
  | .shadowed, "once" => answer (.int 1)
  | .doubler, "" => answer (.int (wordOr 0 args * 2))
  | .doubler, "half" => answer (.float ((((arg args 0).float?).getD 0) / 2))
  | .weird, method => answer (.array (.string method :: args))
  | .journal, "work" => do
    Native.update fun stock => stock.write "work done"
    answer .undefined
  | .journal, "note" => do
    Native.update fun stock => stock.write (textOr "-" args)
    answer .undefined
  | .console, method => do return .returned (← Console.invoke method args)
  | _, _ => answer .undefined

/-- Runs a method. -/
def invoke (names : TypeNames) (ref : ObjectRef) (method : String) (args : List Value) :
    Native Stock Ending := do
  match (← Native.state).object? ref, method with
  | some (.greeter greeting), "greet" =>
    answer (.string (greeting ++ ", " ++ textOr "stranger" args))
  | some (.greeter _), "fail" => failWith (textOr "failed" args)
  | some (.counter count), "increment" =>
    Native.update fun stock => stock.setObject ref (.counter (count + wordOr 1 args))
    answer .undefined
  | some (.counter count), "get" => answer (.int count)
  | some (.registry favorite child), method => registryInvoke names favorite child method
  | some (.bag bag), method => bag.invoke ref method args
  | some (.shelf _), method =>
    return .returned (← FileSystem.invoke (Stock.shelfStore ref) method args)
  | some (.files store), method =>
    return .returned (← FileSystem.invoke (Stock.fileStore store) method args)
  | some .simple, method =>
    match names.kind? ref.typeName with
    | some kind => simpleInvoke kind method args
    | none => fail (.unknownMember method)
  | _, _ => fail (.unknownMember method)

/-- Reads a property. -/
def get (names : TypeNames) (ref : ObjectRef) (property : String) : Native Stock Value := do
  match (← Native.state).object? ref, property with
  | some (.greeter greeting), "greeting" => pure (.string greeting)
  | some (.greeter _), "version" => pure (.int 1)
  | some (.counter count), "value" => pure (.int count)
  | some (.registry favorite _), "favorite" => pure (.native favorite)
  | some (.bag bag), property => bag.get ref property
  | some .simple, _ =>
    if names.kind? ref.typeName = some .weird then pure (.string "\x01\x7f\u2028")
    else pure .undefined
  | _, _ => pure .undefined

/-- Writes a property. -/
def set (ref : ObjectRef) (property : String) (value : Value) :
    Native Stock (Finish (Except BridgeError Unit)) := do
  match (← Native.state).object? ref, property, value with
  | some (.greeter _), "greeting", .string greeting =>
    Native.update fun stock => stock.setObject ref (.greeter greeting)
    return .returned (.ok ())
  | some (.greeter _), "greeting", _ =>
    return .returned (.error (.nativeFailure "greeting must be a string"))
  | some (.bag _), "slot", .string "reject" =>
    return .returned (.error (.nativeFailure "slot rejected"))
  | some (.bag _), "slot", value =>
    Native.update fun stock =>
      stock.changeBag ref fun bag => { bag with table := bag.table.insert "slot" value }
    return .returned (.ok ())
  | _, _, _ => return .returned (.error (.readOnlyProperty property))

/-- Makes a counter. -/
def makeCounter (names : TypeNames) (args : List Value) :
    Native Stock (Finish (Except BridgeError ObjectRef)) := do
  match arg args 0 with
  | .string "panic" => return .panicked (some "initializer panicked")
  | _ =>
    let start := wordOr 0 args
    if start < 0 then
      return .returned (.error (.nativeFailure ("negative start " ++ toString start.toInt)))
    else
      let (made, stock) := (← Native.state).add (names .counter) (.counter start)
      Native.update fun _ => stock
      return .returned (.ok made)

/-- Makes a journal. -/
def makeJournal (names : TypeNames) : Native Stock (Finish (Except BridgeError ObjectRef)) := do
  let thread ← Native.threadName
  let stock ← Native.state
  Native.update fun stock => { stock.write ("init on " ++ thread) with onInit := none }
  intervene stock.onInit
  let (made, stock) := (← Native.state).add (names .journal) .simple
  Native.update fun _ => stock
  return .returned (.ok made)

/-- Makes an instance of a type. -/
def construct (names : TypeNames) (typeName : String) (args : List Value) :
    Native Stock (Finish (Except BridgeError ObjectRef)) :=
  match names.kind? typeName with
  | some .counter => makeCounter names args
  | some .journal => makeJournal names
  | _ => pure (.returned (.error (.unknownMember (typeName ++ " initializer"))))

/-- What an object says about itself. -/
def hooks (names : TypeNames) (stock : Stock) (ref : ObjectRef) : Hooks :=
  match stock.object? ref with
  | some (.bag bag) =>
    { identifier := bag.identifier, description := bag.description, takesRaw := bag.takesRaw,
      amend := Amendment.applyAll bag.rules }
  | _ =>
    match names.kind? ref.typeName with
    | some .shelf | some .files => { description := FileSystem.description }
    | some .weird => { description := Kind.weirdDescription }
    | _ => { description := defaultDescription ref.typeName }

/-- Takes a message that is no request. -/
def receive (ref : ObjectRef) (message : Message) : Native Stock (Finish Unit) := do
  Native.update fun stock =>
    stock.changeBag ref fun bag => { bag with raw := bag.raw ++ [message] }
  return .returned ()

/-- All native code of the catalogue. -/
def host (names : TypeNames) (draw : Nat → String) : Host Stock where
  surface := names.surface
  hooks := hooks names
  get := get names
  set := set
  invoke := invoke names
  construct := construct names
  receive := receive
  draw := draw

end ScriptBridge.Catalogue
