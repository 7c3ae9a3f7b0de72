import ScriptBridge.Bridge.Completion

/-!
# The bridge as a whole

`Bridge.answer` ties the knot: calls of the bridge are answered by the channels, and what native
code calls in the course of an answer is answered in the same way one level down. Levels are
bounded, as stacks are; a call that needs more of them has no result. The number of levels also
bounds how many stubs one drain makes.

What the surroundings of the bridge do is here too: channels and workers are made, messages are
delivered by name, workers are flushed, background work runs, the context is released.
-/

namespace ScriptBridge

namespace Bridge

variable {σ : Type}

/-! ## Answering calls -/

/-- What a call does, given what the calls made meanwhile do. -/
def answerWith (host : Host σ) (inner : Answerer σ) (patience : Nat) : Answerer σ
  | .bind channel object place => ChannelId.bind host inner patience channel object place
  | .unbind channel => ChannelId.unbind channel
  | .dispatch channel message => ChannelId.dispatch host inner channel message
  | .dispatchSync channel message => ChannelId.dispatchSync host inner patience channel message
  | .serialize channel value => do
    return (← ChannelId.expression host inner patience channel value).text
  | .complete function outcome => ChannelId.complete host inner patience function outcome
  | .steer injection => Run.changeContext fun context => { context with injection }

/-- What a call does, on at most so many levels. -/
def answer (host : Host σ) : Nat → Answerer σ
  | 0 => fun _ => Run.stuck
  | levels + 1 => fun request => answerWith host (answer host levels) levels request

/-- How many levels calls may use. -/
def levels : Nat := 4096

/-- The meaning of calls of the bridge. -/
def answerer (host : Host σ) : Answerer σ := answer host levels

/-! ## Messages by name -/

/-- Delivers a message to the channel that handles its name, and says whether there is one. -/
def post (host : Host σ) (message : Message) : Run σ Bool := do
  match (← get).context.bind fun context => context.handlers.get? message.name with
  | none => return false
  | some channel =>
    answerer host (.dispatch channel message)
    return true

/-- Delivers a message that waits for its reply, if a channel handles its name. -/
def postSync? (host : Host σ) (message : Message) : Run σ (Option String) := do
  match (← get).context.bind fun context => context.handlers.get? message.name with
  | none => return none
  | some channel => return some (← answerer host (.dispatchSync channel message))

/-! ## Making channels and workers -/

/-- The next free name in a table. -/
def nextName {β : Type} (table : Table Nat β) : Nat :=
  match table.entries.getLast? with
  | none => 0
  | some (last, _) => last + 1

/-- Makes a worker. -/
def addWorker (kind : WorkerKind) (label : String) : Run σ WorkerId := do
  let bridge ← get
  let id := nextName bridge.workers
  set { bridge with workers := bridge.workers.insert id { label, kind } }
  return id

/-- Makes a channel. -/
def addChannel (channel : Channel) : Run σ ChannelId := do
  let bridge ← get
  let id := nextName bridge.channels
  set { bridge with channels := bridge.channels.insert id channel }
  return id

/-- Makes a channel and binds an object to it. -/
def load (host : Host σ) (channel : Channel) (object : ObjectRef) (place : String) :
    Run σ (Except BridgeError Handle) := do
  let id ← addChannel channel
  answerer host (.bind id object place)

/-- Lets go of the script side, and with it of the handlers registered there. -/
def release : Run σ Unit := modify fun bridge => { bridge with context := none }

/-! ## Letting work run -/

/-- Runs background work. A completion that is not delivered is only logged. -/
def runDeferred (host : Host σ) (work : Deferred σ) : Run σ Unit :=
  Run.within { thread := .background } do
    let outcome := work.outcome (← get).native
    match ← answerer host (.complete work.function outcome) with
    | .ok () => return
    | .error e => Run.say .warn ("completion not delivered: " ++ e.message)

/-- Runs background work, oldest first. -/
def runDeferreds (host : Host σ) : List (Deferred σ) → Run σ Unit
  | [] => return
  | work :: rest => do
    runDeferred host work
    runDeferreds host rest

/-- Waits for each of some workers. -/
def flushAll (host : Host σ) : List WorkerId → Run σ Unit
  | [] => return
  | id :: ids => do
    Run.flush host (answerer host) id
    flushAll host ids

/-- Whether no work waits anywhere. -/
def isQuiet (bridge : Bridge σ) : Bool :=
  bridge.background.isEmpty && bridge.workers.entries.all fun (_, worker) => worker.waiting.isEmpty

/-- Lets all waiting work run, and the work that is left meanwhile. -/
def settle (host : Host σ) : Nat → Run σ Unit
  | 0 => Run.stuck
  | rounds + 1 => do
    let bridge ← get
    if bridge.isQuiet then return
    flushAll host (bridge.workers.entries.map (·.1))
    let work := (← get).background
    modify fun bridge => { bridge with background := [] }
    runDeferreds host work
    settle host rounds

/-- Waits until no work waits anywhere. -/
def settled (host : Host σ) : Run σ Unit := settle host levels

/-- Performs a run from the caller's thread. -/
def perform? {α : Type} (run : Run σ α) (bridge : Bridge σ) : Option (α × Bridge σ) :=
  run {} bridge

end Bridge

end ScriptBridge
