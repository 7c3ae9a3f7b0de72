import ScriptBridge.Bridge.Perform
import ScriptBridge.Catalogue.Programs

/-!
# Working with workers directly

A *shift* hands work to one worker step by step, next to a second one, without any channel between.
The work is that of two objects of the catalogue: a journal, which writes lines down in the order in
which they are written, and a bag, which panics when it is told to. What a shift shows is how the
two ways of handing in work behave: in which order lines are written, on which thread work runs,
what becomes of a panic, and what a worker answers that is asked to wait for itself.
-/

namespace ScriptBridge

open Catalogue (Stock)

/-- Two workers and what they work with. -/
structure Shift where
  typeNames : Catalogue.TypeNames
  bridge : Bridge Stock
  journal : Binding
  bag : Binding
  /-- The worker in question, until it is stopped. -/
  worker : Option WorkerId
  /-- The worker next to it. -/
  other : WorkerId

/-- What is done in one step. A text is what is written down, or what is panicked with. -/
inductive ShiftStep where
  | submit (text : String)
  | submitPanic (text : Option String)
  /-- Writes on the worker and waits. -/
  | sync (text : String)
  | syncPanic (text : Option String)
  /-- The worker waits for itself. -/
  | nested
  /-- The worker submits to itself. -/
  | nestedSubmit (text : String)
  /-- The worker waits for all that was submitted to it. -/
  | nestedFlush
  /-- The other worker waits for the worker. -/
  | cross
  /-- The worker waits for the other one, which submits to the worker. -/
  | crossBack (text : String)
  | flush
  | isCurrent
  | label
  | describe
  /-- Whether the worker's thread is the one its work runs on, and the one that asks. -/
  | ownThread
  /-- A new worker of a label is taken as the choice of a channel. -/
  | choose (label : String)
  /-- A new queue of a label is given up by its own work. -/
  | giveUpInside (label : String)
  | stop

/-- What a step replies. -/
inductive ShiftReply where
  | done
  /-- There is no worker any more. -/
  | stopped
  | text (s : String)
  | texts (items : List String)
  | flags (items : List Bool)
  | failure (e : BridgeError)

namespace Shift

/-- The native code of a shift. -/
def host (shift : Shift) : Host Stock := Catalogue.host shift.typeNames toString

/-- A shift with a worker, and a second one of the label `other`. -/
def start? (typeNames : Catalogue.TypeNames) (kind : WorkerKind) (label other : String) :
    Option Shift := do
  let (journal, stock) := (Catalogue.Order.simple .journal).make typeNames {}
  let (bag, stock) := (Catalogue.Order.bag {}).make typeNames stock
  let workers : Run Stock (WorkerId × WorkerId) := do
    return (← Bridge.addWorker kind label, ← Bridge.addWorker .queue other)
  let ((worker, other), bridge) ← Bridge.perform? workers { native := stock, context := none }
  return { typeNames, bridge, journal := ⟨"journal", journal⟩, bag := ⟨"bag", bag⟩,
           worker := some worker, other }

/-! ## Work -/

variable (shift : Shift)

/-- The call that writes a text down. -/
def note (text : String) : Task := .invoke shift.journal "note" [.string text]

/-- The call that panics. -/
def panic (text : Option String) : Task :=
  .invoke shift.bag "panic" [(text.map Value.string).getD (.int 0)]

/-- Runs a call in the midst of other work. -/
def perform (task : Task) : Run Stock Unit := task.run shift.host (Bridge.answerer shift.host)

/-- Runs a call and gives what it ends with. -/
def ending (task : Task) : Run Stock (Finish (Except BridgeError Value)) :=
  match task with
  | .invoke binding method args =>
    binding.invoke shift.host (Bridge.answerer shift.host) method args
  | _ => pure (.returned (.ok .undefined))

/-- Runs work on a worker and waits for it. -/
def sync {α : Type} (worker : WorkerId) (work : Run Stock α) : Run Stock (Except BridgeError α) :=
  Run.sync shift.host (Bridge.answerer shift.host) worker work

/-- Waits for all that was submitted to a worker. -/
def flush (worker : WorkerId) : Run Stock Unit :=
  Run.flush shift.host (Bridge.answerer shift.host) worker

/-- Whether work runs on a worker. -/
def isOn (worker : WorkerId) : Run Stock Bool := do
  return (← read).thread = .worker worker

/-- Takes a worker away. What was submitted to it has run. -/
def remove (worker : WorkerId) : Run Stock Unit :=
  modify fun bridge => { bridge with workers := bridge.workers.erase worker }

/-- The reply for an outcome. -/
def replyOf {α : Type} (toReply : α → ShiftReply) : Except BridgeError α → ShiftReply
  | .ok a => toReply a
  | .error e => .failure e

/-! ## Steps -/

/-- Does what a step says with a worker. -/
def act (id : WorkerId) (worker : Worker Task) : ShiftStep → Run Stock ShiftReply
  | .submit text => do
    Run.submit id (shift.note text)
    return .done
  | .submitPanic text => do
    Run.submit id (shift.panic text)
    return .done
  | .sync text => do
    let name ← shift.sync id do
      shift.perform (shift.note text)
      Run.threadName
    return replyOf .text name
  | .syncPanic text => do
    let outcome ← shift.sync id (shift.ending (shift.panic text))
    return replyOf (fun _ => .done) (outcome.bind Finish.result)
  | .nested => do
    let outcome ← shift.sync id (shift.sync id (pure ()))
    return replyOf (fun _ => .done) (outcome.bind fun inner => inner)
  | .nestedSubmit text => do
    let outcome ← shift.sync id do
      Run.submit id (shift.note text)
      shift.perform (shift.note "outer")
      return true
    return replyOf (fun submitted => .flags [submitted]) outcome
  | .nestedFlush => do
    let outcome ← shift.sync id do
      shift.flush id
      return [true, ← isOn id]
    return replyOf .flags outcome
  | .cross => do
    let outcome ← shift.sync shift.other (shift.sync id Run.threadName)
    return replyOf .text (outcome.bind fun inner => inner)
  | .crossBack text => do
    let outcome ← shift.sync id (shift.sync shift.other do
      Run.submit id (shift.note text)
      Run.threadName)
    return replyOf .text (outcome.bind fun inner => inner)
  | .flush => do
    shift.flush id
    return .done
  | .isCurrent => do return .flags [← isOn id]
  | .label => return .text worker.label
  | .describe => return .text (Worker.shownAs worker.kind worker.label)
  | .ownThread => do
    let inside ← shift.sync id (isOn id)
    let outside ← isOn id
    return replyOf (fun inside => .flags [inside, outside]) inside
  | .choose label => do
    let fresh ← Bridge.addWorker worker.kind label
    let name ← shift.sync fresh Run.threadName
    remove fresh
    return replyOf (fun name => .texts [label, name, Worker.choiceShownAs worker.kind label]) name
  | .giveUpInside label => do
    let fresh ← Bridge.addWorker .queue label
    let name ← shift.sync fresh do
      let name ← Run.threadName
      shift.perform (shift.note "dropped")
      return name
    remove fresh
    return replyOf .text name
  | .stop => do
    shift.flush id
    remove id
    return .done

/-- Does what a step says, while there is a worker. -/
def step? (step : ShiftStep) : Option (ShiftReply × Shift) := do
  let some id := shift.worker | return (.stopped, shift)
  let some worker := shift.bridge.workers.get? id | return (.stopped, { shift with worker := none })
  let (reply, bridge) ← Bridge.perform? (shift.act id worker step) shift.bridge
  return (reply, { shift with bridge })

/-- Lets all submitted work run, and gives what has been written down and the new lines of the
log. -/
def settle? : Option ((List String × List Line) × Shift) := do
  let ((), bridge) ← Bridge.perform? (Bridge.settled shift.host) shift.bridge
  return ((bridge.native.journal, bridge.log), { shift with bridge := { bridge with log := [] } })

end Shift

end ScriptBridge
