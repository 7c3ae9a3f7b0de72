import ScriptBridge.Error
import ScriptBridge.Text.Shown

/-!
# Workers

A *worker* runs pieces of native code one at a time, in the order in which they were handed to it.
Work is *submitted*, and then runs later, or is run *synchronously*, and then the caller waits for
it behind everything submitted before. A worker that waited for itself would wait for ever, so a
synchronous call from a worker to itself is refused. Work that panics ends, and the worker goes on.

What the work is, is left open: the channels of the bridge hand in native calls.
-/

namespace ScriptBridge

/-! ## How work ends -/

/-- How a piece of native code ends: it returns, or it panics with a text or without one. -/
inductive Finish (α : Type) where
  | returned (a : α)
  | panicked (text : Option String)

namespace Finish

/-- The text under which a panic is reported. -/
def panicText (text : Option String) : String := text.getD "native code panicked"

/-- The result of fallible work for one who waits for it: a panic is a failure of native code. -/
def result {α : Type} : Finish (Except BridgeError α) → Except BridgeError α
  | .returned outcome => outcome
  | .panicked text => .error (.nativeFailure (panicText text))

/-- The log text for a panic that nobody waits for. -/
def unattended (text : Option String) : String := "native task panicked: " ++ panicText text

end Finish

/-! ## Workers -/

/-- The kinds of worker. -/
inductive WorkerKind where
  /-- A queue that may be shared. -/
  | queue
  /-- A thread of its own. -/
  | thread
  deriving DecidableEq, Repr

/-- A worker with what waits for it. -/
structure Worker (τ : Type) where
  label : String
  kind : WorkerKind
  /-- What has been submitted and has not run, oldest first. -/
  waiting : List τ := []

/-- The label of the queue that serves whoever does not ask for another. -/
def sharedLabel : String := "io.latch.scripting.default-queue"

namespace Worker

variable {τ : Type}

/-- Puts work at the end of the queue. -/
def enqueue (worker : Worker τ) (work : τ) : Worker τ :=
  { worker with waiting := worker.waiting ++ [work] }

/-- Takes everything that waits. -/
def takeAll (worker : Worker τ) : List τ × Worker τ :=
  (worker.waiting, { worker with waiting := [] })

/-- The failure of a worker that would wait for itself. -/
def reentered (label : String) : BridgeError :=
  .affinity ("synchronous call re-entered '" ++ label ++ "' from its own worker")

/-- A worker of a kind in a diagnosis. -/
def shownAs : WorkerKind → String → String
  | .queue, label => "SerialQueue(" ++ shown label ++ ")"
  | .thread, label => "WorkerThread(" ++ shown label ++ ")"

/-- The choice of a worker in a diagnosis. -/
def choiceShownAs : WorkerKind → String → String
  | .queue, label => "Queue(" ++ shownAs .queue label ++ ")"
  | .thread, label => "Thread(" ++ shownAs .thread label ++ ")"

end Worker

end ScriptBridge
