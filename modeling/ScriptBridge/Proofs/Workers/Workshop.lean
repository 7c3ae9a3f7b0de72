import Mathlib.Data.List.Nodup
import Mathlib.Data.List.Range
import ScriptBridge.Worker

/-!
# A worker and those who use it

A worker is a thread with a queue, and whoever has a handle of it can put work there. When the last
handle is given up, a sign to stop goes the same way, and the thread ends when it finds it. This
file follows one worker through all that can happen between its thread, the tasks that run on it and
any number of *clients*, which are other threads: a `Workshop` is the state of all of them, and
`Workshop.Step` says what the next event can be. Events of different parties come in any order.

## Who can do what

Clients submit tasks, or enter calls and wait for what comes of them; a flush is a call of a task
that does nothing. The task that is running does the same, except that it cannot wait for its own
worker. Both share handles, hand them on and drop them. A handle may be captured by a task, even by
one that still waits, and then it goes with that task. The guards of the steps are the ones that
there are in the program: a submission fails if there is no thread any more to receive it, and a
call fails if its task was thrown away; that neither ever happens is proved (`Orderly`). Nobody is
held to keep a handle while it waits; the histories in which everybody does are among the ones here.

## What keeps it in order

Tasks carry the number under which they were accepted. `Workshop.Orderly` is the invariant: what has
finished, what is running and what waits are all the tasks that were ever accepted, in the order of
their numbers, and behind a sign to stop there is nothing, since nobody is left who could put
something there.
-/

namespace ScriptBridge

/-- What comes of work for one who waits for it: what it returns, or that it has panicked. -/
def Finish.outcome {ρ : Type} : Finish ρ → Except BridgeError ρ
  | .returned a => .ok a
  | .panicked text => .error (.nativeFailure (panicText text))

/-- **What is to come of work for one who waits for it.** A panic is told as a failure of native
code, in the words of the panic, and in words of its own if the panic has none. -/
inductive Finish.Gives {ρ : Type} : Finish ρ → Except BridgeError ρ → Prop where
  | value (a : ρ) : Gives (.returned a) (.ok a)
  | words (text : String) : Gives (.panicked (some text)) (.error (.nativeFailure text))
  | silent : Gives (.panicked none) (.error (.nativeFailure "native code panicked"))

/-- What is to come of work is one thing, and it does. -/
theorem Finish.gives_iff {ρ : Type} {finish : Finish ρ} {outcome : Except BridgeError ρ} :
    finish.Gives outcome ↔ outcome = finish.outcome := by
  constructor
  · rintro ⟨⟩ <;> rfl
  · rintro rfl
    cases finish with
    | returned a => exact .value a
    | panicked text =>
      cases text with
      | none => exact .silent
      | some text => exact .words text

theorem Finish.gives_outcome {ρ : Type} (finish : Finish ρ) : finish.Gives finish.outcome :=
  gives_iff.mpr rfl

/-- The failure of a submission that no thread is left for. -/
def Worker.shutDown (label : String) : BridgeError := .affinity ("'" ++ label ++ "' has shut down")

/-- The failure of a call whose task was thrown away. -/
def Worker.unanswered (label : String) : BridgeError :=
  .affinity ("'" ++ label ++ "' stopped before completing the call")

/-! ## States -/

/-- What a worker finds in its queue: a task, by the number under which it was accepted, or the sign
to stop. -/
inductive Job where
  | run (ticket : Nat)
  | stop
  deriving DecidableEq, Repr

/-- Where a handle is kept: somewhere outside, or captured by a task. -/
inductive Keeper where
  | outside
  | task (ticket : Nat)
  deriving DecidableEq, Repr

/-- Who uses a worker: another thread, or the task that runs on the worker. -/
inductive Party where
  | client (id : Nat)
  | worker
  deriving DecidableEq, Repr

/-- A worker in use. Tasks return values of one type. -/
structure Workshop (ρ : Type) where
  worker : Worker Job
  /-- How many tasks have been accepted. -/
  accepted : Nat := 0
  /-- The task that is running. -/
  running : Option Nat := none
  /-- The tasks that have run, in that order, and how each of them ended. -/
  finished : List (Nat × Finish ρ) := []
  /-- The clients that wait, each for a task of its own. -/
  waits : List (Nat × Nat) := []
  /-- Where the handles are. -/
  handles : List Keeper := [.outside]
  /-- Who has dropped the last handle, and is not through with that. -/
  leaver : Option Party := none
  /-- Whether the sign to stop has been given. -/
  closed : Bool := false
  /-- Whether the thread has ended. -/
  stopped : Bool := false

/-- The task that a job runs. -/
def Job.ticket? : Job → Option Nat
  | .run ticket => some ticket
  | .stop => none

namespace Workshop

variable {ρ : Type}

/-- A worker that has just been started. -/
def start (label : String) (kind : WorkerKind) : Workshop ρ := { worker := { label, kind } }

/-- The tasks that wait in the queue. -/
def waiting (s : Workshop ρ) : List Nat := s.worker.waiting.filterMap Job.ticket?

/-- The tasks that have finished. -/
def tickets (s : Workshop ρ) : List Nat := s.finished.map Prod.fst

/-- Whether a party can do something now: a client does not wait, a task is running. -/
def Active (s : Workshop ρ) : Party → Prop
  | .client c => c ∉ s.waits.map Prod.fst
  | .worker => s.running.isSome

instance (s : Workshop ρ) : (party : Party) → Decidable (s.Active party)
  | .client c => inferInstanceAs (Decidable (c ∉ s.waits.map Prod.fst))
  | .worker => inferInstanceAs (Decidable (s.running.isSome = true))

/-- Whether a handle can be put there: a task captures none once it has finished. -/
def CanKeep (s : Workshop ρ) : Keeper → Prop
  | .outside => True
  | .task ticket => ticket ∈ s.running.toList ++ s.waiting

/-- Puts a task into the queue, together with handles that it has captured. -/
def accept (captured : Nat) (s : Workshop ρ) : Workshop ρ :=
  { s with
    worker := s.worker.enqueue (.run s.accepted)
    accepted := s.accepted + 1
    handles := s.handles ++ List.replicate captured (.task s.accepted) }

/-- Leaves a number of handles, and whoever leaves none is the leaver. -/
def keep (handles : List Keeper) (party : Party) (s : Workshop ρ) : Workshop ρ :=
  { s with handles, leaver := if s.handles ≠ [] ∧ handles = [] then some party else s.leaver }

/-! ## Steps -/

/-- What happens. -/
inductive Event (ρ : Type) where
  /-- A task has been accepted, and nobody waits for it. -/
  | submitted (party : Party) (ticket : Nat)
  /-- A client has had a task accepted and waits for it. -/
  | entered (client ticket : Nat)
  /-- A client has what came of the task that it waited for. -/
  | returned (client ticket : Nat) (outcome : Except BridgeError ρ)
  /-- A party is refused, and nothing is accepted. -/
  | refused (party : Party) (e : BridgeError)
  /-- The running task has flushed its own worker. -/
  | flushed
  | began (ticket : Nat)
  | ended (ticket : Nat) (finish : Finish ρ)
  | shared (party : Party)
  | handed (party : Party)
  | dropped (party : Party)
  | closed
  | stopped
  /-- A client that has dropped the last handle finds the thread ended. -/
  | joined (client : Nat)

/-- **What can happen next.** -/
inductive Step : Workshop ρ → Event ρ → Workshop ρ → Prop where
  | submit {s : Workshop ρ} {party : Party} (captured : Nat) (hactive : s.Active party)
    (hhandle : s.handles ≠ []) (hthread : s.stopped = false) :
    Step s (.submitted party s.accepted) (s.accept captured)
  | enter {s : Workshop ρ} {c : Nat} (captured : Nat) (hactive : s.Active (.client c))
    (hhandle : s.handles ≠ []) (hthread : s.stopped = false) :
    Step s (.entered c s.accepted) { s.accept captured with waits := s.waits ++ [(c, s.accepted)] }
  | refuse {s : Workshop ρ} {party : Party} (hactive : s.Active party)
    (hhandle : s.handles ≠ []) (hthread : s.stopped = true) :
    Step s (.refused party (Worker.shutDown s.worker.label)) s
  | reenter {s : Workshop ρ} (hactive : s.Active .worker) (hhandle : s.handles ≠ []) :
    Step s (.refused .worker (Worker.reentered s.worker.label)) s
  | flush {s : Workshop ρ} (hactive : s.Active .worker) (hhandle : s.handles ≠ []) :
    Step s .flushed s
  | begin {s : Workshop ρ} {ticket : Nat} {rest : List Job} (hthread : s.stopped = false)
    (hidle : s.running = none) (hnext : s.worker.waiting = .run ticket :: rest) :
    Step s (.began ticket)
      { s with worker := { s.worker with waiting := rest }, running := some ticket }
  /-- What the task has captured and not handed on is dropped with it. -/
  | finish {s : Workshop ρ} {ticket : Nat} (finish : Finish ρ)
    (hrunning : s.running = some ticket) :
    Step s (.ended ticket finish)
      { s.keep (s.handles.filter (· ≠ .task ticket)) .worker with
        running := none, finished := s.finished ++ [(ticket, finish)] }
  | reply {s : Workshop ρ} {c ticket : Nat} {finish : Finish ρ} (hwaits : (c, ticket) ∈ s.waits)
    (hfinished : (ticket, finish) ∈ s.finished) :
    Step s (.returned c ticket finish.outcome) { s with waits := s.waits.erase (c, ticket) }
  | lose {s : Workshop ρ} {c ticket : Nat} (hwaits : (c, ticket) ∈ s.waits)
    (hthread : s.stopped = true) (hlost : ticket ∉ s.tickets) :
    Step s (.returned c ticket (.error (Worker.unanswered s.worker.label)))
      { s with waits := s.waits.erase (c, ticket) }
  | share {s : Workshop ρ} {party : Party} {keeper : Keeper} (hactive : s.Active party)
    (hhandle : s.handles ≠ []) (hkeeper : s.CanKeep keeper) :
    Step s (.shared party) { s with handles := s.handles ++ [keeper] }
  | hand {s : Workshop ρ} {party : Party} {keeper keeper' : Keeper} (hactive : s.Active party)
    (hhandle : keeper ∈ s.handles) (hkeeper : s.CanKeep keeper') :
    Step s (.handed party) { s with handles := s.handles.erase keeper ++ [keeper'] }
  | drop {s : Workshop ρ} {party : Party} {keeper : Keeper} (hactive : s.Active party)
    (hhandle : keeper ∈ s.handles) :
    Step s (.dropped party) (s.keep (s.handles.erase keeper) party)
  | close {s : Workshop ρ} (hleaver : s.leaver.isSome) (hopen : s.closed = false) :
    Step s .closed { s with worker := s.worker.enqueue .stop, closed := true }
  | stop {s : Workshop ρ} {rest : List Job} (hthread : s.stopped = false)
    (hidle : s.running = none) (hnext : s.worker.waiting = .stop :: rest) :
    Step s .stopped { s with worker := { s.worker with waiting := rest }, stopped := true }
  /-- The thread itself does not wait for its end. -/
  | join {s : Workshop ρ} {c : Nat} (hleaver : s.leaver = some (.client c))
    (hclosed : s.closed = true) (hthread : s.stopped = true) :
    Step s (.joined c) { s with leaver := none }

/-- What has happened, in its order. -/
inductive History : Workshop ρ → List (Event ρ) → Workshop ρ → Prop where
  | refl (s : Workshop ρ) : History s [] s
  | next {s s' s'' : Workshop ρ} {events : List (Event ρ)} {event : Event ρ}
    (h : History s events s') (hstep : Step s' event s'') : History s (events ++ [event]) s''

/-! ## Order -/

/-- **A worker in order.** -/
structure Orderly (s : Workshop ρ) : Prop where
  /-- What was accepted has finished, is running or waits, and went that way in its order. -/
  order : s.tickets ++ s.running.toList ++ s.waiting = List.range s.accepted
  /-- The sign to stop is the last that the thread will find. -/
  queue : s.worker.waiting =
    s.waiting.map .run ++ if s.closed = true ∧ s.stopped = false then [.stop] else []
  /-- Nobody has a handle who could put something behind it. -/
  leaving : s.leaver.isSome ∨ s.closed = true → s.handles = []
  /-- When the thread has ended there was nothing left to do. -/
  ending : s.stopped = true → s.closed = true ∧ s.running = none ∧ s.waiting = []
  /-- A client waits for one task at a time, and that has been accepted. -/
  clients : (s.waits.map Prod.fst).Nodup
  awaited : ∀ wait ∈ s.waits, wait.2 < s.accepted

variable {s s' s'' : Workshop ρ} {event : Event ρ} {events : List (Event ρ)}

theorem waiting_enqueue (s : Workshop ρ) (job : Job) :
    (s.worker.enqueue job).waiting.filterMap Job.ticket? =
      s.waiting ++ job.ticket?.toList := by
  rw [Worker.enqueue, List.filterMap_append, waiting]
  cases job <;> rfl

theorem waiting_accept (captured : Nat) (s : Workshop ρ) :
    (s.accept captured).waiting = s.waiting ++ [s.accepted] := s.waiting_enqueue (.run s.accepted)

theorem orderly_start (label : String) (kind : WorkerKind) :
    (start label kind : Workshop ρ).Orderly where
  order := rfl
  queue := rfl
  leaving := by simp [start]
  ending := by simp [start]
  clients := List.nodup_nil
  awaited := by simp [start]

namespace Orderly

/-- Where there is a handle, the worker is in use. -/
theorem in_use (h : s.Orderly) (hhandle : s.handles ≠ []) :
    s.leaver = none ∧ s.closed = false := by
  simpa using mt h.leaving hhandle

theorem thread_of_handle (h : s.Orderly) (hhandle : s.handles ≠ []) : s.stopped = false := by
  by_contra hstopped
  have hclosed := (h.ending (by simpa using hstopped)).1
  rw [(h.in_use hhandle).2] at hclosed
  cases hclosed

theorem accept (h : s.Orderly) (captured : Nat) (hhandle : s.handles ≠ []) :
    (s.accept captured).Orderly where
  order := by
    have horder := h.order
    change s.tickets ++ s.running.toList ++ (s.accept captured).waiting =
      List.range (s.accepted + 1)
    rw [waiting_accept, ← List.append_assoc, horder, List.range_succ]
  queue := by
    have hqueue := h.queue
    have hopen := (h.in_use hhandle).2
    rw [hopen] at hqueue
    rw [waiting_accept]
    simp [Workshop.accept, Worker.enqueue, hqueue, hopen]
  leaving := by
    intro hleaving
    exact absurd (h.leaving hleaving) hhandle
  ending := by
    intro hstopped
    have hthread : s.stopped = true := hstopped
    rw [h.thread_of_handle hhandle] at hthread
    cases hthread
  clients := h.clients
  awaited := fun wait hwait ↦ Nat.lt_succ_of_lt (h.awaited wait hwait)

/-- Only where the handles are has changed. -/
theorem with_handles (h : s.Orderly) {handles : List Keeper} {leaver : Option Party}
    (hleaving : leaver.isSome ∨ s.closed = true → handles = []) :
    { s with handles, leaver }.Orderly :=
  { h with leaving := hleaving }

theorem keep (h : s.Orderly) {handles : List Keeper} (hfewer : s.handles = [] → handles = [])
    (party : Party) : (s.keep handles party).Orderly := by
  refine h.with_handles fun hleaving ↦ ?_
  by_cases hlast : s.handles ≠ [] ∧ handles = []
  · exact hlast.2
  · rw [if_neg hlast] at hleaving
    exact hfewer (h.leaving hleaving)

theorem answered (h : s.Orderly) (wait : Nat × Nat) :
    { s with waits := s.waits.erase wait }.Orderly :=
  { h with
    clients := h.clients.sublist (List.erase_sublist.map Prod.fst)
    awaited := fun wait' hwait ↦ h.awaited wait' (List.mem_of_mem_erase hwait) }

/-- The thread finds a task in its queue. -/
theorem begin (h : s.Orderly) {ticket : Nat} {rest : List Job} (hidle : s.running = none)
    (hnext : s.worker.waiting = .run ticket :: rest) :
    { s with worker := { s.worker with waiting := rest }, running := some ticket }.Orderly := by
  have hwaiting : s.waiting = ticket :: rest.filterMap Job.ticket? := by
    rw [waiting, hnext]
    rfl
  have horder := h.order
  have hqueue := h.queue
  rw [hidle, hwaiting] at horder
  rw [hnext, hwaiting] at hqueue
  refine { h with order := ?_, queue := ?_, ending := fun hstopped ↦ ?_ }
  · rw [← horder]
    simp [waiting, tickets]
  · exact (List.cons.inj hqueue).2
  · have hnone := (h.ending hstopped).2.2
    rw [hwaiting] at hnone
    cases hnone

theorem finish (h : s.Orderly) {ticket : Nat} (hrunning : s.running = some ticket)
    (finish : Finish ρ) :
    { s with running := none, finished := s.finished ++ [(ticket, finish)] }.Orderly := by
  have horder := h.order
  rw [hrunning] at horder
  refine { h with order := ?_, ending := fun hstopped ↦ ?_ }
  · rw [← horder]
    simp [tickets, waiting]
  · exact ⟨(h.ending hstopped).1, rfl, (h.ending hstopped).2.2⟩

/-- The sign to stop is given, once. -/
theorem close (h : s.Orderly) (hleaver : s.leaver.isSome) (hopen : s.closed = false) :
    { s with worker := s.worker.enqueue .stop, closed := true }.Orderly := by
  have hthread : s.stopped = false := by
    by_contra hstopped
    have hclosed := (h.ending (by simpa using hstopped)).1
    rw [hopen] at hclosed
    cases hclosed
  have hwaiting : (s.worker.enqueue .stop).waiting.filterMap Job.ticket? = s.waiting := by
    rw [waiting_enqueue]
    exact List.append_nil _
  have hqueue := h.queue
  rw [hopen] at hqueue
  refine { h with
    order := ?_
    queue := ?_
    leaving := fun _ ↦ h.leaving (.inl hleaver)
    ending := fun hstopped ↦ ?_ }
  · rw [← h.order]
    exact congrArg _ hwaiting
  · change (s.worker.enqueue .stop).waiting =
      ((s.worker.enqueue .stop).waiting.filterMap Job.ticket?).map .run ++
        if true = true ∧ s.stopped = false then [.stop] else []
    rw [hwaiting, hthread]
    simp [Worker.enqueue, hqueue]
  · rw [hthread] at hstopped
    cases hstopped

/-- The thread finds the sign to stop, and there is nothing behind it. -/
theorem stop (h : s.Orderly) {rest : List Job} (hthread : s.stopped = false)
    (hidle : s.running = none) (hnext : s.worker.waiting = .stop :: rest) :
    { s with worker := { s.worker with waiting := rest }, stopped := true }.Orderly := by
  have hqueue := h.queue
  rw [hnext, hthread] at hqueue
  -- a task in front of the sign would have been found first:
  have hwaiting : s.waiting = [] := by
    cases hwaiting : s.waiting with
    | nil => rfl
    | cons ticket tickets =>
      rw [hwaiting] at hqueue
      cases (List.cons.inj hqueue).1
  have hclosed : s.closed = true ∧ rest = [] := by
    rw [hwaiting] at hqueue
    cases hclosed : s.closed with
    | false => simp [hclosed] at hqueue
    | true => simpa [hclosed] using hqueue
  have hrest : (rest.filterMap Job.ticket?) = s.waiting := by rw [hclosed.2, hwaiting]; rfl
  refine { h with order := ?_, queue := ?_, ending := fun _ ↦ ?_ }
  · rw [← h.order]
    exact congrArg _ hrest
  · simp [waiting, hclosed.2]
  · exact ⟨hclosed.1, hidle, hrest.trans hwaiting⟩

/-- When the thread has ended, all that was accepted has run. -/
theorem tickets_of_stopped (h : s.Orderly) (hthread : s.stopped = true) :
    s.tickets = List.range s.accepted := by
  obtain ⟨-, hidle, hwaiting⟩ := h.ending hthread
  have horder := h.order
  rw [hidle, hwaiting] at horder
  simpa using horder

/-- **What happens next leaves the worker in order.** -/
theorem step (h : s.Orderly) (hstep : Step s event s') : s'.Orderly := by
  cases hstep with
  | submit captured _ hhandle _ => exact h.accept captured hhandle
  | enter captured hactive hhandle _ =>
    have haccepted := h.accept captured hhandle
    refine { haccepted with clients := ?_, awaited := ?_ }
    · rw [List.map_append, List.nodup_append]
      refine ⟨h.clients, List.nodup_singleton _, ?_⟩
      rintro c hc _ hnew rfl
      rw [List.mem_singleton.mp hnew] at hc
      exact hactive hc
    · intro wait hwait
      rcases List.mem_append.mp hwait with hwait | hwait
      · exact haccepted.awaited wait hwait
      · rw [List.mem_singleton.mp hwait]
        exact Nat.lt_succ_self s.accepted
  | refuse | reenter | flush => exact h
  | begin _ hidle hnext => exact h.begin hidle hnext
  | finish finish hrunning =>
    exact (h.keep (fun hnone ↦ by rw [hnone, List.filter_nil]) _).finish hrunning finish
  | reply | lose => exact h.answered _
  | share _ hhandle _ =>
    refine h.with_handles fun hleaving ↦ absurd (h.leaving hleaving) hhandle
  | hand _ hhandle _ =>
    refine h.with_handles fun hleaving ↦ ?_
    exact absurd (h.leaving hleaving) (List.ne_nil_of_mem hhandle)
  | drop _ hhandle => exact h.keep (fun hnone ↦ by rw [hnone, List.erase_nil]) _
  | close hleaver hopen => exact h.close hleaver hopen
  | stop hthread hidle hnext => exact h.stop hthread hidle hnext
  | join _ hclosed _ => exact h.with_handles fun _ ↦ h.leaving (.inr hclosed)

/-- **A worker that has just been started stays in order.** -/
theorem history (h : s.Orderly) (hhistory : History s events s') : s'.Orderly := by
  induction hhistory with
  | refl => exact h
  | next _ hstep ih => exact ih.step hstep

end Orderly

end Workshop

end ScriptBridge
