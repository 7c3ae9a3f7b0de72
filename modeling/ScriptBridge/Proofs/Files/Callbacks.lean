import Mathlib.Data.List.Perm.Basic
import ScriptBridge.Proofs.Files.Queries

/-!
# Callbacks of a store are completed, and once

A script hands in a callback with what it asks of a store and goes on. Three things have to happen
until its function is called: the message hands in a call, the worker runs the call, which leaves a
piece of work, and the background does the work, which evaluates a text. Each of them does this and
nothing else (`Outlet.Completes`), and none of them can fail.

## Any schedule

Many calls may be on their way at a time. The worker takes them in their order, but nothing says
when, and the background does what has been left to it in no order at all; between two calls the
store may change. A channel can be unbound while calls are on their way: then no more are made, and
those that were made are completed all the same, since it is only to be held for that
(`Outlet.Ready`). So what happens is given as steps, and what is kept by a step is a ledger: the
calls that wait, those that have left work, and those that are completed, each with its text, are
together the calls that were made (`Outlet.Underway.step`). As long as one of them is not completed
there is a step that brings it on, and in the end the texts that were evaluated are one for each
call (`Outlet.completed_once`).

## What a call is

A call has the path first, the callback second and nothing third. The worker turns down a call with
more arguments than that, as it does for every method, before the store is asked, and says so in the
log only; so the callback in it is not completed.
-/

namespace ScriptBridge

namespace FileSystem

variable {σ : Type}

/-! ## Calls -/

/-- A call with a callback, by the arguments that are sent: the first one says the path, and the
second one marks a function. -/
structure Call (c : ChannelId) where
  query : Query
  path : String
  item : Json
  item_path : query.Says path item
  marked : Json
  function : Callback
  marks : ChannelId.callback? c (Value.ofJson marked) = some function

/-- Where calls are sent to: an object with a store, under an id of a channel. Its native state may
change, but not in such a way that the object is gone. -/
structure Outlet (σ : Type) where
  host : Host σ
  id : ChannelId
  channel : Channel
  held : channel.held = true
  target : Int
  binding : Binding
  store : ContentStore σ
  /-- The native states that there may be. -/
  states : σ → Prop
  serves : ∀ s, states s → Serves host binding.object store s

namespace Call

variable {c : ChannelId}

/-- The message makes the call. -/
def SentBy (target : Int) (message : Message) (call : Call c) : Prop :=
  message.Calls target call.query.later [call.item, call.marked]

/-- What waits for the worker. -/
def task (binding : Binding) (call : Call c) : Task :=
  Query.task binding call.query call.item call.function

/-- What is left for the background. -/
def work (store : ContentStore σ) (call : Call c) : Deferred σ :=
  call.query.deferred store call.path call.function

theorem function_eq (call : Call c) : call.function = ⟨call.function.id, c⟩ := by
  obtain ⟨_, _, -, -, -, hfunction⟩ := ChannelId.callback?_eq_some_iff.mp call.marks
  rw [hfunction]

/-- The text calls the function once: with a result of the store, or with an error for a failure of
it. -/
inductive CompletedBy (engine : EngineLiterals) (store : ContentStore σ) (s : σ) (call : Call c) :
    String → Prop where
  | result {value : Value} (h : call.query.ask store s call.path = .ok value) :
    CompletedBy engine store s call
      (ChannelId.completion call.function.id "null" (value.literalFor engine))
  | failure {e : ContentError} (h : call.query.ask store s call.path = .error e) :
    CompletedBy engine store s call
      (ChannelId.completion call.function.id ("new Error(" ++ quote e.message ++ ")") "undefined")

theorem completedBy_iff {engine : EngineLiterals} {store : ContentStore σ} {s : σ} {call : Call c}
    {text : String} : call.CompletedBy engine store s text ↔
      text = Query.completion engine call.function.id (call.query.ask store s call.path) := by
  constructor
  · rintro (h | h) <;>
    · rw [h]
      rfl
  · rintro rfl
    cases h : call.query.ask store s call.path with
    | ok value => exact .result h
    | error e => exact .failure h

end Call

namespace Outlet

variable (outlet : Outlet σ)

/-! ## One call -/

/-- What has been asked for can be answered: the channel is still held and has no stubs to make, and
there is a worker. Nothing is asked of its binding, if it has any. -/
structure Ready (bridge : Bridge σ) : Prop where
  held : ∃ channel, bridge.channels.get? outlet.id = some channel ∧ channel.held = true
  native : outlet.states bridge.native
  settled : bridge.Settled outlet.id
  staffed : (bridge.workers.get? outlet.channel.worker).isSome

/-- The object can be reached. -/
structure Open (bridge : Bridge σ) : Prop extends outlet.Ready bridge where
  carries : bridge.Carries outlet.id outlet.channel outlet.target outlet.binding

/-- **A call comes to one completion.** Its message hands in a call and does nothing else; the call
leaves one piece of work and does nothing else; and the work evaluates one text that completes the
function, and does nothing else. -/
structure Completes (call : Call outlet.id) : Prop where
  handed : ∀ {answer : Answerer σ} {frame : Frame} {bridge : Bridge σ} {message : Message},
    outlet.Open bridge → call.SentBy outlet.target message →
    ChannelId.dispatch outlet.host answer outlet.id message frame bridge =
      some ((), (bridge.logged (ChannelId.received outlet.channel)).submitted outlet.channel.worker
        (call.task outlet.binding))
  left : ∀ {answer : Answerer σ} {frame : Frame} {bridge : Bridge σ}, outlet.states bridge.native →
    (call.task outlet.binding).run outlet.host answer frame bridge =
      some ((), bridge.deferring (call.work outlet.store))
  evaluated : ∀ {frame : Frame} {bridge : Bridge σ}, outlet.Ready bridge → bridge.context.isSome →
    ∃ text, call.CompletedBy bridge.engine.literals outlet.store bridge.native text ∧
      Bridge.runDeferred outlet.host (call.work outlet.store) frame bridge =
        Bridge.deliver outlet.host text frame bridge

theorem completes (call : Call outlet.id) : outlet.Completes call where
  handed hopen hsent :=
    Query.dispatch_run_of_marked call.item_path call.marks (outlet.serves _ hopen.native)
      hopen.carries hsent
  left hstate := Query.task_run call.item_path (outlet.serves _ hstate) call.function
  evaluated {frame bridge} hready hcontext := by
    obtain ⟨channel, hchannel, hheld⟩ := hready.held
    refine ⟨_, Call.completedBy_iff.mpr rfl, ?_⟩
    rw [Call.work, call.function_eq]
    exact Query.runDeferred_run hchannel hheld hcontext hready.settled rfl _

/-! ## Any number of calls -/

/-- One thing happens, in which calls may be made. -/
inductive Step : Bridge σ → List (Call outlet.id) → Bridge σ → Prop where
  /-- A script makes a call, which the object is there to take. -/
  | made {bridge bridge' : Bridge σ} (answer : Answerer σ) (frame : Frame)
    (call : Call outlet.id) (message : Message) (hsent : call.SentBy outlet.target message)
    (hcarries : bridge.Carries outlet.id outlet.channel outlet.target outlet.binding)
    (h : ChannelId.dispatch outlet.host answer outlet.id message frame bridge =
      some ((), bridge')) : Step bridge [call] bridge'
  /-- The worker runs the oldest call that waits for it. -/
  | advanced {bridge bridge' : Bridge σ} (answer : Answerer σ) (frame : Frame)
    (h : Run.advance outlet.host answer outlet.channel.worker frame bridge = some ((), bridge')) :
    Step bridge [] bridge'
  /-- The background does some of the work that is left. -/
  | worked {bridge bridge' : Bridge σ} (frame : Frame) (before after : List (Deferred σ))
    (work : Deferred σ) (hleft : bridge.background = before ++ work :: after)
    (h : Bridge.runDeferred outlet.host work frame
      { bridge with background := before ++ after } = some ((), bridge')) :
    Step bridge [] bridge'
  /-- The channel is unbound. -/
  | unbound {bridge bridge' : Bridge σ} (frame : Frame)
    (h : ChannelId.unbind outlet.id frame bridge = some ((), bridge')) : Step bridge [] bridge'
  /-- The store changes. -/
  | changed (bridge : Bridge σ) (s : σ) (hstate : outlet.states s) :
    Step bridge [] { bridge with native := s }

/-- Many things happen, in which these calls are made. -/
inductive Steps : Bridge σ → List (Call outlet.id) → Bridge σ → Prop where
  | refl (bridge : Bridge σ) : Steps bridge [] bridge
  | step {bridge mid bridge' : Bridge σ} {calls more : List (Call outlet.id)}
    (hsteps : Steps bridge calls mid) (hstep : outlet.Step mid more bridge') :
    Steps bridge (calls ++ more) bridge'

theorem Steps.trans {outlet : Outlet σ} {bridge mid bridge' : Bridge σ}
    {calls more : List (Call outlet.id)} (h : outlet.Steps bridge calls mid)
    (hmore : outlet.Steps mid more bridge') : outlet.Steps bridge (calls ++ more) bridge' := by
  induction hmore with
  | refl => rwa [List.append_nil]
  | step _ hstep ih =>
    rw [← List.append_assoc]
    exact ih.step hstep

/-- Nothing waits, and nothing is left to be done. -/
def AtRest (bridge : Bridge σ) : Prop :=
  bridge.waitingOf outlet.channel.worker = [] ∧ bridge.background = []

/-- The calls that have been made, by how far they have come. -/
structure Ledger (c : ChannelId) where
  waiting : List (Call c) := []
  left : List (Call c) := []
  /-- Each with the text that has completed it. -/
  done : List (Call c × String) := []

/-- All the calls. -/
def Ledger.calls {c : ChannelId} (ledger : Ledger c) : List (Call c) :=
  ledger.waiting ++ (ledger.left ++ ledger.done.map Prod.fst)

/-- The ledger tells where the calls are. The context keeps the texts that it is given, behind those
from before. -/
structure Underway (before : List String) (ledger : Ledger outlet.id) (bridge : Bridge σ) : Prop
    extends outlet.Ready bridge where
  waiting : bridge.waitingOf outlet.channel.worker = ledger.waiting.map (·.task outlet.binding)
  left : bridge.background = ledger.left.map (·.work outlet.store)
  texts : ∃ context, bridge.context = some context ∧ context.engine = .recording ∧
    context.evaluated = before ++ ledger.done.map Prod.snd
  completed : ∀ entry ∈ ledger.done, ∃ s, outlet.states s ∧
    entry.1.CompletedBy .plain outlet.store s entry.2

variable {outlet} {before : List String} {ledger : Ledger outlet.id} {bridge bridge' : Bridge σ}

namespace Underway

/-- A message puts its call behind those that wait. -/
theorem made (h : outlet.Underway before ledger bridge) (call : Call outlet.id) (lines : List Line) :
    outlet.Underway before { ledger with waiting := ledger.waiting ++ [call] }
      ((bridge.logged lines).submitted outlet.channel.worker (call.task outlet.binding)) where
  held := h.held
  native := h.native
  settled := h.settled
  staffed := by simpa [Bridge.submitted, Bridge.logged, Table.get?_adjust] using h.staffed
  waiting := by
    have hstaffed : ((bridge.logged lines).workers.get? outlet.channel.worker).isSome := h.staffed
    have hwaiting : (bridge.logged lines).waitingOf outlet.channel.worker =
        ledger.waiting.map (·.task outlet.binding) := h.waiting
    rw [Bridge.waitingOf_submitted hstaffed, hwaiting, List.map_append]
    rfl
  left := h.left
  texts := h.texts
  completed := h.completed

/-- The worker takes the oldest call that waits, and work is left for it. -/
theorem advance_run {call : Call outlet.id} {rest : List (Call outlet.id)}
    (h : outlet.Underway before ledger bridge) (hwaiting : ledger.waiting = call :: rest)
    (answer : Answerer σ) (frame : Frame) :
    ∃ bridge', Run.advance outlet.host answer outlet.channel.worker frame bridge =
        some ((), bridge') ∧
      outlet.Underway before { ledger with waiting := rest, left := ledger.left ++ [call] }
        bridge' := by
  have hqueue : bridge.waitingOf outlet.channel.worker =
      call.task outlet.binding :: rest.map (·.task outlet.binding) := by
    rw [h.waiting, hwaiting, List.map_cons]
  refine ⟨_, (Run.bind_run (Run.takeFirst_run_next hqueue)).trans
    ((outlet.completes call).left h.native), ?_⟩
  exact {
    held := h.held
    native := h.native
    settled := h.settled
    staffed := by simpa [Bridge.deferring, Bridge.workers_withWaiting] using h.staffed
    waiting := Bridge.waitingOf_withWaiting h.staffed _
    left := by
      rw [List.map_append, ← h.left]
      rfl
    texts := h.texts
    completed := h.completed }

/-- The background completes a call, with others before and behind it. -/
theorem work_run (h : outlet.Underway before ledger bridge) (frame : Frame)
    (first : List (Call outlet.id)) (call : Call outlet.id) (last : List (Call outlet.id)) :
    ∃ bridge' text, Bridge.runDeferred outlet.host (call.work outlet.store) frame
        { bridge with background := (first ++ last).map (·.work outlet.store) } =
          some ((), bridge') ∧
      outlet.Underway before
        { ledger with left := first ++ last, done := ledger.done ++ [(call, text)] } bridge' := by
  obtain ⟨context, hcontext, hengine, hevaluated⟩ := h.texts
  let resting : Bridge σ :=
    { bridge with background := (first ++ last).map (·.work outlet.store) }
  have hready : outlet.Ready resting := ⟨h.held, h.native, h.settled, h.staffed⟩
  have hresting : resting.context = some context := hcontext
  obtain ⟨text, hcompleted, hrun⟩ :=
    (outlet.completes call).evaluated hready (by simp [hresting])
  have hplain : bridge.engine.literals = .plain := by
    rw [Bridge.engine, hcontext]
    exact congrArg Engine.literals hengine
  refine ⟨_, text, hrun.trans (Bridge.deliver_run hresting hengine text), ?_⟩
  exact {
    held := h.held
    native := h.native
    settled := h.settled
    staffed := h.staffed
    waiting := h.waiting
    left := rfl
    texts := by
      refine ⟨_, rfl, hengine, ?_⟩
      rw [hevaluated, List.map_append, List.append_assoc]
      rfl
    completed := by
      intro entry hentry
      rcases List.mem_append.mp hentry with hentry | hentry
      · exact h.completed entry hentry
      · rw [List.mem_singleton.mp hentry]
        exact ⟨bridge.native, h.native, hplain ▸ hcompleted⟩ }

/-- When the channel is unbound, all stays on its way. -/
theorem unbound {frame : Frame} (h : outlet.Underway before ledger bridge)
    (hrun : ChannelId.unbind outlet.id frame bridge = some ((), bridge')) :
    outlet.Underway before ledger bridge' := by
  cases hbound : bridge.boundOf outlet.id with
  | none =>
    rw [ChannelId.unbind_run_of_unbound hbound] at hrun
    cases hrun
    exact h
  | some bound =>
    rw [ChannelId.unbind_run hbound] at hrun
    cases hrun
    obtain ⟨channel, hchannel, hheld⟩ := h.held
    obtain ⟨context, hcontext, hengine, hevaluated⟩ := h.texts
    have hworkers : (bridge.withBound outlet.id none).workers = bridge.workers :=
      bridge.withBound_workers outlet.id none
    exact {
      held := ⟨_, Bridge.get?_withBound_self hchannel none, hheld⟩
      native := (bridge.withBound_native outlet.id none).symm ▸ h.native
      settled := by
        intro left hleft
        have hnone : (bridge.withBound outlet.id none).boundOf outlet.id = none :=
          Bridge.boundOf_withBound (by simp [hbound]) none
        exact absurd (hnone.symm.trans hleft) (by simp)
      staffed := hworkers.symm ▸ h.staffed
      waiting := by
        refine Eq.trans ?_ h.waiting
        simp only [Bridge.waitingOf, Bridge.logged, Bridge.withHandlers, hworkers]
      left := (bridge.withBound_background outlet.id none).trans h.left
      texts := by
        refine ⟨{ context with handlers := context.handlers.erase bound.identifier }, ?_, hengine,
          hevaluated⟩
        simp [Bridge.logged, Bridge.withHandlers, hcontext]
      completed := h.completed }

/-- **No call is lost, and none is done twice**: whatever happens, the calls in the ledger stay the
calls that have been made. -/
theorem step {more : List (Call outlet.id)} (h : outlet.Underway before ledger bridge)
    (hstep : outlet.Step bridge more bridge') :
    ∃ ledger', outlet.Underway before ledger' bridge' ∧
      ledger'.calls.Perm (ledger.calls ++ more) := by
  obtain ⟨waiting, left, done⟩ := ledger
  cases hstep with
  | made answer frame call message hsent hcarries hrun =>
    rw [(outlet.completes call).handed ⟨h.toReady, hcarries⟩ hsent] at hrun
    cases hrun
    refine ⟨_, h.made call _, ?_⟩
    rw [Ledger.calls, Ledger.calls, List.append_assoc, List.append_assoc waiting]
    exact .append_left waiting List.perm_append_comm
  | advanced answer frame hrun =>
    rw [Ledger.calls, List.append_nil]
    match waiting with
    | [] =>
      have hidle : bridge.waitingOf outlet.channel.worker = [] := h.waiting
      rw [Run.advance, Run.within, Run.bind_run (Run.takeFirst_run_idle hidle)] at hrun
      cases hrun
      exact ⟨_, h, .refl _⟩
    | call :: rest =>
      obtain ⟨after, hafter, hunderway⟩ := h.advance_run rfl answer frame
      rw [hafter] at hrun
      cases hrun
      refine ⟨_, hunderway, ?_⟩
      simp only [Ledger.calls, List.append_assoc, List.cons_append, List.nil_append]
      rw [← List.append_assoc, ← List.append_assoc]
      exact List.perm_middle
  | worked frame first last work hleft hrun =>
    rw [Ledger.calls, List.append_nil]
    have hsplit : left.map (·.work outlet.store) = first ++ work :: last := h.left.symm.trans hleft
    obtain ⟨first, others, rfl, rfl, hothers⟩ := List.map_eq_append_iff.mp hsplit
    obtain ⟨call, last, rfl, rfl, rfl⟩ := List.map_eq_cons_iff.mp hothers
    obtain ⟨after, text, hafter, hunderway⟩ := h.work_run frame first call last
    rw [List.map_append] at hafter
    rw [hafter] at hrun
    cases hrun
    refine ⟨_, hunderway, (List.Perm.refl waiting).append ?_⟩
    simp only [List.map_append, List.map_cons, List.map_nil, List.append_assoc, List.cons_append]
    exact (List.Perm.refl first).append
      ((List.Perm.refl last).append List.perm_append_comm |>.trans List.perm_middle)
  | unbound frame hrun =>
    refine ⟨_, h.unbound hrun, ?_⟩
    rw [List.append_nil]
  | changed s hstate =>
    refine ⟨_, ⟨⟨h.held, hstate, h.settled, h.staffed⟩, h.waiting, h.left, h.texts,
      h.completed⟩, ?_⟩
    rw [List.append_nil]

theorem steps {calls : List (Call outlet.id)} (h : outlet.Underway before ledger bridge)
    (hsteps : outlet.Steps bridge calls bridge') :
    ∃ ledger', outlet.Underway before ledger' bridge' ∧
      ledger'.calls.Perm (ledger.calls ++ calls) := by
  induction hsteps with
  | refl => exact ⟨ledger, h, by rw [List.append_nil]⟩
  | step _ hstep ih =>
    obtain ⟨mid, hmid, hcalls⟩ := ih
    obtain ⟨ledger', hledger', hmore⟩ := hmid.step hstep
    refine ⟨ledger', hledger', hmore.trans ?_⟩
    rw [← List.append_assoc]
    exact hcalls.append_right _

/-- What is on its way can be brought to its end. -/
theorem finish (h : outlet.Underway before ledger bridge) :
    ∃ bridge', outlet.Steps bridge [] bridge' ∧ outlet.AtRest bridge' := by
  obtain ⟨waiting, left, done⟩ := ledger
  -- first the worker runs what waits, then the background does what has been left
  induction waiting generalizing left bridge with
  | cons call rest ih =>
    obtain ⟨after, hafter, hunderway⟩ := h.advance_run rfl (fun _ ↦ Run.stuck) {}
    have hstep : outlet.Steps bridge [] after := (Steps.refl bridge).step (.advanced _ _ hafter)
    obtain ⟨bridge', hmore, hrest⟩ := ih _ hunderway
    exact ⟨bridge', hstep.trans hmore, hrest⟩
  | nil =>
    induction left generalizing done bridge with
    | nil => exact ⟨bridge, .refl bridge, h.waiting, h.left⟩
    | cons call last ih =>
      have hfirst : bridge.background =
          [] ++ call.work outlet.store :: last.map (·.work outlet.store) := h.left
      obtain ⟨after, text, hafter, hunderway⟩ := h.work_run {} [] call last
      have hstep : outlet.Steps bridge [] after :=
        (Steps.refl bridge).step (.worked _ _ _ _ hfirst hafter)
      obtain ⟨bridge', hmore, hrest⟩ := ih _ hunderway
      exact ⟨bridge', hstep.trans hmore, hrest⟩

end Underway

/-! ## Surplus arguments -/

variable (outlet)

/-- **Surplus arguments are turned down.** A message with more than two arguments hands in a call
like any other one, but whatever the arguments are, all that becomes of it is a line in the log. -/
structure TurnsDown (query : Query) (items : List Json) : Prop where
  handed : ∀ {answer : Answerer σ} {frame : Frame} {bridge : Bridge σ} {message : Message},
    outlet.Open bridge → message.Calls outlet.target query.later items →
    ChannelId.dispatch outlet.host answer outlet.id message frame bridge =
      some ((), (bridge.logged (ChannelId.received outlet.channel)).submitted outlet.channel.worker
        (.invoke outlet.binding query.later
          (ChannelId.attach outlet.id (items.map Value.ofJson))))
  logged : ∀ {answer : Answerer σ} {frame : Frame} {bridge : Bridge σ},
    outlet.states bridge.native →
    (Task.invoke outlet.binding query.later
        (ChannelId.attach outlet.id (items.map Value.ofJson))).run outlet.host answer frame bridge =
      some ((), bridge.logged [.ofBridge .error ("native call failed: " ++
        (BridgeError.arityMismatch query.later 2 items.length).message)])

theorem turnsDown (query : Query) {items : List Json} (hmany : 2 < items.length) :
    outlet.TurnsDown query items where
  handed hopen hcalls :=
    Query.dispatch_run_later (outlet.serves _ hopen.native) hopen.carries hcalls
  logged {answer frame bridge} hstate := by
    have hlength : (ChannelId.attach outlet.id (items.map Value.ofJson)).length = items.length := by
      simp [ChannelId.attach]
    have hfits : fitArguments query.later (some 2)
        (ChannelId.attach outlet.id (items.map Value.ofJson)) =
          .error (.arityMismatch query.later 2 items.length) := by
      rw [fitArguments, hlength, if_pos hmany]
    have hinvoke : outlet.binding.invoke outlet.host answer query.later
        (ChannelId.attach outlet.id (items.map Value.ofJson)) frame bridge =
          some (.returned (.error (.arityMismatch query.later 2 items.length)), bridge) := by
      simp only [Binding.invoke, Query.member?_later (outlet.serves _ hstate) query, hfits]
      rfl
    exact Run.bind_run hinvoke

/-! ## All calls -/

/-- **A call with a path and a callback is completed, and once.** For each call there is one way to
its completion, with a result of the store or with its failure. However many calls are made and in
whatever order they get on, and if the channel is unbound meanwhile, those that are on their way can
be brought to their end; and when nothing is left to be done, one text has been evaluated for each
call, and no other. Calls with surplus arguments are turned down. -/
theorem completed_once (outlet : Outlet σ) :
    (∀ call, outlet.Completes call) ∧
    (∀ {bridge bridge' : Bridge σ} {context : Context} {calls : List (Call outlet.id)},
      outlet.Ready bridge → outlet.AtRest bridge → bridge.context = some context →
      context.engine = .recording → outlet.Steps bridge calls bridge' →
      (∃ bridge'', outlet.Steps bridge' [] bridge'' ∧ outlet.AtRest bridge'') ∧
      (outlet.AtRest bridge' → ∃ (served : List (Call outlet.id × String)) (context' : Context),
        (served.map Prod.fst).Perm calls ∧ bridge'.context = some context' ∧
        context'.evaluated = context.evaluated ++ served.map Prod.snd ∧
        ∀ entry ∈ served, ∃ s, outlet.states s ∧
          entry.1.CompletedBy .plain outlet.store s entry.2)) ∧
    ∀ (query : Query) (items : List Json), 2 < items.length → outlet.TurnsDown query items := by
  refine ⟨outlet.completes, ?_, fun query _ hmany ↦ outlet.turnsDown query hmany⟩
  intro bridge bridge' context calls hready hrest hcontext hengine hsteps
  have hstart : outlet.Underway context.evaluated {} bridge := {
    toReady := hready
    waiting := hrest.1
    left := hrest.2
    texts := ⟨context, hcontext, hengine, (List.append_nil _).symm⟩
    completed := fun _ hentry ↦ absurd hentry List.not_mem_nil }
  obtain ⟨ledger, hunderway, hcalls⟩ := hstart.steps hsteps
  refine ⟨hunderway.finish, fun hrest' ↦ ?_⟩
  have hnoneWait : ledger.waiting = [] :=
    List.map_eq_nil_iff.mp (hunderway.waiting.symm.trans hrest'.1)
  have hnoneLeft : ledger.left = [] := List.map_eq_nil_iff.mp (hunderway.left.symm.trans hrest'.2)
  obtain ⟨context', hcontext', -, hevaluated⟩ := hunderway.texts
  refine ⟨ledger.done, context', ?_, hcontext', hevaluated, hunderway.completed⟩
  simpa [Ledger.calls, hnoneWait, hnoneLeft] using hcalls

end Outlet

end FileSystem

/-! ## The shelf -/

namespace Catalogue

open FileSystem (Query Outlet)

/-- The shelf as what calls are sent to. -/
def shelfOutlet : Outlet Stock where
  host := Catalogue.host shelfNames toString
  id := 0
  channel := { worker := 0, bound := some (.start "1" "fs" ⟨1, "MemFs"⟩) }
  held := rfl
  target := 0
  binding := ⟨"fs", ⟨1, "MemFs"⟩⟩
  store := Stock.shelfStore ⟨1, "MemFs"⟩
  states := (· = oneItem)
  serves := by
    rintro s rfl
    exact serves_shelf rfl rfl

/-- A script asks for what the item holds, with the answer to an earlier question and a callback. -/
def laterCall : FileSystem.Call shelfOutlet.id where
  query := .content
  path := "a"
  item := .object [("path", .string "a")]
  item_path := .item rfl
  marked := (Json.int 5).marker
  function := ⟨5, 0⟩
  marks := Query.callback?_marker_of_lt (by decide) 0

/-- The call is brought to its one completion, and one with a third argument is turned down. -/
theorem shelf_completed_once :
    (∃ (bridge : Bridge Stock) (context : Context),
      shelfOutlet.Steps shelfBridge [laterCall] bridge ∧ shelfOutlet.AtRest bridge ∧
        bridge.context = some context ∧
        context.evaluated = [ChannelId.completion 5 "null" "\"hi\""]) ∧
      shelfOutlet.TurnsDown .stat [.string "a", (Json.int 5).marker, .int 1] := by
  obtain ⟨hcompletes, hall, hsurplus⟩ := Outlet.completed_once shelfOutlet
  have hready : shelfOutlet.Ready shelfBridge := {
    held := ⟨_, rfl, rfl⟩
    native := rfl
    settled := by
      rintro _ ⟨⟩
      rfl
    staffed := rfl }
  have hcarries : shelfBridge.Carries 0 shelfOutlet.channel 0 shelfOutlet.binding :=
    ⟨rfl, _, rfl, rfl⟩
  have hsent : laterCall.SentBy shelfOutlet.target getContentLater := ⟨"1", rfl⟩
  have hmade := (Outlet.Steps.refl shelfBridge).step (.made (Bridge.answer shelfOutlet.host 1) {}
    laterCall getContentLater hsent hcarries
    ((hcompletes laterCall).handed ⟨hready, hcarries⟩ hsent))
  obtain ⟨⟨bridge, hmore, hrest⟩, -⟩ := hall hready ⟨rfl, rfl⟩ rfl rfl hmade
  have hsteps : shelfOutlet.Steps shelfBridge [laterCall] bridge := hmade.trans hmore
  obtain ⟨served, context, hserved, hcontext, hevaluated, hcompleted⟩ :=
    (hall hready ⟨rfl, rfl⟩ rfl rfl hsteps).2 hrest
  obtain ⟨⟨call, text⟩, rfl, hcall⟩ := List.map_eq_singleton_iff.mp (List.perm_singleton.mp hserved)
  obtain ⟨s, rfl, htext⟩ := hcompleted _ List.mem_cons_self
  refine ⟨⟨bridge, context, hsteps, hrest, hcontext, ?_⟩, hsurplus _ _ (by decide)⟩
  rw [hevaluated, List.map_singleton, FileSystem.Call.completedBy_iff.mp htext, hcall]
  rfl

/-- A script asks what the store knows of an item, and goes on. -/
def statLater (items : List Json) : Message :=
  ⟨"1", some (.object [(opcodeKey, .string "statAsync"), (operandKey, .array items)])⟩

/-- The message is received, and all the work is done that comes of it. -/
def served (message : Message) : Option (Bridge Stock) :=
  (Bridge.perform? (do
    ChannelId.dispatch shelfOutlet.host (Bridge.answer shelfOutlet.host 1) 0 message
    Bridge.settled shelfOutlet.host) shelfBridge).map Prod.snd

/-- One text is evaluated by then. -/
def CompletedOnce (message : Message) : Prop :=
  ∃ (bridge : Bridge Stock) (context : Context) (text : String), served message = some bridge ∧
    bridge.context = some context ∧ context.evaluated = [text]

/-- A callback is not completed where an argument stands behind it, though the path is all right;
nor, with no further argument, where there is no path before it. -/
theorem not_always_completed :
    (¬ ∀ (query : Query) (more : List Json) (message : Message),
      message.Calls 0 query.later (.string "a" :: (Json.int 5).marker :: more) →
        CompletedOnce message) ∧
    ¬ ∀ (query : Query) (first : Json) (message : Message),
      message.Calls 0 query.later [first, (Json.int 5).marker] → CompletedOnce message := by
  have hnever : ∀ items : List Json,
      (served (statLater items)).bind (·.context.map (·.evaluated)) = some [] →
        ¬ CompletedOnce (statLater items) := by
    rintro items hnone ⟨bridge, context, text, hserved, hcontext, hevaluated⟩
    rw [hserved, Option.bind_some, hcontext, Option.map_some, hevaluated] at hnone
    cases hnone
  constructor
  · intro hall
    exact hnever [.string "a", (Json.int 5).marker, .int 1] rfl
      (hall .stat [.int 1] (statLater _) ⟨"1", rfl⟩)
  · intro hall
    exact hnever [.int 42, (Json.int 5).marker] rfl (hall .stat (.int 42) (statLater _) ⟨"1", rfl⟩)

end Catalogue

end ScriptBridge
