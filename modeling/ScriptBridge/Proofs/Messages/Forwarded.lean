import ScriptBridge.Proofs.Messages.Executed

/-!
# Messages that fall to the principal

A principal may take messages that are no requests. It then gets those that nothing else can be
done about: a message with a body that is no request, and a request for an instance that there is
not, unless it asks for a new one. `Bridge.FallsTo` says which messages these are, and it is looked
for in two places of the code, after failures of different kinds. A message without a body is never
among them, so text that the gate of an engine cannot read is not, either.

## Never called otherwise

A raw handler is called in one way, by a call that a worker gets to. So a message makes it run only
by handing in such a call. That a message hands in none is said by letting raw calls go elsewhere
when they are handed in (`Handing.rerouted`): wherever they would go, the message does the same.

## When the worker gets to it

Between the moment in which a message is handed in and the moment in which the worker gets to it,
native code may run, and the principal may stop taking messages that are no requests. It is asked
once more, and then gets no message any more. Nor does a message account for what native code does
on its own: a member that it reaches may post messages itself. `raw_handler_not_always_called` has
an example of each.
-/

namespace ScriptBridge

variable {σ : Type}

/-! ## Which messages these are -/

/-- The channel is bound, and its principal takes messages that are no requests. -/
def Bridge.Offers (host : Host σ) (c : ChannelId) (bridge : Bridge σ) (principal : ObjectRef) :
    Prop :=
  ∃ bound place, bridge.boundOf c = some bound ∧ bound.principal? = some ⟨place, principal⟩ ∧
    (host.hooks bridge.native principal).takesRaw = true

/-- **A message falls to the principal** of a channel: there is something to be taken, the principal
takes it, and nobody else does. -/
structure Bridge.FallsTo (host : Host σ) (c : ChannelId) (message : Message) (bridge : Bridge σ)
    (principal : ObjectRef) : Prop where
  offers : bridge.Offers host c principal
  body : message.body.isSome = true
  /-- It is no request, or it asks for no new instance and for none that there is. -/
  unserved : ∀ request, message.request? = .ok request → request.opcode ≠ "+" ∧
    ∀ bound, bridge.boundOf c = some bound → bound.instances.get? request.target = none

/-! ## The errand of such a message -/

/-- What is called of a raw handler. -/
def Execution.raw? : Execution → Option (ObjectRef × Message)
  | .receive object message => some (object, message)
  | _ => none

/-- The raw handler that a call is for, and what it will get. -/
def Task.raw? : Task → Option (ObjectRef × Message)
  | .receive object message => some (object, message)
  | _ => none

/-- The raw call that an errand is. -/
def Errand.raw? : Errand → Option (ObjectRef × Message)
  | .hand task _ => task.raw?
  | _ => none

namespace Bridge

variable {host : Host σ} {c : ChannelId} {message message' : Message} {waits : Bool}
  {bridge : Bridge σ} {principal : ObjectRef}

theorem rawTask?_eq_some_iff {task : Task} : bridge.rawTask? host c message = some task ↔
    ∃ principal, bridge.Offers host c principal ∧ task = .receive principal message := by
  unfold rawTask? Offers
  cases hprincipal : (bridge.boundOf c).bind (·.principal?) with
  | none =>
    refine iff_of_false (by simp) ?_
    rintro ⟨principal, ⟨bound, place, hbound, hthere, -⟩, -⟩
    simp [hbound, hthere] at hprincipal
  | some binding =>
    obtain ⟨bound, hbound, hthere⟩ := Option.bind_eq_some_iff.mp hprincipal
    obtain ⟨place, object⟩ := binding
    by_cases hraw : (host.hooks bridge.native object).takesRaw = true
    · simp only [hraw, if_true, Option.some.injEq]
      constructor
      · rintro rfl
        exact ⟨object, ⟨bound, place, hbound, hthere, hraw⟩, rfl⟩
      · rintro ⟨principal, ⟨bound', place', hbound', hthere', -⟩, rfl⟩
        simp_all
    · simp only [hraw]
      refine iff_of_false (by simp) ?_
      rintro ⟨principal, ⟨bound', place', hbound', hthere', hraw'⟩, -⟩
      simp_all

/-- What can only be forwarded is forwarded where the principal takes it. -/
theorem raw?_forwarding_eq_some_iff (told : List Line) (e : BridgeError) :
    (bridge.forwarding host c message told e).raw? = some (principal, message') ↔
      bridge.Offers host c principal ∧ message' = message := by
  have hraw : (bridge.forwarding host c message told e).raw? =
      (bridge.rawTask? host c message).bind Task.raw? := by
    unfold forwarding
    cases bridge.rawTask? host c message <;> rfl
  rw [hraw, Option.bind_eq_some_iff]
  constructor
  · rintro ⟨task, htask, hcall⟩
    obtain ⟨principal', hoffers, rfl⟩ := rawTask?_eq_some_iff.mp htask
    cases hcall
    exact ⟨hoffers, rfl⟩
  · rintro ⟨hoffers, rfl⟩
    exact ⟨_, rawTask?_eq_some_iff.mpr ⟨principal, hoffers, rfl⟩, rfl⟩

theorem raw?_creation (request : Request) : (bridge.creation c request).raw? = none := by
  unfold creation
  repeat' split
  all_goals rfl

end Bridge

theorem Host.raw?_reaching (host : Host σ) (c : ChannelId) (binding : Binding) (name : String)
    (operand : Option Json) (waits : Bool) :
    (host.reaching c binding name operand waits).raw? = none := by
  unfold reaching
  split
  · rfl
  · cases waits <;> rfl
  · rfl

namespace Bridge

variable {host : Host σ} {c : ChannelId} {message message' : Message} {bridge : Bridge σ}
  {principal : ObjectRef}

private theorem raw?_requested_eq_some_iff (request : Request) (waits : Bool) :
    (bridge.requested host c message request waits).raw? = some (principal, message') ↔
      (bridge.Offers host c principal ∧ message' = message) ∧ request.opcode ≠ "+" ∧
        ∀ bound, bridge.boundOf c = some bound → bound.instances.get? request.target = none := by
  unfold requested
  dsimp only
  by_cases hcreate : request.opcode = "+"
  · rw [if_pos (Opcode.ofString_eq_create_iff.mpr hcreate), raw?_creation]
    simp [hcreate]
  · rw [if_neg (Opcode.ofString_eq_create_iff.not.mpr hcreate)]
    cases hlive : (bridge.boundOf c).bind fun bound ↦ bound.instances.get? request.target with
    | none =>
      rw [raw?_forwarding_eq_some_iff]
      refine (and_iff_left ⟨hcreate, fun bound hbound ↦ ?_⟩).symm
      simpa [hbound] using hlive
    | some binding =>
      obtain ⟨bound, hbound, hbinding⟩ := Option.bind_eq_some_iff.mp hlive
      refine iff_of_false ?_ fun h ↦ ?_
      · cases Opcode.ofString request.opcode with
        | member name => simp [host.raw?_reaching]
        | create | dispose => simp [Errand.raw?]
      · rw [h.2.2 bound hbound] at hbinding
        cases hbinding

/-- **A message is handed to the raw handler of the object that it falls to**, as it is, and else to
none. -/
theorem raw?_errand_eq_some_iff (waits : Bool) :
    (bridge.errand host c message waits).raw? = some (principal, message') ↔
      bridge.FallsTo host c message principal ∧ message' = message := by
  unfold errand
  cases hrequest : message.request? with
  | ok request =>
    have hbody : message.body.isSome = true := by
      cases hbody : message.body with
      | none => simp [Message.request?, hbody] at hrequest
      | some body => rfl
    rw [raw?_requested_eq_some_iff]
    constructor
    · rintro ⟨⟨hoffers, hmessage⟩, hunserved⟩
      refine ⟨⟨hoffers, hbody, fun request' hrequest' ↦ ?_⟩, hmessage⟩
      rw [hrequest] at hrequest'
      cases hrequest'
      exact hunserved
    · rintro ⟨hfalls, hmessage⟩
      exact ⟨⟨hfalls.offers, hmessage⟩, hfalls.unserved request hrequest⟩
  | error malformation =>
    dsimp only
    split
    · next hnone =>
      refine iff_of_false nofun ?_
      rintro ⟨hfalls, -⟩
      have hbody := hfalls.body
      rw [Option.isNone_iff_eq_none.mp hnone] at hbody
      cases hbody
    · next hsome =>
      rw [raw?_forwarding_eq_some_iff]
      refine and_congr_left fun _ ↦ ⟨fun hoffers ↦ ⟨hoffers, ?_, ?_⟩, (·.offers)⟩
      · exact Option.isSome_iff_ne_none.mpr (by simpa using hsome)
      · intro request heq
        rw [hrequest] at heq
        cases heq

end Bridge

/-! ## Raw calls that go elsewhere -/

namespace Handing

/-- Hands in raw calls in some other way. -/
def rerouted (elsewhere : WorkerId → ObjectRef → Message → Run σ Unit) (hand : Handing σ) :
    Handing σ where
  submit w task :=
    match task.raw? with
    | some (object, message) => elsewhere w object message
    | none => hand.submit w task
  sync := hand.sync

variable {host : Host σ} {answer : Answerer σ} {hand : Handing σ} {c : ChannelId}
  {frame : Frame} {bridge : Bridge σ}
  (elsewhere : WorkerId → ObjectRef → Message → Run σ Unit)

/-- An errand that is no raw call does not notice. -/
theorem perform_rerouted {errand : Errand} (h : errand.raw? = none) (w : WorkerId) :
    (hand.rerouted elsewhere).perform host answer c w errand =
      hand.perform host answer c w errand := by
  cases errand with
  | hand task told =>
    have htask : task.raw? = none := h
    simp only [perform, rerouted, htask]
  | _ => rfl

theorem handle_rerouted {message : Message} {waits : Bool}
    (h : (bridge.errand host c message waits).raw? = none) :
    (hand.rerouted elsewhere).handle host answer c message waits frame bridge =
      hand.handle host answer c message waits frame bridge := by
  cases hchannel : bridge.channels.get? c with
  | none =>
    have hget : (get : Run σ (Bridge σ)) frame bridge = some (bridge, bridge) := rfl
    rw [handle, handle, Run.bind_run hget, Run.bind_run hget, hchannel]
  | some channel =>
    rw [handle_run hchannel, handle_run hchannel, perform_rerouted elsewhere h]

/-- **A message that hands in no raw call** is taken as if raw calls went elsewhere. -/
theorem dispatch_rerouted {message : Message}
    (h : (bridge.errand host c message false).raw? = none) :
    ((queued host answer).rerouted elsewhere).dispatch host answer c message frame bridge =
      ChannelId.dispatch host answer c message frame bridge :=
  congrArg (fun taken ↦ Option.bind taken _) (handle_rerouted elsewhere h)

theorem dispatchSync_rerouted {message : Message}
    (h : (bridge.errand host c message true).raw? = none) (patience : Nat) :
    ((queued host answer).rerouted elsewhere).dispatchSync host answer patience c message frame
      bridge = ChannelId.dispatchSync host answer patience c message frame bridge := by
  have hask : ((queued host answer).rerouted elsewhere).ask host answer c message frame bridge =
      ChannelId.ask host answer c message frame bridge :=
    congrArg (fun taken ↦ Option.bind taken _) (handle_rerouted elsewhere h)
  exact congrArg (fun told ↦ Option.bind told _) hask

end Handing

/-! ## The gate -/

namespace Gate

variable {answer : Answerer σ} {c : ChannelId} {frame : Frame} {bridge : Bridge σ}

/-- The message that the gate makes of the text of a body: text that cannot be read is no body. -/
def messageOf (name : String) (body : Option String) : Message := ⟨name, body.bind Json.parse?⟩

/-- What the gate has to say about the text of a body. -/
def told (body : Option String) : List Line :=
  match body with
  | none => []
  | some text =>
    match Json.parse? text with
    | some _ => []
    | none => [.ofBridge .warn "unparseable message body"]

theorem decode_run (name : String) (body : Option String) :
    (decode name body : Run σ Message) frame bridge =
      some (messageOf name body, bridge.logged (told body)) := by
  cases body with
  | none => exact Run.pure_run_logged _
  | some text =>
    cases hjson : Json.parse? text with
    | some json =>
      simp only [decode, messageOf, told, hjson, Option.bind_some]
      exact Run.pure_run_logged _
    | none =>
      simp only [decode, messageOf, told, hjson, Option.bind_some]
      rfl

variable {name : String}
  (hname : (bridge.context.bind fun context ↦ context.handlers.get? name) = some c)
include hname

private theorem handler?_run : (handler? name : Run σ _) frame bridge = some (some c, bridge) :=
  congrArg (fun handler ↦ some (handler, bridge)) hname

/-- **Posting text is dispatching the message that is read from it.** -/
theorem post_run (body : Option String) : post answer name body frame bridge =
    answer (.dispatch c (messageOf name body)) frame (bridge.logged (told body)) := by
  rw [post, Run.bind_run (handler?_run hname)]
  exact Run.bind_run (decode_run name body)

theorem postSync_run (body : Option String) : postSync answer name body frame bridge =
    answer (.dispatchSync c (messageOf name body)) frame (bridge.logged (told body)) := by
  rw [postSync, Run.bind_run (handler?_run hname)]
  exact Run.bind_run (decode_run name body)

end Gate

/-! ## When the raw handler is called -/

/-- What a message executes at once is no raw handler. -/
theorem Errand.raw?_executed? (host : Host σ) (w : WorkerId) (frame : Frame) (errand : Errand) :
    (errand.executed? host w frame).bind Execution.raw? = none := by
  unfold executed?
  split
  · next hawaited =>
    cases errand with
    | await binding method args =>
      cases hexecution : host.calling? binding method args with
      | none => simp [execution?, hexecution]
      | some execution =>
        obtain ⟨_, _, _, -, -, rfl⟩ := Host.calling?_eq_some_iff.mp hexecution
        simp [execution?, hexecution, Execution.raw?]
    | make target place typeName args =>
      cases hexecution : host.making? typeName args with
      | none => simp [execution?, hexecution]
      | some execution =>
        obtain ⟨_, _, -, -, rfl⟩ := Host.making?_eq_some_iff.mp hexecution
        simp [execution?, hexecution, Execution.raw?]
    | _ => simp [isAwaited] at hawaited
  · rfl

/-- The raw handlers that have been called, and what they got. -/
def Bridge.rawCalls (bridge : Bridge (σ × List Visit)) : List (ObjectRef × Message) :=
  bridge.executed.filterMap Execution.raw?

/-- Of calls that have run one after the other, the last has run last. -/
theorem Task.of_runAll_concat_run {τ : Type} {host : Host τ} {answer : Answerer τ} {frame : Frame}
    {tasks : List Task} {task : Task} {bridge after : Bridge τ}
    (h : runAll host answer (tasks ++ [task]) frame bridge = some ((), after)) :
    ∃ mid, runAll host answer tasks frame bridge = some ((), mid) ∧
      task.run host answer frame mid = some ((), after) := by
  induction tasks generalizing bridge with
  | nil => exact ⟨bridge, rfl, Run.runAll_singleton_run task ▸ h⟩
  | cons first tasks ih =>
    obtain ⟨_, next, hfirst, hrest⟩ := Run.of_bind_run h
    obtain ⟨mid, htasks, htask⟩ := ih hrest
    exact ⟨mid, (Run.bind_run hfirst).trans htasks, htask⟩

/-- Who waits for a worker finds that it has run what waited. -/
theorem Run.of_flush_run {τ : Type} {host : Host τ} {answer : Answerer τ} {frame : Frame}
    {w : WorkerId} {bridge after : Bridge τ} (hthread : frame.thread ≠ .worker w)
    (h : Run.flush host answer w frame bridge = some ((), after)) :
    Task.runAll host answer (bridge.waitingOf w) (frame.enter w) (bridge.withWaiting w []) =
      some ((), after) := by
  have hread : (read : Run τ Frame) frame bridge = some (frame, bridge) := rfl
  rw [flush, bind_run hread, if_neg hthread] at h
  change (Run.sync host answer w (pure ()) >>= fun _ ↦ pure ()) frame bridge = _ at h
  obtain ⟨result, after', hsync, hdone⟩ := of_bind_run h
  cases hdone
  rcases Run.sync_cases hsync with ⟨hown, -⟩ | ⟨-, mid, _, hwaited, -, hpure⟩
  · exact absurd hown hthread
  · cases hpure
    exact hwaited

/-- **A raw handler is to be called with a message**, behind the calls that wait for the worker
already, if the principal still has one by then; nothing else has happened but that lines have been
logged. -/
structure Bridge.CallsRaw (host : Host σ) (answer : Answerer (σ × List Visit)) (w : WorkerId)
    (principal : ObjectRef) (message : Message) (bridge bridge' : Bridge (σ × List Visit)) :
    Prop where
  handed : ∃ told, bridge' = (bridge.submitted w (.receive principal message)).logged told
  /-- On whichever thread the call is made, the handler runs once if the principal has one at that
  moment, and else nothing does. -/
  once : ∀ frame before after,
    (Task.receive principal message).run host.watched answer frame before = some ((), after) →
      (host.TakesRaw principal before.native.1 →
        after.executed = before.executed ++ [.receive principal message]) ∧
      (¬ host.TakesRaw principal before.native.1 → after = before)
  /-- The worker makes the call in its turn, when the calls from before have run. -/
  turn : ∀ frame after, frame.thread ≠ .worker w →
    Run.flush host.watched answer w frame bridge' = some ((), after) → ∃ mid earlier,
      host.Executes (bridge.awaiting host w) earlier ∧
      mid.executed = bridge.executed ++ earlier ∧
      (Task.receive principal message).run host.watched answer (frame.enter w) mid =
        some ((), after)

/-- An object that takes no message that is no request is given none. -/
theorem Task.receive_run_of_declines {host : Host σ} {answer : Answerer σ} {frame : Frame}
    {bridge : Bridge σ} {object : ObjectRef} (h : ¬ host.TakesRaw object bridge.native)
    (message : Message) :
    (Task.receive object message).run host answer frame bridge = some ((), bridge) := by
  have htell : host.tell answer object message frame bridge = some (.returned (), bridge) := by
    rw [Host.tell_run]
    exact if_neg h
  exact Run.bind_run htell

theorem Bridge.callsRaw_submitted {host : Host σ} {answer : Answerer (σ × List Visit)}
    {w : WorkerId} {bridge : Bridge (σ × List Visit)} (hworker : (bridge.workers.get? w).isSome)
    (principal : ObjectRef) (message : Message) (told : List Line) :
    bridge.CallsRaw host answer w principal message
      ((bridge.submitted w (.receive principal message)).logged told) where
  handed := ⟨told, rfl⟩
  once frame before after h := by
    refine ⟨fun htakes ↦ ?_, fun hdeclines ↦ ?_⟩
    · have htakes' : (host.hooks before.native.1 principal).takesRaw = true := htakes
      rw [Task.run_executed h, Task.executed?, if_pos htakes']
      rfl
    · rw [Task.receive_run_of_declines hdeclines] at h
      cases h
      rfl
  turn frame after hthread h := by
    have hflushed := Run.of_flush_run hthread h
    have hwaiting : ((bridge.submitted w (.receive principal message)).logged told).waitingOf w =
        bridge.waitingOf w ++ [.receive principal message] := waitingOf_submitted hworker _
    rw [hwaiting] at hflushed
    obtain ⟨mid, hearlier, hcall⟩ := Task.of_runAll_concat_run hflushed
    obtain ⟨earlier, hexecutes, hexecuted⟩ := Task.runAll_executed hearlier
    exact ⟨mid, earlier, hexecutes, hexecuted, hcall⟩

section Paths

variable {host : Host σ} {answer : Answerer (σ × List Visit)} {c : ChannelId} {channel : Channel}
  {frame : Frame} {bridge bridge' : Bridge (σ × List Visit)} {message : Message}
  {principal : ObjectRef}

theorem Errand.eq_hand_of_raw? {errand : Errand} (h : errand.raw? = some (principal, message)) :
    ∃ told, errand = .hand (.receive principal message) told := by
  cases errand with
  | hand task told =>
    cases task with
    | receive object message' =>
      cases h
      exact ⟨told, rfl⟩
    | set _ _ _ | invoke _ _ _ => cases h
  | refuse _ | await _ _ _ | make _ _ _ _ | dispose _ => cases h

/-- A message that falls to the principal is handed to its raw handler. -/
theorem ChannelId.handle_run_of_fallsTo (hchannel : bridge.channels.get? c = some channel)
    (hworker : (bridge.workers.get? channel.worker).isSome)
    (h : bridge.FallsTo host.watched c message principal) (waits : Bool) :
    ∃ bridge', handle host.watched answer c message waits frame bridge =
        some (.ok none, bridge') ∧
      bridge.CallsRaw host answer channel.worker principal message bridge' := by
  obtain ⟨told, herrand⟩ := Errand.eq_hand_of_raw?
    ((Bridge.raw?_errand_eq_some_iff waits).mpr ⟨h, rfl⟩)
  have hlogged : ((bridge.logged (received channel)).submitted channel.worker
      (.receive principal message)).logged told =
      (bridge.submitted channel.worker (.receive principal message)).logged
        (received channel ++ told) := by
    simp [Bridge.logged, Bridge.submitted]
  refine ⟨_, ?_, Bridge.callsRaw_submitted hworker principal message (received channel ++ told)⟩
  rw [handle_run hchannel, herrand, Errand.hand_run, hlogged]

/-- A message that falls to no principal hands in no raw call. -/
theorem Bridge.raw?_errand_eq_none
    (h : ∀ principal, ¬ bridge.FallsTo host.watched c message principal) (waits : Bool) :
    (bridge.errand host.watched c message waits).raw? = none := by
  rw [Option.eq_none_iff_forall_ne_some]
  rintro ⟨principal, message'⟩ hraw
  exact h principal ((Bridge.raw?_errand_eq_some_iff waits).mp hraw).1

/-- At once, a message has only those raw handlers called that waited before it. -/
theorem Bridge.HasExecuted.rawCalls {w : WorkerId} {errand : Errand}
    (h : bridge.HasExecuted host w (errand.executed? host w frame) bridge') :
    ∃ before, (before = [] ∨ host.Executes (bridge.awaiting host w) before) ∧
      bridge'.rawCalls = bridge.rawCalls ++ before.filterMap Execution.raw? := by
  obtain ⟨before, hbefore, hexecuted⟩ := h
  have hown : (errand.executed? host w frame).toList.filterMap Execution.raw? = [] := by
    have hnone := errand.raw?_executed? host w frame
    cases hexecution : errand.executed? host w frame with
    | none => rfl
    | some execution => simpa [hexecution] using hnone
  refine ⟨before, hbefore, ?_⟩
  rw [Bridge.rawCalls, hexecuted, List.filterMap_append, List.filterMap_append, hown,
    List.append_nil]
  rfl

/-- **A call of the raw handler is handed to the worker exactly if a message falls to the
principal**, and with the message as it is; the channel stays as it is, and one who waits for a
reply gets `undefined`. When the worker gets to the call, the handler runs once if the principal
still has it. Other messages hand in no raw call, and what runs at once is never a raw handler,
unless it has waited for the worker before. Posting text is dispatching the message that is read
from it, and text that cannot be read falls to nobody. -/
theorem ChannelId.raw_handler_called_iff (hchannel : bridge.channels.get? c = some channel)
    (hworker : (bridge.workers.get? channel.worker).isSome) (message : Message) (patience : Nat) :
    (∀ principal, bridge.FallsTo host.watched c message principal →
      (∃ bridge', dispatch host.watched answer c message frame bridge = some ((), bridge') ∧
        bridge.CallsRaw host answer channel.worker principal message bridge') ∧
      ∃ bridge', dispatchSync host.watched answer patience c message frame bridge =
          some ("undefined", bridge') ∧
        bridge.CallsRaw host answer channel.worker principal message bridge') ∧
    ((∀ principal, ¬ bridge.FallsTo host.watched c message principal) → ∀ elsewhere,
      ((Handing.queued host.watched answer).rerouted elsewhere).dispatch host.watched answer c
          message frame bridge = dispatch host.watched answer c message frame bridge ∧
        ((Handing.queued host.watched answer).rerouted elsewhere).dispatchSync host.watched answer
          patience c message frame bridge =
            dispatchSync host.watched answer patience c message frame bridge) ∧
    (∀ bridge', (dispatch host.watched answer c message frame bridge = some ((), bridge') ∨
        ∃ reply, dispatchSync host.watched answer patience c message frame bridge =
          some (reply, bridge')) →
      ∃ before, (before = [] ∨ host.Executes (bridge.awaiting host channel.worker) before) ∧
        bridge'.rawCalls = bridge.rawCalls ++ before.filterMap Execution.raw?) ∧
    ∀ (full : Answerer (σ × List Visit)) (name : String) (body : Option String),
      (bridge.context.bind fun context ↦ context.handlers.get? name) = some c →
        Gate.post full name body frame bridge =
          full (.dispatch c (Gate.messageOf name body)) frame (bridge.logged (Gate.told body)) ∧
        Gate.postSync full name body frame bridge = full (.dispatchSync c (Gate.messageOf name body))
          frame (bridge.logged (Gate.told body)) ∧
        (body.bind Json.parse? = none → ∀ principal, ¬ (bridge.logged (Gate.told body)).FallsTo
          host.watched c (Gate.messageOf name body) principal) := by
  refine ⟨fun principal hfalls ↦ ⟨?_, ?_⟩, fun hnobody elsewhere ↦ ⟨?_, ?_⟩, ?_, ?_⟩
  · obtain ⟨bridge', hhandle, hcalls⟩ := handle_run_of_fallsTo hchannel hworker hfalls false
    exact ⟨bridge', Run.bind_run hhandle, hcalls⟩
  · obtain ⟨bridge', hhandle, hcalls⟩ := handle_run_of_fallsTo hchannel hworker hfalls true
    exact ⟨bridge', dispatchSync_run_of_none patience hhandle, hcalls⟩
  · exact Handing.dispatch_rerouted elsewhere (Bridge.raw?_errand_eq_none hnobody false)
  · exact Handing.dispatchSync_rerouted elsewhere (Bridge.raw?_errand_eq_none hnobody true) patience
  · rintro bridge' (h | ⟨reply, h⟩)
    · exact (dispatch_executed hchannel h).rawCalls
    · exact (dispatchSync_executed hchannel h).rawCalls
  · intro full name body hname
    refine ⟨Gate.post_run hname body, Gate.postSync_run hname body, fun hnone principal hfalls ↦ ?_⟩
    have hbody := hfalls.body
    rw [Gate.messageOf, hnone] at hbody
    cases hbody

end Paths

/-- A host of objects that count the messages they get which are no requests. -/
def Host.listening : Host Nat where
  surface typeName := .ofDeclarations typeName [.method "ask" 0]
  hooks _ object := { description := object.typeName, takesRaw := true }
  get _ _ := .done .undefined
  set _ _ _ := .done (.returned (.ok ()))
  invoke _ _ _ := .done (.returned (.ok .undefined))
  construct _ _ := .done (.panicked none)
  receive _ _ := .read fun count ↦ .write (count + 1) (.done (.returned ()))

/-- A channel whose principal listens. -/
def Bridge.listening : Bridge (Nat × List Visit) where
  native := (0, [])
  context := some {}
  channels := Table.empty.insert 0
    { worker := 0, bound := some (Bound.start "1" "app" ⟨0, "Ear"⟩) }
  workers := Table.empty.insert 0 { label := "queue", kind := .queue }

/-- A request for an instance that there is not. -/
def Message.stray (opcode : String) : Message :=
  ⟨"1", some (.object [(opcodeKey, .string opcode), (targetKey, .int 5)])⟩

/-- A member of an instance that there is not is asked for: the principal gets the message. -/
theorem listening_raw_handler_called : ∃ bridge' after : Bridge (Nat × List Visit),
    ChannelId.dispatch Host.listening.watched (Bridge.answer Host.listening.watched 1) 0
      (.stray "ask") {} Bridge.listening = some ((), bridge') ∧
    Run.flush Host.listening.watched (Bridge.answer Host.listening.watched 1) 0 {} bridge' =
      some ((), after) ∧
    after.executed = [.receive ⟨0, "Ear"⟩ (.stray "ask")] ∧ after.native.1 = 1 := by
  have hfalls : Bridge.listening.FallsTo Host.listening.watched 0 (.stray "ask") ⟨0, "Ear"⟩ := by
    refine ⟨⟨_, "app", rfl, rfl, rfl⟩, rfl, ?_⟩
    rintro _ ⟨⟩
    refine ⟨by decide, ?_⟩
    rintro _ ⟨⟩
    rfl
  obtain ⟨bridge', hdispatch, hcalls⟩ := ((@ChannelId.raw_handler_called_iff _ Host.listening
    (Bridge.answer Host.listening.watched 1) 0 _ {} Bridge.listening rfl rfl (.stray "ask") 0).1
    _ hfalls).1
  obtain ⟨told, rfl⟩ := hcalls.handed
  have hflush : Run.flush Host.listening.watched (Bridge.answer Host.listening.watched 1) 0 {}
      ((Bridge.listening.submitted 0 (.receive ⟨0, "Ear"⟩ (.stray "ask"))).logged told) =
      some ((), _) := rfl
  obtain ⟨mid, earlier, hexecutes, hearlier, hcall⟩ := hcalls.turn {} _ (by decide) hflush
  cases hexecutes
  have honce := (hcalls.once _ mid _ hcall).1 rfl
  rw [hearlier] at honce
  exact ⟨_, _, hdispatch, hflush, honce, rfl⟩

/-- The raw handlers that have been called, whoever has posted the messages. -/
def Bridge.heard (bridge : Bridge (σ × List Execution)) : List (ObjectRef × Message) :=
  bridge.native.2.filterMap Execution.raw?

/-- A host of objects that take messages which are no requests until they are told to rest. -/
def Host.resting : Host Bool where
  surface typeName := .ofDeclarations typeName [.method "rest" 0]
  hooks awake object := { description := object.typeName, takesRaw := awake }
  get _ _ := .done .undefined
  set _ _ _ := .done (.returned (.ok ()))
  invoke _ _ _ := .write false (.done (.returned (.ok .undefined)))
  construct _ _ := .done (.panicked none)
  receive _ _ := .done (.returned ())

/-- A channel whose principal is about to rest. -/
def Bridge.resting : Bridge (Bool × List Execution) where
  native := (true, [])
  context := some {}
  channels := Table.empty.insert 0
    { worker := 0, bound := some (Bound.start "1" "app" ⟨0, "Ear"⟩) }
  workers := Table.empty.insert 0
    { label := "queue", kind := .queue, waiting := [.invoke ⟨"app", ⟨0, "Ear"⟩⟩ "rest" []] }

/-- A host of objects that post a message which is no request when they are called. -/
def Host.posting : Host Unit where
  surface typeName := .ofDeclarations typeName [.method "post" 0]
  hooks _ object := { description := object.typeName, takesRaw := true }
  get _ _ := .done .undefined
  set _ _ _ := .done (.returned (.ok ()))
  invoke _ _ _ :=
    .call (.dispatch 0 ⟨"1", some (.object [])⟩) fun _ ↦ .done (.returned (.ok .undefined))
  construct _ _ := .done (.panicked none)
  receive _ _ := .done (.returned ())

/-- A channel whose principal posts. -/
def Bridge.posting : Bridge (Unit × List Execution) where
  native := ((), [])
  context := some {}
  channels := Table.empty.insert 0
    { worker := 0, bound := some (Bound.start "1" "app" ⟨0, "Ear"⟩) }
  workers := Table.empty.insert 0 { label := "queue", kind := .queue }

/-- A raw handler is not always called with a message that falls to its object: the object has
stopped taking such messages when the worker gets to it. And it may be called when a message for a
living instance is taken: the member that the message is for posts another one. -/
theorem raw_handler_not_always_called :
    (¬ ∀ (host : Host Bool) (levels : Nat) (c : ChannelId) (channel : Channel) (frame : Frame)
      (bridge bridge' after : Bridge (Bool × List Execution)) (message : Message)
      (principal : ObjectRef), bridge.channels.get? c = some channel →
        (bridge.workers.get? channel.worker).isSome → frame.Outside channel.worker →
        bridge.FallsTo host.journaled c message principal →
        ChannelId.dispatch host.journaled (Bridge.answer host.journaled levels) c message frame
          bridge = some ((), bridge') →
        Run.flush host.journaled (Bridge.answer host.journaled levels) channel.worker frame
          bridge' = some ((), after) →
        (principal, message) ∈ after.heard) ∧
    ¬ ∀ (host : Host Unit) (levels patience : Nat) (c : ChannelId) (channel : Channel)
      (frame : Frame) (bridge bridge' after : Bridge (Unit × List Execution)) (message : Message)
      (reply : String), bridge.channels.get? c = some channel →
        bridge.waitingOf channel.worker = [] → frame.Outside channel.worker →
        (∀ principal, ¬ bridge.FallsTo host.journaled c message principal) →
        ChannelId.dispatchSync host.journaled (Bridge.answer host.journaled levels) patience c
          message frame bridge = some (reply, bridge') →
        Run.flush host.journaled (Bridge.answer host.journaled levels) channel.worker frame
          bridge' = some ((), after) →
        after.heard = bridge.heard := by
  refine ⟨fun h ↦ ?_, fun h ↦ ?_⟩
  · have hfalls : Bridge.resting.FallsTo Host.resting.journaled 0 ⟨"1", some (.object [])⟩
        ⟨0, "Ear"⟩ := ⟨⟨_, "app", rfl, rfl, rfl⟩, rfl, by rintro _ ⟨⟩⟩
    have hheard := h .resting 1 0 _ {} .resting _ _ _ _ rfl rfl ⟨by decide, by decide⟩ hfalls
      rfl rfl
    cases hheard
  · have hnobody : ∀ principal, ¬ Bridge.posting.FallsTo Host.posting.journaled 0
        ⟨"1", some (.object [(opcodeKey, .string "post")])⟩ principal := by
      intro principal hfalls
      exact absurd ((hfalls.unserved _ rfl).2 _ rfl) (by decide)
    have hheard := h .posting 3 1 0 _ {} .posting _ _ _ _ rfl rfl ⟨by decide, by decide⟩ hnobody
      rfl rfl
    cases hheard

end ScriptBridge
