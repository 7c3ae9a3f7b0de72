import ScriptBridge.Proofs.Messages.Executed

/-!
# What a message can make native code do

A message makes native code do what it is entitled to, and nothing else. What it reaches is known
before anything runs: it is what its errand reaches (`Errand.reached?`). Running the errand then
adds just that to the record of members that have run, and what a channel does afterwards, reporting
a failure or wording a reply, adds none (`Run.Inert`).

## When it happens

A member that a message is entitled to runs at once if the message waits for it, behind the calls
that waited before; else it is handed to the worker, and runs when the worker gets to it.
`Bridge.Spends` tells the two apart. There is one case in which a message reaches nothing although
it is entitled to: on the thread of the worker itself a call that would have to be waited for is
refused.

## What is assumed

Surfaces are those that declarations give, and the worker of the channel is there. Nothing is
assumed of native code or of how its calls are answered; what it does by calling the bridge is not
put down to the message.
-/

namespace ScriptBridge

variable {σ α β : Type}

/-! ## Members that have run -/

/-- What is reached for a request, and not to read a property or for a raw message. -/
def Access.member? : Access → Option Execution
  | .read _ _ => none
  | .execution reached => reached.member?

/-- The members that visits have reached. -/
def Visit.members (visits : List Visit) : List Execution := visits.filterMap (·.access.member?)

/-- The members that have run for requests. -/
def Bridge.served (bridge : Bridge (σ × List Visit)) : List Execution := Visit.members bridge.visits

/-- The members that calls reach which wait for a worker. -/
def Bridge.awaitedMembers (host : Host σ) (w : WorkerId) (bridge : Bridge (σ × List Visit)) :
    List Execution :=
  (bridge.awaiting host w).filterMap Execution.member?

theorem Visit.members_eq (visits : List Visit) :
    members visits = (executions visits).filterMap Execution.member? := by
  rw [members, executions, List.filterMap_filterMap]
  refine congrArg (List.filterMap · visits) (funext fun visit ↦ ?_)
  cases visit.access <;> rfl

theorem Bridge.served_eq (bridge : Bridge (σ × List Visit)) :
    bridge.served = bridge.executed.filterMap Execution.member? := Visit.members_eq bridge.visits

/-- A run in which no member runs. -/
def Run.Inert (run : Run (σ × List Visit) α) : Prop :=
  ∀ frame bridge a bridge', run frame bridge = some (a, bridge') → bridge'.served = bridge.served

/-- Where nothing is executed, no member runs. -/
theorem Run.Passive.inert {run : Run (σ × List Visit) α} (h : run.Passive) : run.Inert := by
  intro frame bridge a bridge' hrun
  rw [bridge'.served_eq, h frame bridge a bridge' hrun, bridge.served_eq]

/-! ## How members come to run -/

/-- Whether a message waits for an execution that it is entitled to. -/
def Execution.isAwaited (waits : Bool) : Execution → Bool
  | .call _ _ _ => waits
  | .make _ _ => true
  | .write _ _ _ | .receive _ _ => false

/-- A member has run, and before it nothing but the calls that waited for the worker, if those. -/
def Bridge.HasRun (host : Host σ) (w : WorkerId) (own : Option Execution)
    (bridge bridge' : Bridge (σ × List Visit)) : Prop :=
  ∃ before, (before = [] ∨ before = bridge.awaitedMembers host w) ∧
    bridge'.served = bridge.served ++ before ++ own.toList

/-- How the member comes to run that a message reaches. -/
inductive Bridge.Spends (host : Host σ) (answer : Answerer (σ × List Visit)) (w : WorkerId)
    (waits : Bool) (own : Option Execution) (bridge bridge' : Bridge (σ × List Visit)) : Prop where
  /-- At once, if it is waited for. -/
  | now (hawaited : ∀ execution ∈ own, execution.isAwaited waits = true)
    (hrun : bridge.HasRun host w own bridge')
  /-- Else when the worker gets to a call that has been handed to it. -/
  | later (hawaited : ∀ execution ∈ own, execution.isAwaited waits = false) (task : Task)
    (hserved : bridge'.served = bridge.served)
    (hwaiting : bridge'.waitingOf w = bridge.waitingOf w ++ [task])
    (hrun : ∀ frame before after,
      task.run host.watched answer frame before = some ((), after) →
        after.served = before.served ++ own.toList)

/-- The member that an errand reaches in a frame: none, if it would wait for its own worker. -/
def Errand.reached? (host : Host σ) (w : WorkerId) (frame : Frame) (errand : Errand) :
    Option Execution :=
  if frame.thread = .worker w ∧ errand.isAwaited = true then none else errand.member? host

section Runs

variable {host : Host σ} {answer : Answerer (σ × List Visit)} {c : ChannelId} {w : WorkerId}
  {frame : Frame} {bridge bridge' : Bridge (σ × List Visit)} {errand : Errand}

/-- A message waits for what it is entitled to as its errand does. -/
theorem Bridge.isAwaited_errand {message : Message} {waits : Bool} {execution : Execution}
    (h : (bridge.errand host.watched c message waits).member? host = some execution) :
    execution.isAwaited waits = (bridge.errand host.watched c message waits).isAwaited := by
  revert h
  refine errand_cases (motive := fun errand ↦ errand.member? host = some execution →
    execution.isAwaited waits = errand.isAwaited) ?_ ?_ ?_ ?_ ?_ ?_ ?_
  · rintro e ⟨⟩
  · rintro object told ⟨⟩
  · intro binding name value h
    rw [Errand.member?_set] at h
    obtain ⟨-, rfl⟩ := Host.writing?_eq_some_iff.mp h
    rfl
  · rintro rfl binding name args h
    rw [Errand.member?_invoke] at h
    obtain ⟨_, _, _, -, -, rfl⟩ := Host.calling?_eq_some_iff.mp h
    rfl
  · rintro rfl binding name args h
    rw [Errand.member?_await] at h
    obtain ⟨_, _, _, -, -, rfl⟩ := Host.calling?_eq_some_iff.mp h
    rfl
  · intro _ target place typeName args h
    rw [Errand.member?_make] at h
    obtain ⟨_, _, -, -, rfl⟩ := Host.making?_eq_some_iff.mp h
    rfl
  · rintro target ⟨⟩

/-- Members are executed, whatever becomes of messages that are no requests. -/
theorem Host.Executes.members_eq {awaited executed : List Execution}
    (h : host.Executes awaited executed) :
    executed.filterMap Execution.member? = awaited.filterMap Execution.member? := by
  induction h with
  | nil => rfl
  | done execution _ ih => rw [List.filterMap_cons, List.filterMap_cons, ih]
  | declined message _ _ ih => exact ih

/-- Of what has been executed, some are members. -/
theorem Bridge.HasExecuted.hasRun {own : Option Execution}
    (h : bridge.HasExecuted host w own bridge') :
    bridge.HasRun host w (own.bind Execution.member?) bridge' := by
  obtain ⟨before, hbefore, hexecuted⟩ := h
  refine ⟨before.filterMap Execution.member?, ?_, ?_⟩
  · exact hbefore.imp (fun hnil ↦ by rw [hnil, List.filterMap_nil]) (·.members_eq)
  · have hown : own.toList.filterMap Execution.member? = (own.bind Execution.member?).toList := by
      cases own with
      | none => rfl
      | some execution => cases execution <;> rfl
    rw [bridge'.served_eq, hexecuted, List.filterMap_append, List.filterMap_append, hown,
      bridge.served_eq]

/-- What an errand reaches that is no call for the worker is among what it executes at once. -/
theorem Errand.reached?_eq (hhand : ∀ task told, errand ≠ .hand task told) :
    errand.reached? host w frame = (errand.executed? host w frame).bind Execution.member? := by
  cases errand with
  | hand task told => exact absurd rfl (hhand task told)
  | await _ _ _ | make _ _ _ _ =>
    by_cases hthread : frame.thread = .worker w <;>
      simp [reached?, executed?, isAwaited, hthread, member?]
  | refuse _ | dispose _ => simp [reached?, executed?, isAwaited, member?, execution?]

/-- **What an errand reaches** runs at once, unless it is a call for the worker. -/
theorem Errand.run_served (hhand : ∀ task told, errand ≠ .hand task told)
    {outcome : Except BridgeError (Option Value)}
    (h : errand.run host.watched answer c w frame bridge = some (outcome, bridge')) :
    bridge.HasRun host w (errand.reached? host w frame) bridge' := by
  rw [reached?_eq hhand]
  exact (run_executed h).hasRun

/-- A call runs what it executes, when the worker gets to it. -/
theorem Task.run_served {task : Task}
    (h : task.run host.watched answer frame bridge = some ((), bridge')) :
    bridge'.served = bridge.served ++ ((task.execution? host).bind Execution.member?).toList := by
  have hmembers : (task.executed? host bridge.native.1).toList.filterMap Execution.member? =
      ((task.execution? host).bind Execution.member?).toList := by
    rw [(task.executes bridge.native.1).members_eq]
    cases task.execution? host with
    | none => rfl
    | some execution => cases execution <;> rfl
  rw [bridge'.served_eq, run_executed h, List.filterMap_append, hmembers, bridge.served_eq]

theorem Errand.reached?_hand (task : Task) (told : List Line) :
    (hand task told).reached? host w frame = (task.execution? host).bind Execution.member? := by
  simp [reached?, isAwaited, member?, execution?]

/-- An errand that reaches a member without waiting for it is a call for the worker. -/
theorem Errand.eq_hand {execution : Execution} (h : errand.member? host = some execution)
    (hawaited : errand.isAwaited = false) : ∃ task told, errand = .hand task told := by
  cases errand with
  | hand task told => exact ⟨task, told, rfl⟩
  | await _ _ _ => cases hawaited
  | make _ _ _ _ => cases hawaited
  | refuse _ => cases h
  | dispose _ => cases h

theorem Errand.reached?_eq_some_iff {execution : Execution} :
    errand.reached? host w frame = some execution ↔
      errand.member? host = some execution ∧
        ¬ (frame.thread = .worker w ∧ errand.isAwaited = true) := by
  unfold reached?
  split
  · next hown => simp [hown]
  · next hown => simp [hown]

namespace ChannelId

section Taking

variable {channel : Channel} {message : Message} {waits : Bool}
  {rest : Except BridgeError (Option Value) → Run (σ × List Visit) α}

/-- A message whose errand is a call for the worker is answered with nothing. -/
theorem handle_run_of_hand (hchannel : bridge.channels.get? c = some channel) {task : Task}
    {told : List Line} (herrand : bridge.errand host.watched c message waits = .hand task told) :
    handle host.watched answer c message waits frame bridge =
      some (.ok none,
        ((bridge.logged (received channel)).submitted channel.worker task).logged told) := by
  rw [handle_run hchannel, herrand, Errand.hand_run]

/-- **A message that is taken reaches what its errand reaches**, if nothing more is reached
thereafter and nothing is done where there is no reply. -/
theorem handle_spends (hrest : ∀ outcome, (rest outcome).Inert)
    (hnone : ∀ frame bridge, ∃ a, rest (.ok none) frame bridge = some (a, bridge))
    (hchannel : bridge.channels.get? c = some channel)
    (hworker : (bridge.workers.get? channel.worker).isSome) {a : α}
    (h : (handle host.watched answer c message waits >>= rest) frame bridge = some (a, bridge')) :
    bridge.Spends host answer channel.worker waits
      ((bridge.errand host.watched c message waits).reached? host channel.worker frame)
      bridge' := by
  have hawaited : ∀ execution ∈
      (bridge.errand host.watched c message waits).reached? host channel.worker frame,
      execution.isAwaited waits = (bridge.errand host.watched c message waits).isAwaited :=
    fun _ hexecution ↦ Bridge.isAwaited_errand (Errand.reached?_eq_some_iff.mp hexecution).1
  obtain ⟨outcome, mid, htaken, hdone⟩ := Run.of_bind_run h
  by_cases hhand : ∃ task told, bridge.errand host.watched c message waits = .hand task told
  · obtain ⟨task, told, herrand⟩ := hhand
    rw [handle_run_of_hand hchannel herrand] at htaken
    cases htaken
    -- there is no reply to be worded, so the call is the last that the worker has got:
    obtain ⟨a', hsilent⟩ := hnone frame
      (((bridge.logged (received channel)).submitted channel.worker task).logged told)
    rw [hsilent] at hdone
    cases hdone
    rw [herrand, Errand.reached?_hand] at hawaited ⊢
    exact .later hawaited task rfl (bridge.waitingOf_submitted hworker task)
      fun _ _ _ ↦ Task.run_served
  · rw [handle_run hchannel] at htaken
    obtain ⟨before, hbefore, hserved⟩ :=
      Errand.run_served (fun task told herrand ↦ hhand ⟨task, told, herrand⟩) htaken
    refine .now (fun execution hexecution ↦ ?_)
      ⟨before, hbefore, (hrest outcome frame mid a bridge' hdone).trans hserved⟩
    rw [hawaited execution hexecution]
    by_contra hlater
    exact hhand (Errand.eq_hand (Errand.reached?_eq_some_iff.mp hexecution).1
      (Bool.eq_false_iff.mpr hlater))

theorem dispatch_spends (hchannel : bridge.channels.get? c = some channel)
    (hworker : (bridge.workers.get? channel.worker).isSome)
    (h : dispatch host.watched answer c message frame bridge = some ((), bridge')) :
    bridge.Spends host answer channel.worker false
      ((bridge.errand host.watched c message false).reached? host channel.worker frame)
      bridge' := by
  refine handle_spends (fun outcome ↦ ?_) (fun _ bridge ↦ ⟨(), rfl⟩) hchannel hworker h
  split
  · exact (Run.Passive.pure _).inert
  · exact (report_passive _).inert

theorem dispatchSync_spends (hchannel : bridge.channels.get? c = some channel)
    (hworker : (bridge.workers.get? channel.worker).isSome) {patience : Nat} {reply : String}
    (h : dispatchSync host.watched answer patience c message frame bridge =
      some (reply, bridge')) :
    bridge.Spends host answer channel.worker true
      ((bridge.errand host.watched c message true).reached? host channel.worker frame)
      bridge' := by
  rw [dispatchSync, ask, bind_assoc] at h
  refine handle_spends (fun outcome ↦ ?_) (fun _ bridge ↦ ⟨"undefined", rfl⟩) hchannel hworker h
  exact ((reported_passive outcome).bind fun told ↦ worded_passive patience told).inert

end Taking

end ChannelId

end Runs

/-! ## Nothing but what was declared -/

/-- **A message makes native code do what it is entitled to, and nothing else.** -/
theorem ChannelId.reaches_iff_entitled {host : Host σ} {answer : Answerer (σ × List Visit)}
    {declared : String → List Declaration}
    (hsurface : ∀ typeName, host.surface typeName = .ofDeclarations typeName (declared typeName))
    {c : ChannelId} {channel : Channel} {frame : Frame} {bridge : Bridge (σ × List Visit)}
    (hchannel : bridge.channels.get? c = some channel)
    (hworker : (bridge.workers.get? channel.worker).isSome) (message : Message) (waits : Bool) :
    ∃ own : Option Execution,
      (∀ execution, own = some execution ↔ bridge.Entitles declared c message execution ∧
        ¬ (frame.thread = .worker channel.worker ∧ execution.isAwaited waits = true)) ∧
      (waits = false → ∀ bridge',
        dispatch host.watched answer c message frame bridge = some ((), bridge') →
          bridge.Spends host answer channel.worker waits own bridge') ∧
      (waits = true → ∀ patience reply bridge',
        dispatchSync host.watched answer patience c message frame bridge =
          some (reply, bridge') →
            bridge.Spends host answer channel.worker waits own bridge') ∧
      ((∃ execution ∈ own, execution.isAwaited waits = false) → ∃ bridge',
        (waits = false → dispatch host.watched answer c message frame bridge =
          some ((), bridge')) ∧
        (waits = true → ∀ patience,
          dispatchSync host.watched answer patience c message frame bridge =
            some ("undefined", bridge'))) := by
  refine ⟨(bridge.errand host.watched c message waits).reached? host channel.worker frame,
    fun execution ↦ ?_, ?_, ?_, ?_⟩
  · rw [Errand.reached?_eq_some_iff, bridge.member?_errand_eq_some_iff hsurface]
    refine and_congr_right fun hentitled ↦ ?_
    rw [Bridge.isAwaited_errand
      ((bridge.member?_errand_eq_some_iff hsurface message waits).mpr hentitled)]
  · rintro rfl bridge' h
    exact dispatch_spends hchannel hworker h
  · rintro rfl patience reply bridge' h
    exact dispatchSync_spends hchannel hworker h
  · rintro ⟨execution, hexecution, hlater⟩
    have hmember := (Errand.reached?_eq_some_iff.mp hexecution).1
    rw [Bridge.isAwaited_errand hmember] at hlater
    obtain ⟨task, told, herrand⟩ := Errand.eq_hand hmember hlater
    refine ⟨((bridge.logged (received channel)).submitted channel.worker task).logged told,
      ?_, ?_⟩
    · rintro rfl
      exact Run.bind_run (handle_run_of_hand hchannel herrand)
    · rintro rfl patience
      exact dispatchSync_run_of_none patience (handle_run_of_hand hchannel herrand)

/-- A script asks for a call, and passes a function. -/
def Message.asking : Message :=
  ⟨"1", some (.object [(opcodeKey, .string "ask"),
    (operandKey, .array [.object [(ChannelId.callbackKey, .int 3)]])])⟩

/-- A method that is waited for gets the callback that stands for a function of the script. -/
theorem refusing_reaches_entitled :
    ∃ bridge' : Bridge (Unit × List Visit),
      ChannelId.dispatchSync Host.refusing.watched (Bridge.answer Host.refusing.watched 1) 0 0
        .asking {} Bridge.refusing =
          some (ChannelId.throwing (BridgeError.nativeFailure "no").message, bridge') ∧
      bridge'.served = [.call ⟨0, "Door"⟩ "ask" [.callback ⟨3, 0⟩]] ∧
      Bridge.refusing.Spends Host.refusing (Bridge.answer Host.refusing.watched 1) 0 true
        (some (.call ⟨0, "Door"⟩ "ask" [.callback ⟨3, 0⟩])) bridge' := by
  have htaken := @ChannelId.handle_run _ Host.refusing.watched
    (Bridge.answer Host.refusing.watched 1) 0 _ {} Bridge.refusing rfl .asking true
  have herrand : Bridge.refusing.errand Host.refusing.watched 0 .asking true =
      .await ⟨"app", ⟨0, "Door"⟩⟩ "ask" [.callback ⟨3, 0⟩] := rfl
  rw [herrand] at htaken
  have hanswered := ChannelId.dispatchSync_run_of_error 0 (htaken.trans rfl)
  have hentitled : Bridge.refusing.Entitles
      (fun _ ↦ [.initializer 0, .method "ask" 1, .property "fixed"]) 0 .asking
      (.call ⟨0, "Door"⟩ "ask" [.callback ⟨3, 0⟩]) := by
    refine ⟨_, ⟨"1", 0, "ask", _⟩, rfl, rfl, ?_⟩
    refine @Request.Entitles.call _ _ _ _ ⟨"app", ⟨0, "Door"⟩⟩ (some 1) true
      _ _ _ (by decide) (by decide) rfl rfl (.cons (.object (.cons (.word 3) .nil)) .nil)
      (.cons ?_ .nil) (.filled [.callback ⟨3, 0⟩] 0)
    exact @Received.function 0 (.int 3) 3 rfl (by decide)
  obtain ⟨own, hown, -, hsync, -⟩ := @ChannelId.reaches_iff_entitled _ Host.refusing
    (Bridge.answer Host.refusing.watched 1)
    (fun _ ↦ [.initializer 0, .method "ask" 1, .property "fixed"]) (fun _ ↦ rfl) 0 _ {}
    Bridge.refusing rfl rfl .asking true
  have hcall := (hown _).mpr ⟨hentitled, fun hthread ↦ nomatch hthread.1⟩
  rw [hcall] at hsync
  exact ⟨_, hanswered, rfl, hsync rfl 0 _ _ hanswered⟩

end ScriptBridge
