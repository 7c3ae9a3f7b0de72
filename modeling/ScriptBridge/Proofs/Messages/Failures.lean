import ScriptBridge.Proofs.Messages.Errands
import ScriptBridge.Proofs.Messages.Visits
import ScriptBridge.Proofs.Runs.Regimes
import ScriptBridge.Surface.Declared

/-!
# Messages that fail

A message may fail in many ways: it is no request, it names no instance or no member, the member is
no match for what it asks, the native code that it reaches fails or panics. Some of these failures
come to light when the message is taken, others when the worker gets to the call that was handed to
it. What all of them have in common is `Bridge.Fails`: the tables of the channel and the
registrations of the context are as they were, and at most one accessor has run on account of the
message, the one whose failure the message ends in.

## What is assumed of native code

Native code may be made to run by a message that fails, if only to fail itself, and so do the calls
that waited for the worker. What it does to the channel by calling the bridge is its own doing; so
its calls are to leave the channel and the registrations alone (`Bridge.Spares`). Code that makes no
calls at all is the ordinary case.
-/

namespace ScriptBridge

variable {σ α : Type}

/-! ## Sparing a channel -/

/-- The binding of a channel, with all that belongs to it, and the registrations of the context are
as they were. -/
structure Bridge.Spares (c : ChannelId) (bridge bridge' : Bridge σ) : Prop where
  /-- Identifier, place, instances, references, the next id and what is pending. -/
  bound : bridge'.boundOf c = bridge.boundOf c
  handlers : bridge'.handlers? = bridge.handlers?

theorem Bridge.spares_course (c : ChannelId) : Course (Spares (σ := σ) c) where
  refl _ := ⟨rfl, rfl⟩
  trans h h' := ⟨h'.bound.trans h.bound, h'.handlers.trans h.handlers⟩
  aside hchannels hhandlers := ⟨by rw [boundOf, hchannels, boundOf], hhandlers⟩

/-- **A message that fails leaves nothing behind** but what the calls did that waited before it:
`earlier` is what they were to execute. Of the accessors that it reaches itself there is at most
one, and that one has failed as the message does. -/
structure Bridge.Fails (host : Host σ) (c : ChannelId) (e : BridgeError) (earlier : List Execution)
    (bridge bridge' : Bridge (σ × List Visit)) : Prop where
  spares : bridge.Spares c bridge'
  visits : ∃ (before own : List Visit) (executed : List Execution),
    bridge'.visits = bridge.visits ++ before ++ own ∧
      before.map (·.access) = executed.map .execution ∧ host.Executes earlier executed ∧
      own.length ≤ 1 ∧ ∀ visit ∈ own, visit.failure = some e

variable {host : Host σ} {answer : Answerer (σ × List Visit)} {allowed : BridgeCall → Prop}
  {c : ChannelId} {e : BridgeError} {frame : Frame} {bridge bridge' : Bridge (σ × List Visit)}

/-- Where nothing is reached and nothing changes, any failure will do. -/
theorem Bridge.Fails.of_aside (hchannels : bridge'.channels = bridge.channels)
    (hhandlers : bridge'.handlers? = bridge.handlers?) (hvisits : bridge'.visits = bridge.visits) :
    bridge.Fails host c e [] bridge' where
  spares := (spares_course c).aside hchannels hhandlers
  visits := ⟨[], [], [], by simp [hvisits], rfl, .nil, Nat.zero_le 1, by simp⟩

theorem Visit.length_ofExecution (execution : Option Execution) (failure : Option BridgeError) :
    (ofExecution execution failure).length ≤ 1 := by
  cases execution with
  | none => exact Nat.zero_le 1
  | some execution => exact Nat.le_refl 1

theorem Visit.failure_of_mem {execution : Option Execution} {failure : Option BridgeError}
    {visit : Visit} (h : visit ∈ ofExecution execution failure) : visit.failure = failure := by
  obtain ⟨_, -, rfl⟩ := List.mem_map.mp h
  rfl

/-! ## Calls that are waited for -/

section Failures

variable (hanswer : answer.Obeys allowed (Bridge.Spares c)) (hhost : host.Calls allowed)
include hanswer hhost

open Bridge (Fails Spares spares_course)

/-- Work that is waited for spares the channel if it does, and if it fails, so does the message. -/
theorem Run.sync_fails {w : WorkerId} {work : Run (σ × List Visit) (Finish (Except BridgeError α))}
    {execution : Option Execution}
    (hspares : ∀ frame bridge, work.Obeys (Spares c) frame bridge)
    (hvisits : work.Visits fun finish ↦ Visit.ofExecution execution finish.failure?)
    {result : Except BridgeError (Finish (Except BridgeError α))}
    (h : Run.sync host.watched answer w work frame bridge = some (result, bridge')) :
    bridge.Spares c bridge' ∧ ∀ e, result.bind Finish.result = .error e →
      bridge.Fails host c e [] bridge' ∨
        bridge.Fails host c e (bridge.awaiting host w) bridge' := by
  have hkept : bridge.Spares c bridge' :=
    Run.sync_obeys (spares_course c) hanswer hhost.watched w hspares result bridge' h
  refine ⟨hkept, fun e he ↦ ?_⟩
  rcases Run.sync_visits hvisits h with
    ⟨-, rfl, -⟩ | ⟨-, finish, before, executed, rfl, hadded, hbefore, hexecutes⟩
  · exact .inl (.of_aside rfl rfl rfl)
  · have hfailure : finish.failure? = some e := Finish.failure?_eq_some_iff.mpr he
    refine .inr ⟨hkept, before, _, executed, hadded, hbefore, hexecutes,
      Visit.length_ofExecution _ _, ?_⟩
    intro visit hvisit
    rw [Visit.failure_of_mem hvisit, hfailure]

/-- An instance that is made while the channel is bound finds it bound, so nothing fails behind the
initializer. -/
theorem ChannelId.produce_fails {w : WorkerId} {target : Int} {place typeName : String}
    {args : List Value} (hbound : (bridge.boundOf c).isSome)
    (h : produce host.watched answer c w target place typeName args frame bridge =
      some (.error e, bridge')) :
    bridge.Fails host c e [] bridge' ∨ bridge.Fails host c e (bridge.awaiting host w) bridge' := by
  obtain ⟨made, after, hsync, hrest⟩ := Run.of_bind_run h
  obtain ⟨hkept, hfails⟩ := Run.sync_fails hanswer hhost
    (fun _ _ ↦ Host.make_obeys (spares_course c) hanswer hhost.watched typeName args)
    (Host.make_visits typeName args) hsync
  cases hmade : made.bind Finish.result with
  | error e' =>
    rw [hmade] at hrest
    cases hrest
    exact hfails e hmade
  | ok object =>
    obtain ⟨bound, hbound⟩ := Option.isSome_iff_exists.mp hbound
    rw [← hkept.bound] at hbound
    rw [hmade] at hrest
    dsimp only at hrest
    rw [Run.bind_run (Run.bound?_run c), hbound] at hrest
    dsimp only at hrest
    split at hrest
    · cases hrest
    · cases hrest

/-- **Whatever a message asks for**, if it fails, it leaves nothing behind. -/
theorem Errand.run_fails {w : WorkerId} {message : Message} {waits : Bool}
    {before : Bridge (σ × List Visit)} (hbefore : before.boundOf c = bridge.boundOf c)
    (h : (before.errand host.watched c message waits).run host.watched answer c w frame bridge =
      some (.error e, bridge')) :
    bridge.Fails host c e [] bridge' ∨ bridge.Fails host c e (bridge.awaiting host w) bridge' := by
  cases herrand : before.errand host.watched c message waits with
  | refuse e' =>
    rw [herrand] at h
    cases h
    exact .inl (.of_aside rfl rfl rfl)
  | hand task told =>
    rw [herrand, Errand.hand_run] at h
    cases h
  | await binding method args =>
    rw [herrand] at h
    obtain ⟨result, after, hsync, hdone⟩ := Run.of_bind_run h
    obtain ⟨hmap, rfl⟩ := Prod.mk.inj (Option.some.inj hdone)
    obtain ⟨-, hfails⟩ := Run.sync_fails hanswer hhost
      (fun _ _ ↦ Binding.invoke_obeys (spares_course c) hanswer hhost.watched binding method args)
      (Binding.invoke_visits binding method args) hsync
    refine hfails e ?_
    cases hresult : result.bind Finish.result with
    | ok value =>
      rw [hresult] at hmap
      cases hmap
    | error e' =>
      rw [hresult] at hmap
      cases hmap
      rfl
  | make target place typeName args =>
    rw [herrand] at h
    obtain ⟨created, after, hproduce, hdone⟩ := Run.of_bind_run h
    obtain ⟨hmap, rfl⟩ := Prod.mk.inj (Option.some.inj hdone)
    have hbound := Bridge.bound_of_errand_eq_make herrand
    rw [hbefore] at hbound
    cases created with
    | ok _ => cases hmap
    | error e' =>
      cases hmap
      exact ChannelId.produce_fails hanswer hhost hbound hproduce
  | dispose target =>
    rw [herrand] at h
    obtain ⟨_, after, _, hdone⟩ := Run.of_bind_run h
    cases hdone

/-- A call that fails when the worker gets to it leaves nothing behind, either. -/
theorem Task.finish_fails {task : Task} {finish : Finish (Except BridgeError Unit)}
    (h : task.finish host.watched answer frame bridge = some (finish, bridge'))
    (he : finish.failure? = some e) : bridge.Fails host c e [] bridge' := by
  have hvisits := Task.finish_visits h
  refine ⟨finish_obeys (spares_course c) hanswer hhost.watched task finish bridge' h, [], _, [],
    by simpa using hvisits, rfl, .nil, Visit.length_ofExecution _ _, ?_⟩
  intro visit hvisit
  rw [Visit.failure_of_mem hvisit, he]

end Failures

/-! ## What is told of a failure -/

namespace ChannelId

section Reports

variable {host : Host σ} {answer : Answerer σ} {bridge bridge' : Bridge σ} {message : Message}

/-- A failure is reported to the log. -/
theorem dispatch_run_of_error
    (h : handle host answer c message false frame bridge = some (.error e, bridge')) :
    dispatch host answer c message frame bridge = some ((), bridge'.logged [e.reported]) :=
  (Run.bind_run h).trans (report_run e)

/-- The caller is told of a failure only if it surfaces. -/
theorem dispatchSync_run_of_error (patience : Nat)
    (h : handle host answer c message true frame bridge = some (.error e, bridge')) :
    dispatchSync host answer patience c message frame bridge =
      some (if e.surfaces then throwing e.message else "undefined",
        bridge'.logged [e.reported]) := by
  have hask : ask host answer c message frame bridge =
      some (if e.surfaces then .error e else .ok none, bridge'.logged [e.reported]) :=
    (Run.bind_run h).trans (Run.bind_run (report_run e))
  rw [dispatchSync, Run.bind_run hask]
  cases e.surfaces <;> rfl

/-- A message that asks for nothing in return is answered with nothing. -/
theorem dispatchSync_run_of_none (patience : Nat)
    (h : handle host answer c message true frame bridge = some (.ok none, bridge')) :
    dispatchSync host answer patience c message frame bridge = some ("undefined", bridge') := by
  have hask : ask host answer c message frame bridge = some (.ok none, bridge') := Run.bind_run h
  exact Run.bind_run hask

end Reports

end ChannelId

/-! ## Failing leaves nothing behind -/

/-- **A message that fails, at once or on the worker, leaves nothing behind.** -/
theorem ChannelId.failure_leaves_nothing (hanswer : answer.Obeys allowed (Bridge.Spares c))
    (hhost : host.Calls allowed) {channel : Channel}
    (hchannel : bridge.channels.get? c = some channel) (message : Message) (waits : Bool) :
    (∀ e bridge',
      handle host.watched answer c message waits frame bridge = some (.error e, bridge') →
        (bridge.Fails host c e [] bridge' ∨
          bridge.Fails host c e (bridge.awaiting host channel.worker) bridge') ∧
        (waits = false → dispatch host.watched answer c message frame bridge =
          some ((), bridge'.logged [e.reported])) ∧
        (waits = true → ∀ patience, ∃ reply,
          dispatchSync host.watched answer patience c message frame bridge =
            some (reply, bridge'.logged [e.reported]) ∧
          (e.isAnomaly = true → reply = "undefined"))) ∧
    (∀ task told, bridge.errand host.watched c message waits = .hand task told →
      (∃ bridge', handle host.watched answer c message waits frame bridge =
          some (.ok none, bridge') ∧
        bridge.Spares c bridge' ∧ bridge'.visits = bridge.visits ∧
        (waits = true → ∀ patience,
          dispatchSync host.watched answer patience c message frame bridge =
            some ("undefined", bridge'))) ∧
      ∀ e frame before finish after,
        task.finish host.watched answer frame before = some (finish, after) →
          finish.failure? = some e →
            task.run host.watched answer frame before =
              some ((), after.logged (task.told finish)) ∧
            before.Fails host c e [] (after.logged (task.told finish))) := by
  have hhandle := @handle_run _ host.watched answer c channel frame bridge hchannel message
    waits
  refine ⟨fun e bridge' hfails ↦ ⟨?_, ?_, ?_⟩, fun task told herrand ↦ ⟨?_, ?_⟩⟩
  · -- the arrival of the message has been traced, and nothing else has happened:
    rw [hhandle] at hfails
    have hbound : bridge.boundOf c = (bridge.logged (received channel)).boundOf c := rfl
    rcases Errand.run_fails hanswer hhost hbound hfails with h | h
    · exact .inl ⟨⟨h.spares.bound, h.spares.handlers⟩, h.visits⟩
    · exact .inr ⟨⟨h.spares.bound, h.spares.handlers⟩, h.visits⟩
  · rintro rfl
    exact dispatch_run_of_error hfails
  · rintro rfl patience
    refine ⟨_, dispatchSync_run_of_error patience hfails, fun hanomaly ↦ ?_⟩
    rw [BridgeError.surfaces_eq_false_of_isAnomaly hanomaly]
    rfl
  · rw [herrand, Errand.hand_run] at hhandle
    refine ⟨_, hhandle, ⟨rfl, rfl⟩, rfl, ?_⟩
    rintro rfl patience
    exact dispatchSync_run_of_none patience hhandle
  · intro e frame before finish after hfinish hfailure
    have hfails := Task.finish_fails hanswer hhost hfinish hfailure
    refine ⟨?_, ⟨hfails.spares.bound, hfails.spares.handlers⟩, hfails.visits⟩
    rw [Task.run_eq_finish, hfinish]
    rfl

/-- A host of objects that refuse what they are asked. They turn down their method, and their
initializer gives up; their property cannot be written. -/
def Host.refusing : Host Unit where
  surface typeName :=
    .ofDeclarations typeName [.initializer 0, .method "ask" 1, .property "fixed"]
  hooks _ object := { description := object.typeName }
  get _ _ := .done .undefined
  set _ _ _ := .done (.returned (.ok ()))
  invoke _ _ _ := .call (.steer .reject) fun _ ↦ .done (.returned (.error (.nativeFailure "no")))
  construct _ _ := .done (.panicked none)
  receive _ _ := .done (.returned ())

/-- Objects that refuse only ever steer the context. -/
theorem Host.refusing_calls :
    Host.refusing.Calls fun request ↦ ∃ injection, request = .steer injection where
  get _ _ _ := trivial
  set _ _ _ _ := trivial
  invoke _ _ _ _ := ⟨⟨_, rfl⟩, fun _ _ _ ↦ trivial⟩
  construct _ _ _ := trivial
  receive _ _ _ := trivial

/-- Steering the context spares all channels. -/
theorem Bridge.steer_spares (host : Host σ) (levels : Nat) (c : ChannelId) :
    (Bridge.answer host levels).Obeys (fun request ↦ ∃ injection, request = .steer injection)
      (Spares c) := by
  rintro _ ⟨injection, rfl⟩ frame bridge
  cases levels with
  | zero => exact .stuck
  | succ levels => exact (spares_course c).changeContext fun _ ↦ by rfl

/-- A channel whose principal refuses what it is asked. -/
def Bridge.refusing : Bridge (Unit × List Visit) where
  native := ((), [])
  context := some {}
  channels := Table.empty.insert 0
    { worker := 0, bound := some (Bound.start "1" "app" ⟨0, "Door"⟩) }
  workers := Table.empty.insert 0 { label := "queue", kind := .queue }

/-- A method fails while its caller waits, and a property turns out not to be writable when the
worker gets to it. -/
theorem refusing_failure_leaves_nothing :
    ∃ (bridge' : Bridge (Unit × List Visit)) (task : Task),
      ChannelId.handle Host.refusing.watched (Bridge.answer Host.refusing.watched 1) 0
        ⟨"1", some (.object [(opcodeKey, .string "ask")])⟩ true {} Bridge.refusing =
          some (.error (.nativeFailure "no"), bridge') ∧
      bridge'.visits.length = 1 ∧
      (Bridge.refusing.Fails .refusing 0 (.nativeFailure "no") [] bridge' ∨
        Bridge.refusing.Fails .refusing 0 (.nativeFailure "no")
          (Bridge.refusing.awaiting Host.refusing 0) bridge') ∧
      Bridge.refusing.errand Host.refusing.watched 0
        ⟨"1", some (.object [(opcodeKey, .string "fixed")])⟩ false = .hand task [] ∧
      ∃ after, task.run Host.refusing.watched (Bridge.answer Host.refusing.watched 1) {}
          Bridge.refusing = some ((), after) ∧
        Bridge.refusing.Fails .refusing 0 (.readOnlyProperty "fixed") [] after := by
  have hmessage := @ChannelId.failure_leaves_nothing _ Host.refusing
    (Bridge.answer Host.refusing.watched 1) _ 0 {} Bridge.refusing (Bridge.steer_spares _ 1 0)
    Host.refusing_calls _ rfl
  have hasked := (hmessage ⟨"1", some (.object [(opcodeKey, .string "ask")])⟩ true).1 _ _ rfl
  have hset := (hmessage ⟨"1", some (.object [(opcodeKey, .string "fixed")])⟩ false).2 _ _ rfl
  exact ⟨_, _, rfl, rfl, hasked.1, rfl, _, hset.2 _ {} Bridge.refusing _ _ rfl rfl⟩

end ScriptBridge
