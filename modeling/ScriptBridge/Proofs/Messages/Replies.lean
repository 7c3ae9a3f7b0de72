import ScriptBridge.Proofs.Messages.Whitelist

/-!
# What failing calls are answered with

A script that waits for a method or for an initializer gets an expression in reply, and if the
native code fails, that should be one that throws. It is not always: the reply is decided by the
kind of the failure alone, and the kinds that mark a message as misdirected are answered with
`undefined`, no matter that it was native code that failed with them. `ChannelId.failed_reply` says
what the reply is for each failure, `not_always_thrown` that a failure can be swallowed.

## What it is to fail

`Bridge.Reaches` puts together what has to happen for a message to get to native code: its errand
waits for that code, the worker is not the one that waits, and the calls that waited before have
run. How the code then ends is left open. In particular it may hand on a failure that it has got
itself from calling the bridge.
-/

namespace ScriptBridge

variable {σ : Type} {host : Host σ} {answer : Answerer σ} {c : ChannelId} {message : Message}
  {frame : Frame} {bridge after : Bridge σ} {execution : Execution}
  {finish : Finish (Except BridgeError Unit)} {e : BridgeError}

/-! ## Native code that is waited for -/

/-- Leaves out what native code returns. -/
def Finish.ending {α : Type} (finish : Finish (Except BridgeError α)) :
    Finish (Except BridgeError Unit) := finish.map fun outcome ↦ outcome.map fun _ ↦ ()

theorem Finish.result_of_ending {α : Type} {finish : Finish (Except BridgeError α)}
    (h : finish.ending.failure? = some e) : finish.result = .error e := by
  rw [ending, failure?_map] at h
  exact failure?_eq_some_iff.mp h

/-- Runs native code and tells how it ends. -/
def Execution.run (host : Host σ) (answer : Answerer σ) :
    Execution → Run σ (Finish (Except BridgeError Unit))
  | .write object name value => (host.set object name value).run answer
  | .call object name args => do return (← (host.invoke object name args).run answer).ending
  | .make typeName args => do return (← (host.construct typeName args).run answer).ending
  | .receive object message => do return (← (host.receive object message).run answer).map .ok

/-- **A message that waits gets to native code**, which ends so. -/
structure Bridge.Reaches (host : Host σ) (answer : Answerer σ) (c : ChannelId) (message : Message)
    (frame : Frame) (bridge : Bridge σ) (execution : Execution)
    (finish : Finish (Except BridgeError Unit)) (after : Bridge σ) : Prop where
  /-- The errand waits for it. -/
  awaited : (bridge.errand host c message true).isAwaited = true
  executes : (bridge.errand host c message true).execution? host = some execution
  /-- It runs on the worker, behind what waited there. -/
  ends : ∃ channel mid, bridge.channels.get? c = some channel ∧ frame.Outside channel.worker ∧
    Task.runAll host answer (bridge.waitingOf channel.worker) (frame.enter channel.worker)
      ((bridge.logged (ChannelId.received channel)).withWaiting channel.worker []) =
        some ((), mid) ∧
    execution.run host answer (frame.enter channel.worker) mid = some (finish, after)

/-- A method that is called through a surface is the native code that the surface admits. -/
theorem Binding.ending_invoke {binding : Binding} {name : String} {args : List Value}
    (h : host.calling? binding name args = some execution) :
    (do return (← binding.invoke host answer name args).ending) = execution.run host answer := by
  rcases hmember : (host.surfaceOf binding.object).member? name with
    - | (⟨arity, returns⟩ | ⟨_ | _⟩ | arity) <;>
    simp only [Host.calling?, hmember, reduceCtorEq] at h
  cases hfitted : fitArguments name arity args with
  | error e => simp only [hfitted, reduceCtorEq] at h
  | ok fitted =>
    simp only [hfitted, Option.some.injEq] at h
    subst h
    simp only [invoke, hmember, hfitted]
    rfl

theorem Host.ending_make {typeName : String} {args : List Value}
    (h : host.making? typeName args = some execution) :
    (do return (← host.make answer typeName args).ending) = execution.run host answer := by
  cases harity : (host.surface typeName).initializer? with
  | none => simp only [making?, harity, reduceCtorEq] at h
  | some arity =>
    cases hfitted : fitArguments typeName (some arity) args with
    | error e => simp only [making?, harity, hfitted, reduceCtorEq] at h
    | ok fitted =>
      simp only [making?, harity, hfitted, Option.some.injEq] at h
      subst h
      simp only [make, harity, hfitted]
      rfl

/-! ## Replies -/

/-- Work that is waited for, and what is known of it but its result. -/
theorem Run.sync_run_of_ending {α : Type} {w : WorkerId} (hframe : frame.Outside w)
    {work : Run σ (Finish (Except BridgeError α))} {mid : Bridge σ}
    (hwaited : Task.runAll host answer (bridge.waitingOf w) (frame.enter w)
      (bridge.withWaiting w []) = some ((), mid))
    (hwork : (do return (← work).ending : Run σ _) (frame.enter w) mid = some (finish, after)) :
    ∃ ended, ended.ending = finish ∧
      Run.sync host answer w work frame bridge = some (.ok ended, after) := by
  obtain ⟨ended, mid', hended, hdone⟩ := Run.of_bind_run hwork
  obtain ⟨rfl, rfl⟩ := Prod.mk.inj (Option.some.inj hdone)
  refine ⟨ended, rfl, ?_⟩
  rw [sync_run hframe, bind_run hwaited, bind_run hended]
  rfl

namespace ChannelId

/-- A message fails as the native code does for which it waits. -/
theorem handle_run_of_reaches
    (h : bridge.Reaches host answer c message frame execution finish after)
    (he : finish.failure? = some e) :
    handle host answer c message true frame bridge = some (.error e, after) := by
  obtain ⟨channel, mid, hchannel, hframe, hwaited, hrun⟩ := h.ends
  have hexecution := h.executes
  -- that a message has arrived is no reason for a call to wait:
  change Task.runAll host answer ((bridge.logged (received channel)).waitingOf channel.worker)
    _ _ = _ at hwaited
  rw [handle_run hchannel]
  cases herrand : bridge.errand host c message true with
  | await binding method args =>
    rw [herrand] at hexecution
    rw [← Binding.ending_invoke hexecution] at hrun
    obtain ⟨ended, rfl, hsync⟩ := Run.sync_run_of_ending hframe hwaited hrun
    refine (Run.bind_run hsync).trans ?_
    have hresult : (Except.ok ended : Except BridgeError _).bind Finish.result = .error e :=
      Finish.result_of_ending he
    rw [hresult]
    rfl
  | make target place typeName args =>
    rw [herrand] at hexecution
    rw [← Host.ending_make hexecution] at hrun
    obtain ⟨ended, rfl, hsync⟩ := Run.sync_run_of_ending hframe hwaited hrun
    have hresult : (Except.ok ended : Except BridgeError _).bind Finish.result = .error e :=
      Finish.result_of_ending he
    have hproduce : produce host answer c channel.worker target place typeName args frame
        (bridge.logged (received channel)) = some (.error e, after) := by
      refine (Run.bind_run hsync).trans ?_
      rw [hresult]
      rfl
    exact Run.bind_run hproduce
  | refuse _ | dispose _ =>
    rw [herrand] at hexecution
    cases hexecution
  | hand task told =>
    have hawaited := h.awaited
    rw [herrand] at hawaited
    cases hawaited

/-- What begins with a parenthesis is no name. -/
theorem ne_undefined_of_parenthesis {opening : String} (h : opening.toList.head? = some '(')
    (rest : String) : opening ++ rest ≠ "undefined" := by
  intro heq
  have hchars := congrArg (fun s ↦ s.toList.head?) heq
  rw [String.toList_append, List.head?_append, h] at hchars
  simp at hchars

theorem throwing_ne_undefined (text : String) : throwing text ≠ "undefined" := by
  unfold throwing
  rw [String.append_assoc]
  exact ne_undefined_of_parenthesis (by decide) _

/-- **The reply to a message whose native code fails**: an error is thrown with the text of the
failure if the failure is one that surfaces, and else the reply is `undefined`. Panics surface. -/
theorem failed_reply (h : bridge.Reaches host answer c message frame execution finish after)
    (he : finish.failure? = some e) (patience : Nat) :
    ∃ reply, dispatchSync host answer patience c message frame bridge =
        some (reply, after.logged [e.reported]) ∧
      (reply = throwing e.message ↔ e.surfaces = true) ∧
      (reply = "undefined" ↔ e.surfaces = false) ∧
      ∀ text, finish = .panicked text →
        reply = throwing (BridgeError.nativeFailure (Finish.panicText text)).message := by
  refine ⟨_, dispatchSync_run_of_error patience (handle_run_of_reaches h he), ?_, ?_, ?_⟩
  · cases e.surfaces with
    | true => simp
    | false => simpa using (throwing_ne_undefined e.message).symm
  · cases e.surfaces with
    | true => simpa using throwing_ne_undefined e.message
    | false => simp
  · rintro text rfl
    cases he
    rfl

end ChannelId

/-! ## Failures that surface, and failures that do not -/

/-- A host of objects whose method fails in one way, and whose initializer panics. -/
def Host.failing (e : BridgeError) : Host Unit where
  surface typeName := .ofDeclarations typeName [.initializer 0, .method "ask" 0]
  hooks _ object := { description := object.typeName }
  get _ _ := .done .undefined
  set _ _ _ := .done (.returned (.ok ()))
  invoke _ _ _ := .done (.returned (.error e))
  construct _ _ := .done (.panicked (some "no luck"))
  receive _ _ := .done (.returned ())

/-- A channel whose principal fails. -/
def Bridge.failing : Bridge Unit where
  native := ()
  context := some {}
  channels := Table.empty.insert 0
    { worker := 0, bound := some (Bound.start "1" "app" ⟨0, "Door"⟩) }
  workers := Table.empty.insert 0 { label := "queue", kind := .queue }

/-- A script asks, and waits. -/
def Message.ask : Message := ⟨"1", some (.object [(opcodeKey, .string "ask")])⟩

/-- A script makes an instance, and waits. -/
def Message.makeOne : Message :=
  ⟨"1", some (.object [(opcodeKey, .string "+"), (targetKey, .int 1)])⟩

theorem Host.failing_reaches_ask (e : BridgeError) :
    Bridge.failing.Reaches (Host.failing e) (Bridge.answer (Host.failing e) 1) 0 .ask {}
      (.call ⟨0, "Door"⟩ "ask" []) (.returned (.error e)) Bridge.failing where
  awaited := rfl
  executes := rfl
  ends := ⟨_, _, rfl, ⟨by decide, by decide⟩, rfl, rfl⟩

theorem Host.failing_reaches_makeOne (e : BridgeError) :
    Bridge.failing.Reaches (Host.failing e) (Bridge.answer (Host.failing e) 1) 0 .makeOne {}
      (.make "Door" []) (.panicked (some "no luck")) Bridge.failing where
  awaited := rfl
  executes := rfl
  ends := ⟨_, _, rfl, ⟨by decide, by decide⟩, rfl, rfl⟩

/-- Native code fails with what it found wrong, and then by panicking, and both are thrown. -/
theorem failing_failed_reply :
    (∃ reply after, ChannelId.dispatchSync (Host.failing (.nativeFailure "no"))
        (Bridge.answer (Host.failing (.nativeFailure "no")) 1) 0 0 .ask {} Bridge.failing =
          some (reply, after) ∧
      reply = ChannelId.throwing (BridgeError.nativeFailure "no").message) ∧
    ∃ reply after, ChannelId.dispatchSync (Host.failing .contextReleased)
        (Bridge.answer (Host.failing .contextReleased) 1) 0 0 .makeOne {} Bridge.failing =
          some (reply, after) ∧
      reply = ChannelId.throwing (BridgeError.nativeFailure "no luck").message := by
  obtain ⟨asked, hasked, hthrown, -, -⟩ :=
    ChannelId.failed_reply (Host.failing_reaches_ask (.nativeFailure "no")) rfl 0
  obtain ⟨made, hmade, -, -, hpanic⟩ :=
    ChannelId.failed_reply (Host.failing_reaches_makeOne .contextReleased) rfl 0
  exact ⟨⟨asked, _, hasked, hthrown.mpr rfl⟩, made, _, hmade, hpanic (some "no luck") rfl⟩

/-- Not every failure of native code is thrown: a method that cannot find a member of its own is
answered with `undefined`, as if it had returned nothing. -/
theorem not_always_thrown :
    ¬ ∀ (host : Host Unit) (levels patience : Nat) (c : ChannelId) (message : Message)
      (frame : Frame) (bridge after : Bridge Unit) (execution : Execution)
      (finish : Finish (Except BridgeError Unit)) (e : BridgeError),
      bridge.Reaches host (Bridge.answer host levels) c message frame execution finish after →
        finish.failure? = some e → ∃ bridge',
          ChannelId.dispatchSync host (Bridge.answer host levels) patience c message frame bridge =
            some (ChannelId.throwing e.message, bridge') := by
  intro h
  obtain ⟨bridge', hthrown⟩ := h _ 1 0 0 .ask {} Bridge.failing _ _ _ (.unknownMember "member")
    (Host.failing_reaches_ask _) rfl
  have hanswered : ChannelId.dispatchSync (Host.failing (.unknownMember "member"))
      (Bridge.answer (Host.failing (.unknownMember "member")) 1) 0 0 .ask {} Bridge.failing =
        some ("undefined",
          Bridge.failing.logged [(BridgeError.unknownMember "member").reported]) := rfl
  rw [hanswered] at hthrown
  exact ChannelId.throwing_ne_undefined _ (Prod.mk.inj (Option.some.inj hthrown)).1.symm

end ScriptBridge
