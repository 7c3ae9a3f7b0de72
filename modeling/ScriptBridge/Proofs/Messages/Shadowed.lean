import ScriptBridge.Proofs.Messages.Whitelist

/-!
# Methods whose names are opcodes

A method may have any name, and a stub offers it to scripts under that name. When a script calls it,
the name comes back as the opcode of a message, and two opcodes have a meaning of their own, which
is looked at first. So all methods are reached but those that are called like one of the two: a
method `+` is taken for the wish for an instance, and a method `-` for the wish to give one up.
`ChannelId.method_reached_unless_shadowed` says both, `not_every_method_reached` that there are
methods that cannot be reached.

Everything else about a name is of no account: the empty name, hashes, quotes and characters of any
plane, the target, and how the method was declared.
-/

namespace ScriptBridge

variable {σ : Type}

/-! ## What stubs offer -/

/-- A stub offers a method to scripts. Behind the last hash of the opcode with which scripts call it
stands what is no part of the name. -/
structure Stub.Exposes (stub : Stub) (name : String) (member : Member) : Prop where
  named : name ≠ "" → (name, "exports[" ++ quote name ++ "] = " ++
    (if stub.bindsEarly then earlyMethod (name ++ member.tag)
      else lateMethod (name ++ member.tag)) ++ ";") ∈ stub.fragments
  /-- A method without a name is the object itself, as a function. -/
  nameless : name = "" → ∀ amend : String → String → Id String,
    stub.base amend = lateMethod (name ++ member.tag)
  tagged : ∃ mark, member.tag = "#" ++ mark ∧ '#' ∉ mark.toList

theorem Member.tag_method (arity : Option Nat) (returns : Bool) :
    ∃ mark, (method arity returns).tag = "#" ++ mark ∧ '#' ∉ mark.toList := by
  have hdigits : ∀ n : Nat, '#' ∉ (toString n).toList := by
    intro n hmem
    have hdigit : '#' ∈ Nat.toDigits 10 n := by
      simpa [toString, Nat.repr] using hmem
    exact absurd (Nat.isDigit_of_mem_toDigits (by decide) (by decide) hdigit) (by decide)
  cases returns with
  | true =>
    refine ⟨toString (arity.getD 0) ++ "s", by simp [tag, String.append_assoc], ?_⟩
    rw [String.toList_append, List.mem_append]
    rintro (hmem | hmem)
    · exact hdigits _ hmem
    · exact absurd hmem (by decide)
  | false => exact ⟨toString (arity.getD 0), rfl, hdigits _⟩

/-- **A stub offers every method**, whatever its name is. -/
theorem Stub.exposes_method {stub : Stub} {name : String} {arity : Option Nat} {returns : Bool}
    (h : stub.members.get? name = some (.method arity returns)) :
    stub.Exposes name (.method arity returns) where
  named hname := by
    have hfragment : stub.fragment? name (.method arity returns) = some _ := if_neg hname
    refine List.mem_filterMap.mpr ⟨_, Table.get?_eq_some_iff.mp h, ?_⟩
    simp only [hfragment]
    split <;> rfl
  nameless hname amend := by
    subst hname
    simp only [base, defaultMember?, h, String.empty_append]
    rfl
  tagged := Member.tag_method arity returns

/-! ## What is asked for -/

variable {host : Host σ} {c : ChannelId} {channel : Channel} {bound : Bound} {binding : Binding}
  {message : Message} {request : Request} {arity : Option Nat} {returns : Bool}
  {fitted : List Value}

/-- A method is called as it was asked for, if the arguments fit. -/
theorem Binding.invoke_eq {answer : Answerer σ} {name : String} {args : List Value}
    (hmember : (host.surfaceOf binding.object).member? name = some (.method arity returns))
    (hfits : fitArguments name arity args = .ok fitted) :
    binding.invoke host answer name args = (host.invoke binding.object name fitted).run answer := by
  simp only [invoke, hmember, hfits]

theorem Host.calling?_eq {name : String} {args : List Value}
    (hmember : (host.surfaceOf binding.object).member? name = some (.method arity returns))
    (hfits : fitArguments name arity args = .ok fitted) :
    host.calling? binding name args = some (.call binding.object name fitted) := by
  simp only [calling?, hmember, hfits]

namespace Bridge

variable {bridge : Bridge σ} (hbound : bridge.boundOf c = some bound)
  (hrequest : message.request? = .ok request)
  (hlive : bound.instances.get? request.target = some binding)
include hrequest

/-- The opcode `+` asks for an instance, whatever members there are. -/
theorem errand_of_create (hopcode : request.opcode = "+") (waits : Bool) :
    bridge.errand host c message waits = bridge.creation c request := by
  simp only [errand, hrequest, requested, Opcode.ofString_eq_create_iff.mpr hopcode, if_true]

include hbound hlive

/-- The opcode `-` gives up the instance, whatever members it has. -/
theorem errand_of_dispose (hopcode : request.opcode = "-") (waits : Bool) :
    bridge.errand host c message waits = .dispose request.target := by
  have hdispose : Opcode.ofString request.opcode = .dispose := by
    rw [hopcode]
    rfl
  simp only [errand, hrequest, requested, hdispose, reduceCtorEq, if_false, hbound,
    Option.bind_some, hlive]

/-- Any other opcode asks for the member of that name. -/
theorem errand_of_method (hcreate : request.opcode ≠ "+") (hdispose : request.opcode ≠ "-")
    (hmember : (host.surfaceOf binding.object).member? request.opcode =
      some (.method arity returns)) (waits : Bool) :
    bridge.errand host c message waits =
      if waits then
        .await binding request.opcode (ChannelId.attach c (Value.argumentsOf request.operand))
      else .hand (.invoke binding request.opcode
        (ChannelId.attach c (Value.argumentsOf request.operand))) [] := by
  simp only [errand, hrequest, requested, Opcode.ofString_of_ne hcreate hdispose, reduceCtorEq,
    if_false, hbound, Option.bind_some, hlive, Host.reaching, hmember]

end Bridge

/-- Work that is waited for from outside, and a result that is made of it. -/
theorem Run.sync_map_run {α β : Type} {answer : Answerer σ} {w : WorkerId} {frame : Frame}
    {bridge : Bridge σ} (hframe : frame.Outside w) (work : Run σ α)
    (f : Except BridgeError α → β) :
    (do return f (← Run.sync host answer w work) : Run σ β) frame bridge =
      (do
        Task.runAll host answer (bridge.waitingOf w)
        return f (.ok (← work)) : Run σ β) (frame.enter w) (bridge.withWaiting w []) := by
  change (Run.sync host answer w work frame bridge).bind _ = _
  rw [sync_run hframe]
  change Option.bind (Option.bind (Task.runAll host answer (bridge.waitingOf w) (frame.enter w)
    (bridge.withWaiting w [])) _) _ = Option.bind (Task.runAll host answer (bridge.waitingOf w)
      (frame.enter w) (bridge.withWaiting w [])) _
  rw [Option.bind_assoc]
  refine congrArg _ (funext fun r ↦ ?_)
  change Option.bind (Option.bind (work (frame.enter w) r.2) _) _ =
    Option.bind (work (frame.enter w) r.2) _
  rw [Option.bind_assoc]
  rfl

/-! ## Which methods are reached -/

/-- **A method of a live instance is reached under its name**, exactly once and by nothing but a
call, unless its name is `+` or `-`: then the message asks for something else. A stub offers it in
either case. A message that nobody waits for hands the call in; one that is waited for makes it
behind the calls that wait already, if it does not come from the worker itself. -/
theorem ChannelId.method_reached_unless_shadowed {answer : Answerer (σ × List Visit)}
    {frame : Frame} {bridge : Bridge (σ × List Visit)}
    (hchannel : bridge.channels.get? c = some channel)
    (hworker : (bridge.workers.get? channel.worker).isSome) (hbound : channel.bound = some bound)
    (hrequest : message.request? = .ok request)
    (hlive : bound.instances.get? request.target = some binding)
    (hmember : (host.surfaceOf binding.object).member? request.opcode =
      some (.method arity returns))
    (hfits : fitArguments request.opcode arity (attach c (Value.argumentsOf request.operand)) =
      .ok fitted) :
    (∀ stub : Stub, stub.members = (host.surfaceOf binding.object).members →
      stub.Exposes request.opcode (.method arity returns)) ∧
    (request.opcode ≠ "+" → request.opcode ≠ "-" →
      (∃ bridge', dispatch host.watched answer c message frame bridge = some ((), bridge') ∧
        bridge'.channels = bridge.channels ∧ bridge'.handlers? = bridge.handlers? ∧
        bridge.Spends host answer channel.worker false
          (some (.call binding.object request.opcode fitted)) bridge') ∧
      (frame.Outside channel.worker →
        handle host.watched answer c message true frame bridge =
          (do
            Task.runAll host.watched answer (bridge.waitingOf channel.worker)
            let finish ← (host.watched.invoke binding.object request.opcode fitted).run answer
            return finish.result.map some :
            Run (σ × List Visit) (Except BridgeError (Option Value)))
            (frame.enter channel.worker)
            ((bridge.logged (received channel)).withWaiting channel.worker [])) ∧
      (frame.thread ≠ .worker channel.worker → ∀ patience reply bridge',
        dispatchSync host.watched answer patience c message frame bridge =
          some (reply, bridge') →
        bridge.Spends host answer channel.worker true
          (some (.call binding.object request.opcode fitted)) bridge')) ∧
    ∀ waits,
      (request.opcode = "+" →
        bridge.errand host.watched c message waits = bridge.creation c request) ∧
      (request.opcode = "-" →
        bridge.errand host.watched c message waits = .dispose request.target) := by
  have hboundOf : bridge.boundOf c = some bound := by simp [Bridge.boundOf, hchannel, hbound]
  have hcalling : host.calling? binding request.opcode (attach c
      (Value.argumentsOf request.operand)) = some (.call binding.object request.opcode fitted) :=
    Host.calling?_eq hmember hfits
  refine ⟨fun stub hmembers ↦ Stub.exposes_method (hmembers ▸ hmember),
    fun hcreate hdispose ↦ ?_, fun waits ↦ ⟨fun hopcode ↦ ?_, fun hopcode ↦ ?_⟩⟩
  · have herrand : ∀ waits, bridge.errand host.watched c message waits = _ :=
      Bridge.errand_of_method hboundOf hrequest hlive hcreate hdispose hmember
    refine ⟨?_, fun hframe ↦ ?_, fun hthread patience reply bridge' h ↦ ?_⟩
    · have hdispatch : dispatch host.watched answer c message frame bridge = some ((), _) :=
        Run.bind_run (handle_run_of_hand hchannel (herrand false))
      have hspends := dispatch_spends hchannel hworker hdispatch
      rw [herrand false, if_neg Bool.false_ne_true, Errand.reached?_hand, Task.execution?,
        hcalling] at hspends
      exact ⟨_, hdispatch, rfl, rfl, hspends⟩
    · have hinvoke : binding.invoke host.watched answer _ _ = _ :=
        Binding.invoke_eq hmember hfits
      rw [handle_run hchannel, herrand true, if_pos rfl, ← hinvoke]
      exact Run.sync_map_run hframe _ fun outcome ↦ (outcome.bind Finish.result).map some
    · have hspends := dispatchSync_spends hchannel hworker h
      have hreached : (bridge.errand host.watched c message true).reached? host channel.worker
          frame = some (.call binding.object request.opcode fitted) := by
        rw [herrand true, if_pos rfl, Errand.reached?_eq_some_iff, Errand.member?_await]
        exact ⟨hcalling, fun hown ↦ hthread hown.1⟩
      rwa [hreached] at hspends
  · exact Bridge.errand_of_create hrequest hopcode waits
  · exact Bridge.errand_of_dispose hboundOf hrequest hlive hopcode waits

/-- A host of objects with two methods, one of which is called like an opcode. -/
def Host.signed : Host Unit where
  surface typeName := .ofDeclarations typeName [.method "-" 0, .method "read" 0]
  hooks _ object := { description := object.typeName }
  get _ _ := .done .undefined
  set _ _ _ := .done (.returned (.ok ()))
  invoke _ name _ := .done (.returned (.ok (.string name)))
  construct _ _ := .done (.panicked none)
  receive _ _ := .done (.returned ())

/-- A channel with such an object for its principal. -/
def Bridge.signed : Bridge (Unit × List Visit) where
  native := ((), [])
  context := some {}
  channels := Table.empty.insert 0
    { worker := 0, bound := some (Bound.start "1" "app" ⟨0, "Gauge"⟩) }
  workers := Table.empty.insert 0 { label := "queue", kind := .queue }

/-- A script calls a method of the principal. -/
def Message.calling (method : String) : Message :=
  ⟨"1", some (.object [(opcodeKey, .string method)])⟩

/-- The method with a name of its own is reached. -/
theorem signed_method_reached : ∃ bridge' : Bridge (Unit × List Visit),
    ChannelId.dispatchSync Host.signed.watched (Bridge.answer Host.signed.watched 1) 1 0
      (.calling "read") {} Bridge.signed = some ("\"read\"", bridge') ∧
    bridge'.served = [.call ⟨0, "Gauge"⟩ "read" []] ∧
    Bridge.signed.Spends Host.signed (Bridge.answer Host.signed.watched 1) 0 true
      (some (.call ⟨0, "Gauge"⟩ "read" [])) bridge' := by
  have hreply : ChannelId.dispatchSync Host.signed.watched (Bridge.answer Host.signed.watched 1) 1
      0 (.calling "read") {} Bridge.signed = some ("\"read\"", _) := rfl
  have hreached := @ChannelId.method_reached_unless_shadowed _ Host.signed 0 _ _
    ⟨"app", ⟨0, "Gauge"⟩⟩ (.calling "read") ⟨"1", 0, "read", none⟩ (some 0) true []
    (Bridge.answer Host.signed.watched 1) {} Bridge.signed rfl rfl rfl rfl rfl rfl rfl
  have hspends := (hreached.2.1 (by decide) (by decide)).2.2 (by decide) 1 _ _ hreply
  exact ⟨_, hreply, rfl, hspends⟩

/-- Not every method that declarations give is reached: calling the method `-` ends the binding. -/
theorem not_every_method_reached :
    ¬ ∀ (host : Host Unit) (declared : String → List Declaration) (levels : Nat) (c : ChannelId)
      (channel : Channel) (bridge bridge' : Bridge (Unit × List Visit)) (bound : Bound)
      (binding : Binding) (message : Message) (request : Request) (arity : Option Nat)
      (returns : Bool) (fitted : List Value),
      (∀ typeName, host.surface typeName = .ofDeclarations typeName (declared typeName)) →
      bridge.channels.get? c = some channel → (bridge.workers.get? channel.worker).isSome →
      channel.bound = some bound → message.request? = .ok request →
      bound.instances.get? request.target = some binding →
      (host.surfaceOf binding.object).member? request.opcode = some (.method arity returns) →
      fitArguments request.opcode arity
        (ChannelId.attach c (Value.argumentsOf request.operand)) = .ok fitted →
      ChannelId.dispatch host.watched (Bridge.answer host.watched levels) c message {} bridge =
        some ((), bridge') →
      bridge.Spends host (Bridge.answer host.watched levels) channel.worker false
        (some (.call binding.object request.opcode fitted)) bridge' := by
  intro h
  have hspends := h Host.signed (fun _ ↦ [.method "-" 0, .method "read" 0]) 1 0 _ Bridge.signed _ _
    ⟨"app", ⟨0, "Gauge"⟩⟩ (.calling "-") ⟨"1", 0, "-", none⟩ (some 0) true [] (fun _ ↦ rfl) rfl rfl
    rfl rfl rfl rfl rfl rfl
  -- nothing is left for the worker, and nothing has run:
  cases hspends with
  | now hawaited _ => exact absurd (hawaited _ rfl) (by decide)
  | later _ task _ hwaiting _ => cases hwaiting

end ScriptBridge
