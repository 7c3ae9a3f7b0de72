import ScriptBridge.Proofs.Expressions.Numbered
import ScriptBridge.Proofs.Expressions.Openings
import ScriptBridge.Proofs.Messages.Replies
import ScriptBridge.Proofs.Messages.Shadowed
import ScriptBridge.Proofs.Messages.Wholes

/-!
# From a call to a reply and to a completion

A method is called by a message, and its result goes back to the script either as the reply to that
message or, later, with the completion of a callback. This file has the two ways for results that
hold no objects. Where no stubs are to be made, nothing comes of such a result but its literal, and
writing it leaves the tables as they are (`ChannelId.expression_run_of_objectless`).

The background completes a callback by evaluating one text, and then it is done:
`Bridge.runDeferred_run` leaves of it only this evaluation, `Bridge.deliver`, of which one learns in
a context that runs no text by the texts that are kept there.
-/

namespace ScriptBridge

variable {σ : Type} {host : Host σ} {answer : Answerer σ} {c : ChannelId} {frame : Frame}
  {bridge : Bridge σ}

/-! ## Values without objects -/

/-- A value without objects is written in the same way with and without references. -/
theorem Value.literalWith_of_objectless {value : Value} (h : value.identities = [])
    (engine : EngineLiterals) (resolve : Resolver σ) (state : σ) :
    value.literalWith engine resolve state = (value.literalFor engine, state) := by
  have hreferred : value.referred engine = [] := by
    refine List.eq_nil_iff_forall_not_mem.mpr fun object hobject ↦ ?_
    have hmem := identity_mem_of_mem_referred value hobject
    rw [h] at hmem
    cases hmem
  rw [literalFor, StateT.run, literalWith_eq, literalWith_eq engine _ value (), hreferred]
  rfl

/-- What is among entries in key order was among the entries that were put in. -/
theorem Entries.mem_of_mem_ofList {α β : Type} [LT α] [DecidableLT α] {entries : List (α × β)}
    {e : α × β} (h : e ∈ ofList entries) : e ∈ entries := by
  have hfold : ∀ acc, e ∈ entries.foldl (fun acc entry ↦ insert entry.1 entry.2 acc) acc →
      e ∈ acc ∨ e ∈ entries := by
    clear h
    induction entries with
    | nil => exact fun _ h ↦ .inl h
    | cons entry entries ih =>
      intro acc h
      rcases ih _ h with h | h
      · rcases mem_insert h with rfl | h
        · exact .inr List.mem_cons_self
        · exact .inl h
      · exact .inr (List.mem_cons_of_mem _ h)
  exact (hfold [] h).resolve_left (List.not_mem_nil)

theorem Value.identities_ofFields {fields : List (String × Value)}
    (h : ∀ field ∈ fields, field.2.identities = []) : (ofFields fields).identities = [] := by
  have hall : ∀ fields : List (String × Value), (∀ field ∈ fields, field.2.identities = []) →
      fieldIdentities fields = [] := by
    intro fields hfields
    induction fields with
    | nil => rfl
    | cons field fields ih =>
      obtain ⟨hfirst, hrest⟩ := List.forall_mem_cons.mp hfields
      rw [fieldIdentities, hfirst, ih hrest, List.nil_append]
  exact hall _ fun field hfield ↦ h field (Entries.mem_of_mem_ofList hfield)

namespace ChannelId

theorem literal_run_of_objectless {value : Value} (h : value.identities = [])
    (engine : EngineLiterals) :
    literal c engine value frame bridge = some (value.literalFor engine, bridge) := by
  cases hbound : bridge.boundOf c with
  | none =>
    rw [literal, Run.bind_run (Run.bound?_run c), hbound]
    rfl
  | some bound =>
    rw [literal_run hbound, Bound.literal, Value.literalWith_of_objectless h,
      Bridge.withBound_boundOf hbound, Bound.allocatedSince, Int.sub_self]
    exact congrArg (fun bridge ↦ some (value.literalFor engine, bridge)) bridge.logged_nil

/-- Where no stubs are to be made, a value without objects crosses as its literal. -/
theorem expression_run_of_objectless {value : Value} (h : value.identities = [])
    (hsettled : bridge.Settled c) (patience : Nat) :
    expression host answer (patience + 1) c value frame bridge =
      some (⟨[], value.literalFor bridge.engine.literals⟩, bridge) := by
  rw [expression, Run.bind_run Run.engineLiterals_run,
    Run.bind_run (literal_run_of_objectless h _), Run.bind_run (drain_run_idle hsettled _ _)]
  rfl

end ChannelId

/-! ## Calls of methods -/

/-- The message asks for a method of an instance, with arguments. -/
def Message.Calls (message : Message) (target : Int) (method : String) (items : List Json) :
    Prop :=
  ∃ channel, message.request? = .ok ⟨channel, target, method, some (.array items)⟩

/-- The object stands under the id in a bound channel. -/
structure Bridge.Carries (c : ChannelId) (channel : Channel) (target : Int) (binding : Binding)
    (bridge : Bridge σ) : Prop where
  known : bridge.channels.get? c = some channel
  live : ∃ bound, channel.bound = some bound ∧ bound.instances.get? target = some binding

theorem Bridge.Carries.errand {channel : Channel} {target : Int} {binding : Binding}
    (h : bridge.Carries c channel target binding) {message : Message} {method : String}
    {items : List Json} (hcalls : message.Calls target method items) (hcreate : method ≠ "+")
    (hdispose : method ≠ "-") {arity : Option Nat} {returns : Bool}
    (hmember : (host.surfaceOf binding.object).member? method = some (.method arity returns))
    (waits : Bool) :
    bridge.errand host c message waits =
      if waits then .await binding method (ChannelId.attach c (items.map Value.ofJson))
      else .hand (.invoke binding method (ChannelId.attach c (items.map Value.ofJson))) [] := by
  obtain ⟨bound, hbound, hlive⟩ := h.live
  obtain ⟨name, hrequest⟩ := hcalls
  have hboundOf : bridge.boundOf c = some bound := by
    rw [Bridge.boundOf, h.known, Option.bind_some, hbound]
  have hitems : Value.argumentsOf (some (.array items)) = items.map Value.ofJson :=
    Value.ofJsons_eq_map items
  rw [Bridge.errand_of_method hboundOf hrequest hlive hcreate hdispose hmember, hitems]

/-- A message that asks for a value is answered with an expression for it. -/
theorem ChannelId.dispatchSync_run_of_some {message : Message} {value : Value}
    {expression : ChannelId.Expression} {patience : Nat} {bridge' bridge'' : Bridge σ}
    (h : handle host answer c message true frame bridge = some (.ok (some value), bridge'))
    (hexpression : ChannelId.expression host answer patience c value frame bridge' =
      some (expression, bridge'')) :
    dispatchSync host answer patience c message frame bridge =
      some (expression.text, bridge'') := by
  have hask : ask host answer c message frame bridge = some (.ok (some value), bridge') :=
    Run.bind_run h
  rw [dispatchSync, Run.bind_run hask]
  exact Run.bind_run hexpression

/-! ## Completions -/

/-- The bridge with more work for the background. -/
def Bridge.deferring (work : Deferred σ) (bridge : Bridge σ) : Bridge σ :=
  { bridge with background := bridge.background ++ [work] }

/-- Evaluates a text from the background. A failure is only logged. -/
def Bridge.deliver (host : Host σ) (text : String) : Run σ Unit :=
  Run.within { thread := .background } do
    match ← ChannelId.evaluate (Bridge.answer host (levels - 1)) text with
    | .ok () => return
    | .error e => Run.say .warn ("completion not delivered: " ++ e.message)

/-- Work for the background ends with a text if its completion does. -/
theorem Bridge.runDeferred_run {work : Deferred σ} {text : String}
    (h : answerer host (.complete work.function (work.outcome bridge.native))
        { thread := .background } bridge =
      ChannelId.evaluate (Bridge.answer host (levels - 1)) text { thread := .background } bridge) :
    runDeferred host work frame bridge = deliver host text frame bridge := by
  have hget : (get : Run σ (Bridge σ)) { thread := .background } bridge = some (bridge, bridge) :=
    rfl
  refine (Run.bind_run hget).trans ?_
  change Option.bind (answerer host _ _ bridge) _ = Option.bind (ChannelId.evaluate _ _ _ bridge) _
  rw [h]
  refine congrArg _ (funext fun ended ↦ ?_)
  obtain ⟨_ | _, _⟩ := ended <;> rfl

/-- A context that runs no text keeps it. -/
theorem Bridge.deliver_run {context : Context} (h : bridge.context = some context)
    (hengine : context.engine = .recording) (text : String) :
    deliver host text frame bridge = some ((), { bridge with
      context := some { context with evaluated := context.evaluated ++ [text] } }) := by
  obtain ⟨native, _, channels, workers, background, drawn, log⟩ := bridge
  obtain ⟨engine, injection, handlers, injected, evaluated, realm⟩ := context
  subst h hengine
  rfl

/-- A callback is completed as long as its channel is held and the script side is there. -/
theorem ChannelId.complete_run {channel : Channel} {function : Callback}
    (hchannel : bridge.channels.get? function.channel = some channel) (hheld : channel.held = true)
    (hcontext : bridge.context.isSome) (patience : Nat) (outcome : Except String Value) :
    complete host answer patience function outcome frame bridge =
      (match outcome with
        | .ok value => do
          let result ← expression host answer patience function.channel value
          evaluate answer (completion function.id "null" result.text)
        | .error text => evaluate answer (failing function.id text) :
        Run σ (Except BridgeError Unit)) frame bridge := by
  have hget : (get : Run σ (Bridge σ)) frame bridge = some (bridge, bridge) := rfl
  have hnone : bridge.context.isNone = false := by simpa using hcontext
  refine (Run.bind_run hget).trans ?_
  simp only [hchannel, hheld, hnone, Option.map_some, Option.getD_some, not_true_eq_false,
    Bool.false_eq_true, or_self, if_false]
  rfl

end ScriptBridge
