import ScriptBridge.Proofs.Engines.Transparent
import ScriptBridge.Proofs.Messages.Forwarded

/-!
# Driving a channel through an engine and without one

A channel can be driven in two ways: through the functions of an engine, which take names and the
text of bodies, and through a context without an engine, which takes messages. An `Adapter` is what
the two have in common, and a `Drive` is a step, the same for both: a binding starts or ends, a
message is posted, with an answer or without, a value is serialized, a callback completed, a worker
or the background gets on with its work, the script side is let go. Text of a body that cannot be
read stands for a message without a body.

Started from twin bridges the two never come apart, if the engine accepts what it is handed and
native code is indifferent (`Drive.transparent`). Octets make no difference to the state. They make
one to the texts of replies, and so do identifiers, but nothing else does. Native code that shows
the text of octets makes another, and so does text that posts messages when it is run
(`Drive.not_always_transparent`).
-/

namespace ScriptBridge

variable {σ α β : Type}

/-! ## Adapters -/

/-- How many levels are left for what a call of the bridge calls. -/
def Bridge.innerLevels : Nat := 4095

/-- A way to drive channels. -/
structure Adapter (σ : Type) where
  host : Host σ
  /-- What calls of the bridge do. -/
  answer : Answerer σ
  /-- Posts a message to a name. -/
  post : (name : String) → (body : Option String) → Run σ Unit
  /-- Posts a message to a name and waits for the expression that answers it. -/
  postSync : (name : String) → (body : Option String) → Run σ String
  /-- Finds what this expression is the text of. -/
  respond : (name : String) → (body : Option String) → Run σ Response
  postSync_eq : ∀ name body, postSync name body = do return (← respond name body).text

/-- Finds what the gate of an engine answers a message with. -/
def Gate.respond (host : Host σ) (inner : Answerer σ) (patience : Nat) (name : String)
    (body : Option String) : Run σ Response := do
  match ← handler? name with
  | none =>
    Run.say .trace "no handler; sync message dropped"
    return .nothing
  | some channel =>
    let message ← decode name body
    ChannelId.respond host inner patience channel message

/-- Finds what a message is answered with that is delivered by name. -/
def Bridge.respond (host : Host σ) (inner : Answerer σ) (patience : Nat) (message : Message) :
    Run σ Response := do
  match ← Gate.handler? message.name with
  | none => return .nothing
  | some channel => ChannelId.respond host inner patience channel message

theorem Gate.postSync_eq (evaluator : Answerer σ → Evaluator σ) (host : Host σ) (levels : Nat)
    (name : String) (body : Option String) :
    postSync (Bridge.answerOn evaluator host (levels + 1)) name body = do
      return (← respond host (Bridge.answerOn evaluator host levels) levels name body).text := by
  unfold postSync respond
  rw [bind_assoc]
  refine bind_congr fun found ↦ ?_
  cases found with
  | none =>
    rw [bind_assoc]
    rfl
  | some channel =>
    rw [bind_assoc]
    exact bind_congr fun message ↦ ChannelId.dispatchSync_eq channel message

theorem Bridge.postSync?_eq (host : Host σ) (message : Message) :
    (do return (← Bridge.postSync? host message).getD "undefined" : Run σ String) = do
      return (← respond host (Bridge.answer host innerLevels) innerLevels message).text := by
  unfold postSync? respond Gate.handler?
  rw [bind_assoc, bind_assoc, bind_assoc]
  refine bind_congr fun bridge ↦ ?_
  rw [pure_bind]
  cases bridge.context.bind fun context => context.handlers.get? message.name with
  | none => rfl
  | some channel =>
    dsimp only
    rw [bind_assoc, ← ChannelId.dispatchSync_eq]
    exact bind_pure _

namespace Adapter

/-- The functions of an engine. -/
def engine (evaluator : Answerer σ → Evaluator σ) (host : Host σ) : Adapter σ where
  host := host
  answer := Bridge.answerOn evaluator host Bridge.levels
  post := Gate.post (Bridge.answerOn evaluator host Bridge.levels)
  postSync := Gate.postSync (Bridge.answerOn evaluator host Bridge.levels)
  respond := Gate.respond host (Bridge.answerOn evaluator host Bridge.innerLevels)
    Bridge.innerLevels
  postSync_eq := Gate.postSync_eq evaluator host Bridge.innerLevels

/-- If text runs on the engine of the bridge, calls are answered by the bridge. -/
theorem answer_engine_script (host : Host σ) :
    (engine Run.script host).answer = Bridge.answerer host :=
  Bridge.answerOn_script host Bridge.levels

/-- Engines that make the same of the texts that are handed over lead to the same functions. -/
theorem engine_congr {evaluator other : Answerer σ → Evaluator σ}
    (h : ∀ answer text, Awaited text → other answer text = evaluator answer text) (host : Host σ) :
    engine other host = engine evaluator host := by
  have hanswer := Bridge.answerOn_congr h host
  simp only [engine, hanswer]

/-- The functions of a context without an engine. -/
def loopback (host : Host σ) : Adapter σ where
  host := host
  answer := Bridge.answerer host
  post name body := do
    let _ ← Bridge.post host (Gate.messageOf name body)
  postSync name body := do
    return (← Bridge.postSync? host (Gate.messageOf name body)).getD "undefined"
  respond name body := Bridge.respond host (Bridge.answer host Bridge.innerLevels)
    Bridge.innerLevels (Gate.messageOf name body)
  postSync_eq name body := Bridge.postSync?_eq host (Gate.messageOf name body)

/-- Delivering a message is looking its name up and dispatching it. -/
theorem post_loopback (host : Host σ) (name : String) (body : Option String) :
    (loopback host).post name body = (do
      match ← Gate.handler? name with
      | none => return
      | some channel =>
        ChannelId.dispatch host (Bridge.answer host Bridge.innerLevels) channel
          (Gate.messageOf name body)) := by
  dsimp only [loopback, Bridge.post, Gate.handler?, Gate.messageOf]
  rw [bind_assoc, bind_assoc]
  refine bind_congr fun bridge ↦ ?_
  rw [pure_bind]
  cases bridge.context.bind fun context => context.handlers.get? name with
  | none => rfl
  | some channel =>
    dsimp only
    rw [bind_assoc]
    exact bind_pure _

end Adapter

/-! ## Steps -/

/-- What is done to a channel in one step. -/
inductive Drive where
  | bind (object : ObjectRef) (place : String)
  | unbind
  | post (body : Option String)
  | postSync (body : Option String)
  | serialize (value : Value)
  | complete (function : Nat) (outcome : Except String Value)
  /-- A worker is waited for. -/
  | flush (w : WorkerId)
  /-- A worker runs one call. -/
  | advance (w : WorkerId)
  /-- Work that was left for the background is done. -/
  | background
  /-- The script side is let go. -/
  | release

/-- The name that messages to a channel are sent to. If the channel is not bound, this is no name of
it. -/
def Bridge.nameFor (c : ChannelId) (bridge : Bridge σ) : String :=
  (bridge.identifierOf c).getD ""

/-- Completes a callback for work that was left. -/
def Answerer.finish (answer : Answerer σ) (work : Deferred σ) : Run σ Unit :=
  Run.within { thread := .background } do
    let outcome := work.outcome (← get).native
    match ← answer (.complete work.function outcome) with
    | .ok () => return
    | .error e => Run.say .warn ("completion not delivered: " ++ e.message)

/-- Completes callbacks for work that was left, oldest first. -/
def Answerer.finishAll (answer : Answerer σ) : List (Deferred σ) → Run σ Unit
  | [] => return
  | work :: rest => do
    answer.finish work
    finishAll answer rest

theorem Answerer.finishAll_answerer (host : Host σ) (works : List (Deferred σ)) :
    (Bridge.answerer host).finishAll works = Bridge.runDeferreds host works := by
  induction works with
  | nil => rfl
  | cons work rest ih =>
    rw [finishAll, ih]
    rfl

namespace Drive

/-- Does a step. If a response is waited for it is found; its text is what the adapter gives back
(`Adapter.postSync_eq`). -/
def run (adapter : Adapter σ) (c : ChannelId) : Drive → Run σ (Option Response)
  | .bind object place => do
    let _ ← adapter.answer (.bind c object place)
    return none
  | .unbind => do
    adapter.answer (.unbind c)
    return none
  | .post body => do
    adapter.post ((← get).nameFor c) body
    return none
  | .postSync body => do return some (← adapter.respond ((← get).nameFor c) body)
  | .serialize value => do
    let _ ← adapter.answer (.serialize c value)
    return none
  | .complete function outcome => do
    let _ ← adapter.answer (.complete ⟨function, c⟩ outcome)
    return none
  | .flush w => do
    Run.flush adapter.host adapter.answer w
    return none
  | .advance w => do
    Run.advance adapter.host adapter.answer w
    return none
  | .background => do
    let works := (← get).background
    modify fun bridge => { bridge with background := [] }
    adapter.answer.finishAll works
    return none
  | .release => do
    Bridge.release
    return none

/-- Does steps one after the other. -/
def runAll (adapter : Adapter σ) (c : ChannelId) : List Drive → Run σ (List (Option Response))
  | [] => return []
  | step :: steps => do
    let response? ← step.run adapter c
    let responses ← runAll adapter c steps
    return response? :: responses

/-- All texts that the engine is handed in the course of the steps are among these: what it would
make of others makes no difference. -/
def Hands (Handed : String → Prop) (evaluator : Answerer σ → Evaluator σ) (host : Host σ)
    (c : ChannelId) (steps : List Drive) (frame : Frame) (bridge : Bridge σ) : Prop :=
  ∀ other : Answerer σ → Evaluator σ,
    (∀ answer text, Handed text → other answer text = evaluator answer text) →
      runAll (.engine other host) c steps frame bridge =
        runAll (.engine evaluator host) c steps frame bridge

/-- Nothing is handed over but the sources of stubs and completions. -/
theorem hands_awaited (evaluator : Answerer σ → Evaluator σ) (host : Host σ) (c : ChannelId)
    (steps : List Drive) (frame : Frame) (bridge : Bridge σ) :
    Hands Awaited evaluator host c steps frame bridge := by
  intro other h
  rw [Adapter.engine_congr h]

end Drive

/-- What is alike after the same steps with an engine and without one. -/
structure Drive.Alike (Like : String → String → Prop) (Shown : Value → Prop) (c : ChannelId)
    (ended ended' : List (Option Response) × Bridge σ) : Prop where
  /-- The channel has the same instances at the same places, the same references and the same
  pending objects, and natively everything is the same. -/
  state : ended.2.Twins Like c ended'.2
  /-- The name that leads to the channel leads to it in both or in neither. -/
  handler : ended'.2.handler? (ended'.2.nameFor c) = ended.2.handler? (ended.2.nameFor c)
  /-- Messages are answered with the same values and the same stubs, and with the same text if the
  same identifiers stand there and no octets do. -/
  responses : List.Forall₂
    (Option.Rel fun response response' ↦ response.Twins Like Shown response' ∧
      (response.Byteless → response'.identifiers = response.identifiers →
        response'.text = response.text))
    ended.1 ended'.1

/-! ## Twin runs of the steps -/

section Natives

variable {Like : String → String → Prop} {Shown : Value → Prop} {c : ChannelId} {host : Host σ}
  {draw : Nat → String} {evaluator : Answerer σ → Evaluator σ} {frame : Frame}
  {bridge bridge' : Bridge σ}

theorem Bridge.Addressed.handler?_eq_some (h : bridge.Addressed) {name : String}
    (hcontext : bridge.context.isSome) (hname : bridge.identifierOf c = some name) :
    bridge.handler? name = some c := by
  obtain ⟨context, hsome⟩ := Option.isSome_iff_exists.mp hcontext
  have hhandlers : bridge.handlers? = some context.handlers := by simp [handlers?, hsome]
  rw [handler?, hhandlers]
  exact (h.registered _ hhandlers name c).mpr hname

theorem Bridge.Addressed.handler?_eq_none (h : bridge.Addressed)
    (hunbound : ∀ id, bridge.boundOf id = none) (name : String) : bridge.handler? name = none := by
  cases hname : bridge.handler? name with
  | none => rfl
  | some id =>
    obtain ⟨handlers, hhandlers, hfound⟩ := Option.bind_eq_some_iff.mp hname
    have hidentifier := (h.registered handlers hhandlers name id).mp hfound
    simp [identifierOf, hunbound] at hidentifier

/-- The name of the channel leads to it in both bridges, or in neither. -/
theorem Bridge.Twins.handler?_nameFor (h : bridge.Twins Like c bridge') :
    (bridge.handler? (bridge.nameFor c) = none ∧ bridge'.handler? (bridge'.nameFor c) = none) ∨
      (bridge.handler? (bridge.nameFor c) = some c ∧
        bridge'.handler? (bridge'.nameFor c) = some c ∧
          Like (bridge.nameFor c) (bridge'.nameFor c)) := by
  rcases rel_cases h.context with ⟨hnone, hnone'⟩ | ⟨_, _, hsome, hsome', -⟩
  · refine .inl ⟨?_, ?_⟩
    · simp [handler?, handlers?, hnone]
    · simp [handler?, handlers?, hnone']
  · rcases rel_cases (h.boundOf c) with ⟨hunbound, -⟩ | ⟨bound, bound', hbound, hbound', htwins⟩
    · have hall : ∀ id, bridge.boundOf id = none := by
        intro id
        by_cases hid : id = c
        · rw [hid, hunbound]
        · simp [Bridge.boundOf, h.alone id hid]
      have hall' : ∀ id, bridge'.boundOf id = none := by
        intro id
        rcases rel_cases (h.boundOf id) with ⟨-, hnone'⟩ | ⟨_, _, hother, -, -⟩
        · exact hnone'
        · rw [hall id] at hother
          cases hother
      exact .inl ⟨h.addressed.handler?_eq_none hall _, h.addressed'.handler?_eq_none hall' _⟩
    · have hname : bridge.identifierOf c = some (bridge.nameFor c) := by
        simp [nameFor, identifierOf, hbound]
      have hname' : bridge'.identifierOf c = some (bridge'.nameFor c) := by
        simp [nameFor, identifierOf, hbound']
      refine .inr ⟨h.addressed.handler?_eq_some (by simp [hsome]) hname,
        h.addressed'.handler?_eq_some (by simp [hsome']) hname', ?_⟩
      rw [nameFor, identifierOf, hbound, nameFor, identifierOf, hbound']
      exact htwins.like

namespace Run.Twins

variable {Same : α → β → Prop}

/-- A name is looked up on either side. -/
theorem handler?_bind {name name' : String} {next : Option ChannelId → Run σ α}
    {next' : Option ChannelId → Run σ β}
    (h : Run.Twins Like c Same (next (bridge.handler? name)) (next' (bridge'.handler? name')) frame
      bridge bridge') :
    Run.Twins Like c Same (Gate.handler? name >>= next) (Gate.handler? name' >>= next') frame bridge
      bridge' := by
  rw [Run.Twins, Run.bind_run (Gate.handler?_eq name), Run.bind_run (Gate.handler?_eq name')]
  exact h

/-- Text is read on one side, where the other has a message already. -/
theorem decode_bind (h : bridge.Twins Like c bridge') {name : String} {body : Option String}
    {next : Message → Run σ α} {run' : Run σ β}
    (hnext : ∀ after, after.Twins Like c bridge' →
      Run.Twins Like c Same (next (Gate.messageOf name body)) run' frame after bridge') :
    Run.Twins Like c Same (Gate.decode name body >>= next) run' frame bridge bridge' := by
  rw [Run.Twins, Run.bind_run (Gate.decode_run name body)]
  exact hnext _ (h.logged_left (Gate.told body))

end Run.Twins

/-- Work that was left is done in twin runs. -/
theorem Answerer.finishAll_twins {answer answer' : Answerer σ}
    (hanswer : Answerer.Twins Like Shown c answer answer') (works : List (Deferred σ))
    (h : bridge.Twins Like c bridge') :
    Run.Twins Like c (fun _ _ ↦ True) (answer.finishAll works) (answer'.finishAll works) frame
      bridge bridge' := by
  have hfinish : ∀ (work : Deferred σ) {after after' : Bridge σ}, after.Twins Like c after' →
      Run.Twins Like c (fun _ _ ↦ True) (answer.finish work) (answer'.finish work) frame after
        after' := by
    intro work after after' h
    refine .within (.get_bind ?_)
    rw [h.native]
    refine .bind (hanswer (.complete work.function _) id _ _ _ h) ?_
    rintro outcome _ _ _ rfl h₁
    cases outcome with
    | ok _ => exact .pure h₁ trivial
    | error e => exact .say h₁ _ _ _ _
  induction works generalizing bridge bridge' with
  | nil => exact .pure h trivial
  | cons work rest ih => exact .bind (hfinish work h) fun _ _ _ _ _ h₁ ↦ ih h₁

variable (hhost : host.Indifferent Like Shown)
  (haccepts : ∀ answer, (evaluator answer).Accepts Awaited) (hlike : ∀ name, Like name name)
  (hdraw : ∀ n, Like (host.draw n) (draw n))
include hhost haccepts hlike hdraw

/-- A message to the channel is posted, on either side in its own way. -/
theorem Adapter.post_twins (body : Option String) (h : bridge.Twins Like c bridge') :
    Run.Twins Like c (fun _ _ ↦ True) ((engine evaluator host).post (bridge.nameFor c) body)
      ((loopback (host.drawing draw)).post (bridge'.nameFor c) body) frame bridge bridge' := by
  have hinner : Answerer.Twins Like Shown c (Bridge.answerOn evaluator host Bridge.innerLevels)
      (Bridge.answer (host.drawing draw) Bridge.innerLevels) :=
    Bridge.answer_twins hhost haccepts hlike hdraw Bridge.innerLevels
  rw [post_loopback]
  refine .handler?_bind ?_
  dsimp only [Gate.messageOf]
  rcases h.handler?_nameFor with ⟨hnone, hnone'⟩ | ⟨hsome, hsome', hname⟩
  · rw [hnone, hnone']
    exact .some ⟨trivial, h.logged_left [.ofBridge .trace "no handler; message dropped"]⟩
  · rw [hsome, hsome']
    exact .decode_bind h fun _ h₁ ↦ ChannelId.dispatch_twins hinner hhost c hname _ h₁

theorem Adapter.respond_twins (body : Option String) (h : bridge.Twins Like c bridge') :
    Run.Twins Like c (Response.Twins Like Shown)
      ((engine evaluator host).respond (bridge.nameFor c) body)
      ((loopback (host.drawing draw)).respond (bridge'.nameFor c) body) frame bridge bridge' := by
  have hinner : Answerer.Twins Like Shown c (Bridge.answerOn evaluator host Bridge.innerLevels)
      (Bridge.answer (host.drawing draw) Bridge.innerLevels) :=
    Bridge.answer_twins hhost haccepts hlike hdraw Bridge.innerLevels
  refine .handler?_bind ?_
  dsimp only [Gate.messageOf]
  rcases h.handler?_nameFor with ⟨hnone, hnone'⟩ | ⟨hsome, hsome', hname⟩
  · rw [hnone, hnone']
    exact .some ⟨.nothing, h.logged_left [.ofBridge .trace "no handler; sync message dropped"]⟩
  · rw [hsome, hsome']
    exact .decode_bind h fun _ h₁ ↦ ChannelId.respond_twins hinner hhost _ c hname _ h₁

namespace Drive

/-- **A step leaves twin bridges twins.** -/
theorem run_twins (step : Drive) (h : bridge.Twins Like c bridge') :
    Run.Twins Like c (Option.Rel (Response.Twins Like Shown))
      (step.run (.engine evaluator host) c) (step.run (.loopback (host.drawing draw)) c) frame
      bridge bridge' := by
  have hanswer : Answerer.Twins Like Shown c (Bridge.answerOn evaluator host Bridge.levels)
      (Bridge.answer (host.drawing draw) Bridge.levels) :=
    Bridge.answer_twins hhost haccepts hlike hdraw Bridge.levels
  cases step with
  | bind object place =>
    exact .bind (hanswer (.bind c object place) id _ _ _ h) fun _ _ _ _ _ h₁ ↦ .pure h₁ .none
  | unbind => exact .bind (hanswer (.unbind c) id _ _ _ h) fun _ _ _ _ _ h₁ ↦ .pure h₁ .none
  | post body =>
    refine .get_bind ?_
    exact .bind (Adapter.post_twins hhost haccepts hlike hdraw body h) fun _ _ _ _ _ h₁ ↦
      .pure h₁ .none
  | postSync body =>
    refine .get_bind ?_
    exact .bind (Adapter.respond_twins hhost haccepts hlike hdraw body h)
      fun _ _ _ _ hresponse h₁ ↦ .pure h₁ (.some hresponse)
  | serialize value =>
    exact .bind (hanswer (.serialize c value) id _ _ _ h) fun _ _ _ _ _ h₁ ↦ .pure h₁ .none
  | complete function outcome =>
    exact .bind (hanswer (.complete ⟨function, c⟩ outcome) id _ _ _ h) fun _ _ _ _ _ h₁ ↦
      .pure h₁ .none
  | flush w =>
    exact .bind (Run.flush_twins hanswer hhost w h) fun _ _ _ _ _ h₁ ↦ .pure h₁ .none
  | advance w =>
    exact .bind (Run.advance_twins hanswer hhost w h) fun _ _ _ _ _ h₁ ↦ .pure h₁ .none
  | background =>
    refine .get_bind ?_
    rw [h.background]
    refine .bind (.change ?_) fun _ _ _ _ _ h₁ ↦ ?_
    · exact h.aside rfl rfl rfl rfl rfl rfl h.context h.native rfl h.drawn
    · exact .bind (Answerer.finishAll_twins hanswer _ h₁) fun _ _ _ _ _ h₂ ↦ .pure h₂ .none
  | release => exact .bind (.change h.released) fun _ _ _ _ _ h₁ ↦ .pure h₁ .none

/-- Steps leave twin bridges twins, one after the other. -/
theorem runAll_twins (steps : List Drive) (h : bridge.Twins Like c bridge') :
    Run.Twins Like c (List.Forall₂ (Option.Rel (Response.Twins Like Shown)))
      (runAll (.engine evaluator host) c steps) (runAll (.loopback (host.drawing draw)) c steps)
      frame bridge bridge' := by
  induction steps generalizing bridge bridge' with
  | nil => exact .pure h .nil
  | cons step steps ih =>
    refine .bind (step.run_twins hhost haccepts hlike hdraw h) fun _ _ _ _ hresponse h₁ ↦ ?_
    exact .bind (ih h₁) fun _ _ _ _ hresponses h₂ ↦ .pure h₂ (.cons hresponse hresponses)

end Drive

end Natives

/-- **The engine makes no difference to the state.** If the engine accepts the texts that it is
handed and native code is indifferent, then whatever steps are taken, in the bridge with the engine
and in the bridge without one, either both come to an end or neither does, and at the end they are
alike. As the steps are any steps, this is so after each of them. -/
theorem Drive.transparent {Like : String → String → Prop} {Shown : Value → Prop} {c : ChannelId}
    {host : Host σ} {draw : Nat → String} {evaluator : Answerer σ → Evaluator σ} {frame : Frame}
    {bridge bridge' : Bridge σ} {Handed : String → Prop} (hhost : host.Indifferent Like Shown)
    (steps : List Drive) (hhands : Hands Handed evaluator host c steps frame bridge)
    (haccepts : ∀ answer, (evaluator answer).Accepts Handed) (hlike : ∀ name, Like name name)
    (hdraw : ∀ n, Like (host.draw n) (draw n)) (h : bridge.Twins Like c bridge') :
    Option.Rel (Alike Like Shown c) (runAll (.engine evaluator host) c steps frame bridge)
      (runAll (.loopback (host.drawing draw)) c steps frame bridge') := by
  -- of texts that it is not handed the engine can be taken to accept what it likes:
  let other : Answerer σ → Evaluator σ := fun answer ↦ (evaluator answer).completed Handed
  have hsame := hhands other fun answer _ ↦ (evaluator answer).completed_eq
  have hother : ∀ answer, (other answer).Accepts Awaited := fun answer ↦
    (haccepts answer).completed Awaited
  rw [← hsame]
  refine rel_imp (runAll_twins hhost hother hlike hdraw steps h) fun ended ended' hended ↦ ?_
  obtain ⟨hresponses, htwins⟩ := hended
  refine ⟨htwins, ?_, hresponses.imp fun response? response'? hresponse ↦ ?_⟩
  · rcases htwins.handler?_nameFor with ⟨hnone, hnone'⟩ | ⟨hsome, hsome', -⟩
    · rw [hnone, hnone']
    · rw [hsome, hsome']
  · cases hresponse with
    | none => exact .none
    | some hresponse =>
      exact .some ⟨hresponse, fun hbytes hnames ↦ hresponse.text_eq hnames hbytes⟩

/-! ## A method that gives text -/

/-- Objects with a method that has a value written and gives its text. -/
def Host.quoting (value : Value) : Host Unit where
  surface typeName := ⟨typeName, .ofList [("", .initializer 0), ("text", .method (some 0) true)]⟩
  hooks _ object := { description := object.typeName }
  get _ _ := .done .undefined
  set _ _ _ := .done (.returned (.ok ()))
  invoke _ _ _ := .call (.serialize 0 value) fun text ↦ .done (.returned (.ok (.string text)))
  construct typeName _ := .done (.returned (.ok ⟨1, typeName⟩))
  receive _ _ := .done (.returned ())

/-- Where no octets are written the text may be looked at. -/
theorem Host.quoting_indifferent {value : Value} (h : value.hasBytes = false) :
    (quoting value).Indifferent (· = ·) (·.hasBytes = false) where
  get _ _ := rfl
  set _ _ _ := (Native.Quiet.done _).indifferent fun _ ↦ trivial
  invoke _ _ _ := by
    refine ⟨nofun, fun answer answer' hagree ↦ ⟨?_, ?_⟩⟩
    · have hsame : answer' = answer :=
        BridgeCall.eq_of_agree (fun _ _ ↦ Eq.symm) (fun _ ↦ id)
          (fun _ _ hrequest ↦ by cases hrequest; exact h) hagree
      rw [hsame]
    · rintro _ ⟨⟩
      rfl
  construct _ _ := (Native.Quiet.done _).indifferent fun _ ↦ trivial
  receive _ _ := (Native.Quiet.done _).indifferent fun _ ↦ trivial
  names _ _ _ _ _ := rfl

/-- A bridge with one channel, which is not bound. -/
def Bridge.lone (engine : Engine) : Bridge Unit where
  native := ()
  context := some { engine }
  channels := Table.empty.insert 0 { worker := 0 }
  workers := Table.empty.insert 0 { label := "queue", kind := .queue }

theorem Bridge.lone_addressed (engine : Engine) : (lone engine).Addressed := by
  refine .of_unbound (fun id ↦ ?_) (fun handlers hhandlers ↦ ?_)
  · rw [boundOf, lone, Table.get?_insert]
    split <;> rfl
  · cases hhandlers
    rfl

theorem Bridge.lone_twins : (lone .running).Twins (· = ·) 0 (lone .recording) where
  native := rfl
  background := rfl
  drawn := rfl
  context := .some ⟨rfl, rfl, rfl, rfl⟩
  channels id := by
    rw [lone, lone, Table.get?_insert]
    split
    · exact .some (.intro { worker := 0 } .none)
    · exact .none
  workers w := by
    rw [lone, lone, Table.get?_insert]
    split
    · exact .some (.intro { label := "queue", kind := .queue } .nil)
    · exact .none
  alone id hid := by rw [lone, Table.get?_insert, if_neg hid, Table.get?_empty]
  addressed := lone_addressed .running
  addressed' := lone_addressed .recording

/-- An engine whose scripts post a message that creates an instance, whatever they are. -/
def Evaluator.creating (answer : Answerer Unit) : Evaluator Unit := fun _ => do
  Gate.post answer "1" (some "\x7b\"$opcode\":\"+\",\"$target\":1\x7d")
  return .ok ()

namespace Drive

/-- An object is bound, octets are written, and the object is asked for text. -/
def asked : List Drive :=
  [.bind ⟨0, "Node"⟩ "app", .serialize (.bytes [0, 255]),
    .postSync (some "\x7b\"$opcode\":\"text\"\x7d")]

/-- The method gives the text of an object, and the octets that are written are not its business. -/
theorem quoting_transparent :
    (runAll (.engine (fun _ ↦ .alone) (.quoting (.native ⟨1, "Node"⟩))) 0 asked {}
      (.lone .running)).isSome ∧
    Option.Rel (Alike (· = ·) (·.hasBytes = false) 0)
      (runAll (.engine (fun _ ↦ .alone) (.quoting (.native ⟨1, "Node"⟩))) 0 asked {}
        (.lone .running))
      (runAll (.loopback (Host.drawing toString (.quoting (.native ⟨1, "Node"⟩)))) 0 asked {}
        (.lone .recording)) :=
  ⟨by decide +kernel, transparent (Host.quoting_indifferent rfl) asked (hands_awaited _ _ _ _ _ _)
    (fun _ ↦ Evaluator.alone_accepts Awaited) (fun _ ↦ rfl) (fun _ ↦ rfl) Bridge.lone_twins⟩

/-- The same state, and the same texts where there are no octets. -/
def Same (ended ended' : List (Option Response) × Bridge σ) : Prop :=
  ended.2.Twins (· = ·) 0 ended'.2 ∧
    List.Forall₂ (Option.Rel fun response response' ↦
      response.Byteless → response'.text = response.text) ended.1 ended'.1

theorem Same.texts_eq {ended ended' : List (Option Response) × Bridge σ} (h : Same ended ended')
    (hbytes : ∀ response? ∈ ended.1, ∀ response ∈ response?, response.Byteless) :
    ended'.1.map (·.map Response.text) = ended.1.map (·.map Response.text) := by
  have htexts : ∀ {responses responses' : List (Option Response)},
      List.Forall₂ (Option.Rel fun response response' ↦
        response.Byteless → response'.text = response.text) responses responses' →
      (∀ response? ∈ responses, ∀ response ∈ response?, response.Byteless) →
        responses'.map (·.map Response.text) = responses.map (·.map Response.text) := by
    intro responses responses' h
    induction h with
    | nil => exact fun _ ↦ rfl
    | cons hresponse _ ih =>
      intro hbytes
      obtain ⟨hfirst, hrest⟩ := List.forall_mem_cons.mp hbytes
      rw [List.map_cons, List.map_cons, ih hrest]
      cases hresponse with
      | none => rfl
      | some htext => rw [Option.map_some, Option.map_some, htext (hfirst _ rfl)]
  exact htexts h.2 hbytes

/-- Native code that has octets written may show the text, which has no octets itself. And text that
runs may post messages, though it is accepted. -/
theorem not_always_transparent :
    (¬ ∀ (host : Host Unit) (steps : List Drive),
      Option.Rel Same (runAll (.engine (fun _ ↦ .alone) host) 0 steps {} (.lone .running))
        (runAll (.loopback host) 0 steps {} (.lone .recording))) ∧
    ¬ ∀ (evaluator : Answerer Unit → Evaluator Unit) (steps : List Drive),
      (∀ answer text frame bridge ended,
        evaluator answer text frame bridge = some ended → ended.1 = .ok ()) →
      Option.Rel Same (runAll (.engine evaluator (.quoting .null)) 0 steps {} (.lone .running))
        (runAll (.loopback (.quoting .null)) 0 steps {} (.lone .recording)) := by
  refine ⟨fun h ↦ ?_, fun h ↦ ?_⟩
  · have hsame := rel_get (h (.quoting (.bytes [0, 255])) asked) (by decide +kernel)
      (by decide +kernel)
    exact absurd (hsame.texts_eq (by decide +kernel)) (by decide +kernel)
  · have hsame := rel_get (h Evaluator.creating [.bind ⟨0, "Node"⟩ "app"] ?_)
      (by decide +kernel) (by decide +kernel)
    · have hcreated := map_eq_of_rel (hsame.1.boundOf 0) fun _ _ htwins ↦
        congrArg (fun instances ↦ (instances.get? 1).isSome) htwins.instances
      exact absurd hcreated (by decide +kernel)
    · rintro answer text frame bridge ⟨outcome, after⟩ hended
      obtain ⟨_, _, -, hrest⟩ := Run.of_bind_run hended
      cases hrest
      rfl

end Drive

end ScriptBridge
