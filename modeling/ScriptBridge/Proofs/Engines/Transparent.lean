import ScriptBridge.Proofs.Engines.Evaluators
import ScriptBridge.Proofs.Engines.Indifferent

/-!
# Channels on either side

Where native code is indifferent, everything that a channel does has twin runs: values are drafted,
messages are taken, bindings start and end, and whoever waits for a message is answered with twin
responses.
-/

namespace ScriptBridge

variable {σ α β : Type} {Like : String → String → Prop} {Shown : Value → Prop} {c : ChannelId}
  {host : Host σ} {draw : Nat → String} {answer answer' : Answerer σ} {frame : Frame}
  {bridge bridge' : Bridge σ}

/-- Text has run on the one side and was kept on the other. -/
theorem Bridge.Twins.ran (h : bridge.Twins Like c bridge')
    (realm : Option Script.Realm) (lines : List Line) {f : Context → Context}
    (hhandlers : ∀ context, (f context).handlers = context.handlers)
    (hengine : ∀ context, (f context).engine = context.engine)
    (hinjection : ∀ context, (f context).injection = context.injection) :
    ((bridge.withRealm realm).logged lines).Twins Like c
      { bridge' with context := bridge'.context.map f } := by
  have hran : (bridge.withRealm realm).Twins Like c
      { bridge' with context := bridge'.context.map f } := by
    refine h.contexts (fun _ ↦ rfl) hhandlers fun context context' htwins ↦ ?_
    exact ⟨htwins.runs, (hengine context').trans htwins.keeps, htwins.accepts,
      (hinjection context').trans htwins.accepts'⟩
  exact hran.logged_left lines

namespace ChannelId

/-! ## Values on their way to scripts -/

theorem refer_twins (id : ChannelId) (value : Value) (h : bridge.Twins Like c bridge') :
    Run.Twins Like c (Option.Rel (Bound.Twins Like)) (refer id value) (refer id value) frame bridge
      bridge' := by
  refine .bound?_bind ?_
  rcases rel_cases (h.boundOf id) with ⟨hnone, hnone'⟩ | ⟨bound, bound', hbound, hbound', htwins⟩
  · rw [hnone, hnone']
    exact .pure h .none
  · rw [hbound, hbound']
    have hname : ∀ bound : Bound, (Bound.literal .plain value bound).2.identifier =
        bound.identifier := by
      intro bound
      rw [Bound.literal_state, Bound.referAll_identifier]
    have hnew : (Bound.literal .plain value bound).2.Twins Like
        (Bound.literal .plain value bound').2 := by
      rw [Bound.literal_state, Bound.literal_state]
      exact htwins.referAll _
    refine .bind (.setBound h hbound hbound' hnew (hname _) (hname _)) fun _ _ _ _ _ h₁ ↦ ?_
    exact .bind (.sayAll h₁ _ _) fun _ _ _ _ _ h₂ ↦ .pure h₂ (.some htwins)

theorem stubDraft?_twins (id : ChannelId) (target : StubTarget) (binding : Binding)
    {values : List (String × Value)} (hvalues : ∀ entry ∈ values, Shown entry.2)
    (h : bridge.Twins Like c bridge') :
    Run.Twins Like c (Option.Rel (StubDraft.Twins Like Shown))
      (stubDraft? host id target binding values)
      (stubDraft? (host.drawing draw) id target binding values) frame bridge bridge' := by
  refine .get_bind ?_
  rcases rel_cases (h.channels id) with ⟨hnone, hnone'⟩ | ⟨channel, _, hchannel, hchannel', ⟨hrel⟩⟩
  · rw [hnone, hnone']
    exact .pure h .none
  · simp only [hchannel, hchannel']
    rcases rel_cases hrel with ⟨hnone, hnone'⟩ | ⟨bound, bound', hbound, hbound', htwins⟩
    · rw [hnone, hnone']
      exact .pure h .none
    · rw [hbound, hbound']
      have hold : bridge.boundOf id = some bound := by simp [Bridge.boundOf, hchannel, hbound]
      have hold' : bridge'.boundOf id = some bound' := by simp [Bridge.boundOf, hchannel', hbound']
      refine .bind (.setBound h hold hold' (htwins.referAll _) (Bound.referAll_identifier ..)
        (Bound.referAll_identifier ..)) fun _ _ _ _ _ h₁ ↦ ?_
      refine .bind (.sayAll h₁ _ _) fun _ _ _ _ _ h₂ ↦ .pure h₂ (.some ?_)
      rw [h.native]
      exact .intro { urlPrefix := channel.urlPrefix, surface := _, hooks := _, target,
                     place := binding.place, values, tables := bound } htwins hvalues

section Natives

variable (hanswer : Answerer.Twins Like Shown c answer answer')
  (hhost : host.Indifferent Like Shown)
include hanswer hhost

theorem stubDrafts_twins (id : ChannelId) (patience : Nat) (h : bridge.Twins Like c bridge') :
    Run.Twins Like c (List.Forall₂ (StubDraft.Twins Like Shown))
      (stubDrafts host answer id patience) (stubDrafts (host.drawing draw) answer' id patience)
      frame bridge bridge' := by
  induction patience generalizing bridge bridge' with
  | zero => exact .stuck
  | succ patience ih =>
    refine .bound?_bind ?_
    rcases rel_cases (h.boundOf id) with ⟨hnone, hnone'⟩ | ⟨bound, bound', hbound, hbound', htwins⟩
    · rw [hnone, hnone']
      exact .pure h .nil
    · rw [hbound, hbound']
      cases htwins with
      | intro hname =>
        dsimp only [Bound.named]
        cases bound.pending with
        | nil => exact .pure h .nil
        | cons next rest =>
          have hnew : Bound.Twins Like { bound with pending := rest }
              { bound with identifier := _, pending := rest } :=
            .intro { bound with pending := rest } hname
          refine .bind (.setBound h hbound hbound' hnew rfl rfl) fun _ _ _ _ _ h₁ ↦ ?_
          refine .bind (Binding.values_twins hanswer hhost next.binding h₁) ?_
          rintro values _ _ _ ⟨rfl, hvalues⟩ h₂
          refine .bind (stubDraft?_twins id _ _ hvalues h₂) ?_
          rintro _ _ _ _ (hdraft | -) h₃
          · exact .bind (ih h₃) fun _ _ _ _ hdrafts h₄ ↦ .pure h₄ (.cons hdraft hdrafts)
          · exact .pure h₃ .nil

/-- **Values are drafted in twin runs.** -/
theorem draft_twins (id : ChannelId) (patience : Nat) (value : Value)
    (h : bridge.Twins Like c bridge') :
    Run.Twins Like c (fun draft draft' ↦ draft.Twins Like Shown draft' ∧ draft.value = value)
      (draft host answer patience id value) (draft (host.drawing draw) answer' patience id value)
      frame bridge bridge' := by
  refine .get_bind ?_
  refine .bind (refer_twins id value h) fun tables? tables'? _ _ htables h₁ ↦ ?_
  refine .bind (stubDrafts_twins hanswer hhost id patience h₁) fun stubs stubs' _ _ hstubs h₂ ↦ ?_
  exact .pure h₂ ⟨.intro { engine := _, value, tables?, stubs } _ htables hstubs, rfl⟩

end Natives

/-! ## Binding and unbinding -/

theorem unbind_twins (id : ChannelId) (h : bridge.Twins Like c bridge') :
    Run.Twins Like c (fun _ _ ↦ True) (unbind id) (unbind id) frame bridge bridge' := by
  rcases rel_cases (h.boundOf id) with ⟨hnone, hnone'⟩ | ⟨bound, bound', hbound, hbound', -⟩
  · rw [Run.Twins, unbind_run_of_unbound hnone, unbind_run_of_unbound hnone']
    exact .some ⟨trivial, h⟩
  · rw [Run.Twins, unbind_run hbound, unbind_run hbound']
    exact .some ⟨trivial, (h.ended hbound hbound').logged _ _⟩

/-- Text that is injected is accepted, or kept. -/
theorem injectOn_twins {evaluator evaluator' : Evaluator σ} (haccepts : evaluator.Accepts Awaited)
    {source : Source} (hsource : Awaited source.text) (source' : Source)
    (h : bridge.Twins Like c bridge') :
    Run.Twins Like c (fun refusal refusal' ↦ refusal = none ∧ refusal' = none)
      (injectOn evaluator source) (injectOn evaluator' source') frame bridge bridge' := by
  refine .get_bind ?_
  rcases rel_cases h.context with ⟨hnone, hnone'⟩ | ⟨context, context', hsome, hsome', htwins⟩
  · rw [hnone, hnone']
    exact .pure h ⟨rfl, rfl⟩
  · have hrefusal : context.refusal? source = none := by simp [Context.refusal?, htwins.accepts]
    have hrefusal' : context'.refusal? source' = none := by simp [Context.refusal?, htwins.accepts']
    have hengine : bridge.engine = .running := by simp [Bridge.engine, hsome, htwins.runs]
    obtain ⟨realm, lines, hrun⟩ := haccepts source.text hsource frame bridge hengine
    have hkeep : Run.changeContext
        (fun context ↦ { context with injected := context.injected ++ [source'] }) frame bridge' =
          some ((), { bridge' with context := bridge'.context.map fun context ↦
            { context with injected := context.injected ++ [source'] } }) := rfl
    simp only [hsome, hsome', hrefusal, hrefusal', htwins.runs, htwins.keeps]
    rw [Run.Twins, Run.bind_run hrun, Run.bind_run hkeep]
    exact .some ⟨⟨rfl, rfl⟩, h.ran realm lines (fun _ ↦ rfl) (fun _ ↦ rfl) fun _ ↦ rfl⟩

theorem injectAllOn_twins {evaluator evaluator' : Evaluator σ}
    (haccepts : evaluator.Accepts Awaited) (engine engine' : Engine) {stubs stubs' : List StubDraft}
    (hstubs : List.Forall₂ (StubDraft.Twins Like Shown) stubs stubs')
    (h : bridge.Twins Like c bridge') :
    Run.Twins Like c (fun _ _ ↦ True) (injectAllOn evaluator (stubs.map (·.source engine)))
      (injectAllOn evaluator' (stubs'.map (·.source engine'))) frame bridge bridge' := by
  induction hstubs generalizing bridge bridge' with
  | nil => exact .pure h trivial
  | cons _ _ ih =>
    refine .bind (injectOn_twins haccepts (.stub _ engine) _ h) ?_
    rintro _ _ _ _ ⟨rfl, rfl⟩ h₁
    exact ih h₁

/-- An identifier is declared, or each bridge draws its own. -/
theorem identifierFor_twins (hlike : ∀ name, Like name name)
    (hdraw : ∀ n, Like (host.draw n) (draw n)) (object : ObjectRef)
    (h : bridge.Twins Like c bridge') :
    Run.Twins Like c Like (identifierFor host object) (identifierFor (host.drawing draw) object)
      frame bridge bridge' := by
  refine .get_bind ?_
  have hdeclared : ((host.drawing draw).hooks bridge'.native object).identifier =
      (host.hooks bridge.native object).identifier := by
    rw [h.native]
    rfl
  rw [hdeclared]
  cases (host.hooks bridge.native object).identifier with
  | some identifier => exact .pure h (hlike identifier)
  | none =>
    have hnext : ({ bridge with drawn := bridge.drawn + 1 } : Bridge σ).Twins Like c
        { bridge' with drawn := bridge'.drawn + 1 } :=
      h.aside rfl rfl rfl rfl rfl rfl h.context h.native h.background (congrArg (· + 1) h.drawn)
    rw [h.drawn] at hnext ⊢
    exact .bind (.change hnext) fun _ _ _ _ _ h₁ ↦ .pure h₁ (hdraw _)

section Begin

variable {evaluator : Evaluator σ} {patience : Nat} {id : ChannelId}

/-- Tables are put down in which the objects that the principal shows are referred to, and the stub
that is made from them is installed. -/
theorem beginOn_run {channel : Channel} (hchannel : bridge.channels.get? id = some channel)
    (object : ObjectRef) (place : String) (values : List (String × Value)) (name : String) :
    ∃ draft : StubDraft, ∃ lines,
      beginOn evaluator host answer patience id object place values name frame bridge =
        installOn evaluator host answer patience id bridge.engine.literals name place
          (draft.source bridge.engine) frame
          ((bridge.withBound id (some (Bound.referAll (Bound.namedReferred .plain values)
            (.start name place object)))).logged lines) := by
  let begun := Bound.start name place object
  let referred := Bound.referAll (Bound.namedReferred .plain values) begun
  let draft : StubDraft := {
    urlPrefix := channel.urlPrefix
    surface := host.surfaceOf object
    hooks := host.hooks bridge.native object
    target := .plugin place
    place, values, tables := begun }
  have hbegun : (bridge.withBound id (some begun)).channels.get? id =
      some { channel with bound := some begun } := Bridge.get?_withBound_self hchannel _
  have hset : Run.setBound id (some begun) frame bridge =
      some ((), bridge.withBound id (some begun)) := rfl
  have hstub : stubOf host bridge.engine.literals bridge.native
      { channel with bound := some begun } (.plugin place) ⟨place, object⟩ values begun =
        (draft.source bridge.engine, referred) :=
    Prod.ext rfl (Bound.stubFor_state_plain bridge.engine ..)
  refine ⟨draft, referenceLines (begun.allocatedSince referred), ?_⟩
  rw [beginOn, Run.bind_run Run.engineLiterals_run, Run.bind_run hset,
    Run.bind_run (stub?_run hbegun rfl ..), Bridge.withBound_withBound, Bridge.withBound_native,
    hstub]

/-- Without a channel nothing is put down. -/
theorem beginOn_run_of_none (hchannel : bridge.channels.get? id = none) (object : ObjectRef)
    (place : String) (values : List (String × Value)) (name : String) :
    beginOn evaluator host answer patience id object place values name frame bridge =
      some (.error .contextReleased, bridge) := by
  have hsame : bridge.withBound id (some (Bound.start name place object)) = bridge := by
    simp [Bridge.withBound, hchannel]
  have hset : Run.setBound id (some (Bound.start name place object)) frame bridge =
      some ((), bridge) := congrArg (fun after ↦ some ((), after)) hsame
  have hunbound : bridge.boundOf id = none := by simp [Bridge.boundOf, hchannel]
  rw [beginOn, Run.bind_run Run.engineLiterals_run, Run.bind_run hset,
    Run.bind_run (stub?_run_of_unbound hunbound ..)]
  rfl

end Begin

section Natives

variable (hanswer : Answerer.Twins Like Shown c answer answer')
  (hhost : host.Indifferent Like Shown)
include hanswer hhost

/-- Once the registration is there the stub is injected, and then those of the references. -/
theorem installOn_twins {evaluator evaluator' : Evaluator σ} (haccepts : evaluator.Accepts Awaited)
    (patience : Nat) (id : ChannelId) (engine engine' : Engine) {name name' : String}
    (hname : Like name name') (place : String) {source : Source} (hsource : Awaited source.text)
    (source' : Source)
    (h : (bridge.withHandlers (·.insert name id)).Twins Like c
      (bridge'.withHandlers (·.insert name' id))) :
    Run.Twins Like c (Handle.Twins Like)
      (installOn evaluator host answer patience id engine.literals name place source)
      (installOn evaluator' (host.drawing draw) answer' patience id engine'.literals name' place
        source') frame bridge bridge' := by
  refine .bind (.change h) fun _ _ _ _ _ h₁ ↦ ?_
  refine .bind (injectOn_twins haccepts hsource source' h₁) ?_
  rintro _ _ _ _ ⟨rfl, rfl⟩ h₂
  dsimp only
  rw [drain_eq, drain_eq]
  simp only [bind_assoc, pure_bind]
  refine .bind (stubDrafts_twins hanswer hhost id patience h₂) fun stubs stubs' _ _ hstubs h₃ ↦ ?_
  refine .bind (injectAllOn_twins haccepts engine engine' hstubs h₃) fun _ _ _ _ _ h₄ ↦ ?_
  exact .bind (.say h₄ _ _ _ _) fun _ _ _ _ _ h₅ ↦ .pure h₅ (.bound id place hname)

/-- Tables are put down under either identifier, the stub of the principal is made from them, and
the registration is made. -/
theorem beginOn_twins {evaluator evaluator' : Evaluator σ} (haccepts : evaluator.Accepts Awaited)
    (patience : Nat) (id : ChannelId) {name name' : String} (hname : Like name name')
    (object : ObjectRef) (place : String) (values : List (String × Value))
    (hunbound : bridge.boundOf id = none) (h : bridge.Twins Like c bridge') :
    Run.Twins Like c (Handle.Twins Like)
      (beginOn evaluator host answer patience id object place values name)
      (beginOn evaluator' (host.drawing draw) answer' patience id object place values name') frame
      bridge bridge' := by
  rcases rel_cases (h.channels id) with ⟨hnone, hnone'⟩ | ⟨channel, _, hchannel, hchannel', ⟨hrel⟩⟩
  · rw [Run.Twins, beginOn_run_of_none hnone, beginOn_run_of_none hnone']
    exact .some ⟨.failed _, h⟩
  · have hnobound : channel.bound = none := by simpa [Bridge.boundOf, hchannel] using hunbound
    rw [hnobound] at hrel
    cases hrel
    have hbegun : (Bound.start name place object).Twins Like (Bound.start name' place object) :=
      .intro (Bound.start name place object) hname
    have hstarted := h.started hchannel hnobound hchannel' rfl
      (hbegun.referAll (Bound.namedReferred .plain values))
    rw [Bound.referAll_identifier, Bound.referAll_identifier] at hstarted
    obtain ⟨draft, lines, hrun⟩ := beginOn_run hchannel object place values name
    obtain ⟨draft', lines', hrun'⟩ := beginOn_run hchannel' object place values name'
    rw [Run.Twins, hrun, hrun']
    exact installOn_twins hanswer hhost haccepts patience id _ _ hname place (.stub draft _) _
      (hstarted.logged lines lines')

/-- **Bindings are made in twin runs**, under an identifier that each bridge finds for itself. -/
theorem bindOn_twins {evaluator evaluator' : Evaluator σ} (haccepts : evaluator.Accepts Awaited)
    (hlike : ∀ name, Like name name) (hdraw : ∀ n, Like (host.draw n) (draw n)) (patience : Nat)
    (id : ChannelId) (object : ObjectRef) (place : String) (h : bridge.Twins Like c bridge') :
    Run.Twins Like c (Handle.Twins Like) (bindOn evaluator host answer patience id object place)
      (bindOn evaluator' (host.drawing draw) answer' patience id object place) frame bridge
      bridge' := by
  unfold bindOn
  split
  · exact .pure h (.failed _)
  · refine .get_bind ?_
    rw [h.isNone_context]
    split
    · exact .pure h (.failed _)
    · refine .bind (Binding.values_twins hanswer hhost ⟨place, object⟩ h) ?_
      rintro values _ after after' ⟨rfl, -⟩ h₁
      refine .bound?_bind ?_
      rcases rel_cases (h₁.boundOf id) with ⟨hunbound, hunbound'⟩ | ⟨_, _, hbound, hbound', htwins⟩
      · rw [hunbound, hunbound']
        refine .bind_of_run (identifierFor_twins hlike hdraw object h₁) ?_
        intro name name' mid mid' hfound _ hname h₂
        have hmid : mid.boundOf id = none := by
          rw [Bridge.boundOf, (identifierFor_aside hfound).1]
          exact hunbound
        exact beginOn_twins hanswer hhost haccepts patience id hname object place _ hmid h₂
      · rw [hbound, hbound']
        cases htwins with
        | intro hname => exact .pure h₁ (.alreadyBound hname)

end Natives

/-! ## Messages -/

theorem dispose_twins (id : ChannelId) (target : Int) (h : bridge.Twins Like c bridge') :
    Run.Twins Like c (fun _ _ ↦ True) (dispose id target) (dispose id target) frame bridge
      bridge' := by
  unfold dispose
  split
  · exact unbind_twins id h
  · refine .bound?_bind ?_
    rcases rel_cases (h.boundOf id) with ⟨hnone, hnone'⟩ | ⟨bound, bound', hbound, hbound', htwins⟩
    · rw [hnone, hnone']
      exact .pure h trivial
    · rw [hbound, hbound']
      dsimp only
      rw [htwins.instances]
      cases bound.instances.get? target with
      | none => exact .pure h trivial
      | some binding =>
        refine .bind (.setBound h hbound hbound' (htwins.remove target binding) rfl rfl) ?_
        exact fun _ _ _ _ _ h₁ ↦ .say h₁ _ _ _ _

theorem report_twins (e : BridgeError) (h : bridge.Twins Like c bridge') :
    Run.Twins Like c (fun _ _ ↦ True) (report e) (report e) frame bridge bridge' := by
  unfold report
  split
  · exact .say h _ _ _ _
  · split
    · exact .say h _ _ _ _
    · exact .say h _ _ _ _

end ChannelId

/-- Errands that differ in the name of a message at most. -/
inductive Errand.Twins (Like : String → String → Prop) : Errand → Errand → Prop where
  | same (errand : Errand) : Twins Like errand errand
  | receive (object : ObjectRef) (body : Option Json) (told : List Line) {name name' : String}
    (h : Like name name') :
    Twins Like (.hand (.receive object ⟨name, body⟩) told)
      (.hand (.receive object ⟨name', body⟩) told)

/-- What a message says does not depend on where it was sent. -/
theorem Message.request?_named (name name' : String) (body : Option Json) :
    (⟨name', body⟩ : Message).request? =
      (⟨name, body⟩ : Message).request?.map ({ · with channel := name' }) := by
  unfold Message.request?
  rcases body with - | body
  · rfl
  · dsimp only
    cases body.fields? with
    | none => rfl
    | some fields =>
      dsimp only
      cases (Entries.find? opcodeKey fields).bind Json.string? with
      | none => rfl
      | some opcode => cases Request.target? (Entries.find? targetKey fields) <;> rfl

namespace Bridge.Twins

variable (h : bridge.Twins Like c bridge') (id : ChannelId) {name name' : String}
  (hname : Like name name') (body : Option Json)
include h

private theorem creation (request : Request) :
    bridge'.creation id { request with channel := name' } = bridge.creation id request := by
  unfold Bridge.creation
  rcases rel_cases (h.boundOf id) with ⟨hnone, hnone'⟩ | ⟨_, _, hbound, hbound', htwins⟩
  · rw [hnone, hnone']
  · rw [hbound, hbound']
    dsimp only [Bound.placeOf]
    rw [htwins.principal?, htwins.place]

include hname

private theorem forwarding (told : List Line) (e : BridgeError) :
    (bridge.forwarding host id ⟨name, body⟩ told e).Twins Like
      (bridge'.forwarding (host.drawing draw) id ⟨name', body⟩ told e) := by
  have hprincipal : (bridge'.boundOf id).bind (·.principal?) =
      (bridge.boundOf id).bind (·.principal?) :=
    bind_eq_of_rel (h.boundOf id) fun _ _ htwins ↦ htwins.principal?
  unfold Bridge.forwarding Bridge.rawTask?
  rw [hprincipal, h.native]
  cases (bridge.boundOf id).bind (·.principal?) with
  | none => exact .same _
  | some principal =>
    by_cases hraw : (host.hooks bridge.native principal.object).takesRaw = true
    · simp only [Host.drawing, hraw, if_true]
      exact .receive principal.object body told hname
    · simp only [Host.drawing, hraw]
      exact .same _

private theorem requested (request : Request) (waits : Bool) :
    (bridge.requested host id ⟨name, body⟩ request waits).Twins Like
      (bridge'.requested (host.drawing draw) id ⟨name', body⟩ { request with channel := name' }
        waits) := by
  have hinstance : ((bridge'.boundOf id).bind fun bound ↦ bound.instances.get? request.target) =
      (bridge.boundOf id).bind fun bound ↦ bound.instances.get? request.target := by
    refine bind_eq_of_rel (h.boundOf id) fun _ _ htwins ↦ ?_
    rw [htwins.instances]
  unfold Bridge.requested
  dsimp only
  split
  · rw [h.creation]
    exact .same _
  · rw [hinstance]
    split
    · exact h.forwarding id hname body _ _
    · split
      · exact .same _
      · exact .same _

/-- **Twin bridges find the same errand in a message.** -/
theorem errand (waits : Bool) :
    (bridge.errand host id ⟨name, body⟩ waits).Twins Like
      (bridge'.errand (host.drawing draw) id ⟨name', body⟩ waits) := by
  unfold Bridge.errand
  rw [Message.request?_named name name']
  cases (⟨name, body⟩ : Message).request? with
  | ok request => exact h.requested id hname body request waits
  | error malformation =>
    dsimp only [Except.map]
    split
    · exact .same _
    · exact h.forwarding id hname body _ _

end Bridge.Twins

namespace ChannelId

/-- A message is served in the same way on either side. If it is served with a value, the value is
as it should be. -/
def Served (Shown : Value → Prop) (outcome outcome' : Except BridgeError (Option Value)) : Prop :=
  outcome' = outcome ∧ ∀ value, outcome = .ok (some value) → Shown value

theorem Served.error (e : BridgeError) : Served Shown (.error e) (.error e) :=
  ⟨rfl, fun _ hvalue ↦ by cases hvalue⟩

theorem Served.nothing : Served Shown (.ok none) (.ok none) :=
  ⟨rfl, fun _ hvalue ↦ by cases hvalue⟩

section Natives

variable (hanswer : Answerer.Twins Like Shown c answer answer')
  (hhost : host.Indifferent Like Shown)
include hanswer hhost

theorem produce_twins (id : ChannelId) (w : WorkerId) (target : Int) (place typeName : String)
    (args : List Value) (h : bridge.Twins Like c bridge') :
    Run.Twins Like c (fun outcome outcome' ↦ outcome' = outcome)
      (produce host answer id w target place typeName args)
      (produce (host.drawing draw) answer' id w target place typeName args) frame bridge
      bridge' := by
  have hmake : ∀ frame after after', after.Twins Like c after' →
      Run.Twins Like c (fun a a' ↦ a' = a) (host.make answer typeName args)
        ((host.drawing draw).make answer' typeName args) frame after after' :=
    fun _ _ _ h ↦ Host.make_twins hanswer hhost typeName args h
  refine .bind (Run.sync_twins hanswer hhost w hmake h) fun made made' _ _ hmade h₁ ↦ ?_
  have hresult : made'.bind Finish.result = made.bind Finish.result := by
    rcases hmade with ⟨e, rfl, rfl⟩ | ⟨finish, _, rfl, rfl, rfl⟩
    · rfl
    · rfl
  rw [hresult]
  cases made.bind Finish.result with
  | error e => exact .pure h₁ rfl
  | ok object =>
    refine .bound?_bind ?_
    rcases rel_cases (h₁.boundOf id) with ⟨hnone, hnone'⟩ | ⟨bound, bound', hbound, hbound', htwins⟩
    · rw [hnone, hnone']
      exact .pure h₁ rfl
    · rw [hbound, hbound']
      obtain ⟨hput, hprevious⟩ := htwins.put target ⟨place, object⟩
      dsimp only
      refine .bind (.setBound h₁ hbound hbound' hput rfl rfl) fun _ _ _ _ _ h₂ ↦ ?_
      rw [hprevious]
      split
      · refine .bind (.say h₂ _ _ _ _) fun _ _ _ _ _ h₃ ↦ ?_
        exact .bind (.say h₃ _ _ _ _) fun _ _ _ _ _ h₄ ↦ .pure h₄ rfl
      · exact .bind (.say h₂ _ _ _ _) fun _ _ _ _ _ h₃ ↦ .pure h₃ rfl

theorem errand_twins (id : ChannelId) (w : WorkerId) {errand errand' : Errand}
    (herrand : errand.Twins Like errand') (h : bridge.Twins Like c bridge') :
    Run.Twins Like c (Served Shown) (errand.run host answer id w)
      (errand'.run (host.drawing draw) answer' id w) frame bridge bridge' := by
  have hhand : ∀ {task task' : Task} (told : List Line), task.Twins Like task' →
      Run.Twins Like c (Served Shown) ((Errand.hand task told).run host answer id w)
        ((Errand.hand task' told).run (host.drawing draw) answer' id w) frame bridge bridge' := by
    intro task task' told htask
    rw [Run.Twins, Errand.hand_run, Errand.hand_run]
    exact .some ⟨.nothing, (h.submitted w htask).logged told told⟩
  cases herrand with
  | receive object body told hname => exact hhand told (.receive object body hname)
  | same =>
    cases errand with
    | refuse e => exact .pure h (.error e)
    | hand task told => exact hhand told (.same task)
    | await binding method args =>
      have hinvoke : ∀ frame after after', after.Twins Like c after' →
          Run.Twins Like c (fun a a' ↦ a' = a ∧ a.Shows Shown)
            (binding.invoke host answer method args)
            (binding.invoke (host.drawing draw) answer' method args) frame after after' :=
        fun _ _ _ h ↦ Binding.invoke_twins hanswer hhost binding method args h
      refine .bind (Run.sync_twins hanswer hhost w hinvoke h) fun _ _ _ _ hoffered h₁ ↦ .pure h₁ ?_
      rcases hoffered with ⟨e, rfl, rfl⟩ | ⟨_, finish, rfl, rfl, rfl, hshown⟩
      · exact .error _
      · refine ⟨rfl, fun value hvalue ↦ hshown value ?_⟩
        rcases finish with (e | given) | text
        · cases hvalue
        · cases hvalue
          rfl
        · cases hvalue
    | make target place typeName args =>
      refine .bind (produce_twins hanswer hhost id w target place typeName args h) ?_
      rintro _ made _ _ rfl h₁
      refine .pure h₁ ⟨rfl, fun value hvalue ↦ ?_⟩
      rcases made with _ | _
      · cases hvalue
      · cases hvalue
    | dispose target =>
      exact .bind (dispose_twins id target h) fun _ _ _ _ _ h₁ ↦ .pure h₁ .nothing

/-- **Messages are taken in twin runs**, under whatever names they were sent. -/
theorem handle_twins (id : ChannelId) {name name' : String} (hname : Like name name')
    (body : Option Json) (waits : Bool) (h : bridge.Twins Like c bridge') :
    Run.Twins Like c (Served Shown) (handle host answer id ⟨name, body⟩ waits)
      (handle (host.drawing draw) answer' id ⟨name', body⟩ waits) frame bridge bridge' := by
  rcases rel_cases (h.channels id) with ⟨hnone, hnone'⟩ | ⟨channel, _, hchannel, hchannel', ⟨-⟩⟩
  · rw [Run.Twins, handle_run_of_none hnone, handle_run_of_none hnone']
    exact .some ⟨.nothing, h⟩
  · rw [Run.Twins, handle_run hchannel, handle_run hchannel']
    exact errand_twins hanswer hhost id channel.worker (h.errand id hname body waits)
      (h.logged _ _)

theorem dispatch_twins (id : ChannelId) {name name' : String} (hname : Like name name')
    (body : Option Json) (h : bridge.Twins Like c bridge') :
    Run.Twins Like c (fun _ _ ↦ True) (dispatch host answer id ⟨name, body⟩)
      (dispatch (host.drawing draw) answer' id ⟨name', body⟩) frame bridge bridge' := by
  refine .bind (handle_twins hanswer hhost id hname body false h) ?_
  rintro _ outcome _ _ ⟨rfl, -⟩ h₁
  cases outcome with
  | ok _ => exact .pure h₁ trivial
  | error e => exact report_twins e h₁

/-- **Who waits for a message is answered with twin responses.** -/
theorem respond_twins (patience : Nat) (id : ChannelId) {name name' : String}
    (hname : Like name name') (body : Option Json) (h : bridge.Twins Like c bridge') :
    Run.Twins Like c (Response.Twins Like Shown) (respond host answer patience id ⟨name, body⟩)
      (respond (host.drawing draw) answer' patience id ⟨name', body⟩) frame bridge bridge' := by
  have hask : Run.Twins Like c (Served Shown) (ask host answer id ⟨name, body⟩)
      (ask (host.drawing draw) answer' id ⟨name', body⟩) frame bridge bridge' := by
    refine .bind (handle_twins hanswer hhost id hname body true h) ?_
    rintro _ outcome _ _ ⟨rfl, hshown⟩ h₁
    cases outcome with
    | ok value => exact .pure h₁ ⟨rfl, hshown⟩
    | error e =>
      refine .bind (report_twins e h₁) fun _ _ _ _ _ h₂ ↦ ?_
      split
      · exact .pure h₂ (.error _)
      · exact .pure h₂ .nothing
  refine .bind hask ?_
  rintro _ outcome _ _ ⟨rfl, hshown⟩ h₁
  rcases outcome with e | - | value
  · exact .pure h₁ (.thrown e.message)
  · exact .pure h₁ .nothing
  · refine .bind (draft_twins hanswer hhost id patience value h₁) ?_
    rintro draft draft' _ _ ⟨hdraft, rfl⟩ h₂
    exact .pure h₂ (.value hdraft (hshown _ rfl))

/-! ## Completions -/

omit hanswer hhost in
/-- A completion is accepted, or kept. -/
theorem evaluateOn_twins {evaluator evaluator' : Evaluator σ} (haccepts : evaluator.Accepts Awaited)
    (function : Nat) (error result text' : String) (h : bridge.Twins Like c bridge') :
    Run.Twins Like c (fun outcome outcome' ↦ outcome = outcome')
      (evaluateOn evaluator (completion function error result)) (evaluateOn evaluator' text') frame
      bridge bridge' := by
  refine .get_bind ?_
  rcases rel_cases h.context with ⟨hnone, hnone'⟩ | ⟨context, context', hsome, hsome', htwins⟩
  · rw [hnone, hnone']
    refine .bind (.changeContext h (fun _ ↦ rfl) (fun _ ↦ rfl) ?_) fun _ _ _ _ _ h₁ ↦ .pure h₁ rfl
    exact fun _ _ htwins ↦ ⟨htwins.runs, htwins.keeps, htwins.accepts, htwins.accepts'⟩
  · have hengine : bridge.engine = .running := by simp [Bridge.engine, hsome, htwins.runs]
    obtain ⟨realm, lines, hrun⟩ :=
      haccepts _ (.completion function error result) frame bridge hengine
    simp only [hsome, hsome', Option.map_some, htwins.runs, htwins.keeps]
    rw [Run.Twins, Run.bind_run hrun]
    exact .some ⟨rfl, h.ran realm lines (fun _ ↦ rfl) (fun _ ↦ rfl) fun _ ↦ rfl⟩

theorem completeOn_twins {evaluator evaluator' : Evaluator σ} (haccepts : evaluator.Accepts Awaited)
    (patience : Nat) (function : Callback) (outcome : Except String Value)
    (h : bridge.Twins Like c bridge') :
    Run.Twins Like c (fun outcome outcome' ↦ outcome = outcome')
      (completeOn evaluator host answer patience function outcome)
      (completeOn evaluator' (host.drawing draw) answer' patience function outcome) frame bridge
      bridge' := by
  have hheld : (((bridge'.channels.get? function.channel).map (·.held)).getD false : Bool) =
      ((bridge.channels.get? function.channel).map (·.held)).getD false := by
    rw [map_eq_of_rel (h.channels function.channel)]
    rintro _ _ ⟨-⟩
    rfl
  refine .get_bind ?_
  dsimp only
  rw [hheld, h.isNone_context]
  split
  · exact .pure h rfl
  · cases outcome with
    | error text => exact evaluateOn_twins haccepts function.id _ _ _ h
    | ok value =>
      dsimp only
      rw [expression_eq, expression_eq]
      simp only [bind_assoc, pure_bind]
      refine .bind (draft_twins hanswer hhost function.channel patience value h) ?_
      exact fun _ _ _ _ _ h₁ ↦ evaluateOn_twins haccepts function.id _ _ _ h₁

end Natives

end ChannelId

/-! ## All calls of the bridge -/

namespace Bridge

/-- What one level does, given that the levels below answer in twin runs. -/
theorem answerWithOn_twins {evaluator evaluator' : Evaluator σ}
    (hanswer : Answerer.Twins Like Shown c answer answer') (hhost : host.Indifferent Like Shown)
    (haccepts : evaluator.Accepts Awaited) (hlike : ∀ name, Like name name)
    (hdraw : ∀ n, Like (host.draw n) (draw n)) (patience : Nat) :
    Answerer.Twins Like Shown c (answerWithOn evaluator host answer patience)
      (answerWithOn evaluator' (host.drawing draw) answer' patience) := by
  intro request hsteers frame bridge bridge' h
  cases request with
  | bind id object place =>
    exact ChannelId.bindOn_twins hanswer hhost haccepts hlike hdraw patience id object place h
  | unbind id => exact ChannelId.unbind_twins id h
  | dispatch id message =>
    exact ChannelId.dispatch_twins hanswer hhost id (hlike message.name) message.body h
  | dispatchSync id message =>
    change Run.Twins Like c _ (ChannelId.dispatchSync host answer patience id message)
      (ChannelId.dispatchSync (host.drawing draw) answer' patience id message) frame bridge bridge'
    rw [ChannelId.dispatchSync_eq, ChannelId.dispatchSync_eq]
    refine .bind (ChannelId.respond_twins hanswer hhost patience id (hlike message.name)
      message.body h) ?_
    exact fun response response' _ _ hresponse h₁ ↦
      .pure h₁ ⟨response, response', hresponse, rfl, rfl⟩
  | serialize id value =>
    change Run.Twins Like c _
      (do return (← ChannelId.expression host answer patience id value).text)
      (do return (← ChannelId.expression (host.drawing draw) answer' patience id value).text) frame
      bridge bridge'
    rw [ChannelId.expression_eq, ChannelId.expression_eq]
    simp only [bind_assoc, pure_bind]
    refine .bind (ChannelId.draft_twins hanswer hhost id patience value h) ?_
    exact fun draft draft' _ _ hdraft h₁ ↦
      .pure h₁ ⟨draft, draft', hdraft.1, hdraft.2, rfl, rfl⟩
  | complete function outcome =>
    exact ChannelId.completeOn_twins hanswer hhost haccepts patience function outcome h
  | steer injection => exact absurd trivial hsteers

/-- **All calls are answered in twin runs**, on however many levels, whether text runs or is
kept. -/
theorem answerOn_twins {evaluator evaluator' : Answerer σ → Evaluator σ}
    (hhost : host.Indifferent Like Shown) (haccepts : ∀ answer, (evaluator answer).Accepts Awaited)
    (hlike : ∀ name, Like name name) (hdraw : ∀ n, Like (host.draw n) (draw n)) (levels : Nat) :
    Answerer.Twins Like Shown c (answerOn evaluator host levels)
      (answerOn evaluator' (host.drawing draw) levels) := by
  induction levels with
  | zero => exact fun _ _ _ _ _ _ ↦ .stuck
  | succ levels ih => exact answerWithOn_twins ih hhost (haccepts _) hlike hdraw levels

/-- The bridge with an engine that accepts what it is given, next to the bridge that keeps text. -/
theorem answer_twins {evaluator : Answerer σ → Evaluator σ} (hhost : host.Indifferent Like Shown)
    (haccepts : ∀ answer, (evaluator answer).Accepts Awaited) (hlike : ∀ name, Like name name)
    (hdraw : ∀ n, Like (host.draw n) (draw n)) (levels : Nat) :
    Answerer.Twins Like Shown c (answerOn evaluator host levels)
      (Bridge.answer (host.drawing draw) levels) := by
  rw [← answerOn_script]
  exact answerOn_twins hhost haccepts hlike hdraw levels

end Bridge

end ScriptBridge
