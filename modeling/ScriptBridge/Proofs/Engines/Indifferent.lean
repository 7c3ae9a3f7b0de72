import ScriptBridge.Proofs.Engines.Twins

/-!
# Native code that does not look

Native code has two ways of finding out whether the script side has an engine. It may ask the
bridge for the text of an expression, in which octets are written in the way of the engine, and it
may look at an identifier, in a message that it takes as it is or in what a binding gives it. Code
that goes on in the same way whatever it is told there is *indifferent* (`Native.Indifferent`).

It need not be indifferent to all texts, only to those that two twin bridges may answer: texts of
expressions that are made from twin drafts (`BridgeCall.Agree`). These are the same text if
identifiers are the same and there are no octets (`Draft.Twins.text_eq`), so there code may look
at it. For this it can be required of all values that are shown that they have no octets, or
anything else; what is required of them is a parameter.

Indifferent code has twin runs (`Native.run_twins`), and so has the work on workers that is made of
it.
-/

namespace ScriptBridge

variable {σ α β : Type} {Like : String → String → Prop} {Shown : Value → Prop}

/-! ## Drafts that correspond -/

/-- Drafts of stubs that differ in the identifier of the channel at most, and whose values are as
they should be. -/
inductive StubDraft.Twins (Like : String → String → Prop) (Shown : Value → Prop) :
    StubDraft → StubDraft → Prop where
  | intro (draft : StubDraft) {tables : Bound} (htables : draft.tables.Twins Like tables)
    (hshown : ∀ entry ∈ draft.values, Shown entry.2) :
    Twins Like Shown draft { draft with tables }

/-- Drafts for two engines that differ in the identifier of the channel at most. -/
inductive Draft.Twins (Like : String → String → Prop) (Shown : Value → Prop) :
    Draft → Draft → Prop where
  | intro (draft : Draft) (engine : Engine) {tables? : Option Bound} {stubs : List StubDraft}
    (htables : Option.Rel (Bound.Twins Like) draft.tables? tables?)
    (hstubs : List.Forall₂ (StubDraft.Twins Like Shown) draft.stubs stubs) :
    Twins Like Shown draft { engine, value := draft.value, tables?, stubs }

/-- Responses that correspond. -/
inductive Response.Twins (Like : String → String → Prop) (Shown : Value → Prop) :
    Response → Response → Prop where
  | nothing : Twins Like Shown .nothing .nothing
  | thrown (text : String) : Twins Like Shown (.thrown text) (.thrown text)
  | value {draft draft' : Draft} (h : draft.Twins Like Shown draft') (hshown : Shown draft.value) :
    Twins Like Shown (.value draft) (.value draft')

/-- The identifiers that stand in the text. -/
def Draft.identifiers (draft : Draft) : List String := draft.stubs.map (·.tables.identifier)

def Response.identifiers : Response → List String
  | .nothing | .thrown _ => []
  | .value draft => draft.identifiers

/-- Twins that are called the same are the same. -/
theorem StubDraft.Twins.eq {draft draft' : StubDraft} (h : draft.Twins Like Shown draft')
    (hname : draft'.tables.identifier = draft.tables.identifier) : draft' = draft := by
  cases h with
  | intro htables _ => rw [htables.eq hname]

/-- What objects are called does not depend on what the channel is called. -/
theorem Engine.write_twins (engine : Engine) (value : Value) {tables? tables'? : Option Bound}
    (h : Option.Rel (Bound.Twins Like) tables? tables'?) :
    engine.write value tables'? = engine.write value tables? := by
  rcases h with ⟨⟨_⟩⟩ | _
  · exact Bound.literal_named _ value _ _
  · rfl

/-- **Where the same identifiers stand and there are no octets, the texts are the same.** -/
theorem Draft.Twins.text_eq {draft draft' : Draft} (h : draft.Twins Like Shown draft')
    (hnames : draft'.identifiers = draft.identifiers) (hbytes : draft.Byteless) :
    draft'.text = draft.text := by
  have hsame : ∀ {stubs stubs' : List StubDraft},
      List.Forall₂ (StubDraft.Twins Like Shown) stubs stubs' →
        stubs'.map (·.tables.identifier) = stubs.map (·.tables.identifier) → stubs' = stubs := by
    intro stubs stubs' h
    induction h with
    | nil => exact fun _ ↦ rfl
    | cons hstub _ ih =>
      rw [List.map_cons, List.map_cons]
      intro hnames
      obtain ⟨hname, hnames⟩ := List.cons.inj hnames
      rw [hstub.eq hname, ih hnames]
  cases h with
  | intro engine htables hstubs =>
    rw [← text_of_byteless hbytes engine, hsame hstubs hnames, text, text, expression, expression,
      engine.write_twins draft.value htables]

theorem Draft.Twins.identifiers_eq {draft draft' : Draft} (h : draft.Twins Like Shown draft')
    (hlike : ∀ name name', Like name name' → name' = name) :
    draft'.identifiers = draft.identifiers := by
  have hnames : List.Forall₂ (· = ·) draft.identifiers draft'.identifiers := by
    cases h with
    | intro _ _ hstubs =>
      refine List.forall₂_map_left_iff.mpr (List.forall₂_map_right_iff.mpr (hstubs.imp ?_))
      rintro _ _ ⟨htables, -⟩
      exact (hlike _ _ htables.like).symm
  rw [List.forall₂_eq_eq_eq] at hnames
  exact hnames.symm

/-- What is drafted has no octets, if nothing that is shown has any. -/
theorem Draft.Twins.byteless {draft draft' : Draft} (h : draft.Twins Like Shown draft')
    (hshown : ∀ value, Shown value → value.hasBytes = false)
    (hvalue : draft.value.hasBytes = false) : draft.Byteless := by
  have hstubs : ∀ {stubs stubs' : List StubDraft},
      List.Forall₂ (StubDraft.Twins Like Shown) stubs stubs' →
        ∀ stub ∈ stubs, ∀ entry ∈ stub.values, entry.2.hasBytes = false := by
    intro stubs stubs' h
    induction h with
    | nil => simp
    | cons hstub _ ih =>
      obtain ⟨-, hvalues⟩ := hstub
      exact List.forall_mem_cons.mpr ⟨fun entry hentry ↦ hshown _ (hvalues entry hentry), ih⟩
  cases h with
  | intro _ _ hrelated => exact ⟨hvalue, hstubs hrelated⟩

theorem Response.Twins.text_eq {response response' : Response}
    (h : response.Twins Like Shown response')
    (hnames : response'.identifiers = response.identifiers) (hbytes : response.Byteless) :
    response'.text = response.text := by
  cases h with
  | nothing => rfl
  | thrown text => rfl
  | value h _ => exact h.text_eq hnames (hbytes _ rfl)

/-! ## What two bridges answer -/

/-- What two bindings come to, if they differ in the identifier at most. -/
inductive Handle.Twins (Like : String → String → Prop) :
    Except BridgeError Handle → Except BridgeError Handle → Prop where
  | bound (channel : ChannelId) (place : String) {name name' : String} (h : Like name name') :
    Twins Like (.ok ⟨channel, name, place⟩) (.ok ⟨channel, name', place⟩)
  | alreadyBound {name name' : String} (h : Like name name') :
    Twins Like (.error (.alreadyBound name)) (.error (.alreadyBound name'))
  | failed (e : BridgeError) : Twins Like (.error e) (.error e)

/-- Whether a call decides what becomes of text that is injected. -/
def BridgeCall.Steers : BridgeCall → Prop
  | .steer _ => True
  | _ => False

/-- Two answers to a call that twin bridges may give. -/
def BridgeCall.Agree (Like : String → String → Prop) (Shown : Value → Prop) :
    (request : BridgeCall) → request.Reply → request.Reply → Prop
  | .bind _ _ _, outcome, outcome' => Handle.Twins Like outcome outcome'
  | .unbind _, _, _ => True
  | .dispatch _ _, _, _ => True
  | .dispatchSync _ _, text, text' => ∃ response response' : Response,
      response.Twins Like Shown response' ∧ text = response.text ∧ text' = response'.text
  | .serialize _ value, text, text' => ∃ draft draft' : Draft,
      draft.Twins Like Shown draft' ∧ draft.value = value ∧ text = draft.text ∧ text' = draft'.text
  | .complete _ _, outcome, outcome' => outcome = outcome'
  | .steer _, _, _ => True

/-- If identifiers are the same and nothing that is shown has octets, the two bridges answer the
same, unless they are asked for the text of octets. -/
theorem BridgeCall.eq_of_agree (hlike : ∀ name name', Like name name' → name' = name)
    (hshown : ∀ value, Shown value → value.hasBytes = false) {request : BridgeCall}
    (hrequest : ∀ channel value, request = .serialize channel value → value.hasBytes = false)
    {reply reply' : request.Reply} (h : request.Agree Like Shown reply reply') :
    reply' = reply := by
  cases request with
  | bind _ _ _ =>
    cases h with
    | bound channel place h => rw [hlike _ _ h]
    | alreadyBound h => rw [hlike _ _ h]
    | failed e => rfl
  | unbind _ => rfl
  | dispatch _ _ => rfl
  | dispatchSync _ _ =>
    obtain ⟨response, response', hresponse, rfl, rfl⟩ := h
    cases hresponse with
    | nothing => rfl
    | thrown text => rfl
    | value hdraft hvalue =>
      exact hdraft.text_eq (hdraft.identifiers_eq hlike) (hdraft.byteless hshown (hshown _ hvalue))
  | serialize channel value =>
    obtain ⟨draft, draft', hdraft, rfl, rfl, rfl⟩ := h
    exact hdraft.text_eq (hdraft.identifiers_eq hlike)
      (hdraft.byteless hshown (hrequest channel _ rfl))
  | complete _ _ => exact h.symm
  | steer _ => rfl

/-- The code goes on in the same way whichever of the two bridges answers, does not decide what
becomes of text that is injected, and ends as it should. -/
def Native.Indifferent (Like : String → String → Prop) (Shown : Value → Prop) (Ends : α → Prop) :
    Native σ α → Prop
  | .done a => Ends a
  | .read next => ∀ s, (next s).Indifferent Like Shown Ends
  | .write _ next => next.Indifferent Like Shown Ends
  | .thread next => ∀ name, (next name).Indifferent Like Shown Ends
  | .log _ next => next.Indifferent Like Shown Ends
  | .defer _ next => next.Indifferent Like Shown Ends
  | .call request next => ¬ request.Steers ∧
      ∀ answer answer', request.Agree Like Shown answer answer' →
        next answer = next answer' ∧ (next answer).Indifferent Like Shown Ends

/-- Code that does not call the bridge has nothing to look at. -/
theorem Native.Quiet.indifferent {program : Native σ α} (h : program.Quiet) {Ends : α → Prop}
    (hends : ∀ a, Ends a) : program.Indifferent Like Shown Ends := by
  induction h with
  | done a => exact hends a
  | read _ ih => exact ih
  | write _ ih => exact ih
  | thread _ ih => exact ih
  | log _ ih => exact ih
  | defer _ ih => exact ih

/-- What a method gives back is as it should be. -/
def Finish.Shows (Shown : Value → Prop) (finish : Finish (Except BridgeError Value)) : Prop :=
  ∀ value, finish = .returned (.ok value) → Shown value

/-- **All native code is indifferent**, and the values that are shown are as they should be. -/
structure Host.Indifferent (Like : String → String → Prop) (Shown : Value → Prop) (host : Host σ) :
    Prop where
  get : ∀ object name, (host.get object name).Indifferent Like Shown Shown
  set : ∀ object name value, (host.set object name value).Indifferent Like Shown fun _ ↦ True
  invoke : ∀ object name args,
    (host.invoke object name args).Indifferent Like Shown (Finish.Shows Shown)
  construct : ∀ typeName args, (host.construct typeName args).Indifferent Like Shown fun _ ↦ True
  receive : ∀ object message, (host.receive object message).Indifferent Like Shown fun _ ↦ True
  /-- The name of a message makes no difference. -/
  names : ∀ object body name name', Like name name' →
    host.receive object ⟨name, body⟩ = host.receive object ⟨name', body⟩

/-- Calls are answered by twin runs. -/
def Answerer.Twins (Like : String → String → Prop) (Shown : Value → Prop) (c : ChannelId)
    (answer answer' : Answerer σ) : Prop :=
  ∀ request, ¬ request.Steers → ∀ frame bridge bridge', bridge.Twins Like c bridge' →
    Run.Twins Like c (request.Agree Like Shown) (answer request) (answer' request) frame bridge
      bridge'

/-- The same native code, with identifiers drawn in another way. -/
def Host.drawing (draw : Nat → String) (host : Host σ) : Host σ := { host with draw }

variable {c : ChannelId} {host : Host σ} {draw : Nat → String} {answer answer' : Answerer σ}
  {frame : Frame} {bridge bridge' : Bridge σ}

section Natives

variable (hanswer : Answerer.Twins Like Shown c answer answer')
include hanswer

/-- **Indifferent code has twin runs.** -/
theorem Native.run_twins {Ends : α → Prop} {program : Native σ α}
    (hprogram : program.Indifferent Like Shown Ends) (h : bridge.Twins Like c bridge') :
    Run.Twins Like c (fun a a' ↦ a' = a ∧ Ends a) (program.run answer) (program.run answer') frame
      bridge bridge' := by
  induction program generalizing bridge bridge' with
  | done a => exact .pure h ⟨rfl, hprogram⟩
  | read next ih =>
    refine .get_bind ?_
    rw [h.native]
    exact ih _ (hprogram _) h
  | write s next ih =>
    refine .bind (.change ?_) fun _ _ _ _ _ h₁ ↦ ih hprogram h₁
    exact h.aside rfl rfl rfl rfl rfl rfl h.context rfl h.background h.drawn
  | thread next ih =>
    have hname : Run.threadName frame bridge' = some (bridge.nameOf frame.thread, bridge') := by
      rw [Run.threadName_run, h.nameOf]
    rw [run, run, Run.Twins, Run.bind_run Run.threadName_run, Run.bind_run hname]
    exact ih _ (hprogram _) h
  | log line next ih => exact .bind (.sayAll h _ _) fun _ _ _ _ _ h₁ ↦ ih hprogram h₁
  | defer work next ih =>
    refine .bind (.change ?_) fun _ _ _ _ _ h₁ ↦ ih hprogram h₁
    exact h.aside rfl rfl rfl rfl rfl rfl h.context h.native
      (congrArg (· ++ [work]) h.background) h.drawn
  | call request next ih =>
    refine .bind (hanswer request hprogram.1 _ _ _ h) fun reply reply' _ _ hagree h₁ ↦ ?_
    obtain ⟨hsame, hnext⟩ := hprogram.2 reply reply' hagree
    rw [← hsame]
    exact ih reply hnext h₁

variable (hhost : host.Indifferent Like Shown)
include hhost

/-! ## Members -/

namespace Binding

theorem readAll_twins (binding : Binding) (names : List String) (h : bridge.Twins Like c bridge') :
    Run.Twins Like c (fun values values' ↦ values' = values ∧ ∀ entry ∈ values, Shown entry.2)
      (binding.readAll host answer names) (binding.readAll (host.drawing draw) answer' names) frame
      bridge bridge' := by
  induction names generalizing bridge bridge' with
  | nil => exact .pure h ⟨rfl, by simp⟩
  | cons name names ih =>
    refine .bind (Native.run_twins hanswer (hhost.get binding.object name) h) ?_
    rintro value _ _ _ ⟨rfl, hvalue⟩ h₁
    refine .bind (ih h₁) ?_
    rintro values _ _ _ ⟨rfl, hvalues⟩ h₂
    exact .pure h₂ ⟨rfl, List.forall_mem_cons.mpr ⟨hvalue, hvalues⟩⟩

theorem values_twins (binding : Binding) (h : bridge.Twins Like c bridge') :
    Run.Twins Like c (fun values values' ↦ values' = values ∧ ∀ entry ∈ values, Shown entry.2)
      (binding.values host answer) (binding.values (host.drawing draw) answer') frame bridge
      bridge' :=
  readAll_twins hanswer hhost binding _ h

theorem set_twins (binding : Binding) (name : String) (value : Value)
    (h : bridge.Twins Like c bridge') :
    Run.Twins Like c (fun a a' ↦ a' = a) (binding.set host answer name value)
      (binding.set (host.drawing draw) answer' name value) frame bridge bridge' := by
  have hsurface : (host.drawing draw).surfaceOf binding.object =
      host.surfaceOf binding.object := rfl
  unfold Binding.set
  rw [hsurface]
  split
  · exact (Native.run_twins hanswer (hhost.set _ _ _) h).mono fun _ _ ↦ And.left
  · exact .pure h rfl
  · exact .pure h rfl

theorem invoke_twins (binding : Binding) (name : String) (args : List Value)
    (h : bridge.Twins Like c bridge') :
    Run.Twins Like c (fun a a' ↦ a' = a ∧ a.Shows Shown) (binding.invoke host answer name args)
      (binding.invoke (host.drawing draw) answer' name args) frame bridge bridge' := by
  have hsurface : (host.drawing draw).surfaceOf binding.object =
      host.surfaceOf binding.object := rfl
  unfold Binding.invoke
  rw [hsurface]
  split
  · split
    · exact .pure h ⟨rfl, nofun⟩
    · exact Native.run_twins hanswer (hhost.invoke _ _ _) h
  · exact .pure h ⟨rfl, nofun⟩

end Binding

theorem Host.make_twins (typeName : String) (args : List Value) (h : bridge.Twins Like c bridge') :
    Run.Twins Like c (fun a a' ↦ a' = a) (host.make answer typeName args)
      ((host.drawing draw).make answer' typeName args) frame bridge bridge' := by
  have hsurface : (host.drawing draw).surface typeName = host.surface typeName := rfl
  unfold Host.make
  rw [hsurface]
  split
  · exact .pure h rfl
  · split
    · exact .pure h rfl
    · exact (Native.run_twins hanswer (hhost.construct _ _) h).mono fun _ _ ↦ And.left

/-- An object takes messages that are no requests in one state if it does in the other, and the name
of the message makes no difference. -/
theorem Host.tell_twins (object : ObjectRef) (body : Option Json) {name name' : String}
    (hname : host.receive object ⟨name, body⟩ = host.receive object ⟨name', body⟩)
    (h : bridge.Twins Like c bridge') :
    Run.Twins Like c (fun a a' ↦ a' = a) (host.tell answer object ⟨name, body⟩)
      ((host.drawing draw).tell answer' object ⟨name', body⟩) frame bridge bridge' := by
  refine .get_bind ?_
  have hreceive : (host.drawing draw).receive object ⟨name', body⟩ =
      host.receive object ⟨name, body⟩ := hname.symm
  have hhooks : (host.drawing draw).hooks = host.hooks := rfl
  rw [hreceive, hhooks, h.native]
  split
  · exact (Native.run_twins hanswer (hhost.receive _ _) h).mono fun _ _ ↦ And.left
  · exact .pure h rfl

/-! ## Workers -/

omit hanswer hhost in
theorem Run.takeWaiting_twins (w : WorkerId) (h : bridge.Twins Like c bridge') :
    Run.Twins Like c (List.Forall₂ (Task.Twins Like)) (Run.takeWaiting w) (Run.takeWaiting w) frame
      bridge bridge' := by
  rw [Run.Twins, takeWaiting_run, takeWaiting_run]
  exact .some ⟨h.waitingOf w, h.withWaiting w .nil⟩

omit hanswer hhost in
theorem Run.takeFirst_twins (w : WorkerId) (h : bridge.Twins Like c bridge') :
    Run.Twins Like c (Option.Rel (Task.Twins Like)) (Run.takeFirst w) (Run.takeFirst w) frame
      bridge bridge' := by
  have hwaiting := h.waitingOf w
  rw [Run.Twins]
  cases htasks : bridge.waitingOf w <;> cases htasks' : bridge'.waitingOf w <;>
    rw [htasks, htasks'] at hwaiting <;> cases hwaiting
  · rw [takeFirst_run_idle htasks, takeFirst_run_idle htasks']
    exact .some ⟨.none, h⟩
  · next htask hrest =>
    rw [takeFirst_run_next htasks, takeFirst_run_next htasks']
    exact .some ⟨.some htask, h.withWaiting w hrest⟩

theorem Task.run_twins {task task' : Task} (htask : task.Twins Like task')
    (h : bridge.Twins Like c bridge') :
    Run.Twins Like c (fun _ _ ↦ True) (task.run host answer)
      (task'.run (host.drawing draw) answer') frame bridge bridge' := by
  have hreceive : ∀ object body name name',
      host.receive object ⟨name, body⟩ = host.receive object ⟨name', body⟩ →
        Run.Twins Like c (fun _ _ ↦ True) ((Task.receive object ⟨name, body⟩).run host answer)
          ((Task.receive object ⟨name', body⟩).run (host.drawing draw) answer') frame bridge
          bridge' := by
    intro object body name name' hname
    refine .bind (Host.tell_twins hanswer hhost object body hname h) ?_
    rintro _ finish _ _ rfl h₁
    cases finish with
    | returned _ => exact .pure h₁ trivial
    | panicked text => exact .say h₁ _ _ _ _
  cases htask with
  | receive object body hname =>
    exact hreceive object body _ _ (hhost.names object body _ _ hname)
  | same =>
    cases task with
    | receive object message => exact hreceive object message.body message.name message.name rfl
    | set binding property value =>
      refine .bind (Binding.set_twins hanswer hhost binding property value h) ?_
      rintro _ finish _ _ rfl h₁
      rcases finish with (_ | _) | text
      · exact .say h₁ _ _ _ _
      · exact .pure h₁ trivial
      · exact .say h₁ _ _ _ _
    | invoke binding method args =>
      refine .bind (Binding.invoke_twins hanswer hhost binding method args h) ?_
      rintro _ finish _ _ ⟨rfl, -⟩ h₁
      rcases finish with (_ | _) | text
      · exact .say h₁ _ _ _ _
      · exact .pure h₁ trivial
      · exact .say h₁ _ _ _ _

theorem Task.runAll_twins {tasks tasks' : List Task}
    (htasks : List.Forall₂ (Task.Twins Like) tasks tasks') (h : bridge.Twins Like c bridge') :
    Run.Twins Like c (fun _ _ ↦ True) (Task.runAll host answer tasks)
      (Task.runAll (host.drawing draw) answer' tasks') frame bridge bridge' := by
  induction htasks generalizing bridge bridge' with
  | nil => exact .pure h trivial
  | cons htask _ ih =>
    exact .bind (Task.run_twins hanswer hhost htask h) fun _ _ _ _ _ h₁ ↦ ih h₁

namespace Run

/-- Work that a worker is waited for. -/
theorem sync_twins {Same : α → β → Prop} {work : Run σ α} {work' : Run σ β} (w : WorkerId)
    (hwork : ∀ frame after after', after.Twins Like c after' →
      Run.Twins Like c Same work work' frame after after') (h : bridge.Twins Like c bridge') :
    Run.Twins Like c
      (fun result result' ↦ (∃ e, result = .error e ∧ result' = .error e) ∨
        ∃ a b, result = .ok a ∧ result' = .ok b ∧ Same a b)
      (Run.sync host answer w work) (Run.sync (host.drawing draw) answer' w work') frame bridge
      bridge' := by
  refine .read_bind (.get_bind ?_)
  dsimp only
  rw [h.labels w]
  split
  · exact .pure h (.inl ⟨_, rfl, rfl⟩)
  · split
    · exact .stuck
    · refine .within ?_
      refine .bind (takeWaiting_twins w h) fun _ _ _ _ htasks h₁ ↦ ?_
      refine .bind (Task.runAll_twins hanswer hhost htasks h₁) fun _ _ _ _ _ h₂ ↦ ?_
      refine .bind (hwork _ _ _ h₂) fun a b _ _ hsame h₃ ↦ ?_
      exact .pure h₃ (.inr ⟨a, b, rfl, rfl, hsame⟩)

theorem flush_twins (w : WorkerId) (h : bridge.Twins Like c bridge') :
    Run.Twins Like c (fun _ _ ↦ True) (Run.flush host answer w)
      (Run.flush (host.drawing draw) answer' w) frame bridge bridge' := by
  refine .read_bind ?_
  split
  · exact .pure h trivial
  · have hwork : ∀ frame after after', after.Twins Like c after' →
        Run.Twins Like c (fun _ _ ↦ True) (pure () : Run σ Unit) (pure () : Run σ Unit) frame after
          after' := fun _ _ _ h₁ ↦ .pure h₁ trivial
    exact .bind (sync_twins hanswer hhost w hwork h) fun _ _ _ _ _ h₁ ↦ .pure h₁ trivial

theorem advance_twins (w : WorkerId) (h : bridge.Twins Like c bridge') :
    Run.Twins Like c (fun _ _ ↦ True) (Run.advance host answer w)
      (Run.advance (host.drawing draw) answer' w) frame bridge bridge' := by
  refine .within (.bind (takeFirst_twins w h) ?_)
  rintro _ _ _ _ (htask | -) h₁
  · exact Task.run_twins hanswer hhost htask h₁
  · exact .pure h₁ trivial

end Run

end Natives

end ScriptBridge
