import ScriptBridge.Proofs.Posting.Trails

/-!
# Taking a message behind and ahead

A message is taken by a bridge that is behind and by one that is ahead. The result is the same, and
the first stays behind the second. This goes function by function along the path of a message: the
look-ups agree because nothing that waits can change what they look at, what is handed in here runs
there, and work that is waited for brings the two together.

One look-up need not agree. A call that waits may make the principal stop taking messages that are
no requests; then such a message is handed in here, and refused there. But the principal is asked
once more when the worker gets to the message, and by then it has stopped here, too. The one who
posts cannot tell the difference, as the refusal does not surface.

The answer to a message that waits may contain stubs, for which properties are read on the thread
that posts. Such an answer is only made after work has been waited for, when nothing is left in the
queue; so the stubs are made from the same native state on both sides.
-/

namespace ScriptBridge

variable {σ : Type} {allowed : BridgeCall → Prop} {host : Host σ} {answer : Answerer σ}
  {c : ChannelId} {w : WorkerId} {principal : ObjectRef} {frame : Frame}
  {bridge bridge' : Bridge σ}

namespace Bound.HeadedBy

variable {bound : Bound}

theorem resolve (h : bound.HeadedBy principal) (object : ObjectRef) :
    (Bound.resolve object bound).2.HeadedBy principal := by
  unfold Bound.resolve
  split
  · exact h
  · have hneg := h.next_neg
    refine ⟨?_, ?_⟩
    · intro binding hbinding
      have hne : (0 : Int) ≠ bound.nextReference := by omega
      rw [principal?, allocate, Table.get?_insert, if_neg hne] at hbinding
      exact h.principal binding hbinding
    · rw [allocate]
      dsimp only
      omega

theorem referAll (h : bound.HeadedBy principal) (objects : List ObjectRef) :
    (Bound.referAll objects bound).HeadedBy principal := by
  induction objects generalizing bound with
  | nil => exact h
  | cons object objects ih => exact ih (h.resolve object)

theorem put (h : bound.HeadedBy principal) {target : Int} (htarget : 0 < target)
    (binding : Binding) : (bound.put target binding).1.HeadedBy principal := by
  refine ⟨?_, h.next_neg⟩
  intro head hhead
  have hne : (0 : Int) ≠ target := by omega
  rw [principal?, Bound.put, Table.get?_insert, if_neg hne] at hhead
  exact h.principal head hhead

theorem remove (h : bound.HeadedBy principal) {target : Int} (htarget : target ≠ 0)
    (binding : Binding) : (bound.remove target binding).HeadedBy principal := by
  refine ⟨?_, h.next_neg⟩
  intro head hhead
  rw [principal?, Bound.remove, Table.get?_erase, if_neg htarget.symm] at hhead
  exact h.principal head hhead

end Bound.HeadedBy

/-- The line that reports the failure of a message. -/
def BridgeError.reported : BridgeError → Line
  | .malformedMessage reason => .ofBridge .trace ("message dropped: " ++ reason)
  | e =>
    if e.isAnomaly then .ofBridge .warn ("message dropped: " ++ e.message)
    else .ofBridge .error ("native call failed: " ++ e.message)

theorem ChannelId.report_run (e : BridgeError) :
    (report e : Run σ Unit) frame bridge = some ((), bridge.logged [e.reported]) := by
  cases e <;> rfl

section Members

open Bridge (Lags Even)

variable
  (hallowed : ∀ request, allowed request → (answer request).Aloof (host.TakesRaw principal) c w)
  (hhost : host.Heeds allowed principal)
include hallowed hhost

/-! ## Looking up -/

namespace Bridge.Lags

/-- Both sides have the same record of the channel. -/
theorem channel_eq (h : Lags host answer c w principal bridge bridge') :
    bridge'.channels.get? c = bridge.channels.get? c := by
  have hown := (h.own hallowed hhost).1
  rw [own_withWaiting] at hown
  exact congrArg Prod.fst hown

theorem boundOf_eq (h : Lags host answer c w principal bridge bridge') :
    bridge'.boundOf c = bridge.boundOf c := by
  rw [boundOf, boundOf, h.channel_eq hallowed hhost]

omit hallowed hhost in
theorem headedBy (h : Lags host answer c w principal bridge bridge') {bound : Bound}
    (hbound : bridge.boundOf c = some bound) : bound.HeadedBy principal :=
  h.serves.bound bound hbound

end Bridge.Lags

/-! ## Values on their way to scripts -/

namespace ChannelId

/-- Both sides change their tables in the same way, and log it. -/
private theorem setBound_sayAll_together (h : Even host answer c w principal bridge bridge')
    {bound : Bound} (hbound : bound.HeadedBy principal) (lines : List Line) {α : Type} (a : α) :
    (do
      Run.setBound c (some bound)
      Run.sayAll lines
      return a : Run σ α).Together
      (do
        Run.setBound c (some bound)
        Run.sayAll lines
        return a) frame bridge bridge' fun _ ↦ Even host answer c w principal := by
  refine (h.lags.setBound hallowed hhost fun b hb ↦ Option.some.inj hb ▸ hbound).bind ?_
  rintro - mid mid' ⟨hmid, hwaiting⟩
  refine (hmid.sayAll hallowed hhost lines).bind ?_
  rintro - after after' ⟨hafter, hwaiting'⟩
  exact .pure ⟨hafter, by rw [hwaiting', hwaiting, h.idle]⟩

theorem literal_together (h : Even host answer c w principal bridge bridge')
    (engine : EngineLiterals) (value : Value) :
    (literal c engine value).Together (literal c engine value) frame bridge bridge'
      fun _ ↦ Even host answer c w principal := by
  refine .bound?_bind (h.lags.boundOf_eq hallowed hhost) ?_
  cases hbound : bridge.boundOf c with
  | none => exact .pure h
  | some bound =>
    have hafter : (Bound.literal engine value bound).2.HeadedBy principal := by
      rw [Bound.literal_state]
      exact (h.lags.headedBy hbound).referAll _
    exact setBound_sayAll_together hallowed hhost h hafter _ _

theorem stub?_together (h : Even host answer c w principal bridge bridge')
    (engine : EngineLiterals) (target : StubTarget) (binding : Binding)
    (values : List (String × Value)) :
    (stub? host c engine target binding values).Together
      (stub? host c engine target binding values) frame bridge bridge'
        fun _ ↦ Even host answer c w principal := by
  have hnative : bridge'.native = bridge.native :=
    congrArg (·.native) (h.unlogged_eq).symm
  refine .get_bind ?_
  rw [h.lags.channel_eq hallowed hhost, hnative]
  cases hchannel : bridge.channels.get? c with
  | none => exact .pure h
  | some channel =>
    dsimp only
    cases hbound : channel.bound with
    | none => exact .pure h
    | some bound =>
      have hboundOf : bridge.boundOf c = some bound := by simp [Bridge.boundOf, hchannel, hbound]
      have hafter : (stubOf host engine bridge.native channel target binding values
          bound).2.HeadedBy principal := by
        rw [stubOf, Bound.stubFor_state]
        exact (h.lags.headedBy hboundOf).referAll _
      exact setBound_sayAll_together hallowed hhost h hafter _ _

theorem drain_together (h : Even host answer c w principal bridge bridge')
    (engine : EngineLiterals) (patience : Nat) :
    (drain host answer c engine patience).Together (drain host answer c engine patience) frame
      bridge bridge' fun _ ↦ Even host answer c w principal := by
  induction patience generalizing bridge bridge' with
  | zero => exact .stuck _
  | succ patience ih =>
    refine .bound?_bind (h.lags.boundOf_eq hallowed hhost) ?_
    cases hbound : bridge.boundOf c with
    | none => exact .pure h
    | some bound =>
      dsimp only
      cases hpending : bound.pending with
      | nil => exact .pure h
      | cons next rest =>
        have hheaded := h.lags.headedBy hbound
        refine (h.lags.setBound hallowed hhost ?_).bind ?_
        · rintro _ ⟨⟩
          exact ⟨hheaded.principal, hheaded.next_neg⟩
        · rintro - mid mid' ⟨hmid, hwaiting⟩
          -- nothing waits, so the getters run in the same native state on both sides:
          have hvalues := Binding.values_aloof (c := c) (w := w) hallowed hhost next.binding
          have heven : Even host answer c w principal mid mid' := ⟨hmid, hwaiting.trans h.idle⟩
          refine (heven.work hvalues).bind ?_
          intro values mid₁ mid₁' hmid₁
          refine (stub?_together hallowed hhost hmid₁ _ _ _ _).bind ?_
          intro source mid₂ mid₂' hmid₂
          cases source with
          | none => exact .pure hmid₂
          | some source => exact (ih hmid₂).bind fun sources _ _ hafter ↦ .pure hafter

/-- **An expression is the same on both sides, once nothing waits.** -/
theorem expression_together (h : Even host answer c w principal bridge bridge')
    (patience : Nat) (value : Value) :
    (expression host answer patience c value).Together (expression host answer patience c value)
      frame bridge bridge' fun _ ↦ Even host answer c w principal := by
  have hsame := h.unlogged_eq
  have hengine : bridge.engine = bridge'.engine := by
    have hunlogged : bridge.unlogged.engine = bridge'.unlogged.engine := by rw [hsame]
    exact hunlogged
  have hliterals : (Run.engineLiterals : Run σ EngineLiterals).Together Run.engineLiterals frame
      bridge bridge' fun _ ↦ Even host answer c w principal :=
    .of_runs Run.engineLiterals_run (hengine ▸ Run.engineLiterals_run) h
  refine hliterals.bind fun engine mid mid' hmid ↦ ?_
  refine (literal_together hallowed hhost hmid engine value).bind fun text mid₁ mid₁' hmid₁ ↦ ?_
  exact (drain_together hallowed hhost hmid₁ engine patience).bind
    fun sources _ _ hafter ↦ .pure hafter

end ChannelId

/-! ## Handing in -/

namespace Handing

/-- A call is handed in. -/
theorem submit_together (h : Lags host answer c w principal bridge bridge') (n : Nat)
    (task : Task) :
    ((lagging host answer n).submit w task).Together ((atOnce host answer).submit w task) frame
      bridge bridge' fun _ ↦ Lags host answer c w principal := by
  obtain ⟨mid, hadvances, hmid⟩ := h.advances hallowed hhost n
  exact .of_left hadvances (hmid.submit hallowed hhost task)

/-- Work is handed in and waited for. -/
theorem sync_together {α : Type} {flag : σ → Prop}
    (h : Lags host answer c w principal bridge bridge') (hframe : frame.Outside w) (n : Nat)
    {work : Run σ α} (hwork : work.Aloof flag c w) :
    ((lagging host answer n).sync w work).Together ((atOnce host answer).sync w work) frame bridge
      bridge' fun _ ↦ Even host answer c w principal := by
  obtain ⟨mid, hadvances, hmid⟩ := h.advances hallowed hhost n
  exact .of_left hadvances (hmid.sync hallowed hhost hframe hwork)

/-! ## Taking messages -/

/-- A message that is no request is handed in here, and there its object does not take it. -/
theorem submit_declined (h : Lags host answer c w principal bridge bridge') (n : Nat)
    (message : Message) (hdeclined : ¬ host.TakesRaw principal bridge'.native) :
    ∃ after, (lagging host answer n).submit w (.receive principal message) frame bridge =
        some ((), after) ∧ Lags host answer c w principal after bridge' := by
  have htell : host.tell answer principal message (frame.enter w) bridge' =
      some (.returned (), bridge') := by
    rw [Host.tell_run]
    exact if_neg hdeclined
  have hrun : (Task.receive principal message).run host answer (frame.enter w) bridge' =
      some ((), bridge') := Run.bind_run htell
  have hnothing : (atOnce host answer).submit w (.receive principal message) frame bridge' =
      some ((), bridge') := hrun
  obtain ⟨_, after, hsubmit, -, hafter⟩ :=
    (submit_together hallowed hhost h n _).left_run hnothing
  exact ⟨after, hsubmit, hafter⟩

/-- What is forwarded there is forwarded here. -/
theorem forward_paired (h : Lags host answer c w principal bridge bridge') (n : Nat)
    (message : Message) :
    (forward host (lagging host answer n) c message).Paired
      (forward host (atOnce host answer) c message) frame bridge bridge'
        fun forwarded forwarded' after after' ↦ (forwarded' = true → forwarded = true) ∧
          Lags host answer c w principal after after' := by
  refine .get_bind ?_
  rw [h.channel_eq hallowed hhost]
  cases hchannel : bridge.channels.get? c with
  | none => exact .pure ⟨id, h⟩
  | some channel =>
    dsimp only
    cases hhead : channel.bound.bind (·.principal?) with
    | none => exact .pure ⟨id, h⟩
    | some head =>
      obtain ⟨bound, hbound, hprincipal⟩ := Option.bind_eq_some_iff.mp hhead
      have hboundOf : bridge.boundOf c = some bound := by simp [Bridge.boundOf, hchannel, hbound]
      have hobject : head.object = principal := (h.headedBy hboundOf).principal head hprincipal
      have hkept : (host.hooks bridge'.native principal).takesRaw = true →
          (host.hooks bridge.native principal).takesRaw = true := (h.own hallowed hhost).2
      dsimp only
      rw [hobject, h.serves.channel channel hchannel]
      by_cases hhere : (host.hooks bridge.native principal).takesRaw = true
      · rw [if_pos hhere]
        by_cases hthere : (host.hooks bridge'.native principal).takesRaw = true
        · rw [if_pos hthere]
          exact (submit_together hallowed hhost h n _).bind_paired
            fun _ _ _ hafter ↦ .pure ⟨id, hafter⟩
        · rw [if_neg hthere]
          obtain ⟨after, hsubmit, hafter⟩ := submit_declined hallowed hhost h n message hthere
          unfold Run.Paired
          rw [Run.bind_run hsubmit]
          exact .some ⟨fun _ ↦ rfl, hafter⟩
      · rw [if_neg hhere, if_neg (mt hkept hhere)]
        exact .pure ⟨id, h⟩

/-- The initializer runs behind all that waits, and the instance is put in on both sides. -/
theorem create_together (h : Lags host answer c w principal bridge bridge')
    (hframe : frame.Outside w) (n : Nat) (request : Request) :
    (create host answer (lagging host answer n) c w request).Together
      (create host answer (atOnce host answer) c w request) frame bridge bridge'
        fun _ ↦ Lags host answer c w principal := by
  unfold create
  split
  · exact .pure h
  · next htarget =>
    refine .bound?_bind (h.boundOf_eq hallowed hhost) ?_
    cases bridge.boundOf c with
    | none => exact .pure h
    | some bound =>
      dsimp only
      cases bound.principal? with
      | none => exact .pure h
      | some head =>
        refine (sync_together hallowed hhost h hframe n
          (Host.make_aloof hallowed hhost head.object.typeName _)).bind ?_
        intro made mid mid' hmid
        split
        · exact .pure hmid.lags
        · next object _ =>
          refine .bound?_bind (hmid.lags.boundOf_eq hallowed hhost) ?_
          cases hbound : mid.boundOf c with
          | none => exact .pure hmid.lags
          | some bound =>
            have hheaded := hmid.lags.headedBy hbound
            refine (hmid.lags.setBound hallowed hhost ?_).bind ?_
            · rintro _ ⟨⟩
              exact hheaded.put (by omega) _
            · rintro - mid₁ mid₁' ⟨hmid₁, -⟩
              refine hmid₁.say_if hallowed hhost fun after after' hafter ↦ ?_
              exact (hafter.say hallowed hhost _ _).bind fun _ _ _ hsaid ↦ .pure hsaid

/-- An instance is given up on both sides. -/
theorem unbind_together (h : Lags host answer c w principal bridge bridge') :
    (ChannelId.unbind c : Run σ Unit).Together (ChannelId.unbind c) frame bridge bridge'
      fun _ ↦ Lags host answer c w principal := by
  refine .bound?_bind (h.boundOf_eq hallowed hhost) ?_
  cases bridge.boundOf c with
  | none => exact .pure h
  | some bound =>
    refine (h.setBound hallowed hhost (by simp)).bind ?_
    rintro - mid mid' ⟨hmid, -⟩
    refine (hmid.changeHandlers hallowed hhost (·.erase bound.identifier)).bind ?_
    exact fun _ _ _ hmid₁ ↦ hmid₁.say hallowed hhost _ _

theorem dispose_together (h : Lags host answer c w principal bridge bridge') (target : Int) :
    (ChannelId.dispose c target : Run σ Unit).Together (ChannelId.dispose c target) frame bridge
      bridge' fun _ ↦ Lags host answer c w principal := by
  unfold ChannelId.dispose
  split
  · exact unbind_together hallowed hhost h
  · next htarget =>
    refine .bound?_bind (h.boundOf_eq hallowed hhost) ?_
    cases hbound : bridge.boundOf c with
    | none => exact .pure h
    | some bound =>
      dsimp only
      cases bound.instances.get? target with
      | none => exact .pure h
      | some binding =>
        refine (h.setBound hallowed hhost ?_).bind ?_
        · rintro _ ⟨⟩
          exact (h.headedBy hbound).remove htarget binding
        · rintro - mid mid' ⟨hmid, -⟩
          exact hmid.say hallowed hhost _ _

/-- A reply that gives a value leaves nothing waiting. -/
private def Replied (host : Host σ) (answer : Answerer σ) (c : ChannelId) (w : WorkerId)
    (principal : ObjectRef) (result : Except BridgeError (Option Value))
    (after after' : Bridge σ) : Prop :=
  Lags host answer c w principal after after' ∧
    ∀ value, result = .ok (some value) → after.waitingOf w = []

omit hallowed hhost in
/-- A reply that gives no value. -/
private theorem Replied.of_lags {result : Except BridgeError (Option Value)}
    (h : Lags host answer c w principal bridge bridge')
    (hresult : ∀ value, result ≠ .ok (some value)) :
    Replied host answer c w principal result bridge bridge' :=
  ⟨h, fun value hvalue ↦ absurd hvalue (hresult value)⟩

/-- A message has been taken with the same result, or it was handed to the principal here, and
refused there without the one who posted learning of it. -/
private def Taken (host : Host σ) (answer : Answerer σ) (c : ChannelId) (w : WorkerId)
    (principal : ObjectRef) (result result' : Except BridgeError (Option Value))
    (after after' : Bridge σ) : Prop :=
  (result = result' ∧ Replied host answer c w principal result after after') ∨
    (result = .ok none ∧ (∃ e, result' = .error e ∧ e.surfaces = false) ∧
      Lags host answer c w principal after after')

theorem reach_together (h : Lags host answer c w principal bridge bridge')
    (hframe : frame.Outside w) (n : Nat) (binding : Binding) (name : String)
    (operand : Option Json) (waits : Bool) :
    (reach host answer (lagging host answer n) c w binding name operand waits).Together
      (reach host answer (atOnce host answer) c w binding name operand waits) frame bridge bridge'
        (Replied host answer c w principal) := by
  unfold reach
  split
  · exact (submit_together hallowed hhost h n _).bind fun _ _ _ hafter ↦
      .pure (.of_lags hafter (by simp))
  · split
    · refine (sync_together hallowed hhost h hframe n
        (Binding.invoke_aloof hallowed hhost binding name _)).bind ?_
      exact fun outcome _ _ hafter ↦ .pure ⟨hafter.lags, fun _ _ ↦ hafter.idle⟩
    · exact (submit_together hallowed hhost h n _).bind fun _ _ _ hafter ↦
        .pure (.of_lags hafter (by simp))
  · exact .pure (.of_lags h (by simp))

theorem serve_paired (h : Lags host answer c w principal bridge bridge')
    (hframe : frame.Outside w) (n : Nat) (message : Message) (request : Request) (waits : Bool) :
    (serve host answer (lagging host answer n) c w message request waits).Paired
      (serve host answer (atOnce host answer) c w message request waits) frame bridge bridge'
        (Taken host answer c w principal) := by
  unfold serve
  dsimp only
  split
  · refine (create_together hallowed hhost h hframe n request).bind_paired ?_
    intro made _ _ hafter
    exact .pure (.inl ⟨rfl, .of_lags hafter (by cases made <;> simp [Except.map])⟩)
  · refine .bound?_bind (h.boundOf_eq hallowed hhost) ?_
    split
    · refine (forward_paired hallowed hhost h n message).bind ?_
      rintro forwarded forwarded' _ _ ⟨hkept, hafter⟩
      cases forwarded <;> cases forwarded'
      · exact .pure (.inl ⟨rfl, .of_lags hafter (by simp)⟩)
      · simp at hkept
      · exact .pure (.inr ⟨rfl, ⟨_, rfl, rfl⟩, hafter⟩)
      · exact .pure (.inl ⟨rfl, .of_lags hafter (by simp)⟩)
    · next binding _ =>
      split
      · exact Run.Paired.mono (reach_together hallowed hhost h hframe n binding _ _ waits)
          fun _ _ _ _ hreplied ↦ .inl hreplied
      · exact (dispose_together hallowed hhost h request.target).bind_paired fun _ _ _ hafter ↦
          .pure (.inl ⟨rfl, .of_lags hafter (by simp)⟩)

theorem understand_paired (h : Lags host answer c w principal bridge bridge')
    (hframe : frame.Outside w) (n : Nat) (message : Message) (waits : Bool) :
    (understand host answer (lagging host answer n) c w message waits).Paired
      (understand host answer (atOnce host answer) c w message waits) frame bridge bridge'
        (Taken host answer c w principal) := by
  unfold understand
  split
  · next request _ => exact serve_paired hallowed hhost h hframe n message request waits
  · next malformation _ =>
    dsimp only
    split
    · exact .pure (.inl ⟨rfl, .of_lags h (by simp)⟩)
    · refine (forward_paired hallowed hhost h n message).bind ?_
      rintro forwarded forwarded' _ _ ⟨hkept, hafter⟩
      cases forwarded <;> cases forwarded'
      · exact .pure (.inl ⟨rfl, .of_lags hafter (by simp)⟩)
      · simp at hkept
      · exact .some (.inr ⟨rfl, ⟨_, rfl, rfl⟩, hafter.logged_left hallowed hhost _⟩)
      · exact (hafter.say hallowed hhost _ _).bind_paired fun _ _ _ hsaid ↦
          .pure (.inl ⟨rfl, .of_lags hsaid (by simp)⟩)

theorem handle_paired (h : Lags host answer c w principal bridge bridge')
    (hframe : frame.Outside w) (n : Nat) (message : Message) (waits : Bool) :
    (handle host answer (lagging host answer n) c message waits).Paired
      (handle host answer (atOnce host answer) c message waits) frame bridge bridge'
        (Taken host answer c w principal) := by
  refine .get_bind ?_
  rw [h.channel_eq hallowed hhost]
  cases hchannel : bridge.channels.get? c with
  | none => exact .pure (.inl ⟨rfl, .of_lags h (by simp)⟩)
  | some channel =>
    dsimp only
    rw [h.serves.channel channel hchannel]
    refine h.say_if hallowed hhost fun after after' hafter ↦ ?_
    exact understand_paired hallowed hhost hafter hframe n message waits

theorem report_together (h : Lags host answer c w principal bridge bridge') (e : BridgeError) :
    (ChannelId.report e : Run σ Unit).Together (ChannelId.report e) frame bridge bridge'
      fun _ ↦ Lags host answer c w principal :=
  .of_runs (ChannelId.report_run e) (ChannelId.report_run e)
    ((h.logged_left hallowed hhost _).logged_right _)

theorem dispatch_together (h : Lags host answer c w principal bridge bridge')
    (hframe : frame.Outside w) (n : Nat) (message : Message) :
    (dispatch host answer (lagging host answer n) c message).Together
      (dispatch host answer (atOnce host answer) c message) frame bridge bridge'
        fun _ ↦ Lags host answer c w principal := by
  refine Run.Paired.bind (handle_paired hallowed hhost h hframe n message false) ?_
  rintro result _ mid mid' (⟨rfl, hmid, -⟩ | ⟨rfl, ⟨e, rfl, -⟩, hmid⟩)
  · cases result with
    | ok value => exact .pure ⟨rfl, hmid⟩
    | error e => exact report_together hallowed hhost hmid e
  · -- the refusal is logged on one side only:
    exact Run.Together.of_runs rfl (ChannelId.report_run e) (hmid.logged_right _)

theorem ask_together (h : Lags host answer c w principal bridge bridge')
    (hframe : frame.Outside w) (n : Nat) (message : Message) :
    (ask host answer (lagging host answer n) c message).Together
      (ask host answer (atOnce host answer) c message) frame bridge bridge'
        (Replied host answer c w principal) := by
  refine Run.Paired.bind (handle_paired hallowed hhost h hframe n message true) ?_
  rintro result _ mid mid' (⟨rfl, hmid⟩ | ⟨rfl, ⟨e, rfl, hsurfaces⟩, hmid⟩)
  · cases result with
    | ok value => exact .pure ⟨rfl, hmid⟩
    | error e =>
      refine (report_together hallowed hhost hmid.1 e).bind_paired fun _ _ _ hafter ↦ ?_
      exact .pure ⟨rfl, .of_lags hafter (by split <;> simp)⟩
  · refine Run.Together.of_runs rfl ?_ (.of_lags (hmid.logged_right [e.reported]) (by simp))
    refine (Run.bind_run (ChannelId.report_run e)).trans ?_
    rw [hsurfaces]
    rfl

/-- **A message that waits gets the same answer on both sides.** -/
theorem dispatchSync_together (h : Lags host answer c w principal bridge bridge')
    (hframe : frame.Outside w) (n patience : Nat) (message : Message) :
    (dispatchSync host answer (lagging host answer n) patience c message).Together
      (dispatchSync host answer (atOnce host answer) patience c message) frame bridge bridge'
        fun _ ↦ Lags host answer c w principal := by
  refine (ask_together hallowed hhost h hframe n message).bind ?_
  rintro result mid mid' ⟨hmid, hreplied⟩
  split
  · next value =>
    have heven : Even host answer c w principal mid mid' := ⟨hmid, hreplied value rfl⟩
    refine (ChannelId.expression_together hallowed hhost heven patience value).bind ?_
    exact fun _ _ _ hafter ↦ .pure hafter.lags
  · exact .pure hmid
  · exact .pure hmid

end Handing

/-! ## Posting messages -/

namespace Post

theorem take_together (h : Lags host answer c w principal bridge bridge') (hframe : frame.Outside w)
    (n patience : Nat) (post : Post) :
    (post.take host answer patience c (.lagging host answer n)).Together
      (post.take host answer patience c (.atOnce host answer)) frame bridge bridge'
        fun _ ↦ Lags host answer c w principal := by
  unfold take
  split
  · exact (Handing.dispatchSync_together hallowed hhost h hframe n patience _).bind
      fun _ _ _ hafter ↦ .pure hafter
  · exact (Handing.dispatch_together hallowed hhost h hframe n _).bind
      fun _ _ _ hafter ↦ .pure hafter

/-- **However far the worker falls behind**, the posts get the same replies as when each is done at
once, and the bridge goes on trailing the one in which they are. -/
theorem takeAll_together (posts : List Post) (h : Lags host answer c w principal bridge bridge')
    (hframe : frame.Outside w) (patience : Nat) :
    (takeAll host answer patience c w posts).Together (takeAllAtOnce host answer patience c posts)
      frame bridge bridge' fun _ ↦ Lags host answer c w principal := by
  induction posts generalizing bridge bridge' with
  | nil => exact .pure h
  | cons post posts ih =>
    obtain ⟨mid, hadvances, hmid⟩ := h.advances hallowed hhost post.before
    refine .of_left hadvances ?_
    refine (take_together hallowed hhost hmid hframe post.meanwhile patience post).bind ?_
    intro reply mid₁ mid₁' hmid₁
    exact (ih hmid₁).bind fun replies _ _ hafter ↦ .pure hafter

end Post

end Members

end ScriptBridge
