import Mathlib.Data.List.Perm.Subperm
import ScriptBridge.Proofs.Bindings.Tenancy
import ScriptBridge.Proofs.Messages.Errands
import ScriptBridge.Proofs.Runs.Names
import ScriptBridge.Proofs.Runs.Practices

/-!
# What the bridge does is a history of each channel

The tables of a channel change where the bridge holds them, and between two such changes other code
runs, which may call the bridge and so bind and unbind the channel. Here each operation of the
running bridge is cut at these points: up to a cut it *leaves* with something in hand, behind it, it
*comes back* with something to be done to the tables that it finds. With the cuts made, whatever the
bridge does, however deep its calls nest, is a stretch of the history of any channel that is looked
at (`Bridge.answer_passes`), and `Tenancy.History.kept` says to which bindings the operations come
back. A binding starts in such a stretch only where a call asks for one; so what the bridge does
while the channel is not bound anew gets nothing into its tables that does not belong there
(`Bridge.Passes.stays`).

## Bound again meanwhile

An initializer that unbinds its channel and binds it elsewhere gets its instance into the tables of
the new binding, at a place of the old one, and a function that was handed over under one binding is
completed under another (`later_binding_reached`). Whether the channel is bound is looked up behind
each cut; whether it is still the same binding is not.
-/

namespace ScriptBridge

open Bridge (Course Practice)

variable {σ α : Type} {binds : Prop} {c : ChannelId} {host : Host σ} {answer : Answerer σ}
  {allowed : BridgeCall → Prop} {frame : Frame} {bridge bridge' mid : Bridge σ}

/-! ## Stretches of a history -/

namespace Bridge

/-- Something happens to the bindings of a channel, and what was under way still is. A binding starts
meanwhile only if `binds` holds. -/
def Passes (binds : Prop) (c : ChannelId) (bridge bridge' : Bridge σ) : Prop :=
  ∀ s : Tenancy, s.bound = bridge.boundOf c → ∃ events s', s.History events s' ∧
    s'.bound = bridge'.boundOf c ∧ s.away.Subperm s'.away ∧ (binds ∨ Tenancy.Quiet events)

namespace Passes

/-- The channel is bound as it was. -/
theorem of_eq (h : bridge'.boundOf c = bridge.boundOf c) : bridge.Passes binds c bridge' :=
  fun s hs ↦ ⟨[], s, .refl s, hs.trans h.symm, .refl _, .inr (List.forall_mem_nil _)⟩

theorem trans {bridge'' : Bridge σ} (h : bridge.Passes binds c bridge')
    (h' : bridge'.Passes binds c bridge'') : bridge.Passes binds c bridge'' := by
  intro s hs
  obtain ⟨events, s', hhistory, hbound, haway, hquiet⟩ := h s hs
  obtain ⟨events', s'', hhistory', hbound', haway', hquiet'⟩ := h' s' hbound
  refine ⟨_, s'', hhistory.trans hhistory', hbound', haway.trans haway', ?_⟩
  exact hquiet.elim .inl fun hquiet ↦ hquiet'.imp_right hquiet.append

/-- An operation is away while something else happens, and comes back to what it finds. -/
theorem away {s left : Tenancy} {events : List Tenancy.Event} {term : Term} {x : Excursion}
    (hleave : s.History events left) (hleft : left.away = s.away ++ [(term, x)])
    (hevents : binds ∨ Tenancy.Quiet events) {bridge₁ : Bridge σ}
    (hbound : left.bound = bridge₁.boundOf c) (hgap : bridge₁.Passes binds c mid)
    (hback : bridge'.boundOf c = mid.boundOf c ∨
      ∃ result : Return x, bridge'.boundOf c = (mid.boundOf c).bind result.act) :
    ∃ events s', s.History events s' ∧ s'.bound = bridge'.boundOf c ∧
      s.away.Subperm s'.away ∧ (binds ∨ Tenancy.Quiet events) := by
  obtain ⟨events', there, hthere, hfound, haway, hquiet⟩ := hgap left hbound
  rw [hleft] at haway
  have hmem : (term, x) ∈ there.away := haway.subset (List.mem_append_right _ List.mem_cons_self)
  have hothers : s.away.Subperm (there.away.erase (term, x)) := by
    have hperm := (List.perm_append_singleton (term, x) s.away).erase (term, x)
    rw [List.erase_cons_head] at hperm
    exact hperm.symm.subperm.trans (haway.erase (term, x))
  have hhistory := hleave.trans hthere
  have hboth : binds ∨ Tenancy.Quiet (events ++ events') :=
    hevents.elim .inl fun hevents ↦ hquiet.imp_right hevents.append
  rcases hback with hsame | ⟨result, hact⟩
  · exact ⟨_, _, hhistory.next (.forgo hmem), hfound.trans hsame.symm, hothers,
      hboth.imp_right fun hboth ↦ hboth.append (Tenancy.Quiet.single rfl)⟩
  · exact ⟨_, _, hhistory.next (.back hmem result), by rw [hact, ← hfound], hothers,
      hboth.imp_right fun hboth ↦ hboth.append (Tenancy.Quiet.single rfl)⟩

/-- **An operation that lets go of the tables and comes back to them.** -/
theorem excursion {bridge₁ : Bridge σ} {bound bound' : Bound} {x : Excursion}
    (hbound : bridge.boundOf c = some bound) (hlets : bound.Lets x bound')
    (hleft : bridge₁.boundOf c = some bound') (hgap : bridge₁.Passes binds c mid)
    (hback : bridge'.boundOf c = mid.boundOf c ∨
      ∃ result : Return x, bridge'.boundOf c = (mid.boundOf c).bind result.act) :
    bridge.Passes binds c bridge' := fun s hs ↦
  away ((Tenancy.History.refl s).next (.leave (hs.trans hbound) hlets)) rfl
    (.inr (Tenancy.Quiet.single rfl)) hleft.symm hgap hback

/-- **A binding that starts, and whose stub is then injected.** -/
theorem start {bridge₁ : Bridge σ} {identifier place : String} {object : ObjectRef}
    {showing : Showing} (hbinds : binds) (hunbound : bridge.boundOf c = none)
    (hleft : bridge₁.boundOf c =
      some (showing.stub (.plugin place) place (.start identifier place object)).2)
    (hgap : bridge₁.Passes binds c mid)
    (hback : bridge'.boundOf c = mid.boundOf c ∨ bridge'.boundOf c = none) :
    bridge.Passes binds c bridge' := fun s hs ↦
  away ((Tenancy.History.refl s).next (.start (hs.trans hunbound) rfl)) rfl (.inl hbinds) hleft.symm
    hgap (hback.imp_right fun hnone ↦ ⟨.refused, by rw [hnone]; cases mid.boundOf c <;> rfl⟩)

theorem finish {bound : Bound} (hbound : bridge.boundOf c = some bound)
    (hnone : bridge'.boundOf c = none) : bridge.Passes binds c bridge' := fun s hs ↦
  ⟨_, _, (Tenancy.History.refl s).next (.finish (hs.trans hbound)), hnone.symm, .refl _,
    .inr (Tenancy.Quiet.single rfl)⟩

end Passes

theorem passes_course (binds : Prop) (c : ChannelId) :
    Course (Passes binds c : Bridge σ → Bridge σ → Prop) where
  refl _ := .of_eq rfl
  trans := .trans
  aside hchannels _ := .of_eq (by rw [boundOf, hchannels, boundOf])

end Bridge

open Bridge (Passes passes_course)

namespace ChannelId

/-! ## Where no other code runs -/

theorem literal_passes (id : ChannelId) (engine : EngineLiterals) (value : Value) :
    (literal id engine value : Run σ String).Obeys (Passes binds c) frame bridge := by
  intro text bridge' h
  cases hbound : bridge.boundOf id with
  | none =>
    rw [literal, Run.bind_run (Run.bound?_run id), hbound] at h
    cases h
    exact .of_eq rfl
  | some bound =>
    rw [literal_run hbound] at h
    cases h
    by_cases hc : c = id
    · subst hc
      refine .excursion hbound .reply hbound (.of_eq rfl) (.inr ⟨.found engine value, ?_⟩)
      rw [Bridge.boundOf_logged, Bridge.boundOf_withBound (by simp [hbound]), hbound]
      rfl
    · refine .of_eq ?_
      rw [Bridge.boundOf_logged, Bridge.boundOf_withBound_of_ne hc]

theorem unbind_passes (id : ChannelId) :
    (unbind id : Run σ Unit).Obeys (Passes binds c) frame bridge := by
  refine .bound?_bind ?_
  split
  · exact (passes_course binds c).pure _
  · next bound hbound =>
    rintro _ _ ⟨⟩
    by_cases hc : c = id
    · subst hc
      exact .finish hbound (Bridge.boundOf_withBound (by simp [hbound]) none)
    · exact .of_eq (Bridge.boundOf_withBound_of_ne hc none bridge)

theorem dispose_passes (id : ChannelId) (target : Int) :
    (dispose id target : Run σ Unit).Obeys (Passes binds c) frame bridge := by
  unfold dispose
  split
  · exact unbind_passes id
  · next htarget =>
    refine .bound?_bind ?_
    split
    · exact (passes_course binds c).pure _
    · next bound hbound =>
      split
      · exact (passes_course binds c).pure _
      · next binding hbinding =>
        rintro _ _ ⟨⟩
        by_cases hc : c = id
        · subst hc
          have hafter : (bridge.withBound c (some (bound.remove target binding))).boundOf c =
              some (bound.remove target binding) :=
            Bridge.boundOf_withBound (by simp [hbound]) _
          have hlets : bound.Lets (.dispose target) bound := .dispose (by simp [hbinding])
          refine .excursion hbound hlets hbound (.of_eq rfl) (.inr ⟨.disposed, hafter.trans ?_⟩)
          simp [hbound, Return.act, htarget, hbinding]
        · exact .of_eq (Bridge.boundOf_withBound_of_ne hc _ bridge)

/-! ## Where other code runs -/

section Calls

variable (hanswer : answer.Covers host allowed (Passes binds c))
include hanswer

theorem values_passes (binding : Binding) :
    (binding.values host answer).Obeys (Passes binds c) frame bridge :=
  Binding.readAll_obeys (passes_course binds c) hanswer.obeys hanswer.calls _ _

/-- The showing from which the stub of an object is made. -/
def showing (host : Host σ) (engine : EngineLiterals) (s : σ) (channel : Channel)
    (binding : Binding) (values : List (String × Value)) : Showing where
  engine := engine
  urlPrefix := channel.urlPrefix
  surface := host.surfaceOf binding.object
  hooks := host.hooks s binding.object
  values := values

omit hanswer in
/-- A stub is made of the tables that are found. -/
theorem stub?_cases {id : ChannelId} {engine : EngineLiterals} {target : StubTarget}
    {binding : Binding} {values : List (String × Value)} {source : Option Source}
    (h : stub? host id engine target binding values frame bridge = some (source, bridge')) :
    ∃ showing : Showing, bridge'.boundOf id =
        (bridge.boundOf id).map (fun bound ↦ (showing.stub target binding.place bound).2) ∧
      ∀ c ≠ id, bridge'.boundOf c = bridge.boundOf c := by
  cases hbound : bridge.boundOf id with
  | none =>
    rw [stub?_run_of_unbound hbound] at h
    cases h
    exact ⟨⟨engine, "", ⟨"", .empty⟩, host.hooks bridge.native binding.object, []⟩, hbound,
      fun _ _ ↦ rfl⟩
  | some bound =>
    obtain ⟨channel, hchannel, hchannelBound⟩ := Option.bind_eq_some_iff.mp hbound
    rw [stub?_run hchannel hchannelBound] at h
    cases h
    refine ⟨showing host engine bridge.native channel binding values, ?_, fun c hc ↦ ?_⟩
    · rw [Bridge.boundOf_logged, Bridge.boundOf_withBound (by simp [hbound])]
      rfl
    · rw [Bridge.boundOf_logged, Bridge.boundOf_withBound_of_ne hc]

/-- **The getters of a pending object run between the cuts**, and its stub is made of the tables
that are found behind them. -/
theorem drain_passes (id : ChannelId) (engine : EngineLiterals) (patience : Nat) :
    (drain host answer id engine patience).Obeys (Passes binds c) frame bridge := by
  induction patience generalizing bridge with
  | zero => exact .stuck
  | succ patience ih =>
    cases hbound : bridge.boundOf id with
    | none =>
      intro sources bridge' h
      rw [drain_run_idle (fun bound hsome ↦ by simp [hbound] at hsome)] at h
      cases h
      exact .of_eq rfl
    | some bound =>
      cases hpending : bound.pending with
      | nil =>
        intro sources bridge' h
        rw [drain_run_idle fun bound' hsome ↦ by
          rw [hbound] at hsome
          cases hsome
          exact hpending] at h
        cases h
        exact .of_eq rfl
      | cons next rest =>
        intro sources bridge'' h
        rw [drain_run_next hbound hpending] at h
        obtain ⟨values, mid, hvalues, h⟩ := Run.of_bind_run h
        obtain ⟨source, bridge', hstub, h⟩ := Run.of_bind_run h
        have hgap := values_passes hanswer next.binding values mid hvalues
        obtain ⟨showing, hown, hothers⟩ := stub?_cases hstub
        have hround : bridge.Passes binds c bridge' := by
          by_cases hc : c = id
          · subst hc
            refine .excursion hbound (.stub hpending)
              (Bridge.boundOf_withBound (by simp [hbound]) _) hgap (.inr ⟨.shown showing, ?_⟩)
            rw [hown]
            cases mid.boundOf c <;> rfl
          · have hbefore := Bridge.boundOf_withBound_of_ne hc (some { bound with pending := rest })
              bridge
            exact (Passes.of_eq hbefore).trans (hgap.trans (.of_eq (hothers c hc)))
        refine hround.trans ?_
        cases source with
        | none =>
          cases h
          exact .of_eq rfl
        | some source =>
          obtain ⟨more, after, hmore, h⟩ := Run.of_bind_run h
          cases h
          exact ih more _ hmore

omit hanswer in
/-- An instance that was made is put into the tables that are found. -/
theorem produce_cases {id : ChannelId} {worker : WorkerId} {target : Int} {place typeName : String}
    {args : List Value} {outcome : Except BridgeError Unit}
    (h : produce host answer id worker target place typeName args frame bridge =
      some (outcome, bridge')) :
    ∃ made mid, Run.sync host answer worker (host.make answer typeName args) frame bridge =
        some (made, mid) ∧
      (bridge'.boundOf id = mid.boundOf id ∨ ∃ object, bridge'.boundOf id =
        (mid.boundOf id).map fun bound ↦ (bound.put target ⟨place, object⟩).1) ∧
      ∀ c ≠ id, bridge'.boundOf c = mid.boundOf c := by
  obtain ⟨made, mid, hmade, h⟩ := Run.of_bind_run h
  refine ⟨made, mid, hmade, ?_⟩
  cases hresult : made.bind Finish.result with
  | error e =>
    simp only [hresult] at h
    cases h
    exact ⟨.inl rfl, fun _ _ ↦ rfl⟩
  | ok object =>
    simp only [hresult] at h
    rw [Run.bind_run (Run.bound?_run id)] at h
    cases hthere : mid.boundOf id with
    | none =>
      rw [hthere] at h
      cases h
      exact ⟨.inl hthere, fun _ _ ↦ rfl⟩
    | some there =>
      rw [hthere] at h
      let after := (there.put target ⟨place, object⟩).1
      have hafter : ∀ c, bridge'.boundOf c = (mid.withBound id (some after)).boundOf c := by
        intro c
        obtain ⟨_, _, hset, h⟩ := Run.of_bind_run h
        cases hset
        split at h
        · cases h
          rfl
        · cases h
          rfl
      refine ⟨.inr ⟨object, ?_⟩, fun c hc ↦ ?_⟩
      · rw [hafter, Bridge.boundOf_withBound (by simp [hthere])]
        rfl
      · rw [hafter, Bridge.boundOf_withBound_of_ne hc]

/-- **The initializer of an instance runs between the cuts**, and the instance is put into the
tables that are found behind them. -/
theorem create_passes (id : ChannelId) (worker : WorkerId) (request : Request) :
    (create host answer id worker request).Obeys (Passes binds c) frame bridge := by
  have hpure : ∀ (outcome : Except BridgeError Unit) (bridge : Bridge σ),
      (pure outcome : Run σ _).Obeys (Passes binds c) frame bridge :=
    fun outcome _ ↦ (passes_course binds c).pure outcome
  unfold create
  split
  · exact hpure _ _
  · next htarget =>
    refine .bound?_bind ?_
    split
    · exact hpure _ _
    · next bound hbound =>
      split
      · exact hpure _ _
      · next principal _ =>
        intro outcome bridge' h
        obtain ⟨made, mid, hmade, hown, hothers⟩ := produce_cases h
        have hgap : bridge.Passes binds c mid :=
          Run.sync_obeys (passes_course binds c) hanswer.obeys hanswer.calls worker (fun _ _ ↦
            Host.make_obeys (passes_course binds c) hanswer.obeys hanswer.calls _ _) made mid hmade
        by_cases hc : c = id
        · subst hc
          have hlets : bound.Lets (.create request.target (bound.placeOf request.target))
              bound := .create (by omega)
          refine .excursion hbound hlets hbound hgap (hown.imp_right ?_)
          rintro ⟨object, hput⟩
          refine ⟨.made object, hput.trans ?_⟩
          cases mid.boundOf c <;> rfl
        · exact hgap.trans (.of_eq (hothers c hc))

/-- Apart from binding a channel, there is nothing more to it. -/
theorem practice : Practice host answer allowed (Passes binds c) where
  toCourse := passes_course binds c
  covers := hanswer
  literal id engine value _ _ := literal_passes id engine value
  drain id engine patience _ _ := drain_passes hanswer id engine patience
  create id worker request _ _ := create_passes hanswer id worker request
  dispose id target _ _ := dispose_passes id target

/-- **The stub of the principal is injected between the cuts**, and if it is refused, whatever
binding there is behind them ends. -/
theorem install_passes {patience : Nat} {engine : EngineLiterals} {identifier place : String}
    {source : Source} {object : ObjectRef} {showing : Showing} {bridge₁ : Bridge σ} (hbinds : binds)
    (hunbound : bridge.boundOf c = none)
    (hleft : bridge₁.boundOf c =
      some (showing.stub (.plugin place) place (.start identifier place object)).2)
    {outcome : Except BridgeError Handle}
    (h : install host answer patience c engine identifier place source frame bridge₁ =
      some (outcome, bridge')) : bridge.Passes binds c bridge' := by
  obtain ⟨_, registered, hregister, h⟩ := Run.of_bind_run h
  cases hregister
  obtain ⟨refusal, mid, hinject, h⟩ := Run.of_bind_run h
  have hinjected := inject_obeys (passes_course binds c) hanswer source refusal mid hinject
  have hgap : bridge₁.Passes binds c mid := (Passes.of_eq rfl).trans hinjected
  cases refusal with
  | some e =>
    obtain ⟨_, said, hsaid, h⟩ := Run.of_bind_run h
    obtain ⟨_, after, hunbind, h⟩ := Run.of_bind_run h
    cases h
    exact .start hbinds hunbound hleft hgap (.inr (unbind_unbinds c hunbind))
  | none =>
    refine (Passes.start hbinds hunbound hleft hgap (.inl rfl)).trans ?_
    have hC := @passes_course σ binds c
    refine hC.bind (drain_passes hanswer c engine patience) (fun sources _ ↦ ?_) outcome bridge' h
    refine hC.bind (injectAll_obeys hC hanswer sources) fun _ _ ↦ ?_
    exact hC.bind (hC.say _ _) fun _ _ ↦ hC.pure _

/-- **A binding that is started has its own tables at once**, unless there is no such channel. -/
theorem start_passes (patience : Nat) (id : ChannelId) (object : ObjectRef) (place : String)
    (values : List (String × Value)) (hbinds : c = id → binds)
    (hbound : bridge.boundOf id = none) :
    (start host answer patience (identifierFor host) id object place values).Obeys (Passes binds c)
      frame bridge := by
  intro outcome bridge' hrun
  obtain ⟨identifier, bridge₁, hidentify, -⟩ := Run.of_bind_run hrun
  have hchannels := (identifierFor_aside hidentify).1
  have hsame : bridge₁.boundOf c = bridge.boundOf c := by
    rw [Bridge.boundOf, hchannels, Bridge.boundOf]
  cases hchannel : bridge.channels.get? id with
  | none =>
    rw [start_run_of_none hidentify (hchannels ▸ hchannel)] at hrun
    cases hrun
    exact .of_eq hsame
  | some channel =>
    obtain ⟨source, bound, lines, hstub, hstarted⟩ :=
      start_run hidentify (hchannels ▸ hchannel) place values
    rw [hstarted] at hrun
    by_cases hc : c = id
    · subst hc
      let shown := showing host bridge₁.engine.literals bridge₁.native channel ⟨place, object⟩ values
      have hleft : ((bridge₁.withBound c (some bound)).logged lines).boundOf c =
          some (shown.stub (.plugin place) place (.start identifier place object)).2 := by
        have hmade : (shown.stub (.plugin place) place (.start identifier place object)).2 = bound :=
          congrArg Prod.snd hstub
        rw [Bridge.boundOf_logged, hmade]
        simp [Bridge.withBound, Bridge.boundOf, hchannels, hchannel, Table.get?_insert]
      exact install_passes hanswer (hbinds rfl) hbound hleft hrun
    · obtain ⟨_, registered, hregister, hrun⟩ := Run.of_bind_run hrun
      cases hregister
      have hpractice : Practice host answer allowed (Passes binds c) := practice hanswer
      have hinstalled := installed_obeys hpractice _ _ _ _ _ _ _ _ hrun
      exact (Passes.of_eq ((Bridge.boundOf_withBound_of_ne hc _ _).trans hsame)).trans hinstalled

theorem bind_passes (patience : Nat) (id : ChannelId) (object : ObjectRef) (place : String)
    (hbinds : c = id → binds) :
    (ChannelId.bind host answer patience id object place).Obeys (Passes binds c) frame bridge := by
  have hC := @passes_course σ binds c
  unfold ChannelId.bind
  split
  · exact hC.pure _
  · refine .get_bind ?_
    split
    · exact hC.pure _
    · refine hC.bind (values_passes hanswer ⟨place, object⟩) fun values bridge₁ ↦ ?_
      refine .bound?_bind ?_
      split
      · exact hC.pure _
      · next hbound => exact start_passes hanswer patience id object place values hbinds hbound

end Calls

end ChannelId

/-! ## All calls of the bridge -/

/-- Whether a channel is to be bound. -/
def BridgeCall.Binds (c : ChannelId) : BridgeCall → Prop
  | .bind channel _ _ => c = channel
  | _ => False

namespace Bridge

/-- **Whatever the bridge does is a stretch of the history of each channel**, with all that native
code does in the course of it. A binding of the channel starts only if a call asks for one. -/
theorem answer_passes (hhost : host.Calls allowed)
    (hposts : ∀ channel message,
      allowed (.dispatch channel message) ∧ allowed (.dispatchSync channel message))
    (hbinds : ∀ request, allowed request → request.Binds c → binds) (levels : Nat) :
    (Bridge.answer host levels).Obeys allowed (Passes binds c) := by
  -- the calls that native code makes are answered one level down:
  induction levels with
  | zero => exact fun _ _ _ _ ↦ .stuck
  | succ levels ih =>
    intro request hrequest frame bridge
    have hcovers : (Bridge.answer host levels).Covers host allowed (Passes binds c) :=
      ⟨ih, hhost, hposts⟩
    cases request with
    | bind channel object place =>
      exact ChannelId.bind_passes hcovers levels channel object place (hbinds _ hrequest)
    | _ => exact (ChannelId.practice hcovers).answerWith_obeys levels (by rintro _ _ _ ⟨⟩)

/-- A channel that is bound afterwards is bound as before, and what stands in its tables stands at a
place of the binding, if it was so before. -/
def Stays (c : ChannelId) (bridge bridge' : Bridge σ) : Prop :=
  ∀ bound', bridge'.boundOf c = some bound' → ∃ bound, bridge.boundOf c = some bound ∧
    bound'.identifier = bound.identifier ∧ bound'.place = bound.place ∧
      (bound.AtHome (fun _ ↦ False) → bound'.AtHome fun _ ↦ False)

theorem Passes.stays (h : bridge.Passes False c bridge') : bridge.Stays c bridge' := by
  intro bound' hbound'
  obtain ⟨events, s', hhistory, hfound, -, hquiet⟩ := h { bound := bridge.boundOf c } rfl
  have hquiet := hquiet.resolve_left not_false
  rw [hbound'] at hfound
  obtain ⟨-, hsame⟩ := hhistory.stays hquiet
  obtain ⟨bound, hbound, hterm⟩ := Option.map_eq_some_iff.mp (hsame bound' hfound)
  refine ⟨bound, hbound, (congrArg Term.identifier hterm).symm, (congrArg Term.place hterm).symm,
    fun hhome ↦ hhistory.at_home hquiet (fun here hhere ↦ ?_) hfound⟩
  cases hbound.symm.trans hhere
  exact hhome

/-- **To which bindings operations come back.** In every interleaving of operations with binding and
unbinding, an operation has an effect on a later binding only if one has started while it was under
way; whatever the bridge does is such an interleaving, for each channel. In particular nothing that
the bridge does while the channel is not bound anew gets into tables where it does not belong. -/
theorem tenancy_kept (host : Host σ) (c : ChannelId) :
    (∀ events s, Tenancy.History {} events s → s.Kept events) ∧
    (∀ levels, (Bridge.answer host levels).Obeys (fun _ ↦ True) (Passes True c)) ∧
    ((host.Calls fun request ↦ ¬ request.Binds c) → ∀ levels,
      (Bridge.answer host levels).Obeys (fun request ↦ ¬ request.Binds c) (Stays c)) := by
  refine ⟨fun _ _ h ↦ h.kept, fun levels ↦ ?_, fun hhost levels request hrequest frame bridge ↦ ?_⟩
  · exact answer_passes host.calls_all (fun _ _ ↦ ⟨trivial, trivial⟩) (fun _ _ _ ↦ trivial) levels
  · intro a bridge' hrun
    have hpasses : (Bridge.answer host levels).Obeys (fun request ↦ ¬ request.Binds c)
        (Passes False c) :=
      answer_passes hhost (fun _ _ ↦ ⟨not_false, not_false⟩) (fun _ hnot hbinds ↦ hnot hbinds) levels
    exact (hpasses request hrequest frame bridge a bridge' hrun).stays

end Bridge

/-! ## Bound elsewhere meanwhile -/

/-- Objects whose initializer unbinds the first channel and binds it elsewhere, and that take
functions of scripts to complete them later. -/
def Host.moving : Host Unit where
  surface typeName := ⟨typeName, .ofList [("", .initializer 0), ("keep", .method none false)]⟩
  hooks _ object := { description := object.typeName }
  get _ _ := .done .undefined
  set _ _ _ := .done (.returned (.ok ()))
  invoke _ _ _ := .done (.returned (.ok .undefined))
  construct typeName _ := .call (.unbind 0) fun _ ↦ .call (.bind 0 ⟨1, typeName⟩ "new") fun _ ↦
    .done (.returned (.ok ⟨2, typeName⟩))
  receive _ _ := .done (.returned ())

/-- A request for an instance at the id 7. -/
def Message.makeSeventh : Message :=
  ⟨"1", some (.object [(opcodeKey, .string "+"), (targetKey, .int 7)])⟩

/-- A request that hands over the function 7 of the script. -/
def Message.keepSeventh : Message :=
  ⟨"1", some (.object [(opcodeKey, .string "keep"),
    (operandKey, .array [.object [(ChannelId.callbackKey, .int 7)]])])⟩

/-- One channel, which is not bound. -/
def Bridge.vacant (native : σ) : Bridge σ where
  native := native
  context := some {}
  channels := Table.empty.insert 0 { worker := 0 }
  workers := Table.empty.insert 0 { label := "queue", kind := .queue }

/-- The stub of an object that shows nothing. -/
def Showing.door : Showing where
  engine := .plain
  urlPrefix := defaultUrlPrefix
  surface := Host.moving.surface "Door"
  hooks := { description := "Door" }
  values := []

/-- While the initializer of an instance runs, its channel is unbound and bound elsewhere. -/
def movingEvents : List Tenancy.Event :=
  [.started ⟨1, "1", "old"⟩ 0, .forgone ⟨1, "1", "old"⟩ .install,
    .left ⟨1, "1", "old"⟩ (.create 7 "old[7]"), .ended ⟨1, "1", "old"⟩,
    .started ⟨2, "2", "new"⟩ 1, .forgone ⟨2, "2", "new"⟩ .install,
    .returned ⟨1, "1", "old"⟩ (.create 7 "old[7]") (some ⟨2, "2", "new"⟩)]

theorem history_movingEvents : ∃ s bound, Tenancy.History {} movingEvents s ∧
    s.bound = some bound ∧ bound.instances.get? 7 = some ⟨"old[7]", ⟨2, "Door"⟩⟩ ∧
      bound.placeOf 7 = "new[7]" := by
  have h₁ := (Tenancy.History.refl {}).next
    (@Tenancy.Step.start _ "1" "old" ⟨0, "Door"⟩ .door _ rfl rfl)
  have h₂ := h₁.next (.forgo List.mem_cons_self)
  have h₃ := h₂.next (.leave rfl (@Bound.Lets.create _ 7 (by decide)))
  have h₄ := h₃.next (.finish rfl)
  have h₅ := h₄.next (@Tenancy.Step.start _ "2" "new" ⟨1, "Door"⟩ .door _ rfl rfl)
  have h₆ := h₅.next (.forgo (List.mem_cons_of_mem _ List.mem_cons_self))
  have h₇ := h₆.next (.back List.mem_cons_self (.made ⟨2, "Door"⟩))
  exact ⟨_, _, h₇, rfl, rfl, rfl⟩

/-- The instance comes to stand in the tables of the new binding at its place in the old one, as the
history of the channel tells, and so it is when the bridge runs. Where the initializer leaves the
channel alone, the instance gets its place in the binding that there was. -/
theorem moving_tenancy_kept :
    (∃ s, Tenancy.History {} movingEvents s ∧ s.Kept movingEvents) ∧
      (∃ handle bound after, Bridge.answer .moving 3 (.bind 0 ⟨0, "Door"⟩ "old") {} (.vacant ()) =
          some (.ok handle, bound) ∧
        Bridge.answer .moving 3 (.dispatch 0 .makeSeventh) {} bound = some ((), after) ∧
          bound.Passes True 0 after) ∧
      ∃ handle bound after tables,
        Bridge.answer .numbering 3 (.bind 0 ⟨0, "Door"⟩ "app") {} (.vacant 1) =
          some (.ok handle, bound) ∧
        Bridge.answer .numbering 3 (.dispatch 0 .makeSeventh) {} bound = some ((), after) ∧
          after.boundOf 0 = some tables ∧
          tables.instances.get? 7 = some ⟨"app[7]", ⟨1, "Door"⟩⟩ ∧ bound.Stays 0 after := by
  obtain ⟨s, _, hhistory, -⟩ := history_movingEvents
  obtain ⟨hkept, hpasses, -⟩ := Bridge.tenancy_kept .moving 0
  obtain ⟨-, -, hstays⟩ := Bridge.tenancy_kept .numbering 0
  exact ⟨⟨s, hhistory, hkept _ s hhistory⟩,
    ⟨_, _, _, rfl, rfl, hpasses 3 (.dispatch 0 .makeSeventh) trivial {} _ () _ rfl⟩,
    _, _, _, _, rfl, rfl, rfl, rfl,
    hstays (Host.numbering_calls _) 3 (.dispatch 0 .makeSeventh) not_false {} _ () _ rfl⟩

/-- Operations do have effects on later bindings. An instance that is made under a binding gets into
the tables of the next one, at its place in the first, if its initializer binds the channel again.
And when a function that was handed over under a binding is completed under the next one, the
object that it is completed with gets an id there. -/
theorem later_binding_reached :
    (∃ bridge bound, Bridge.callAll .moving 3 [.bind 0 ⟨0, "Door"⟩ "old", .dispatch 0 .makeSeventh]
        {} (.vacant ()) = some ((), bridge) ∧ bridge.boundOf 0 = some bound ∧ bound.place = "new" ∧
      bound.instances.get? 7 = some ⟨"old[7]", ⟨2, "Door"⟩⟩) ∧
    ∃ bridge bound bridge' bound', Bridge.callAll .moving 3
        [.bind 0 ⟨0, "Door"⟩ "old", .dispatch 0 .keepSeventh, .unbind 0, .bind 0 ⟨1, "Door"⟩ "new"]
        {} (.vacant ()) = some ((), bridge) ∧
      bridge.waitingOf 0 = [.invoke ⟨"old", ⟨0, "Door"⟩⟩ "keep" [.callback ⟨7, 0⟩]] ∧
      Bridge.answer .moving 3 (.complete ⟨7, 0⟩ (.ok (.native ⟨2, "Door"⟩))) {} bridge =
        some (.ok (), bridge') ∧
      bridge.boundOf 0 = some bound ∧ bound.place = "new" ∧ bound.instances.keys = [0] ∧
      bridge'.boundOf 0 = some bound' ∧ bound'.place = "new" ∧ bound'.instances.keys = [-1, 0] :=
  ⟨⟨_, _, rfl, rfl, rfl, rfl⟩, _, _, _, _, rfl, rfl, rfl, rfl, rfl, rfl, rfl, rfl, rfl⟩

end ScriptBridge
