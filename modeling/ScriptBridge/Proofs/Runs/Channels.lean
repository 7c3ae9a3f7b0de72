import ScriptBridge.Proofs.Runs.Members

/-!
# Channels move the scene

What channels do, seen from one of them. The statements are for any channel that is at work and any
channel that is looked at, since the work of one may call native code that goes on to another.

Literals and stubs of a channel give ids to objects and are calm for other channels only. A drain
ends with nothing left to be made, so an expression as a whole is calm again, and so is everything
built from expressions. Binding is left for last: a binding of the channel that is looked at is no
move of its scene, because no change starts a binding.
-/

namespace ScriptBridge

open Bridge (Sound Moves Settled)
open Changes (Grounded)

variable {σ α : Type} {known : σ → Nat → Prop} {c : ChannelId} {host : Host σ}
  {answer : Answerer σ} {frame : Frame} {bridge : Bridge σ}

namespace ChannelId

/-! ## Literals and stubs -/

/-- A literal refers to the objects of the value. -/
theorem literal_leads (id : ChannelId) (engine : EngineLiterals) {value : Value}
    (hvalue : ∀ i ∈ value.identities, known bridge.native i) :
    (literal id engine value : Run σ String).Leads known c (c ≠ id) frame bridge
      fun _ _ ↦ True := by
  refine .bound?_bind ?_
  split
  · exact .pure trivial
  · next bound hbound =>
    have hchanges : Changes known (bridge.native, some bound) []
        (bridge.native, some (Bound.literal engine value bound).2) := by
      rw [Bound.literal_state]
      exact .referAll (fun object h ↦ hvalue _ (Value.identity_mem_of_mem_referred value h)) bound
    refine (Run.Leads.setBound hbound hchanges fun hid hne ↦ absurd hid hne).bind ?_
    intro _ _ _ _ _
    refine Run.Leads.sayAll.bind ?_
    intro _ _ _ _ _
    exact .pure trivial

/-- A stub refers to the objects of the values shown. There is none exactly when the channel is not
bound. -/
theorem stub?_leads (id : ChannelId) (engine : EngineLiterals) (target : StubTarget)
    (binding : Binding) {values : List (String × Value)}
    (hvalues : ∀ i ∈ Value.fieldIdentities values, known bridge.native i) :
    (stub? host id engine target binding values).Leads known c (c ≠ id) frame bridge
      fun source bridge' ↦ source = none → bridge'.boundOf id = none := by
  refine .get_bind ?_
  split
  · next hchannel =>
    refine .pure ?_
    intro _
    simp [Bridge.boundOf, hchannel]
  · next channel hchannel =>
    split
    · next hnone =>
      refine .pure ?_
      intro _
      simp [Bridge.boundOf, hchannel, hnone]
    · next bound hsome =>
      have hbound : bridge.boundOf id = some bound := by simp [Bridge.boundOf, hchannel, hsome]
      have hchanges : Changes known (bridge.native, some bound) []
          (bridge.native, some (Bound.stubFor engine channel.urlPrefix
            (host.surfaceOf binding.object) (host.hooks bridge.native binding.object) target
            binding.place values bound).2) := by
        rw [Bound.stubFor_state]
        refine .referAll (fun object h ↦ hvalues _ ?_) bound
        exact Value.identity_mem_of_mem_fieldsReferred values h
      refine (Run.Leads.setBound hbound hchanges fun hid hne ↦ absurd hid hne).bind ?_
      intro _ _ _ _ _
      refine Run.Leads.sayAll.bind ?_
      intro _ _ _ _ _
      refine .pure ?_
      rintro ⟨⟩

section Native

variable (hhost : host.Lawful known c) (hanswer : answer.Lawful known c)
include hhost hanswer

/-- **A drain ends with nothing left to be made**, or with the channel no longer bound. -/
theorem drain_leads (id : ChannelId) (engine : EngineLiterals) (patience : Nat) :
    (drain host answer id engine patience).Leads known c (c ≠ id) frame bridge fun _ bridge' ↦
      bridge'.Settled id := by
  induction patience generalizing bridge with
  | zero => exact .stuck _
  | succ patience ih =>
    refine .bound?_bind ?_
    split
    · next hnone =>
      refine .pure ?_
      intro bound hbound
      simp [hnone] at hbound
    · next bound hbound =>
      split
      · next hpending =>
        refine .pure ?_
        intro bound' hbound'
        rw [hbound] at hbound'
        cases hbound'
        exact hpending
      · next next rest hpending =>
        have hchanges : Changes known (bridge.native, some bound) [next]
            (bridge.native, some { bound with pending := rest }) :=
          .single (.take bridge.native hpending)
        refine (Run.Leads.setBound hbound hchanges fun hid hne ↦ absurd hid hne).bind ?_
        intro _ _ _ _ _
        refine ((Binding.values_leads hhost hanswer next.binding).mono (fun _ ↦ trivial)
          fun _ _ _ h ↦ h).bind ?_
        intro values _ _ _ hvalues
        refine (stub?_leads id engine (.reference next.owner next.id) next.binding hvalues).bind ?_
        intro source bridge₃ _ _ hsource
        split
        · -- a getter has unbound the channel, and nothing is left to be made:
          refine .pure ?_
          intro bound' hbound'
          simp [hsource rfl] at hbound'
        · refine ih.bind ?_
          intro sources _ _ _ hsettled
          exact .pure hsettled

/-- An expression as a whole is calm. -/
theorem expression_leads (patience : Nat) (id : ChannelId) {value : Value}
    (hvalue : ∀ i ∈ value.identities, known bridge.native i) :
    (expression host answer patience id value).Leads known c True frame bridge
      fun _ _ ↦ True := by
  refine .calm_of_settled id ?_
  refine .get_bind ?_
  refine (literal_leads id _ hvalue).bind ?_
  intro _ _ _ _ _
  refine (drain_leads hhost hanswer id _ patience).bind ?_
  intro _ _ _ _ hsettled
  refine .pure ⟨?_, trivial⟩
  rintro rfl
  exact hsettled

end Native

/-! ## Scripts -/

end ChannelId

/-- Messages of scripts carry no native objects. -/
theorem Gate.decode_leads (name : String) (body : Option String) :
    (Gate.decode name body : Run σ Message).Leads known c True frame bridge fun _ _ ↦ True := by
  unfold Gate.decode
  split
  · exact .pure trivial
  · split
    · exact .pure trivial
    · refine Run.Leads.say.bind ?_
      intro _ _ _ _ _
      exact .pure trivial

section Scripts

variable (hanswer : answer.Lawful known c)
include hanswer

theorem Gate.post_leads (name : String) (body : Option String) :
    (Gate.post answer name body).Leads known c True frame bridge fun _ _ ↦ True := by
  refine .get_bind ?_
  split
  · exact Run.Leads.say.forget
  · refine (Gate.decode_leads name body).bind ?_
    intro message _ _ _ _
    exact hanswer _ _ _ (by rintro _ _ ⟨⟩) (by simp [BridgeCall.identities])

theorem Gate.postSync_leads (name : String) (body : Option String) :
    (Gate.postSync answer name body).Leads known c True frame bridge fun _ _ ↦ True := by
  refine .get_bind ?_
  split
  · refine Run.Leads.say.bind ?_
    intro _ _ _ _ _
    exact .pure trivial
  · refine (Gate.decode_leads name body).bind ?_
    intro message _ _ _ _
    exact hanswer _ _ _ (by rintro _ _ ⟨⟩) (by simp [BridgeCall.identities])

namespace Run

theorem converse_leads (dialogue : Script.Dialogue α) :
    (Run.converse answer dialogue).Leads known c True frame bridge fun _ _ ↦ True := by
  induction dialogue generalizing bridge with
  | done result => exact .pure trivial
  | post name body next ih =>
    refine (Gate.post_leads hanswer name body).bind ?_
    intro _ _ _ _ _
    exact ih ()
  | ask name body next ih =>
    refine (Gate.postSync_leads hanswer name body).bind ?_
    intro expression _ _ _ _
    exact ih expression

omit hanswer in
private theorem takeRealm_leads :
    (Run.takeRealm : Run σ Script.Realm).Leads known c True frame bridge fun _ _ ↦ True := by
  refine .get_bind ?_
  split
  · exact .stuck _
  · refine Run.Leads.changeContext.bind ?_
    intro _ _ _ _ _
    exact .pure trivial

theorem script_leads (text : String) :
    (Run.script answer text).Leads known c True frame bridge fun _ _ ↦ True := by
  unfold Run.script
  split
  · exact .pure trivial
  · refine takeRealm_leads.bind ?_
    intro realm _ _ _ _
    refine (converse_leads hanswer _).bind ?_
    intro _ _ _ _ _
    refine Run.Leads.changeContext.bind ?_
    intro _ _ _ _ _
    split
    · exact .pure trivial
    · exact .pure trivial

end Run

end Scripts

namespace ChannelId

/-! ## Binding and unbinding -/

/-- The end of a binding leaves no tables. -/
theorem unbind_leads (id : ChannelId) :
    (unbind id : Run σ Unit).Leads known c True frame bridge fun _ bridge' ↦
      bridge'.Settled id := by
  refine .bound?_bind ?_
  split
  · next hnone =>
    refine .pure ?_
    intro bound hbound
    simp [hnone] at hbound
  · next bound hbound =>
    have hchanges : Changes known (bridge.native, some bound) bound.pending (bridge.native, none) :=
      .single (.unbind bridge.native bound)
    refine (Run.Leads.setBound hbound hchanges (by rintro - - - _ ⟨⟩)).bind ?_
    rintro _ _ - - rfl
    refine Run.Leads.changeContext.bind ?_
    rintro _ _ - - rfl
    refine Run.Leads.say.mono (fun h ↦ h) ?_
    rintro _ _ - rfl bound' hbound'
    have hnone : (bridge.withBound id none).boundOf id = none :=
      Bridge.boundOf_withBound (by simp [hbound]) none
    have hsome : (bridge.withBound id none).boundOf id = some bound' := hbound'
    simp [hnone] at hsome

/-- Finding an identifier changes nothing that is looked at. -/
theorem identifierFor_leads {calm : Prop} (object : ObjectRef) :
    (identifierFor host object).Leads known c calm frame bridge fun _ bridge' ↦
      bridge'.native = bridge.native ∧ bridge'.channels = bridge.channels := by
  refine .get_bind ?_
  split
  · exact .pure ⟨rfl, rfl⟩
  · rintro hsound _ _ ⟨⟩
    exact ⟨⟨hsound.grounded, hsound.waiting⟩, .of_scene_eq rfl, rfl, rfl⟩

theorem inject_leads (hanswer : answer.Lawful known c) (source : Source) :
    (inject answer source).Leads known c True frame bridge fun _ _ ↦ True := by
  refine .get_bind ?_
  split
  · exact .pure trivial
  · split
    · exact .pure trivial
    · split
      · refine Run.Leads.changeContext.bind ?_
        intro _ _ _ _ _
        exact .pure trivial
      · refine (Run.script_leads hanswer _).bind ?_
        intro outcome _ _ _ _
        split
        · exact .pure trivial
        · exact .pure trivial

theorem injectAll_leads (hanswer : answer.Lawful known c) (sources : List Source) :
    (injectAll answer sources).Leads known c True frame bridge fun _ _ ↦ True := by
  induction sources generalizing bridge with
  | nil => exact .pure trivial
  | cons source sources ih =>
    refine (inject_leads hanswer source).bind ?_
    intro refusal _ _ _ _
    dsimp only
    split
    · exact ih
    · refine Run.Leads.say.bind ?_
      intro _ _ _ _ _
      exact ih

section Native

variable (hhost : host.Lawful known c) (hanswer : answer.Lawful known c)
include hhost hanswer

/-- The second half of a binding ends with nothing left to be made, whether it succeeds or not. -/
theorem install_leads (patience : Nat) (id : ChannelId) (engine : EngineLiterals)
    (identifier place : String) (source : Source) :
    (install host answer patience id engine identifier place source).Leads known c (c ≠ id) frame
      bridge fun _ bridge' ↦ c = id → bridge'.Settled c := by
  refine Run.Leads.changeContext.bind ?_
  intro _ _ _ _ _
  refine ((inject_leads hanswer source).mono (fun _ ↦ trivial) fun _ _ _ h ↦ h).bind ?_
  intro refusal _ _ _ _
  split
  · refine Run.Leads.say.bind ?_
    intro _ _ _ _ _
    refine ((unbind_leads id).mono (fun _ ↦ trivial) fun _ _ _ h ↦ h).bind ?_
    intro _ _ _ _ hsettled
    refine .pure ?_
    rintro rfl
    exact hsettled
  · refine (drain_leads hhost hanswer id engine patience).bind ?_
    intro sources bridge₁ _ _ hdrained
    have hinjected : (injectAll answer sources).Leads known c (c ≠ id) frame bridge₁
        fun _ bridge' ↦ c = id → bridge'.Settled c := by
      refine (injectAll_leads hanswer sources).mono (fun _ ↦ trivial) ?_
      rintro _ bridge₂ hmoves - rfl
      exact hmoves.settled trivial hdrained
    refine hinjected.bind ?_
    intro _ _ _ _ hsettled
    refine Run.Leads.say.bind ?_
    rintro _ _ - - rfl
    exact .pure hsettled

/-- Binding another channel is a calm move. -/
theorem bind_leads_of_ne (patience : Nat) {id : ChannelId} (hne : c ≠ id) (object : ObjectRef)
    (place : String) :
    (ChannelId.bind host answer patience id object place).Leads known c True frame bridge
      fun _ _ ↦ True := by
  unfold ChannelId.bind
  split
  · exact .pure trivial
  · refine .get_bind ?_
    split
    · exact .pure trivial
    · refine (Binding.values_leads hhost hanswer ⟨place, object⟩).bind ?_
      intro values _ _ _ hvalues
      refine .bound?_bind ?_
      split
      · exact .pure trivial
      · refine (identifierFor_leads object).bind ?_
        rintro identifier bridge₂ - - ⟨hnative, -⟩
        refine .get_bind ?_
        -- a binding starts, but not of the channel that is looked at:
        refine (Run.Leads.setBound_of_ne hne _).bind ?_
        rintro _ _ - - rfl
        have hvalues' : ∀ i ∈ Value.fieldIdentities values,
            known (bridge₂.withBound id (some (.start identifier place object))).native i := by
          rw [Bridge.withBound_native, hnative]
          exact hvalues
        refine ((stub?_leads id _ (.plugin place) ⟨place, object⟩ hvalues').mono (fun _ ↦ hne)
          fun _ _ _ h ↦ h).bind ?_
        intro source _ _ _ _
        split
        · exact .pure trivial
        · exact (install_leads hhost hanswer patience id _ identifier place _).mono
            (fun _ ↦ hne) fun _ _ _ _ ↦ trivial

end Native

end ChannelId

end ScriptBridge
