import ScriptBridge.Bridge.Perform
import ScriptBridge.Proofs.Runs.Channels

/-!
# Messages move the scene

Messages, completions and, with them, every call of the bridge that does not bind the channel that
is looked at. The last statement ties the knot: calls are answered by channels, whose native code
makes further calls one level down, so it goes by induction on the levels.

An instance that a script makes is put in at a place computed before its initializer ran, and the
initializer may have called the bridge. That the place is still right is because the binding found
afterwards is the one from before; that the object is new to the tables is because it is fresh.
-/

namespace ScriptBridge

open Bridge (Sound Moves Settled)
open Changes (Grounded)

variable {σ α : Type} {known : σ → Nat → Prop} {c : ChannelId} {host : Host σ}
  {answer : Answerer σ} {frame : Frame} {bridge : Bridge σ}

/-- The objects of a reply exist. -/
def ReplyKnown (known : σ → Nat → Prop) (s : σ) : Except BridgeError (Option Value) → Prop
  | .ok (some value) => ∀ i ∈ value.identities, known s i
  | _ => True

namespace ChannelId

/-! ## Requests -/

theorem forward_leads (id : ChannelId) (message : Message) :
    (forward host id message).Leads known c True frame bridge fun _ _ ↦ True := by
  refine .get_bind ?_
  split
  · exact .pure trivial
  · split
    · exact .pure trivial
    · split
      · refine (Run.submit_leads _ (.receive _ message) trivial).bind ?_
        intro _ _ _ _ _
        exact .pure trivial
      · exact .pure trivial

theorem dispose_leads (id : ChannelId) (target : Int) :
    (dispose id target : Run σ Unit).Leads known c True frame bridge fun _ _ ↦ True := by
  unfold dispose
  split
  · exact (unbind_leads id).forget
  · next htarget =>
    refine .bound?_bind ?_
    split
    · exact .pure trivial
    · next bound hbound =>
      split
      · exact .pure trivial
      · next binding hbinding =>
        have hchanges : Changes known (bridge.native, some bound) []
            (bridge.native, some (bound.remove target binding)) :=
          .single (.remove bridge.native htarget hbinding)
        refine (Run.Leads.setBound hbound hchanges ?_).bind ?_
        · rintro - - hpending _ ⟨⟩
          exact hpending
        · intro _ _ _ _ _
          exact Run.Leads.say.forget

/-- A fresh object is put in under a binding that is still the one from before. -/
private theorem put_leads {id : ChannelId} {target : Int} {place : String} {object : ObjectRef}
    {bound : Bound} (htarget : 0 < target) (hbound : bridge.boundOf id = some bound)
    (hobject : known bridge.native object.identity)
    (hnew : c = id → bound.references.get? object.identity = none)
    (hplace : c = id → place = bound.placeOf target) :
    (Run.setBound id (some (bound.put target ⟨place, object⟩).1)).Leads known c True frame bridge
      fun _ _ ↦ True := by
  by_cases hid : c = id
  · subst hid
    have hchanges : Changes known (bridge.native, some bound) []
        (bridge.native, some (bound.put target ⟨place, object⟩).1) := by
      rw [hplace rfl]
      exact .single (.put htarget hobject (hnew rfl))
    refine (Run.Leads.setBound_self hbound hchanges ?_).forget
    rintro - hpending _ ⟨⟩
    exact hpending
  · exact (Run.Leads.setBound_of_ne hid _).forget

section Native

variable (hhost : host.Lawful known c) (hanswer : answer.Lawful known c)
include hhost hanswer

theorem create_leads (id : ChannelId) (worker : WorkerId) (request : Request) :
    (create host answer id worker request).Leads known c True frame bridge fun _ _ ↦ True := by
  unfold create
  split
  · exact .pure trivial
  · next htarget =>
    refine .bound?_bind ?_
    split
    · exact .pure trivial
    · next bound hbound =>
      split
      · exact .pure trivial
      · next principal _ =>
        have hargs := Value.itemIdentities_argumentsOf request.operand
        refine (Run.sync_leads hhost hanswer worker fun _ _ ↦
          Host.make_leads hhost hanswer principal.object.typeName hargs).bind ?_
        intro made bridge₁ _ hmoves hmade
        split
        · exact .pure trivial
        · next object hobject =>
          obtain ⟨finish, rfl, hresult⟩ : ∃ finish, made = .ok finish ∧
              finish.result = .ok object := by
            cases made with
            | error e => cases hobject
            | ok finish => exact ⟨finish, rfl, hobject⟩
          obtain rfl : finish = .returned (.ok object) := by
            cases finish with
            | returned outcome => exact congrArg _ hresult
            | panicked text => cases hresult
          obtain ⟨hknown, hnew⟩ := hmade _ rfl object rfl
          refine .bound?_bind ?_
          split
          · exact .pure trivial
          · next bound₁ hbound₁ =>
            -- the initializer cannot have bound the channel anew, so the place still holds:
            have hplace : c = id →
                bound.placeOf request.target = bound₁.placeOf request.target := by
              rintro rfl
              obtain ⟨_, hchanges⟩ := hmoves.changes
              obtain ⟨start, hstart, hsame, -⟩ := hchanges.same_binding hbound₁
              obtain rfl : bound = start := Option.some.inj (hbound.symm.trans hstart)
              rw [Bound.placeOf, Bound.placeOf, hsame]
            have hunused : c = id → bound₁.references.get? object.identity = none := by
              rintro rfl
              exact hnew bound₁ hbound₁
            refine (put_leads (by omega) hbound₁ hknown hunused hplace).bind ?_
            intro _ _ _ _ _
            refine .say_if fun bridge ↦ ?_
            exact Run.Leads.say.bind fun _ _ _ _ _ ↦ .pure trivial

theorem reach_leads (id : ChannelId) (worker : WorkerId) (binding : Binding) (name : String)
    (operand : Option Json) (waits : Bool) :
    (reach host answer id worker binding name operand waits).Leads known c True frame bridge
      fun reply bridge' ↦ ReplyKnown known bridge'.native reply := by
  unfold reach
  split
  · refine (Run.submit_leads worker (.set binding name _)
      (Value.identities_ofOperand operand)).bind ?_
    intro _ _ _ _ _
    exact .pure trivial
  · have hargs : Value.itemIdentities (attach id (Value.argumentsOf operand)) = [] :=
      itemIdentities_attach (Value.itemIdentities_argumentsOf operand)
    split
    · refine (Run.sync_leads hhost hanswer worker fun _ _ ↦
        Binding.invoke_leads hhost hanswer binding name hargs).bind ?_
      intro outcome bridge₁ _ _ houtcome
      refine .pure ?_
      cases outcome with
      | error e => trivial
      | ok finish =>
        cases finish with
        | panicked text => trivial
        | returned outcome =>
          cases outcome with
          | error e => trivial
          | ok value => exact houtcome _ rfl
    · refine (Run.submit_leads worker (.invoke binding name _) hargs).bind ?_
      intro _ _ _ _ _
      exact .pure trivial
  · exact .pure trivial

theorem serve_leads (id : ChannelId) (worker : WorkerId) (message : Message) (request : Request)
    (waits : Bool) :
    (serve host answer id worker message request waits).Leads known c True frame bridge
      fun reply bridge' ↦ ReplyKnown known bridge'.native reply := by
  unfold serve
  dsimp only
  split
  · refine (create_leads hhost hanswer id worker request).bind ?_
    intro outcome _ _ _ _
    refine .pure ?_
    cases outcome <;> trivial
  · refine .bound?_bind ?_
    split
    · refine (forward_leads id message).bind ?_
      intro taken _ _ _ _
      split
      · exact .pure trivial
      · exact .pure trivial
    · split
      · exact reach_leads hhost hanswer id worker _ _ _ waits
      · refine (dispose_leads id request.target).bind ?_
        intro _ _ _ _ _
        exact .pure trivial

theorem handle_leads (id : ChannelId) (message : Message) (waits : Bool) :
    (handle host answer id message waits).Leads known c True frame bridge
      fun reply bridge' ↦ ReplyKnown known bridge'.native reply := by
  refine .get_bind ?_
  split
  · exact .pure trivial
  · next channel _ =>
    refine .say_if fun bridge ↦ ?_
    split
    · exact serve_leads hhost hanswer id _ message _ waits
    · dsimp only
      split
      · exact .pure trivial
      · refine (forward_leads id message).bind ?_
        intro taken _ _ _ _
        split
        · exact Run.Leads.say.bind fun _ _ _ _ _ ↦ .pure trivial
        · exact .pure trivial

end Native

/-! ## Calls -/

theorem report_leads (e : BridgeError) :
    (report e : Run σ Unit).Leads known c True frame bridge fun _ bridge' ↦
      bridge'.native = bridge.native := by
  unfold report
  split
  · refine Run.Leads.say.mono (fun h ↦ h) ?_
    rintro _ _ - rfl
    rfl
  · split
    · refine Run.Leads.say.mono (fun h ↦ h) ?_
      rintro _ _ - rfl
      rfl
    · refine Run.Leads.say.mono (fun h ↦ h) ?_
      rintro _ _ - rfl
      rfl

section Native

variable (hhost : host.Lawful known c) (hanswer : answer.Lawful known c)
include hhost hanswer

theorem dispatch_leads (id : ChannelId) (message : Message) :
    (dispatch host answer id message).Leads known c True frame bridge fun _ _ ↦ True := by
  refine (handle_leads hhost hanswer id message false).bind ?_
  intro reply _ _ _ _
  split
  · exact .pure trivial
  · exact (report_leads _).forget

theorem ask_leads (id : ChannelId) (message : Message) :
    (ask host answer id message).Leads known c True frame bridge fun reply bridge' ↦
      ReplyKnown known bridge'.native reply := by
  refine (handle_leads hhost hanswer id message true).bind ?_
  intro reply _ _ _ hreply
  split
  · exact .pure hreply
  · refine (report_leads _).bind ?_
    intro _ _ _ _ _
    refine .pure ?_
    split <;> trivial

theorem dispatchSync_leads (patience : Nat) (id : ChannelId) (message : Message) :
    (dispatchSync host answer patience id message).Leads known c True frame bridge
      fun _ _ ↦ True := by
  refine (ask_leads hhost hanswer id message).bind ?_
  intro reply _ _ _ hreply
  split
  · refine (expression_leads hhost hanswer patience id hreply).bind ?_
    intro _ _ _ _ _
    exact .pure trivial
  · exact .pure trivial
  · exact .pure trivial

omit hhost in
theorem evaluate_leads (text : String) :
    (evaluate answer text).Leads known c True frame bridge fun _ _ ↦ True := by
  refine .get_bind ?_
  split
  · refine (Run.script_leads hanswer _).bind ?_
    intro _ _ _ _ _
    exact .pure trivial
  · refine Run.Leads.changeContext.bind ?_
    intro _ _ _ _ _
    exact .pure trivial

theorem complete_leads (patience : Nat) (function : Callback) (outcome : Except String Value)
    (houtcome : ∀ i ∈ (BridgeCall.complete function outcome).identities, known bridge.native i) :
    (complete host answer patience function outcome).Leads known c True frame bridge
      fun _ _ ↦ True := by
  refine .get_bind ?_
  dsimp only
  split
  · exact .pure trivial
  · split
    · refine (expression_leads hhost hanswer patience function.channel houtcome).bind ?_
      intro _ _ _ _ _
      exact evaluate_leads hanswer _
    · exact evaluate_leads hanswer _

end Native

end ChannelId

/-! ## All calls of the bridge -/

namespace Bridge

theorem answerWith_lawful (hhost : host.Lawful known c) (hanswer : answer.Lawful known c)
    (patience : Nat) : Answerer.Lawful known c (answerWith host answer patience) := by
  intro request frame bridge havoids hidentities
  cases request with
  | bind channel object place =>
    have hne : c ≠ channel := by
      rintro rfl
      exact havoids object place rfl
    exact ChannelId.bind_leads_of_ne hhost hanswer patience hne object place
  | unbind channel =>
    exact (ChannelId.unbind_leads channel).forget
  | dispatch channel message => exact ChannelId.dispatch_leads hhost hanswer channel message
  | dispatchSync channel message =>
    exact ChannelId.dispatchSync_leads hhost hanswer patience channel message
  | serialize channel value =>
    refine (ChannelId.expression_leads hhost hanswer patience channel hidentities).bind ?_
    intro _ _ _ _ _
    exact .pure trivial
  | complete function outcome =>
    exact ChannelId.complete_leads hhost hanswer patience function outcome hidentities
  | steer injection =>
    exact Run.Leads.changeContext.forget

/-- **Every call of the bridge that does not bind the channel is a calm move of its scene**,
whatever calls the native code in it makes. -/
theorem answer_lawful (hhost : host.Lawful known c) (levels : Nat) :
    Answerer.Lawful known c (Bridge.answer host levels) := by
  -- the calls that native code makes are answered one level down:
  induction levels with
  | zero => exact fun _ _ _ _ _ ↦ .stuck _
  | succ levels ih => exact answerWith_lawful hhost ih levels

end Bridge

end ScriptBridge
