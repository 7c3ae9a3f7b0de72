import ScriptBridge.Proofs.Messages.Shadowed
import ScriptBridge.Proofs.Runs.Operations
import ScriptBridge.Proofs.Tables.Elsewhere

/-!
# What messages do to other instances

A message is for one instance, and the tables of the channel are the same afterwards under all other
ids. There are two exceptions. Giving up the principal ends the binding, and the tables with it; and
a message that is answered with a value refers to the objects in it, which fills vacant ids. What a
message does to its own id is settled by the opcode: one puts an instance in, one takes it out, and
all others leave the tables to whoever answers.

## What is assumed of native code

While a message is at work native code runs, the accessor that it is for and those that waited
before it, and such code may itself send messages, to any instance. What these do is not the doing
of the first message. So native code is to leave the tables of the channel alone
(`Host.LeavesTables`); `Host.discarding` shows what becomes of the statement otherwise.
-/

namespace ScriptBridge

open Bridge (Course Sound)

variable {σ α : Type}

/-! ## Leaving the tables alone -/

namespace Bridge

/-- The tables of a channel are as they were, if it had any. -/
def Leaves (c : ChannelId) (bridge bridge' : Bridge σ) : Prop :=
  bridge'.boundOf c = bridge.boundOf c

theorem leaves_course (c : ChannelId) : Course (Leaves (σ := σ) c) where
  refl _ := rfl
  trans h h' := Eq.trans h' h
  aside hchannels _ := by rw [Leaves, boundOf, hchannels, boundOf]

/-- The tables of a channel have at most got entries under vacant ids. -/
def Fills (c : ChannelId) (bridge bridge' : Bridge σ) : Prop :=
  ∀ bound, bridge.boundOf c = some bound → bound.Coherent →
    ∃ bound', bridge'.boundOf c = some bound' ∧ bound'.Coherent ∧
      bound.SameAt (¬ bound.Vacant ·) bound'

variable {c : ChannelId} {bridge bridge' : Bridge σ}

theorem Leaves.fills (h : bridge.Leaves c bridge') : bridge.Fills c bridge' :=
  fun bound hbound hcoherent ↦ ⟨bound, h.trans hbound, hcoherent, .refl bound⟩

theorem fills_course (c : ChannelId) : Course (Fills (σ := σ) c) where
  refl bridge := Leaves.fills rfl
  trans h h' bound hbound hcoherent := by
    obtain ⟨mid, hmid, hcoherent', hsame⟩ := h bound hbound hcoherent
    obtain ⟨bound', hbound', hcoherent'', hsame'⟩ := h' mid hmid hcoherent'
    exact ⟨bound', hbound', hcoherent'', hsame.trans_vacant hsame'⟩
  aside hchannels hhandlers := ((leaves_course c).aside hchannels hhandlers).fills

/-- The tables are changed, but not in what they say of the ids that are not vacant. -/
theorem fills_withBound {bound bound' : Bound} (hbound : bridge.boundOf c = some bound)
    (h : bound.Coherent → bound'.Coherent ∧ bound.SameAt (¬ bound.Vacant ·) bound') :
    bridge.Fills c (bridge.withBound c (some bound')) := by
  intro start hstart hcoherent
  obtain rfl : bound = start := Option.some.inj (hbound.symm.trans hstart)
  exact ⟨bound', boundOf_withBound (by simp [hbound]) _, h hcoherent⟩

end Bridge

open Bridge (Leaves Fills leaves_course fills_course)

/-- The calls that native code makes leave the tables of a channel alone. -/
def Host.LeavesTables (c : ChannelId) (host : Host σ) : Prop :=
  ∃ allowed, host.Calls allowed ∧ ∀ levels, (Bridge.answer host levels).Obeys allowed (Leaves c)

variable {known : σ → Nat → Prop} {c : ChannelId} {host : Host σ} {answer : Answerer σ}
  {allowed : BridgeCall → Prop} {frame : Frame} {bridge bridge' : Bridge σ} {bound : Bound}
  {message : Message} {request : Request} {waits : Bool}
  {outcome : Except BridgeError (Option Value)}

/-- Objects are referred to, and lines written about it. -/
theorem Bridge.fills_referAll (hbound : bridge.boundOf c = some bound) (objects : List ObjectRef)
    (lines : List Line) :
    bridge.Fills c ((bridge.withBound c (some (Bound.referAll objects bound))).logged lines) := by
  refine (fills_course c).trans (fills_withBound hbound fun hcoherent ↦ ?_)
    ((fills_course c).aside rfl rfl)
  obtain ⟨_, -, -, hcoherent', -⟩ := Bound.referAll_grown hcoherent objects
  exact ⟨hcoherent', hcoherent.referAll_sameAt objects⟩

/-! ## Values on their way to scripts -/

namespace ChannelId

theorem literal_fills (engine : EngineLiterals) (value : Value) :
    (literal c engine value : Run σ String).Obeys (Fills c) frame bridge := by
  intro text bridge' h
  cases hbound : bridge.boundOf c with
  | none =>
    rw [literal, Run.bind_run (Run.bound?_run c), hbound] at h
    cases h
    exact (fills_course c).refl bridge
  | some bound =>
    rw [literal_run hbound, Bound.literal_state] at h
    cases h
    exact Bridge.fills_referAll hbound _ _

theorem stub?_fills (engine : EngineLiterals) (target : StubTarget) (binding : Binding)
    (values : List (String × Value)) :
    (stub? host c engine target binding values).Obeys (Fills c) frame bridge := by
  intro source bridge' h
  cases hbound : bridge.boundOf c with
  | none =>
    rw [stub?_run_of_unbound hbound] at h
    cases h
    exact (fills_course c).refl bridge
  | some bound =>
    obtain ⟨channel, hchannel, hchannelBound⟩ := Option.bind_eq_some_iff.mp hbound
    rw [stub?_run hchannel hchannelBound, stubOf, Bound.stubFor_state] at h
    cases h
    exact Bridge.fills_referAll hbound _ _

section Native

variable (hcalls : host.Calls allowed) (hleaves : answer.Obeys allowed (Leaves c))
include hcalls hleaves

theorem drain_fills (engine : EngineLiterals) (patience : Nat) :
    (drain host answer c engine patience).Obeys (Fills c) frame bridge := by
  induction patience generalizing bridge with
  | zero => exact .stuck
  | succ patience ih =>
    refine .bound?_bind ?_
    split
    · exact (fills_course c).pure _
    · next bound hbound =>
      split
      · exact (fills_course c).pure _
      · next next rest hpending =>
        have hset : (Run.setBound c (some { bound with pending := rest })).Obeys (Fills c) frame
            bridge := by
          rintro _ _ ⟨⟩
          exact Bridge.fills_withBound hbound fun hcoherent ↦
            ⟨hcoherent.withPending rest, ⟨fun _ _ ↦ rfl, fun _ _ _ ↦ Iff.rfl⟩⟩
        have hread {bridge : Bridge σ} :
            (next.binding.values host answer).Obeys (Fills c) frame bridge :=
          Binding.readAll_obeys (fills_course c)
            (fun request hrequest frame bridge a bridge' hrun ↦
              (hleaves request hrequest frame bridge a bridge' hrun).fills) hcalls _ _
        refine (fills_course c).bind hset fun _ _ ↦ ?_
        refine (fills_course c).bind hread fun values _ ↦ ?_
        refine (fills_course c).bind (stub?_fills _ _ _ _) fun source _ ↦ ?_
        split
        · exact (fills_course c).pure _
        · exact (fills_course c).bind ih fun _ _ ↦ (fills_course c).pure _

/-- Expressions fill vacant ids. -/
theorem expression_fills (patience : Nat) (value : Value) :
    (expression host answer patience c value).Obeys (Fills c) frame bridge := by
  intro expression bridge' h
  rw [ChannelId.expression, Run.bind_run Run.engineLiterals_run] at h
  revert h
  refine (fills_course c).bind (literal_fills _ _) (fun literal _ ↦ ?_) expression bridge'
  exact (fills_course c).bind (drain_fills hcalls hleaves _ _) fun _ _ ↦ (fills_course c).pure _

end Native

end ChannelId

/-! ## What a request does to its own id -/

/-- The object that a successful initializer gives. -/
theorem Finish.bind_result_eq_ok_iff {made : Except BridgeError (Finish (Except BridgeError α))}
    {a : α} : made.bind Finish.result = .ok a ↔ made = .ok (.returned (.ok a)) := by
  rcases made with e | (⟨e | b⟩ | text)
  · exact iff_of_false nofun nofun
  · exact iff_of_false nofun nofun
  · constructor
    · rintro ⟨⟩
      rfl
    · rintro ⟨⟩
      rfl
  · exact iff_of_false nofun nofun

/-- The errands that are neither to make an instance nor to give one up. -/
def Errand.Mild : Errand → Prop
  | .make _ _ _ _ | .dispose _ => False
  | _ => True

theorem Bridge.forwarding_mild (told : List Line) (e : BridgeError) :
    (bridge.forwarding host c message told e).Mild := by
  rcases bridge.forwarding_cases host c message told e with heq | ⟨object, heq⟩
  · rw [heq]
    trivial
  · rw [heq]
    trivial

theorem Host.reaching_mild (binding : Binding) (name : String) (operand : Option Json) :
    (host.reaching c binding name operand waits).Mild := by
  unfold reaching
  split
  · trivial
  · cases waits <;> trivial
  · trivial

/-- Requests for members are mild. -/
theorem Bridge.errand_mild (hrequest : message.request? = .ok request)
    (hcreate : request.opcode ≠ "+") (hdispose : request.opcode ≠ "-") :
    (bridge.errand host c message waits).Mild := by
  simp only [errand, hrequest, requested, Opcode.ofString_of_ne hcreate hdispose, reduceCtorEq,
    if_false]
  split
  · exact forwarding_mild _ _
  · exact Host.reaching_mild _ _ _

/-- What there is not to give up makes the message fall to the principal. -/
theorem Bridge.errand_of_dispose_free (hbound : bridge.boundOf c = some bound)
    (hrequest : message.request? = .ok request)
    (hfree : bound.instances.get? request.target = none) (hopcode : request.opcode = "-") :
    bridge.errand host c message waits =
      bridge.forwarding host c message [] (.unknownInstance request.target) := by
  have hdispose : Opcode.ofString request.opcode = .dispose := by
    rw [hopcode]
    rfl
  simp only [errand, hrequest, requested, hdispose, reduceCtorEq, if_false, hbound,
    Option.bind_some, hfree]

/-- The tables after an instance was given up; giving up the principal ends the binding. -/
def Bound.without (bound : Bound) (target : Int) : Option Bound :=
  if target = 0 then none
  else
    match bound.instances.get? target with
    | none => some bound
    | some binding => some (bound.remove target binding)

namespace ChannelId

/-- **A request to give an instance up** does so, if there is one. -/
theorem handle_dispose (hcoherent : bound.Coherent) (hbound : bridge.boundOf c = some bound)
    (hrequest : message.request? = .ok request) (hopcode : request.opcode = "-")
    (h : handle host answer c message waits frame bridge = some (outcome, bridge')) :
    (∀ value, outcome ≠ .ok (some value)) ∧
      bridge'.boundOf c = bound.without request.target := by
  obtain ⟨channel, hchannel, -⟩ := Option.bind_eq_some_iff.mp hbound
  obtain ⟨principal, hprincipal⟩ := hcoherent.principal
  have hbound' : (bridge.logged (received channel)).boundOf c = some bound := hbound
  rw [handle_run hchannel] at h
  cases hlive : bound.instances.get? request.target with
  | none =>
    have htarget : request.target ≠ 0 := by
      intro hzero
      rw [hzero, hprincipal] at hlive
      cases hlive
    rw [Bridge.errand_of_dispose_free hbound hrequest hlive hopcode] at h
    rw [Bound.without, if_neg htarget, hlive]
    rcases bridge.forwarding_cases host c message [] (.unknownInstance request.target) with
      heq | ⟨object, heq⟩
    · rw [heq] at h
      cases h
      exact ⟨nofun, hbound⟩
    · rw [heq, Errand.hand_run] at h
      cases h
      exact ⟨nofun, hbound⟩
  | some binding =>
    rw [Bridge.errand_of_dispose hbound hrequest hlive hopcode] at h
    obtain ⟨_, after, hdispose, hdone⟩ := Run.of_bind_run h
    cases hdone
    refine ⟨nofun, ?_⟩
    rw [dispose] at hdispose
    by_cases htarget : request.target = 0
    · rw [if_pos htarget] at hdispose
      rw [Bound.without, if_pos htarget]
      exact unbind_unbinds c hdispose
    · rw [if_neg htarget, Run.bind_run (Run.bound?_run c), hbound'] at hdispose
      simp only [hlive] at hdispose
      cases hdispose
      rw [Bound.without, if_neg htarget, hlive]
      exact Bridge.boundOf_withBound (by simp [hbound']) _

end ChannelId

section Native

variable (hcalls : host.Calls allowed) (hleaves : answer.Obeys allowed (Leaves c))
include hcalls hleaves

/-- A mild errand leaves the tables alone. -/
theorem Errand.run_leaves {errand : Errand} (hmild : errand.Mild) (w : WorkerId) :
    (errand.run host answer c w).Obeys (Leaves c) frame bridge := by
  have hcourse : Course (Leaves (σ := σ) c) := leaves_course c
  cases errand with
  | refuse e => exact hcourse.pure _
  | hand task told =>
    refine hcourse.bind (hcourse.submit w task) fun _ _ ↦ ?_
    exact hcourse.bind (hcourse.sayAll told) fun _ _ ↦ hcourse.pure _
  | await binding method args =>
    refine hcourse.bind (Run.sync_obeys hcourse hleaves hcalls w fun _ _ ↦ ?_) fun _ _ ↦
      hcourse.pure _
    exact Binding.invoke_obeys hcourse hleaves hcalls binding method args
  | make | dispose => exact hmild.elim

namespace ChannelId

/-- An initializer fails, or its object is new to the tables and put in. -/
theorem produce_puts (hhost : host.Lawful known c) (hanswer : answer.Lawful known c)
    (hsound : Sound known c bridge) (hbound : bridge.boundOf c = some bound) {w : WorkerId}
    {target : Int} {place typeName : String} {args : List Value}
    (hargs : Value.itemIdentities args = []) {outcome : Except BridgeError Unit}
    (h : produce host answer c w target place typeName args frame bridge =
      some (outcome, bridge')) :
    (∃ e, outcome = .error e) ∧ bridge'.boundOf c = some bound ∨
      ∃ object, outcome = .ok () ∧ bound.references.get? object.identity = none ∧
        bridge'.boundOf c = some (bound.put target ⟨place, object⟩).1 := by
  obtain ⟨made, after, hsync, hrest⟩ := Run.of_bind_run h
  have hkept : after.boundOf c = some bound :=
    (Run.sync_obeys (leaves_course c) hleaves hcalls w
      (fun _ _ ↦ Host.make_obeys (leaves_course c) hleaves hcalls typeName args) made after
        hsync).trans hbound
  obtain ⟨-, -, hfresh⟩ := Run.sync_leads hhost hanswer w
    (fun _ _ ↦ Host.make_leads hhost hanswer typeName hargs) hsound made after hsync
  cases hmade : made.bind Finish.result with
  | error e =>
    rw [hmade] at hrest
    cases hrest
    exact .inl ⟨⟨e, rfl⟩, hkept⟩
  | ok object =>
    have hreturned := Finish.bind_result_eq_ok_iff.mp hmade
    have hnew := (hfresh _ hreturned object rfl).2 bound hkept
    rw [hmade] at hrest
    dsimp only at hrest
    rw [Run.bind_run (Run.bound?_run c), hkept] at hrest
    dsimp only at hrest
    refine .inr ⟨object, ?_⟩
    have hput : (after.withBound c (some (bound.put target ⟨place, object⟩).1)).boundOf c =
        some (bound.put target ⟨place, object⟩).1 := Bridge.boundOf_withBound (by simp [hkept]) _
    split at hrest
    · cases hrest
      exact ⟨rfl, hnew, hput⟩
    · cases hrest
      exact ⟨rfl, hnew, hput⟩

/-- **A request for an instance** is refused or fails, and then the tables are as they were, or a
new object is put in at its id. -/
theorem handle_create (hhost : host.Lawful known c) (hanswer : answer.Lawful known c)
    (hsound : Sound known c bridge) (hbound : bridge.boundOf c = some bound)
    (hrequest : message.request? = .ok request) (hopcode : request.opcode = "+")
    (h : handle host answer c message waits frame bridge = some (outcome, bridge')) :
    (∃ e, outcome = .error e) ∧ bridge'.boundOf c = some bound ∨
      0 < request.target ∧ ∃ object, outcome = .ok none ∧
        bound.references.get? object.identity = none ∧ bridge'.boundOf c =
          some (bound.put request.target ⟨bound.placeOf request.target, object⟩).1 := by
  obtain ⟨channel, hchannel, -⟩ := Option.bind_eq_some_iff.mp hbound
  rw [handle_run hchannel, Bridge.errand_of_create hrequest hopcode, Bridge.creation, hbound] at h
  by_cases htarget : request.target ≤ 0
  · rw [if_pos htarget] at h
    cases h
    exact .inl ⟨⟨_, rfl⟩, hbound⟩
  · rw [if_neg htarget] at h
    dsimp only at h
    cases hprincipal : bound.principal? with
    | none =>
      rw [hprincipal] at h
      cases h
      exact .inl ⟨⟨_, rfl⟩, hbound⟩
    | some principal =>
      rw [hprincipal] at h
      obtain ⟨created, after, hproduce, hdone⟩ := Run.of_bind_run h
      obtain ⟨rfl, rfl⟩ := Prod.mk.inj (Option.some.inj hdone)
      rcases produce_puts hcalls hleaves hhost hanswer
          (⟨hsound.grounded, hsound.waiting⟩ : Sound known c (bridge.logged (received channel)))
          hbound
          (Value.itemIdentities_argumentsOf request.operand) hproduce
        with ⟨⟨e, rfl⟩, hkept⟩ | ⟨object, rfl, hnew, hput⟩
      · exact .inl ⟨⟨e, rfl⟩, hkept⟩
      · exact .inr ⟨by omega, object, rfl, hnew, hput⟩

/-- A request for a member leaves the tables alone. -/
theorem handle_leaves (hrequest : message.request? = .ok request) (hcreate : request.opcode ≠ "+")
    (hdispose : request.opcode ≠ "-") :
    (handle host answer c message waits).Obeys (Leaves c) frame bridge := by
  intro outcome bridge' h
  cases hchannel : bridge.channels.get? c with
  | none =>
    rw [handle_run_of_none hchannel] at h
    cases h
    rfl
  | some channel =>
    rw [handle_run hchannel] at h
    have hmild : (bridge.errand host c message waits).Mild :=
      Bridge.errand_mild hrequest hcreate hdispose
    have hkept : Leaves c (bridge.logged (received channel)) bridge' :=
      Errand.run_leaves hcalls hleaves hmild channel.worker outcome bridge' h
    exact hkept

omit hcalls hleaves in
/-- A message that nobody waits for does no more to the tables than it does when it is handled. -/
theorem dispatch_handles
    (h : dispatch host answer c message frame bridge = some ((), bridge')) :
    ∃ outcome mid, handle host answer c message false frame bridge = some (outcome, mid) ∧
      bridge'.boundOf c = mid.boundOf c := by
  obtain ⟨outcome, mid, hhandle, hrest⟩ := Run.of_bind_run h
  refine ⟨outcome, mid, hhandle, ?_⟩
  cases outcome with
  | ok value =>
    cases hrest
    rfl
  | error e => exact report_obeys (leaves_course c) e () bridge' hrest

/-- A message that is answered with a value refers to objects once it is handled; nothing else
happens to the tables. -/
theorem dispatchSync_handles {patience : Nat} {reply : String}
    (h : dispatchSync host answer patience c message frame bridge = some (reply, bridge')) :
    ∃ outcome mid, handle host answer c message true frame bridge = some (outcome, mid) ∧
      ((∃ value, outcome = .ok (some value)) ∧ mid.Fills c bridge' ∨
        bridge'.boundOf c = mid.boundOf c) := by
  obtain ⟨asked, after, hask, -⟩ := Run.of_bind_run h
  obtain ⟨outcome, mid, hhandle, -⟩ := Run.of_bind_run hask
  refine ⟨outcome, mid, hhandle, ?_⟩
  match outcome with
  | .error e =>
    rw [dispatchSync_run_of_error patience hhandle] at h
    cases h
    exact .inr rfl
  | .ok none =>
    rw [dispatchSync_run_of_none patience hhandle] at h
    cases h
    exact .inr rfl
  | .ok (some value) =>
    have hanswer : ask host answer c message frame bridge = some (.ok (some value), mid) :=
      Run.bind_run hhandle
    rw [dispatchSync, Run.bind_run hanswer] at h
    obtain ⟨expression, after, hexpression, hdone⟩ := Run.of_bind_run h
    cases hdone
    exact .inl ⟨⟨value, rfl⟩, expression_fills hcalls hleaves patience value _ _ hexpression⟩

end ChannelId

end Native

/-! ## What a request does to other ids -/

/-- Under the ids of a kind a request leaves the tables as they were, and the principal with them,
unless it gives the principal up. -/
inductive Bound.Spared (request : Request) (ids : Int → Prop) (bound : Bound) :
    Option Bound → Prop where
  | ended (hopcode : request.opcode = "-") (htarget : request.target = 0) :
    Spared request ids bound none
  | same {bound' : Bound} (hstays : ¬ (request.opcode = "-" ∧ request.target = 0))
    (hprincipal : bound'.principal? = bound.principal?) (hsame : bound.SameAt ids bound') :
    Spared request ids bound (some bound')

theorem Bound.Spared.mono {ids ids' : Int → Prop} {after : Option Bound}
    (h : bound.Spared request ids after) (hle : ∀ k, ids' k → ids k) :
    bound.Spared request ids' after := by
  cases h with
  | ended hopcode htarget => exact .ended hopcode htarget
  | same hstays hprincipal hsame => exact .same hstays hprincipal (hsame.mono hle)

/-- A new object stands at an id, everything else is as it was, and who stood there before is no
longer referred to. -/
structure Bound.Takes (target : Int) (object : ObjectRef) (bound bound' : Bound) : Prop where
  same : bound.SameAt (· ≠ target) bound'
  stands : bound'.instances.get? target = some ⟨bound.placeOf target, object⟩
  referred : ∀ i, bound'.references.get? i = some target ↔ i = object.identity
  replaced : ∀ previous, bound.instances.get? target = some previous →
    bound'.references.get? previous.object.identity = none

theorem Bound.Coherent.put_takes (h : bound.Coherent) {target : Int} {object : ObjectRef}
    (htarget : 0 < target) (hnew : bound.references.get? object.identity = none) :
    bound.Takes target object (bound.put target ⟨bound.placeOf target, object⟩).1 where
  same := h.put_sameAt _ hnew
  stands := by simp [Bound.put, Table.get?_insert]
  referred i := by
    rw [(h.put htarget hnew).inverse]
    simp [Bound.put, Table.get?_insert, eq_comm]
  replaced previous hprevious := by simp [Bound.put, hprevious, Table.get?_erase]

namespace ChannelId

section Native

variable (hhost : host.Lawful known c) (hanswer : answer.Lawful known c)
  (hcalls : host.Calls allowed) (hleaves : answer.Obeys allowed (Leaves c))
  (hsound : Sound known c bridge) (hcoherent : bound.Coherent)
  (hbound : bridge.boundOf c = some bound) (hrequest : message.request? = .ok request)
include hhost hanswer hcalls hleaves hsound hcoherent hbound hrequest

/-- **Handling a request spares all other ids.** -/
theorem handle_spares
    (h : handle host answer c message waits frame bridge = some (outcome, bridge')) :
    bound.Spared request (· ≠ request.target) (bridge'.boundOf c) := by
  by_cases hcreate : request.opcode = "+"
  · have hstays : ¬ (request.opcode = "-" ∧ request.target = 0) := by simp [hcreate]
    rcases handle_create hcalls hleaves hhost hanswer hsound hbound hrequest hcreate h with
      ⟨-, hkept⟩ | ⟨htarget, object, -, hnew, hput⟩
    · rw [hkept]
      exact .same hstays rfl (.refl bound)
    · have hsame := (hcoherent.put_takes htarget hnew).same
      rw [hput]
      exact .same hstays (hsame.instances 0 (by omega)) hsame
  by_cases hdispose : request.opcode = "-"
  · rw [(handle_dispose hcoherent hbound hrequest hdispose h).2, Bound.without]
    split
    · next htarget => exact .ended hdispose htarget
    · next htarget =>
      have hstays : ¬ (request.opcode = "-" ∧ request.target = 0) := fun hboth ↦ htarget hboth.2
      split
      · exact .same hstays rfl (.refl bound)
      · next binding hbinding =>
        have hsame := hcoherent.remove_sameAt hbinding
        exact .same hstays (hsame.instances 0 (Ne.symm htarget)) hsame
  · have hkept : bridge'.boundOf c = some bound :=
      (handle_leaves hcalls hleaves hrequest hcreate hdispose outcome bridge' h).trans hbound
    rw [hkept]
    exact .same (fun hboth ↦ hdispose hboth.1) rfl (.refl bound)

/-- A request that is answered with a value is for a member. -/
theorem member_of_value {value : Value}
    (h : handle host answer c message waits frame bridge = some (.ok (some value), bridge')) :
    request.opcode ≠ "+" ∧ request.opcode ≠ "-" := by
  constructor
  · intro hcreate
    rcases handle_create hcalls hleaves hhost hanswer hsound hbound hrequest hcreate h with
      ⟨⟨e, he⟩, -⟩ | ⟨-, object, hnone, -⟩
    · cases he
    · cases hnone
  · intro hdispose
    exact (handle_dispose hcoherent hbound hrequest hdispose h).1 value rfl

/-- Replying fills vacant ids, and spares all others. -/
theorem dispatchSync_spares {patience : Nat} {reply : String}
    (h : dispatchSync host answer patience c message frame bridge = some (reply, bridge')) :
    bound.Spared request (fun k ↦ k ≠ request.target ∧ ¬ bound.Vacant k) (bridge'.boundOf c) := by
  obtain ⟨outcome, mid, hhandle, ⟨⟨value, rfl⟩, hfills⟩ | hkept⟩ :=
    dispatchSync_handles hcalls hleaves h
  · obtain ⟨hcreate, hdispose⟩ := member_of_value hhost hanswer hcalls hleaves hsound hcoherent
      hbound hrequest hhandle
    have hmid : mid.boundOf c = some bound :=
      (handle_leaves hcalls hleaves hrequest hcreate hdispose _ mid hhandle).trans hbound
    obtain ⟨bound', hbound', -, hsame⟩ := hfills bound hmid hcoherent
    have hprincipal : ¬ bound.Vacant 0 := fun hvacant ↦ Int.lt_irrefl 0 hvacant.1
    rw [hbound']
    exact .same (fun hboth ↦ hdispose hboth.1) (hsame.instances 0 hprincipal)
      (hsame.mono fun _ hk ↦ hk.2)
  · have hspared := handle_spares hhost hanswer hcalls hleaves hsound hcoherent hbound hrequest
      hhandle
    rw [hkept]
    exact hspared.mono fun _ hk ↦ hk.1

/-- An instance that is made at a free id and given up again leaves no trace. -/
theorem handle_create_dispose {other : Message} {disposal : Request} {waits' : Bool}
    {frame' : Frame} {outcome' : Except BridgeError (Option Value)} {bridge'' : Bridge σ}
    (hcreate : request.opcode = "+") (hfree : bound.instances.get? request.target = none)
    (h : handle host answer c message waits frame bridge = some (outcome, bridge'))
    (hother : other.request? = .ok disposal) (hdispose : disposal.opcode = "-")
    (htarget : disposal.target = request.target)
    (h' : handle host answer c other waits' frame' bridge' = some (outcome', bridge'')) :
    bridge''.boundOf c = some bound := by
  obtain ⟨principal, hprincipal⟩ := hcoherent.principal
  have hzero : request.target ≠ 0 := by
    intro hzero
    rw [hzero, hprincipal] at hfree
    cases hfree
  rcases handle_create hcalls hleaves hhost hanswer hsound hbound hrequest hcreate h with
    ⟨-, hkept⟩ | ⟨hpositive, object, -, hnew, hput⟩
  · rw [(handle_dispose hcoherent hkept hother hdispose h').2, htarget, Bound.without,
      if_neg hzero, hfree]
  · have hstands := (hcoherent.put_takes hpositive hnew).stands
    rw [(handle_dispose (hcoherent.put hpositive hnew) hput hother hdispose h').2, htarget,
      Bound.without, if_neg hzero, hstands]
    exact congrArg some (Bound.remove_put _ hfree hnew)

end Native

end ChannelId

/-- **A message spares all other ids**, whatever it asks for and in every state that can be reached,
as long as native code leaves the tables to the channel. One that is waited for may fill vacant ids
with the objects of its reply. An instance that is made takes nothing but its id, and when it is
given up again, the tables are back as they were. -/
theorem Bridge.Reached.other_ids_spared (hhost : host.Lawful known c)
    (hleaves : host.LeavesTables c) (hreached : Bridge.Reached known host bridge)
    (hbound : bridge.boundOf c = some bound) (hrequest : message.request? = .ok request)
    (levels : Nat) (frame : Frame) :
    (∀ bridge', Bridge.answer host levels (.dispatch c message) frame bridge =
        some ((), bridge') →
      bound.Spared request (· ≠ request.target) (bridge'.boundOf c)) ∧
    (∀ reply bridge', Bridge.answer host levels (.dispatchSync c message) frame bridge =
        some (reply, bridge') →
      bound.Spared request (fun k ↦ k ≠ request.target ∧ ¬ bound.Vacant k)
        (bridge'.boundOf c)) ∧
    (request.opcode = "+" → ∀ waits outcome bridge',
      ChannelId.handle host (Bridge.answer host levels) c message waits frame bridge =
        some (outcome, bridge') →
      (outcome = .ok none → ∃ object bound', bridge'.boundOf c = some bound' ∧
        bound.Takes request.target object bound') ∧
      (bound.instances.get? request.target = none → ∀ other disposal,
        other.request? = .ok disposal → disposal.opcode = "-" →
        disposal.target = request.target → ∀ waits' frame' outcome' bridge'',
          ChannelId.handle host (Bridge.answer host levels) c other waits' frame' bridge' =
            some (outcome', bridge'') →
          bridge''.boundOf c = some bound)) := by
  obtain ⟨hsound, hcoherent, -⟩ := hreached.tidy hhost
  have hcoherent := hcoherent bound hbound
  obtain ⟨allowed, hcalls, hleaves⟩ := hleaves
  have hlawful := Bridge.answer_lawful hhost
  refine ⟨fun bridge' h ↦ ?_, fun reply bridge' h ↦ ?_,
    fun hcreate waits outcome bridge' h ↦ ⟨?_, ?_⟩⟩
  · cases levels with
    | zero => cases h
    | succ levels =>
      obtain ⟨outcome, mid, hhandle, hkept⟩ := ChannelId.dispatch_handles h
      rw [hkept]
      exact ChannelId.handle_spares hhost (hlawful levels) hcalls (hleaves levels) hsound hcoherent
        hbound hrequest hhandle
  · cases levels with
    | zero => cases h
    | succ levels =>
      exact ChannelId.dispatchSync_spares hhost (hlawful levels) hcalls (hleaves levels) hsound
        hcoherent hbound hrequest h
  · rintro rfl
    rcases ChannelId.handle_create hcalls (hleaves levels) hhost (hlawful levels) hsound hbound
        hrequest hcreate h with ⟨⟨e, he⟩, -⟩ | ⟨htarget, object, -, hnew, hput⟩
    · cases he
    · exact ⟨object, _, hput, hcoherent.put_takes htarget hnew⟩
  · intro hfree other disposal hother hdispose htarget waits' frame' outcome' bridge'' h'
    exact ChannelId.handle_create_dispose hhost (hlawful levels) hcalls (hleaves levels) hsound
      hcoherent hbound hrequest hcreate hfree h hother hdispose htarget h'

/-- A message that asks something of an instance, without an operand. -/
def Message.wanting (opcode : String) (target : Int) : Message :=
  ⟨"1", some (.object [(opcodeKey, .string opcode), (targetKey, .int target)])⟩

/-- A channel, bound or not, and its worker. -/
def Bridge.single (native : Nat) (context : Option Context) (bound : Option Bound) :
    Bridge Nat where
  native := native
  context := context
  channels := Table.empty.insert 0 { worker := 0, bound }
  workers := Table.empty.insert 0 { label := "queue", kind := .queue }

/-- A channel whose principal has been bound is reached. -/
theorem Bridge.Reached.bound_single {host : Host Nat} {handle : Except BridgeError Handle}
    {bridge : Bridge Nat}
    (h : Bridge.answer host 3 (.bind 0 ⟨0, "Node"⟩ "app") {} (.single 2 (some {}) none) =
      some (handle, bridge)) : Bridge.Reached (fun count i ↦ i < count) host bridge := by
  have hstart : Bridge.Reached (fun count i ↦ i < count) host
      { native := 2, context := some {} } := .start _ rfl rfl
  have hworker := hstart.operation (.addWorker {} .queue "queue" _ rfl)
  have hchannel := hworker.operation (.addChannel {} { worker := 0 } rfl _ rfl)
  exact hchannel.operation (.call 3 {} (.bind 0 ⟨0, "Node"⟩ "app") handle (by decide) h)

/-- Tables in which the principal has shown an object. -/
def Bound.showing : Bound :=
  { (Bound.start "1" "app" ⟨0, "Node"⟩).allocate ⟨1, "Node"⟩ with pending := [] }

/-- An instance is made at a free id and given up again, and a message to the principal is answered
with an object that gets an id. -/
theorem numbering_other_ids_spared :
    ∃ (bridge' bridge'' : Bridge Nat) (object : ObjectRef) (bound' : Bound) (reply : String)
      (replied : Bridge Nat),
      Bridge.Reached (fun count i ↦ i < count) Host.numbering (.single 2 none (some .showing)) ∧
      ChannelId.handle .numbering (Bridge.answer .numbering 3) 0 (.wanting "+" 1) false {}
        (.single 2 none (some .showing)) = some (.ok none, bridge') ∧
      bridge'.boundOf 0 = some bound' ∧ Bound.showing.Takes 1 object bound' ∧
      ChannelId.handle .numbering (Bridge.answer .numbering 3) 0 (.wanting "-" 1) false {}
        bridge' = some (.ok none, bridge'') ∧
      bridge''.boundOf 0 = some .showing ∧
      Bridge.answer .numbering 3 (.dispatchSync 0 (.wanting "spawn" 0)) {}
        (.single 2 none (some .showing)) = some (reply, replied) ∧
      (replied.boundOf 0).map (·.instances.keys) = some [-2, -1, 0] ∧
      Bound.showing.Spared ⟨"1", 0, "spawn", none⟩ (fun k ↦ k ≠ 0 ∧ ¬ Bound.showing.Vacant k)
        (replied.boundOf 0) := by
  have hleaves : Host.numbering.LeavesTables 0 :=
    ⟨fun _ ↦ False, Host.numbering_calls _, fun _ _ h ↦ h.elim⟩
  have hbound : Bridge.Reached (fun count i ↦ i < count) Host.numbering _ := .bound_single rfl
  have hreached : Bridge.Reached (fun count i ↦ i < count) Host.numbering
    (.single 2 none (some .showing)) := hbound.operation (.outside (fun _ h ↦ h) rfl rfl)
  have hspares {message : Message} {request : Request} (h : message.request? = .ok request) :=
    @Bridge.Reached.other_ids_spared _ _ 0 _ _ .showing _ _ (Host.numbering_lawful 0) hleaves
      hreached rfl h 3 {}
  have hcreation : (Message.wanting "+" 1).request? = .ok ⟨"1", 1, "+", none⟩ := rfl
  obtain ⟨htakes, hundone⟩ := (hspares hcreation).2.2 rfl false _ _ rfl
  obtain ⟨object, bound', hbound', htaken⟩ := htakes rfl
  have hspawning : (Message.wanting "spawn" 0).request? = .ok ⟨"1", 0, "spawn", none⟩ := rfl
  exact ⟨_, _, object, bound', _, _, hreached, rfl, hbound', htaken, rfl,
    hundone rfl (.wanting "-" 1) _ rfl rfl rfl false {} _ _ rfl, rfl, rfl,
    (hspares hspawning).2.1 _ _ rfl⟩

/-- A host whose objects have a method that gives up the instance 1 of the channel 0. -/
def Host.discarding : Host Nat :=
  { Host.numbering with
    surface := fun typeName ↦ ⟨typeName, .ofList
      [("", .initializer 0), ("discard", .method (some 0) true)]⟩
    invoke := fun _ _ _ ↦ .call (.dispatch 0 (.wanting "-" 1)) fun _ ↦
      .done (.returned (.ok .undefined)) }

/-- Tables in which an instance stands beside the principal. -/
def Bound.accompanied : Bound :=
  ((Bound.start "1" "app" ⟨0, "Node"⟩).put 1 ⟨"app[1]", ⟨2, "Node"⟩⟩).1

/-- Native code that a message makes run may send messages itself, and these may be for other
instances than the first one is. -/
theorem not_always_spared :
    ¬ ∀ (host : Host Nat) (levels : Nat) (message : Message) (request : Request) (bound : Bound)
      (reply : String) (bridge bridge' : Bridge Nat),
      Bridge.Reached (fun count i ↦ i < count) host bridge → bridge.boundOf 0 = some bound →
        message.request? = .ok request →
        Bridge.answer host levels (.dispatchSync 0 message) {} bridge = some (reply, bridge') →
        bound.Spared request (fun k ↦ k ≠ request.target ∧ ¬ bound.Vacant k)
          (bridge'.boundOf 0) := by
  intro h
  have hbound : Bridge.Reached (fun count i ↦ i < count) Host.discarding _ := .bound_single rfl
  have hcalm : Bridge.Reached (fun count i ↦ i < count) Host.discarding
    (.single 2 none (some (.start "1" "app" ⟨0, "Node"⟩))) :=
      hbound.operation (.outside (fun _ h ↦ h) rfl rfl)
  have hmade := hcalm.operation (.call 3 {} (.dispatch 0 (.wanting "+" 1)) () nofun rfl)
  have hreached : Bridge.Reached (fun count i ↦ i < count) Host.discarding
    (.single 3 none (some .accompanied)) := hmade.operation (.outside (fun _ h ↦ h) rfl rfl)
  -- the principal is asked for its method, and then there is no instance 1 any more
  have hspared := h .discarding 5 (.wanting "discard" 0) ⟨"1", 0, "discard", none⟩ .accompanied _ _
    _ hreached rfl rfl rfl
  have hgone : Bound.Spared ⟨"1", 0, "discard", none⟩
    (fun k ↦ k ≠ 0 ∧ ¬ Bound.accompanied.Vacant k) .accompanied
      (some (Bound.accompanied.remove 1 ⟨"app[1]", ⟨2, "Node"⟩⟩)) := hspared
  cases hgone with
  | same _ _ hsame =>
    have hone := hsame.instances 1 ⟨by decide, fun hvacant ↦ absurd hvacant.1 (by decide)⟩
    exact absurd hone (by decide)

end ScriptBridge
