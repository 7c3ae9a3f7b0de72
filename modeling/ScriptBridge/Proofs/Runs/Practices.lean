import ScriptBridge.Proofs.Runs.Obedience

/-!
# Calls of the bridge and the few that change tables

Of all that a call of the bridge does, a few things change the tables of a channel: a literal is
made, pending objects are drained, an instance is made or given up, a binding starts. The rest posts
messages, runs native code and scripts, and hands in work, and keeps to every course that the calls
made meanwhile keep to (`Answerer.Covers`). A *practice* is a course that the few keep to, as well;
every call of the bridge that starts no binding then keeps to it
(`Bridge.Practice.answerWith_obeys`).
-/

namespace ScriptBridge

open Bridge (Course)

variable {σ α : Type} {R : Bridge σ → Bridge σ → Prop} {host : Host σ} {answer : Answerer σ}
  {allowed : BridgeCall → Prop} {frame : Frame} {bridge : Bridge σ}

/-- The calls made meanwhile keep to the relation: the ones that native code makes, and the ones
that scripts make, who post messages. -/
structure Answerer.Covers (host : Host σ) (allowed : BridgeCall → Prop)
    (R : Bridge σ → Bridge σ → Prop) (answer : Answerer σ) : Prop where
  obeys : answer.Obeys allowed R
  calls : host.Calls allowed
  posts : ∀ channel message,
    allowed (.dispatch channel message) ∧ allowed (.dispatchSync channel message)

/-- Where all calls are allowed. -/
theorem Answerer.Obeys.covers (h : answer.Obeys (fun _ ↦ True) R) :
    answer.Covers host (fun _ ↦ True) R :=
  ⟨h, host.calls_all, fun _ _ ↦ ⟨trivial, trivial⟩⟩

/-! ## What changes no tables -/

/-- Finding an identifier changes neither bindings nor registrations. -/
theorem ChannelId.identifierFor_aside {bridge' : Bridge σ} {object : ObjectRef}
    {identifier : String}
    (h : identifierFor host object frame bridge = some (identifier, bridge')) :
    bridge'.channels = bridge.channels ∧ bridge'.handlers? = bridge.handlers? := by
  have hget : (get : Run σ (Bridge σ)) frame bridge = some (bridge, bridge) := rfl
  rw [identifierFor, Run.bind_run hget] at h
  cases hdeclared : (host.hooks bridge.native object).identifier with
  | some declared =>
    rw [hdeclared] at h
    cases h
    exact ⟨rfl, rfl⟩
  | none =>
    rw [hdeclared] at h
    cases h
    exact ⟨rfl, rfl⟩

section Course

variable (hR : Course R)
include hR

namespace ChannelId

theorem forward_obeys (id : ChannelId) (message : Message) :
    (forward host id message).Obeys R frame bridge := by
  refine .get_bind ?_
  split
  · exact hR.pure _
  · split
    · exact hR.pure _
    · split
      · exact hR.bind (hR.submit _ _) fun _ _ ↦ hR.pure _
      · exact hR.pure _

theorem report_obeys (e : BridgeError) : (report e : Run σ Unit).Obeys R frame bridge := by
  unfold report
  split
  · exact hR.say _ _
  · split
    · exact hR.say _ _
    · exact hR.say _ _

end ChannelId

theorem Gate.decode_obeys (name : String) (body : Option String) :
    (Gate.decode name body : Run σ Message).Obeys R frame bridge := by
  unfold Gate.decode
  split
  · exact hR.pure _
  · split
    · exact hR.pure _
    · exact hR.bind (hR.say _ _) fun _ _ ↦ hR.pure _

variable (hanswer : answer.Covers host allowed R)
include hanswer

theorem Gate.post_obeys (name : String) (body : Option String) :
    (Gate.post answer name body).Obeys R frame bridge := by
  refine .get_bind ?_
  split
  · exact hR.say _ _
  · refine hR.bind (decode_obeys hR name body) fun _ bridge' ↦ ?_
    exact hanswer.obeys _ (hanswer.posts _ _).1 _ bridge'

theorem Gate.postSync_obeys (name : String) (body : Option String) :
    (Gate.postSync answer name body).Obeys R frame bridge := by
  refine .get_bind ?_
  split
  · exact hR.bind (hR.say _ _) fun _ _ ↦ hR.pure _
  · refine hR.bind (decode_obeys hR name body) fun _ bridge' ↦ ?_
    exact hanswer.obeys _ (hanswer.posts _ _).2 _ bridge'

namespace Run

theorem converse_obeys (dialogue : Script.Dialogue α) :
    (Run.converse answer dialogue).Obeys R frame bridge := by
  induction dialogue generalizing bridge with
  | done result => exact hR.pure _
  | post name body next ih => exact hR.bind (Gate.post_obeys hR hanswer name body) fun _ _ ↦ ih ()
  | ask name body next ih =>
    exact hR.bind (Gate.postSync_obeys hR hanswer name body) fun expression _ ↦ ih expression

theorem script_obeys (text : String) : (Run.script answer text).Obeys R frame bridge := by
  unfold Run.script
  split
  · exact hR.pure _
  · have htake : ∀ bridge, (Run.takeRealm : Run σ Script.Realm).Obeys R frame bridge := by
      intro bridge
      refine .get_bind ?_
      split
      · exact .stuck
      · exact hR.bind (hR.changeContext fun _ ↦ by rfl) fun _ _ ↦ hR.pure _
    refine hR.bind (htake bridge) fun realm _ ↦ ?_
    refine hR.bind (converse_obeys hR hanswer _) fun ended _ ↦ ?_
    refine hR.bind (hR.changeContext fun _ ↦ by rfl) fun _ _ ↦ ?_
    split
    · exact hR.pure _
    · exact hR.pure _

end Run

namespace ChannelId

theorem inject_obeys (source : Source) : (inject answer source).Obeys R frame bridge := by
  refine .get_bind ?_
  split
  · exact hR.pure _
  · split
    · exact hR.pure _
    · split
      · exact hR.bind (hR.changeContext fun _ ↦ by rfl) fun _ _ ↦ hR.pure _
      · refine hR.bind (Run.script_obeys hR hanswer _) fun outcome _ ↦ ?_
        split
        · exact hR.pure _
        · exact hR.pure _

theorem injectAll_obeys (sources : List Source) :
    (injectAll answer sources).Obeys R frame bridge := by
  induction sources generalizing bridge with
  | nil => exact hR.pure _
  | cons source sources ih =>
    refine hR.bind (inject_obeys hR hanswer source) fun refusal _ ↦ ?_
    dsimp only
    split
    · exact ih
    · exact hR.bind (hR.say _ _) fun _ _ ↦ ih

theorem reach_obeys (id : ChannelId) (worker : WorkerId) (binding : Binding) (name : String)
    (operand : Option Json) (waits : Bool) :
    (reach host answer id worker binding name operand waits).Obeys R frame bridge := by
  unfold reach
  split
  · exact hR.bind (hR.submit _ _) fun _ _ ↦ hR.pure _
  · split
    · exact hR.bind (Run.sync_obeys hR hanswer.obeys hanswer.calls worker fun _ _ ↦
        Binding.invoke_obeys hR hanswer.obeys hanswer.calls _ _ _) fun _ _ ↦ hR.pure _
    · exact hR.bind (hR.submit _ _) fun _ _ ↦ hR.pure _
  · exact hR.pure _

theorem evaluate_obeys (text : String) : (evaluate answer text).Obeys R frame bridge := by
  refine .get_bind ?_
  split
  · exact hR.bind (Run.script_obeys hR hanswer _) fun _ _ ↦ hR.pure _
  · exact hR.bind (hR.changeContext fun _ ↦ by rfl) fun _ _ ↦ hR.pure _

end ChannelId

end Course

/-! ## Practices -/

/-- The relation is a course, the calls that are made meanwhile keep to it, and so does what changes
the tables of a channel that is bound. -/
structure Bridge.Practice (host : Host σ) (answer : Answerer σ) (allowed : BridgeCall → Prop)
    (R : Bridge σ → Bridge σ → Prop) : Prop extends Course R where
  covers : answer.Covers host allowed R
  literal : ∀ id engine value frame bridge,
    (ChannelId.literal id engine value : Run σ String).Obeys R frame bridge
  drain : ∀ id engine patience frame bridge,
    (ChannelId.drain host answer id engine patience).Obeys R frame bridge
  create : ∀ id worker request frame bridge,
    (ChannelId.create host answer id worker request).Obeys R frame bridge
  dispose : ∀ id target frame bridge,
    (ChannelId.dispose id target : Run σ Unit).Obeys R frame bridge

open Bridge (Practice)

namespace ChannelId

variable (h : Practice host answer allowed R)
include h

theorem expression_obeys (patience : Nat) (id : ChannelId) (value : Value) :
    (expression host answer patience id value).Obeys R frame bridge := by
  refine .get_bind ?_
  refine h.bind (h.literal id _ value _ _) fun _ _ ↦ ?_
  exact h.bind (h.drain id _ patience _ _) fun _ _ ↦ h.pure _

/-- What comes after the registration. -/
theorem installed_obeys (patience : Nat) (id : ChannelId) (engine : EngineLiterals)
    (identifier place : String) (source : Source) :
    (do
      match ← inject answer source with
      | some e =>
        Run.say .error ("stub injection failed: " ++ e.message)
        unbind id
        return .error (refused e)
      | none =>
        let sources ← drain host answer id engine patience
        injectAll answer sources
        Run.say .info "plugin bound"
        return .ok { channel := id, identifier, place } :
      Run σ (Except BridgeError Handle)).Obeys R frame bridge := by
  refine h.bind (inject_obeys h.toCourse h.covers source) fun refusal _ ↦ ?_
  split
  · refine h.bind (h.say _ _) fun _ _ ↦ ?_
    exact h.bind (h.dispose id 0 _ _) fun _ _ ↦ h.pure _
  · refine h.bind (h.drain id engine patience _ _) fun sources _ ↦ ?_
    refine h.bind (injectAll_obeys h.toCourse h.covers sources) fun _ _ ↦ ?_
    exact h.bind (h.say _ _) fun _ _ ↦ h.pure _

theorem serve_obeys (id : ChannelId) (worker : WorkerId) (message : Message) (request : Request)
    (waits : Bool) :
    (serve host answer id worker message request waits).Obeys R frame bridge := by
  unfold serve
  dsimp only
  split
  · exact h.bind (h.create id worker request _ _) fun _ _ ↦ h.pure _
  · refine .bound?_bind ?_
    split
    · refine h.bind (forward_obeys h.toCourse id message) fun taken _ ↦ ?_
      split
      · exact h.pure _
      · exact h.pure _
    · split
      · exact reach_obeys h.toCourse h.covers id worker _ _ _ waits
      · exact h.bind (h.dispose id _ _ _) fun _ _ ↦ h.pure _

theorem handle_obeys (id : ChannelId) (message : Message) (waits : Bool) :
    (handle host answer id message waits).Obeys R frame bridge := by
  refine .get_bind ?_
  split
  · exact h.pure _
  · next channel _ =>
    refine h.say_if fun bridge ↦ ?_
    split
    · exact serve_obeys h id _ message _ waits
    · dsimp only
      split
      · exact h.pure _
      · refine h.bind (forward_obeys h.toCourse id message) fun taken _ ↦ ?_
        split
        · exact h.bind (h.say _ _) fun _ _ ↦ h.pure _
        · exact h.pure _

theorem dispatch_obeys (id : ChannelId) (message : Message) :
    (dispatch host answer id message).Obeys R frame bridge := by
  refine h.bind (handle_obeys h id message false) fun reply _ ↦ ?_
  split
  · exact h.pure _
  · exact report_obeys h.toCourse _

theorem dispatchSync_obeys (patience : Nat) (id : ChannelId) (message : Message) :
    (dispatchSync host answer patience id message).Obeys R frame bridge := by
  have hask : (ask host answer id message).Obeys R frame bridge := by
    refine h.bind (handle_obeys h id message true) fun reply _ ↦ ?_
    split
    · exact h.pure _
    · exact h.bind (report_obeys h.toCourse _) fun _ _ ↦ h.pure _
  refine h.bind hask fun reply _ ↦ ?_
  split
  · exact h.bind (expression_obeys h patience id _) fun _ _ ↦ h.pure _
  · exact h.pure _
  · exact h.pure _

theorem complete_obeys (patience : Nat) (function : Callback) (outcome : Except String Value) :
    (complete host answer patience function outcome).Obeys R frame bridge := by
  refine .get_bind ?_
  dsimp only
  split
  · exact h.pure _
  · split
    · refine h.bind (expression_obeys h patience _ _) fun _ _ ↦ ?_
      exact evaluate_obeys h.toCourse h.covers _
    · exact evaluate_obeys h.toCourse h.covers _

end ChannelId

/-- **Every call that starts no binding keeps to a practice.** -/
theorem Bridge.Practice.answerWith_obeys (h : Practice host answer allowed R) (patience : Nat)
    {request : BridgeCall} (hbind : ∀ channel object place, request ≠ .bind channel object place) :
    (answerWith host answer patience request).Obeys R frame bridge := by
  cases request with
  | bind channel object place => exact absurd rfl (hbind channel object place)
  | unbind channel => exact h.dispose channel 0 frame bridge
  | dispatch channel message => exact ChannelId.dispatch_obeys h channel message
  | dispatchSync channel message => exact ChannelId.dispatchSync_obeys h patience channel message
  | serialize channel value =>
    exact h.bind (ChannelId.expression_obeys h patience channel value) fun _ _ ↦ h.pure _
  | complete function outcome => exact ChannelId.complete_obeys h patience function outcome
  | steer injection => exact h.changeContext fun _ ↦ by rfl

end ScriptBridge
