import ScriptBridge.Proofs.Runs.Leads

/-!
# The steps of an expression

An expression is computed in two phases. Its literal is written first, which gives ids to the
objects that cross for the first time, and then the queue of stubs is drained, which reads the
properties of one object after another. Here are the equations of the single steps: what each does
in a state in which the channel is bound.
-/

namespace ScriptBridge

variable {σ α β : Type} {host : Host σ} {answer : Answerer σ} {frame : Frame} {bridge : Bridge σ}

/-- The engine of the context; without a context there are no literals to claim, as in one that
keeps text. -/
def Bridge.engine (bridge : Bridge σ) : Engine :=
  match bridge.context with
  | none => .recording
  | some context => context.engine

/-- What a thread is called. -/
def Bridge.nameOf (bridge : Bridge σ) : Thread → String
  | .caller => "main"
  | .background => ""
  | .worker id => ((bridge.workers.get? id).map (·.label)).getD ""

namespace Run

theorem threadName_run :
    Run.threadName frame bridge = some (bridge.nameOf frame.thread, bridge) := by
  obtain ⟨thread, busy⟩ := frame
  cases thread <;> rfl

theorem engineLiterals_run :
    Run.engineLiterals frame bridge = some (bridge.engine.literals, bridge) := by
  refine congrArg some (congrArg (·, bridge) ?_)
  unfold Bridge.engine
  cases bridge.context <;> rfl

/-- A run that is continued, once it is known where it leads. -/
theorem bind_run {run : Run σ α} {next : α → Run σ β} {a : α} {bridge' : Bridge σ}
    (h : run frame bridge = some (a, bridge')) :
    (run >>= next) frame bridge = next a frame bridge' := by
  change (run frame bridge).bind (fun r ↦ next r.1 frame r.2) = _
  rw [h]
  rfl

/-- A continued run that ends went through a middle state. -/
theorem of_bind_run {run : Run σ α} {next : α → Run σ β} {b : β} {bridge'' : Bridge σ}
    (h : (run >>= next) frame bridge = some (b, bridge'')) :
    ∃ a bridge', run frame bridge = some (a, bridge') ∧
      next a frame bridge' = some (b, bridge'') := by
  obtain ⟨⟨a, bridge'⟩, hfirst, hsecond⟩ := Option.bind_eq_some_iff.mp h
  exact ⟨a, bridge', hfirst, hsecond⟩

theorem bound?_run (id : ChannelId) :
    Run.bound? id frame bridge = some (bridge.boundOf id, bridge) := rfl

end Run

theorem Host.tell_run (object : ObjectRef) (message : Message) :
    host.tell answer object message frame bridge =
      if (host.hooks bridge.native object).takesRaw = true then
        (host.receive object message).run answer frame bridge
      else some (.returned (), bridge) := by
  have hget : (getThe (Bridge σ) : Run σ (Bridge σ)) frame bridge = some (bridge, bridge) := rfl
  rw [tell, Run.bind_run hget]
  split <;> rfl

namespace Bridge

/-- The bridge with further lines in its log. -/
def logged (lines : List Line) (bridge : Bridge σ) : Bridge σ :=
  { bridge with log := bridge.log ++ lines }

@[simp] theorem boundOf_logged (c : ChannelId) (lines : List Line) (bridge : Bridge σ) :
    (bridge.logged lines).boundOf c = bridge.boundOf c := rfl

@[simp] theorem scene_logged (c : ChannelId) (lines : List Line) (bridge : Bridge σ) :
    (bridge.logged lines).scene c = bridge.scene c := rfl

@[simp] theorem logged_nil (bridge : Bridge σ) : bridge.logged [] = bridge := by
  simp [logged]

theorem scene_withBound {c : ChannelId} (h : (bridge.boundOf c).isSome) (bound : Option Bound) :
    (bridge.withBound c bound).scene c = (bridge.native, bound) := by
  rw [scene, withBound_native, boundOf_withBound h]

/-- The scene shows whether a channel is bound. -/
theorem scene_of_bound {c : ChannelId} {bound : Bound} (h : bridge.boundOf c = some bound) :
    bridge.scene c = (bridge.native, some bound) := by
  rw [scene, h]

end Bridge

namespace ChannelId

theorem literal_run {id : ChannelId} {bound : Bound} (hbound : bridge.boundOf id = some bound)
    (engine : EngineLiterals) (value : Value) :
    literal id engine value frame bridge =
      some ((Bound.literal engine value bound).1,
        (bridge.withBound id (some (Bound.literal engine value bound).2)).logged
          (referenceLines (bound.allocatedSince (Bound.literal engine value bound).2))) := by
  refine (Run.bind_run (Run.bound?_run id)).trans ?_
  rw [hbound]
  rfl

/-- The source that a channel makes for an object. -/
def stubOf (host : Host σ) (engine : EngineLiterals) (s : σ) (channel : Channel)
    (target : StubTarget) (binding : Binding) (values : List (String × Value)) :
    StateM Bound Source :=
  Bound.stubFor engine channel.urlPrefix (host.surfaceOf binding.object)
    (host.hooks s binding.object) target binding.place values

theorem stub?_run {id : ChannelId} {channel : Channel} {bound : Bound}
    (hchannel : bridge.channels.get? id = some channel) (hbound : channel.bound = some bound)
    (engine : EngineLiterals) (target : StubTarget) (binding : Binding)
    (values : List (String × Value)) :
    stub? host id engine target binding values frame bridge =
      some (some (stubOf host engine bridge.native channel target binding values bound).1,
        (bridge.withBound id
          (some (stubOf host engine bridge.native channel target binding values bound).2)).logged
            (referenceLines (bound.allocatedSince
              (stubOf host engine bridge.native channel target binding values bound).2))) := by
  have hget : (get : Run σ (Bridge σ)) frame bridge = some (bridge, bridge) := rfl
  refine (Run.bind_run hget).trans ?_
  simp only [hchannel, hbound]
  rfl

theorem stub?_run_of_unbound {id : ChannelId} (hbound : bridge.boundOf id = none)
    (engine : EngineLiterals) (target : StubTarget) (binding : Binding)
    (values : List (String × Value)) :
    stub? host id engine target binding values frame bridge = some (none, bridge) := by
  have hget : (get : Run σ (Bridge σ)) frame bridge = some (bridge, bridge) := rfl
  refine (Run.bind_run hget).trans ?_
  cases hchannel : bridge.channels.get? id with
  | none => rfl
  | some channel =>
    have hnone : channel.bound = none := by simpa [Bridge.boundOf, hchannel] using hbound
    simp only [hnone]
    rfl

/-- There is nothing to drain. -/
theorem drain_run_idle {id : ChannelId} (h : bridge.Settled id) (engine : EngineLiterals)
    (patience : Nat) :
    drain host answer id engine (patience + 1) frame bridge = some ([], bridge) := by
  refine (Run.bind_run (Run.bound?_run id)).trans ?_
  cases hbound : bridge.boundOf id with
  | none => rfl
  | some bound =>
    simp only [h bound hbound]
    rfl

/-- One round of a drain: the first entry is taken, its properties are read, its stub is made. -/
theorem drain_run_next {id : ChannelId} {bound : Bound} {next : Pending} {rest : List Pending}
    (hbound : bridge.boundOf id = some bound) (hpending : bound.pending = next :: rest)
    (engine : EngineLiterals) (patience : Nat) :
    drain host answer id engine (patience + 1) frame bridge =
      (do
        let values ← next.binding.values host answer
        match ← stub? host id engine (.reference next.owner next.id) next.binding values with
        | none => return []
        | some source =>
          let sources ← drain host answer id engine patience
          return source :: sources : Run σ (List Source)) frame
        (bridge.withBound id (some { bound with pending := rest })) := by
  refine (Run.bind_run (Run.bound?_run id)).trans ?_
  simp only [hbound, hpending]
  rfl

end ChannelId

/-- **What an expression is in a text**: where there is nothing to install it is the literal alone,
and else the call of a function that installs the sources, in their order and each on lines of its
own, before it returns the literal. -/
inductive Delivers (literal : String) : List Source → String → Prop where
  | bare : Delivers literal [] literal
  | installing (first : Source) (rest : List Source) : Delivers literal (first :: rest)
    ("(function() \x7b\n" ++ first.text ++ "\n" ++
      String.join (rest.map fun source ↦ source.text ++ "\n") ++
      "return " ++ literal ++ ";\n\x7d)()")

/-- **Nothing of an expression is lost in its text.** -/
theorem ChannelId.Expression.text_delivers (expression : Expression) :
    Delivers expression.literal expression.sources expression.text := by
  obtain ⟨sources, literal⟩ := expression
  cases sources with
  | nil => exact .bare
  | cons first rest =>
    have htext : text ⟨first :: rest, literal⟩ = "(function() \x7b\n" ++ first.text ++ "\n" ++
        String.join (rest.map fun source ↦ source.text ++ "\n") ++ "return " ++ literal ++
        ";\n\x7d)()" := by
      simp [text, String.append_assoc]
    rw [htext]
    exact .installing first rest

/-- Serializing a value is computing an expression, of which the text is given. -/
theorem Bridge.serialize_run {c : ChannelId} {levels : Nat} {value : Value}
    {expression : ChannelId.Expression} {bridge' : Bridge σ}
    (h : ChannelId.expression host (Bridge.answer host levels) levels c value frame bridge =
      some (expression, bridge')) :
    Bridge.answer host (levels + 1) (.serialize c value) frame bridge =
      some (expression.text, bridge') :=
  (Run.bind_run h).trans rfl

end ScriptBridge
