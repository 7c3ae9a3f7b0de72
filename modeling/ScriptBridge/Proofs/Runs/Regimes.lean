import ScriptBridge.Proofs.Runs.Practices

/-!
# What every call of the bridge keeps to

Some things are true of the bridge because of the few ways in which it changes bindings and
registrations, whatever native code does and however calls nest. A *regime* is a relation between
the state before and the state after that holds of each of these ways: ids are given away and
instances come and go in the tables of a binding; a binding ends together with its registration; a
binding starts and is registered. Everything else leaves both alone, which makes it a course. That
every call of the bridge keeps to a regime is then proved once, for all regimes.

## Finding identifiers

A regime may depend on the identifiers that bindings are registered under. `ChannelId.bindBy` is
`ChannelId.bind` with the way in which the identifier is found left open, and `Bridge.answerBy`
answers calls with it on all levels; with `ChannelId.identifierFor` they are the ones that run
(`ChannelId.bindBy_identifierFor`, `Bridge.answerBy_identifierFor`).
-/

namespace ScriptBridge

open Bridge (Course)

variable {σ α β : Type}

/-! ## Registrations -/

namespace Bridge

/-- The bridge with its registrations changed. -/
def withHandlers (f : Table String ChannelId → Table String ChannelId) (bridge : Bridge σ) :
    Bridge σ :=
  { bridge with
    context := bridge.context.map fun context ↦ { context with handlers := f context.handlers } }

@[simp] theorem handlers?_withHandlers (f : Table String ChannelId → Table String ChannelId)
    (bridge : Bridge σ) : (bridge.withHandlers f).handlers? = bridge.handlers?.map f := by
  cases hcontext : bridge.context <;> simp [withHandlers, handlers?, hcontext]

@[simp] theorem handlers?_withBound (c : ChannelId) (bound : Option Bound) (bridge : Bridge σ) :
    (bridge.withBound c bound).handlers? = bridge.handlers? := by
  rw [handlers?, withBound_context, handlers?]

/-- Of two bindings of one channel, put in one after the other, the second remains. -/
theorem withBound_withBound (c : ChannelId) (a b : Option Bound) (bridge : Bridge σ) :
    (bridge.withBound c a).withBound c b = bridge.withBound c b := by
  cases hchannel : bridge.channels.get? c with
  | none => simp [withBound, hchannel]
  | some channel =>
    have htable : ∀ a : Channel, (bridge.channels.insert c a).insert c { a with bound := b } =
        bridge.channels.insert c { a with bound := b } := by
      intro a
      refine Table.ext_get? fun k ↦ ?_
      simp only [Table.get?_insert]
      split <;> rfl
    simp [withBound, hchannel, Table.get?_insert, htable]

end Bridge

namespace ChannelId

variable {frame : Frame} {bridge bridge' : Bridge σ} {c : ChannelId}

/-- A binding ends together with its registration. -/
theorem unbind_run {bound : Bound} (h : bridge.boundOf c = some bound) :
    (unbind c : Run σ Unit) frame bridge =
      some ((), ((bridge.withBound c none).withHandlers (·.erase bound.identifier)).logged
        [.ofBridge .info "plugin unbound"]) := by
  rw [unbind, Run.bind_run (Run.bound?_run c), h]
  rfl

theorem unbind_run_of_unbound (h : bridge.boundOf c = none) :
    (unbind c : Run σ Unit) frame bridge = some ((), bridge) := by
  rw [unbind, Run.bind_run (Run.bound?_run c), h]
  rfl

theorem unbind_unbinds (id : ChannelId)
    (h : (unbind id : Run σ Unit) frame bridge = some ((), bridge')) :
    bridge'.boundOf id = none := by
  cases hbound : bridge.boundOf id with
  | none =>
    rw [unbind_run_of_unbound hbound] at h
    cases h
    exact hbound
  | some bound =>
    rw [unbind_run hbound] at h
    cases h
    exact Bridge.boundOf_withBound (by simp [hbound]) none

end ChannelId

/-! ## Binding with identifiers from elsewhere -/

/-- Referring to objects is a change of the tables. -/
theorem Bound.referAll_identifier (objects : List ObjectRef) (bound : Bound) :
    (referAll objects bound).identifier = bound.identifier := by
  induction objects generalizing bound with
  | nil => rfl
  | cons object objects ih => rw [referAll_cons, ih, (Changes.resolve_frame object bound).2]

namespace ChannelId

variable (host : Host σ) (answer : Answerer σ) (patience : Nat)

/-- `ChannelId.bind`, with the identifier found in some other way. -/
def bindBy (identify : ObjectRef → Run σ String) (id : ChannelId) (object : ObjectRef)
    (place : String) : Run σ (Except BridgeError Handle) := do
  if place = "" then return .error .emptyPlace
  else if (← get).context.isNone then return .error .contextReleased
  else
    let principal : Binding := ⟨place, object⟩
    let values ← principal.values host answer
    match ← Run.bound? id with
    | some bound => return .error (.alreadyBound bound.identifier)
    | none =>
      let identifier ← identify object
      let engine ← Run.engineLiterals
      Run.setBound id (some (Bound.start identifier place object))
      match ← stub? host id engine (.plugin place) principal values with
      | none => return .error .contextReleased
      | some source => install host answer patience id engine identifier place source

theorem bindBy_identifierFor :
    bindBy host answer patience (identifierFor host) = ChannelId.bind host answer patience := rfl

/-- The part of `bindBy` that comes when the channel was found unbound. -/
def start (identify : ObjectRef → Run σ String) (id : ChannelId) (object : ObjectRef)
    (place : String) (values : List (String × Value)) : Run σ (Except BridgeError Handle) := do
  let identifier ← identify object
  let engine ← Run.engineLiterals
  Run.setBound id (some (Bound.start identifier place object))
  match ← stub? host id engine (.plugin place) ⟨place, object⟩ values with
  | none => return .error .contextReleased
  | some source => install host answer patience id engine identifier place source

section Start

variable {host answer patience}
variable {identify : ObjectRef → Run σ String} {frame : Frame} {bridge bridge' : Bridge σ}
  {id : ChannelId} {channel : Channel} {object : ObjectRef} {identifier : String}

/-- Making a stub is a change of the tables. -/
theorem stubOf_identifier (engine : EngineLiterals) (s : σ) (channel : Channel)
    (target : StubTarget) (binding : Binding) (values : List (String × Value)) (bound : Bound) :
    (stubOf host engine s channel target binding values bound).2.identifier = bound.identifier := by
  rw [stubOf, Bound.stubFor_state, Bound.referAll_identifier]

/-- Tables are put down under the identifier, in which the objects that the principal shows are
referred to, and the stub is installed. -/
theorem start_run (hidentify : identify object frame bridge = some (identifier, bridge'))
    (hchannel : bridge'.channels.get? id = some channel) (place : String)
    (values : List (String × Value)) :
    ∃ source bound lines,
      stubOf host bridge'.engine.literals bridge'.native channel (.plugin place) ⟨place, object⟩
        values (.start identifier place object) = (source, bound) ∧
      start host answer patience identify id object place values frame bridge =
        install host answer patience id bridge'.engine.literals identifier place source frame
          ((bridge'.withBound id (some bound)).logged lines) := by
  let begun := Bound.start identifier place object
  let stub := stubOf host bridge'.engine.literals bridge'.native channel (.plugin place)
    ⟨place, object⟩ values begun
  have hbegun : (bridge'.withBound id (some begun)).channels.get? id =
      some { channel with bound := some begun } := Bridge.get?_withBound_self hchannel _
  have hset : Run.setBound id (some begun) frame bridge' =
      some ((), bridge'.withBound id (some begun)) := rfl
  refine ⟨stub.1, stub.2, referenceLines (begun.allocatedSince stub.2), rfl, ?_⟩
  rw [start, Run.bind_run hidentify, Run.bind_run Run.engineLiterals_run, Run.bind_run hset,
    Run.bind_run (stub?_run hbegun rfl _ _ _ _), Bridge.withBound_withBound,
    Bridge.withBound_native]
  rfl

/-- Without a channel nothing is put down. -/
theorem start_run_of_none (hidentify : identify object frame bridge = some (identifier, bridge'))
    (hchannel : bridge'.channels.get? id = none) (place : String)
    (values : List (String × Value)) :
    start host answer patience identify id object place values frame bridge =
      some (.error .contextReleased, bridge') := by
  have hset : Run.setBound id (some (Bound.start identifier place object)) frame bridge' =
      some ((), bridge') := by
    have hsame : bridge'.withBound id (some (Bound.start identifier place object)) = bridge' := by
      simp [Bridge.withBound, hchannel]
    exact congrArg (fun after ↦ some ((), after)) hsame
  have hunbound : bridge'.boundOf id = none := by simp [Bridge.boundOf, hchannel]
  rw [start, Run.bind_run hidentify, Run.bind_run Run.engineLiterals_run, Run.bind_run hset,
    Run.bind_run (stub?_run_of_unbound hunbound _ _ _ _)]
  rfl

end Start

end ChannelId

/-- `Bridge.answer`, with the identifiers of bindings found in some other way. -/
def Bridge.answerBy (identify : ObjectRef → Run σ String) (host : Host σ) : Nat → Answerer σ
  | 0 => fun _ ↦ Run.stuck
  | levels + 1 => fun
    | .bind channel object place =>
      ChannelId.bindBy host (answerBy identify host levels) levels identify channel object place
    | request => answerWith host (answerBy identify host levels) levels request

theorem Bridge.answerBy_identifierFor (host : Host σ) (levels : Nat) :
    Bridge.answerBy (ChannelId.identifierFor host) host levels = Bridge.answer host levels := by
  induction levels with
  | zero => rfl
  | succ levels ih =>
    funext request
    cases request <;> simp only [answerBy, answer, answerWith, ih, ChannelId.bindBy_identifierFor]

/-! ## Regimes -/

/-- The ways in which the bridge changes bindings and registrations keep to the relation. -/
structure Bridge.Regime (identify : ObjectRef → Run σ String) (R : Bridge σ → Bridge σ → Prop) :
    Prop extends Course R where
  /-- The tables of a binding change. -/
  tables : ∀ {bridge : Bridge σ} {c : ChannelId} {bound bound' : Bound},
    bridge.boundOf c = some bound → bound'.identifier = bound.identifier →
      R bridge (bridge.withBound c (some bound'))
  /-- A binding ends. -/
  ends : ∀ {bridge : Bridge σ} {c : ChannelId} {bound : Bound}, bridge.boundOf c = some bound →
    R bridge ((bridge.withBound c none).withHandlers (·.erase bound.identifier))
  /-- Finding an identifier changes neither. -/
  finds : ∀ {frame : Frame} {bridge bridge' : Bridge σ} {object : ObjectRef} {identifier : String},
    identify object frame bridge = some (identifier, bridge') →
      bridge'.channels = bridge.channels ∧ bridge'.handlers? = bridge.handlers?
  /-- A binding starts under an identifier that was found. -/
  starts : ∀ {frame : Frame} {bridge bridge' : Bridge σ} {c : ChannelId} {channel : Channel}
    {object : ObjectRef} {bound : Bound}, bridge.channels.get? c = some channel →
      channel.bound = none → identify object frame bridge = some (bound.identifier, bridge') →
        R bridge ((bridge'.withBound c (some bound)).withHandlers (·.insert bound.identifier c))

open Bridge (Regime Practice)

variable {identify : ObjectRef → Run σ String} {R : Bridge σ → Bridge σ → Prop}
  {host : Host σ} {answer : Answerer σ} {frame : Frame} {bridge : Bridge σ}

/-- The tables are changed, under the identifier that they had. -/
theorem Bridge.Regime.setBound (hR : Regime identify R) {id : ChannelId} {bound bound' : Bound}
    (hbound : bridge.boundOf id = some bound) (hidentifier : bound'.identifier = bound.identifier) :
    (Run.setBound id (some bound')).Obeys R frame bridge := by
  rintro _ _ ⟨⟩
  exact hR.tables hbound hidentifier

namespace ChannelId

variable (hR : Regime identify R)
include hR

theorem literal_obeys (id : ChannelId) (engine : EngineLiterals) (value : Value) :
    (literal id engine value : Run σ String).Obeys R frame bridge := by
  refine .bound?_bind ?_
  split
  · exact hR.pure _
  · next bound hbound =>
    have hidentifier : (Bound.literal engine value bound).2.identifier = bound.identifier := by
      rw [Bound.literal_state, Bound.referAll_identifier]
    refine hR.bind (hR.setBound hbound hidentifier) fun _ _ ↦ ?_
    exact hR.bind (hR.sayAll _) fun _ _ ↦ hR.pure _

theorem stub?_obeys (id : ChannelId) (engine : EngineLiterals) (target : StubTarget)
    (binding : Binding) (values : List (String × Value)) :
    (stub? host id engine target binding values).Obeys R frame bridge := by
  intro source bridge' h
  cases hbound : bridge.boundOf id with
  | none =>
    rw [stub?_run_of_unbound hbound] at h
    cases h
    exact hR.refl bridge
  | some bound =>
    obtain ⟨channel, hchannel, hchannelBound⟩ := Option.bind_eq_some_iff.mp hbound
    rw [stub?_run hchannel hchannelBound] at h
    cases h
    exact hR.trans (hR.tables hbound (stubOf_identifier ..)) (hR.aside rfl rfl)

theorem unbind_obeys (id : ChannelId) : (unbind id : Run σ Unit).Obeys R frame bridge := by
  refine .bound?_bind ?_
  split
  · exact hR.pure _
  · next bound hbound =>
    rintro _ _ ⟨⟩
    exact hR.trans (hR.ends hbound) (hR.aside rfl rfl)

theorem dispose_obeys (id : ChannelId) (target : Int) :
    (dispose id target : Run σ Unit).Obeys R frame bridge := by
  unfold dispose
  split
  · exact unbind_obeys hR id
  · refine .bound?_bind ?_
    split
    · exact hR.pure _
    · next bound hbound =>
      split
      · exact hR.pure _
      · exact hR.bind (hR.setBound hbound (by rfl)) fun _ _ ↦ hR.say _ _

end ChannelId

section Calls

variable (hR : Regime identify R) (hanswer : answer.Obeys (fun _ ↦ True) R)
include hR hanswer

namespace ChannelId

theorem drain_obeys (id : ChannelId) (engine : EngineLiterals) (patience : Nat) :
    (drain host answer id engine patience).Obeys R frame bridge := by
  induction patience generalizing bridge with
  | zero => exact .stuck
  | succ patience ih =>
    refine .bound?_bind ?_
    split
    · exact hR.pure _
    · next bound hbound =>
      split
      · exact hR.pure _
      · refine hR.bind (hR.setBound hbound (by rfl)) fun _ _ ↦ ?_
        refine hR.bind (Binding.readAll_obeys hR.toCourse hanswer host.calls_all _ _)
          fun values _ ↦ ?_
        refine hR.bind (stub?_obeys hR _ _ _ _ _) fun source _ ↦ ?_
        split
        · exact hR.pure _
        · exact hR.bind ih fun _ _ ↦ hR.pure _

theorem create_obeys (id : ChannelId) (worker : WorkerId) (request : Request) :
    (create host answer id worker request).Obeys R frame bridge := by
  unfold create
  split
  · exact hR.pure _
  · refine .bound?_bind ?_
    split
    · exact hR.pure _
    · split
      · exact hR.pure _
      · refine hR.bind (Run.sync_obeys hR.toCourse hanswer host.calls_all worker fun _ _ ↦
          Host.make_obeys hR.toCourse hanswer host.calls_all _ _) fun made bridge₁ ↦ ?_
        split
        · exact hR.pure _
        · refine .bound?_bind ?_
          split
          · exact hR.pure _
          · next bound hbound =>
            refine hR.bind (hR.setBound hbound (by rfl)) fun _ _ ↦ ?_
            refine hR.say_if fun bridge ↦ ?_
            exact hR.bind (hR.say _ _) fun _ _ ↦ hR.pure _

end ChannelId

/-- What keeps to a regime is a practice. -/
theorem Bridge.Regime.practice : Practice host answer (fun _ ↦ True) R where
  toCourse := hR.toCourse
  covers := hanswer.covers
  literal id engine value _ _ := ChannelId.literal_obeys hR id engine value
  drain id engine patience _ _ := ChannelId.drain_obeys hR hanswer id engine patience
  create id worker request _ _ := ChannelId.create_obeys hR hanswer id worker request
  dispose id target _ _ := ChannelId.dispose_obeys hR id target

namespace ChannelId

/-- A binding that is started is registered before anything else happens. -/
theorem start_obeys (patience : Nat) (id : ChannelId) (object : ObjectRef) (place : String)
    (values : List (String × Value)) (hbound : bridge.boundOf id = none) :
    (start host answer patience identify id object place values).Obeys R frame bridge := by
  have hpractice : Practice host answer (fun _ ↦ True) R := hR.practice hanswer
  intro outcome bridge'' hrun
  obtain ⟨identifier, bridge₁, hidentify, -⟩ := Run.of_bind_run hrun
  obtain ⟨hchannels, hhandlers⟩ := hR.finds hidentify
  cases hchannel : bridge.channels.get? id with
  | none =>
    rw [start_run_of_none hidentify (hchannels ▸ hchannel)] at hrun
    cases hrun
    exact hR.aside hchannels hhandlers
  | some channel =>
    have hunbound : channel.bound = none := by simpa [Bridge.boundOf, hchannel] using hbound
    obtain ⟨source, bound, lines, hstub, hstarted⟩ :=
      start_run hidentify (hchannels ▸ hchannel) place values
    have hidentifier : bound.identifier = identifier :=
      (congrArg (·.2.identifier) hstub).symm.trans (stubOf_identifier ..)
    rw [hstarted] at hrun
    obtain ⟨_, _, hregister, hinstall⟩ := Run.of_bind_run hrun
    cases hregister
    have hregistered := hR.starts hchannel hunbound (hidentifier.symm ▸ hidentify)
    refine hR.trans hregistered (hR.trans ?_ (installed_obeys hpractice _ _ _ _ _ _ _ _ hinstall))
    refine hR.aside rfl ?_
    simp only [hidentifier]
    rfl

theorem bindBy_obeys (patience : Nat) (id : ChannelId) (object : ObjectRef) (place : String) :
    (bindBy host answer patience identify id object place).Obeys R frame bridge := by
  unfold bindBy
  split
  · exact hR.pure _
  · refine .get_bind ?_
    split
    · exact hR.pure _
    · refine hR.bind (Binding.readAll_obeys hR.toCourse hanswer host.calls_all _ _)
        fun values bridge₁ ↦ ?_
      refine .bound?_bind ?_
      split
      · exact hR.pure _
      · next hbound => exact start_obeys hR hanswer patience id object place values hbound

end ChannelId

end Calls

/-! ## All calls of the bridge -/

/-- **Every call of the bridge keeps to a regime**, whatever native code does, and with it what
workers and scripts do. -/
theorem Bridge.answerBy_obeys (hR : Regime identify R) (host : Host σ) (levels : Nat) :
    (Bridge.answerBy identify host levels).Obeys (fun _ ↦ True) R := by
  -- the calls that native code makes are answered one level down:
  induction levels with
  | zero => exact fun _ _ _ _ ↦ .stuck
  | succ levels ih =>
    intro request _ frame bridge
    have hpractice : Practice host (answerBy identify host levels) (fun _ ↦ True) R :=
      hR.practice ih
    cases request with
    | bind channel object place => exact ChannelId.bindBy_obeys hR ih levels channel object place
    | _ => exact hpractice.answerWith_obeys levels (by rintro _ _ _ ⟨⟩)

end ScriptBridge
