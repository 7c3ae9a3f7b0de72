import ScriptBridge.Proofs.Runs.Regimes

/-!
# Channels and the names they are found by

Scripts send messages to names, and the context keeps the channel that handles each. Every bound
channel should be found under its own identifier, and no name should lead anywhere else:
`Bridge.Addressed`.

## What keeps it and what does not

Nothing compares the identifier of a new binding with those in use. A registration replaces the one
that is there, and the end of a binding takes out whatever stands under its identifier, so of two
channels with one identifier the first is no longer found once the second is bound, and neither is
once one of them is unbound or a binding is refused: `not_always_addressed`.

Where identifiers are kept apart, the table is right. `Bridge.answerApart` is the bridge that stops
where a binding is about to take an identifier in use; a run that it can follow, in which it does
what the bridge does, keeps every channel addressed, whatever else native code and scripts do in it
(`Bridge.Apart.addressed`).
-/

namespace ScriptBridge

variable {σ : Type} {host : Host σ} {bridge bridge' : Bridge σ} {c : ChannelId}

/-! ## Addresses -/

namespace Bridge

/-- The identifier of a channel, while it is bound. -/
def identifierOf (c : ChannelId) (bridge : Bridge σ) : Option String :=
  (bridge.boundOf c).map (·.identifier)

/-- The identifiers of the bound channels. -/
def identifiers (bridge : Bridge σ) : List String :=
  bridge.channels.entries.filterMap fun (_, channel) ↦ channel.bound.map (·.identifier)

theorem mem_identifiers_iff {name : String} :
    name ∈ bridge.identifiers ↔ ∃ c, bridge.identifierOf c = some name := by
  rw [identifiers, List.mem_filterMap]
  refine ⟨?_, ?_⟩
  · rintro ⟨⟨c, channel⟩, hmem, hname⟩
    refine ⟨c, ?_⟩
    rw [identifierOf, boundOf, Table.get?_eq_some_iff.mpr hmem]
    exact hname
  · rintro ⟨c, hname⟩
    obtain ⟨bound, hbound, hidentifier⟩ := Option.map_eq_some_iff.mp hname
    obtain ⟨channel, hchannel, hchannelBound⟩ := Option.bind_eq_some_iff.mp hbound
    refine ⟨(c, channel), Table.get?_eq_some_iff.mp hchannel, ?_⟩
    simp [hchannelBound, hidentifier]

@[simp] theorem identifierOf_withHandlers (c : ChannelId)
    (f : Table String ChannelId → Table String ChannelId) (bridge : Bridge σ) :
    (bridge.withHandlers f).identifierOf c = bridge.identifierOf c := rfl

theorem identifierOf_withBound_of_ne {id : ChannelId} (h : c ≠ id) (bound : Option Bound) :
    (bridge.withBound id bound).identifierOf c = bridge.identifierOf c := by
  rw [identifierOf, boundOf_withBound_of_ne h, identifierOf]

theorem identifierOf_of_channels (h : bridge'.channels = bridge.channels) (c : ChannelId) :
    bridge'.identifierOf c = bridge.identifierOf c := by
  rw [identifierOf, boundOf, h, identifierOf, boundOf]

/-- A channel that starts a binding has the identifier of the binding. -/
theorem identifierOf_withBound {channel : Channel} (h : bridge.channels.get? c = some channel)
    (bound : Option Bound) :
    (bridge.withBound c bound).identifierOf c = bound.map (·.identifier) := by
  simp [identifierOf, withBound, h, boundOf, Table.get?_insert]

/-- A binding keeps its identifier when its tables change. -/
theorem identifierOf_withBound_of_tables {id : ChannelId} {bound bound' : Bound}
    (hbound : bridge.boundOf id = some bound) (hidentifier : bound'.identifier = bound.identifier)
    (c : ChannelId) :
    (bridge.withBound id (some bound')).identifierOf c = bridge.identifierOf c := by
  by_cases hc : c = id
  · subst hc
    rw [identifierOf, boundOf_withBound (by simp [hbound]), identifierOf, hbound, Option.map_some,
      Option.map_some, hidentifier]
  · exact identifierOf_withBound_of_ne hc _

/-- A new channel gets a name of its own. -/
theorem get?_nextName {β : Type} (table : Table Nat β) :
    table.get? (nextName table) = none := by
  cases hget : table.get? (nextName table) with
  | none => rfl
  | some value =>
    -- the entries are in order, so no key is greater than the last one:
    have hmem := Table.get?_eq_some_iff.mp hget
    have hne : table.entries ≠ [] := List.ne_nil_of_mem hmem
    have hlast : nextName table = (table.entries.getLast hne).1 + 1 := by
      rw [nextName, List.getLast?_eq_some_getLast hne]
    have hle : nextName table ≤ (table.entries.getLast hne).1 := by
      have hsplit := List.dropLast_concat_getLast hne
      have hordered := table.ordered
      rw [Entries.Ordered, ← hsplit, List.pairwise_append] at hordered
      rw [← hsplit, List.mem_append, List.mem_singleton] at hmem
      rcases hmem with hearlier | heq
      · exact Nat.le_of_lt (hordered.2.2 _ hearlier _ List.mem_cons_self)
      · exact Nat.le_of_eq (congrArg Prod.fst heq)
    omega

/-- No channel has another identifier when a channel is made that is not bound yet. -/
theorem identifierOf_addChannel {frame : Frame} {channel : Channel} {id : ChannelId}
    (hunbound : channel.bound = none)
    (h : Bridge.addChannel channel frame bridge = some (id, bridge')) (c : ChannelId) :
    bridge'.identifierOf c = bridge.identifierOf c := by
  cases h
  rw [identifierOf, identifierOf, boundOf, boundOf, Table.get?_insert]
  split
  · next hc => simp [hc, get?_nextName, hunbound]
  · rfl

/-- **Every bound channel is found under its identifier, and nothing else is found.** -/
structure Addressed (bridge : Bridge σ) : Prop where
  /-- The identifiers of channels bound at the same time are distinct. -/
  distinct : ∀ c c' name, bridge.identifierOf c = some name → bridge.identifierOf c' = some name →
    c = c'
  /-- Names lead to the channels whose identifiers they are. -/
  registered : ∀ handlers, bridge.handlers? = some handlers → ∀ name c,
    handlers.get? name = some c ↔ bridge.identifierOf c = some name

/-- Addresses are a matter of identifiers and registrations. -/
theorem Addressed.congr (h : bridge.Addressed)
    (hidentifiers : ∀ c, bridge'.identifierOf c = bridge.identifierOf c)
    (hhandlers : bridge'.handlers? = bridge.handlers?) : bridge'.Addressed where
  distinct c c' name hc hc' :=
    h.distinct c c' name (hidentifiers c ▸ hc) (hidentifiers c' ▸ hc')
  registered handlers hsome name c := by
    rw [h.registered handlers (hhandlers ▸ hsome) name c, hidentifiers]

theorem Addressed.of_aside (h : bridge.Addressed) (hchannels : bridge'.channels = bridge.channels)
    (hhandlers : bridge'.handlers? = bridge.handlers?) : bridge'.Addressed :=
  h.congr (identifierOf_of_channels hchannels) hhandlers

/-- Where no channel is bound, none has to be found. -/
theorem Addressed.of_unbound (hunbound : ∀ c, bridge.boundOf c = none)
    (hhandlers : ∀ handlers, bridge.handlers? = some handlers → handlers = .empty) :
    bridge.Addressed where
  distinct c c' name hc := by simp [identifierOf, hunbound] at hc
  registered handlers hsome name c := by simp [hhandlers handlers hsome, identifierOf, hunbound]

/-- The end of a binding takes out its own registration, for nobody else has its identifier. -/
theorem Addressed.unbind (h : bridge.Addressed) {bound : Bound}
    (hbound : bridge.boundOf c = some bound) :
    ((bridge.withBound c none).withHandlers (·.erase bound.identifier)).Addressed := by
  have hself : (bridge.withBound c none).identifierOf c = none := by
    rw [identifierOf, boundOf_withBound (by simp [hbound])]
    rfl
  have hname : bridge.identifierOf c = some bound.identifier := by simp [identifierOf, hbound]
  have hkept : ∀ c' name, (bridge.withBound c none).identifierOf c' = some name ↔
      bridge.identifierOf c' = some name ∧ name ≠ bound.identifier := by
    intro c' name
    by_cases hc : c' = c
    · subst hc
      rw [hself, hname]
      grind
    · rw [identifierOf_withBound_of_ne hc]
      refine ⟨fun hc' ↦ ⟨hc', ?_⟩, And.left⟩
      rintro rfl
      exact hc (h.distinct c' c _ hc' hname)
  refine ⟨fun a b name ha hb ↦ ?_, fun handlers hhandlers name c' ↦ ?_⟩
  · exact h.distinct a b name ((hkept a name).mp ha).1 ((hkept b name).mp hb).1
  · rw [handlers?_withHandlers, handlers?_withBound] at hhandlers
    obtain ⟨before, hbefore, rfl⟩ := Option.map_eq_some_iff.mp hhandlers
    have hlookup := h.registered before hbefore name c'
    rw [identifierOf_withHandlers, Table.get?_erase, hkept, ← hlookup]
    split
    · next heq => simp [heq]
    · next hne => simp [hne]

/-- A binding under an identifier that nobody has is found under it, and nobody is lost. -/
theorem Addressed.bind (h : bridge.Addressed) {channel : Channel} {bound : Bound}
    (hchannel : bridge.channels.get? c = some channel) (hunbound : channel.bound = none)
    (hfree : bound.identifier ∉ bridge.identifiers) :
    ((bridge.withBound c (some bound)).withHandlers (·.insert bound.identifier c)).Addressed := by
  have hself : (bridge.withBound c (some bound)).identifierOf c = some bound.identifier :=
    identifierOf_withBound hchannel (some bound)
  have hnone : bridge.identifierOf c = none := by simp [identifierOf, boundOf, hchannel, hunbound]
  have hothers : ∀ c', bridge.identifierOf c' ≠ some bound.identifier :=
    fun c' hc' ↦ hfree (mem_identifiers_iff.mpr ⟨c', hc'⟩)
  have hkept : ∀ c' name, (bridge.withBound c (some bound)).identifierOf c' = some name ↔
      if name = bound.identifier then c' = c else bridge.identifierOf c' = some name := by
    intro c' name
    by_cases hc : c' = c
    · subst hc
      rw [hself, hnone]
      simp [eq_comm]
    · rw [identifierOf_withBound_of_ne hc]
      split
      · next heq => simp [heq, hothers c', hc]
      · rfl
  refine ⟨fun a b name ha hb ↦ ?_, fun handlers hhandlers name c' ↦ ?_⟩
  · rw [identifierOf_withHandlers, hkept] at ha hb
    split at ha
    · next heq =>
      rw [if_pos heq] at hb
      rw [ha, hb]
    · next hne =>
      rw [if_neg hne] at hb
      exact h.distinct a b name ha hb
  · rw [handlers?_withHandlers, handlers?_withBound] at hhandlers
    obtain ⟨before, hbefore, rfl⟩ := Option.map_eq_some_iff.mp hhandlers
    have hlookup := h.registered before hbefore name c'
    rw [identifierOf_withHandlers, Table.get?_insert, hkept, ← hlookup]
    split
    · simp [eq_comm]
    · rfl

end Bridge

/-! ## Identifiers kept apart -/

/-- Finds an identifier, and stops if a bound channel has it. -/
def ChannelId.identifierApart (host : Host σ) (object : ObjectRef) : Run σ String := do
  let identifier ← identifierFor host object
  if identifier ∈ (← get).identifiers then Run.stuck
  else return identifier

/-- The bridge, stopping wherever a binding is about to take an identifier in use. -/
def Bridge.answerApart (host : Host σ) : Nat → Answerer σ :=
  Bridge.answerBy (ChannelId.identifierApart host) host

/-- An identifier that is found is free, and nothing was changed to find it. -/
theorem ChannelId.identifierApart_run {frame : Frame} {object : ObjectRef} {identifier : String}
    (h : identifierApart host object frame bridge = some (identifier, bridge')) :
    bridge'.channels = bridge.channels ∧ bridge'.handlers? = bridge.handlers? ∧
      identifier ∉ bridge'.identifiers := by
  obtain ⟨found, bridge₁, hfound, hrest⟩ := Run.of_bind_run h
  have hsame := identifierFor_aside hfound
  have hget : (get : Run σ (Bridge σ)) frame bridge₁ = some (bridge₁, bridge₁) := rfl
  rw [Run.bind_run hget] at hrest
  split at hrest
  · cases hrest
  · next hfree =>
    cases hrest
    exact ⟨hsame.1, hsame.2, hfree⟩

/-- With identifiers kept apart, addressed channels stay addressed. -/
theorem Bridge.addressed_regime (host : Host σ) :
    Regime (ChannelId.identifierApart host) fun bridge bridge' ↦
      bridge.Addressed → bridge'.Addressed where
  refl _ := id
  trans h h' := h' ∘ h
  aside hchannels hhandlers h := h.of_aside hchannels hhandlers
  tables hbound hidentifier h :=
    h.congr (identifierOf_withBound_of_tables hbound hidentifier) (handlers?_withBound _ _ _)
  ends hbound h := h.unbind hbound
  finds h := ⟨(ChannelId.identifierApart_run h).1, (ChannelId.identifierApart_run h).2.1⟩
  starts hchannel hunbound hidentify h := by
    obtain ⟨hchannels, hhandlers, hfree⟩ := ChannelId.identifierApart_run hidentify
    exact (h.of_aside hchannels hhandlers).bind (hchannels ▸ hchannel) hunbound hfree

/-! ## Runs in which identifiers are apart -/

/-- The states that are reached from a bridge without channels, as long as no binding takes an
identifier in use: each thing that is done does the same when the bridge stops there. -/
inductive Bridge.Apart (host : Host σ) : Bridge σ → Prop where
  | start (bridge : Bridge σ) (hchannels : bridge.channels = .empty)
    (hhandlers : ∀ handlers, bridge.handlers? = some handlers → handlers = .empty) :
    Apart host bridge
  /-- The bridge is called: a channel is bound or unbound, its principal disposed of, a message
  dispatched, a value serialized, a callback completed. -/
  | call {bridge bridge' : Bridge σ} (hbefore : Apart host bridge) (levels : Nat) (frame : Frame)
    (request : BridgeCall) (reply : request.Reply)
    (hcall : Bridge.answer host levels request frame bridge = some (reply, bridge'))
    (hapart : Bridge.answerApart host levels request frame bridge =
      Bridge.answer host levels request frame bridge) : Apart host bridge'
  /-- A worker runs the oldest call that waits for it. -/
  | advance {bridge bridge' : Bridge σ} (hbefore : Apart host bridge) (levels : Nat)
    (frame : Frame) (id : WorkerId)
    (hrun : Run.advance host (Bridge.answer host levels) id frame bridge = some ((), bridge'))
    (hapart : Run.advance host (Bridge.answerApart host levels) id frame bridge =
      Run.advance host (Bridge.answer host levels) id frame bridge) : Apart host bridge'
  /-- All calls that wait for a worker are run. -/
  | flush {bridge bridge' : Bridge σ} (hbefore : Apart host bridge) (levels : Nat)
    (frame : Frame) (id : WorkerId)
    (hrun : Run.flush host (Bridge.answer host levels) id frame bridge = some ((), bridge'))
    (hapart : Run.flush host (Bridge.answerApart host levels) id frame bridge =
      Run.flush host (Bridge.answer host levels) id frame bridge) : Apart host bridge'
  /-- A channel is made; it is not bound yet. -/
  | addChannel {bridge bridge' : Bridge σ} (hbefore : Apart host bridge) (frame : Frame)
    (channel : Channel) (hunbound : channel.bound = none) (id : ChannelId)
    (hrun : Bridge.addChannel channel frame bridge = some (id, bridge')) : Apart host bridge'
  /-- Something happens elsewhere: a worker is made, native code goes on by itself. -/
  | aside {bridge bridge' : Bridge σ} (hbefore : Apart host bridge)
    (hchannels : bridge'.channels = bridge.channels)
    (hhandlers : bridge'.handlers? = bridge.handlers?) : Apart host bridge'
  /-- The script side is let go, and with it all registrations. -/
  | release {bridge : Bridge σ} (hbefore : Apart host bridge) :
    Apart host { bridge with context := none }

/-- **As long as no binding takes an identifier in use, every bound channel is found under its
identifier, and nothing else is found.** So no unbinding, no disposal of a principal and no binding
that fails makes another channel unreachable. -/
theorem Bridge.Apart.addressed (h : bridge.Apart host) : bridge.Addressed := by
  induction h with
  | start bridge hchannels hhandlers =>
    exact .of_unbound (fun c ↦ by simp [boundOf, hchannels]) hhandlers
  | call _ levels frame request reply hcall hapart ih =>
    exact answerBy_obeys (addressed_regime host) host levels request trivial frame _ reply _
      (hapart.trans hcall) ih
  | advance _ levels frame id hrun hapart ih =>
    have hanswer := answerBy_obeys (addressed_regime host) host levels
    exact Run.advance_obeys (addressed_regime host).toCourse hanswer host.calls_all id () _
      (hapart.trans hrun) ih
  | flush _ levels frame id hrun hapart ih =>
    have hanswer := answerBy_obeys (addressed_regime host) host levels
    exact Run.flush_obeys (addressed_regime host).toCourse hanswer host.calls_all id () _
      (hapart.trans hrun) ih
  | addChannel _ frame channel hunbound id hrun ih =>
    refine ih.congr (identifierOf_addChannel hunbound hrun) ?_
    cases hrun
    rfl
  | aside _ hchannels hhandlers ih => exact ih.of_aside hchannels hhandlers
  | release _ ih =>
    refine ⟨ih.distinct, ?_⟩
    rintro _ ⟨⟩

/-- Objects that show nothing and declare the name of their type as their identifier. -/
def Host.selfNamed : Host Unit where
  surface typeName := ⟨typeName, .empty⟩
  hooks _ object := { identifier := some object.typeName, description := object.typeName }
  get _ _ := .done .undefined
  set _ _ _ := .done (.returned (.ok ()))
  invoke _ _ _ := .done (.returned (.ok .undefined))
  construct _ _ := .done (.panicked none)
  receive _ _ := .done (.returned ())

/-- A call that has a result, the same whether or not the bridge stops where an identifier is in
use, leads on. -/
theorem Bridge.Apart.request (h : bridge.Apart host) (levels : Nat) (request : BridgeCall)
    {reply : request.Reply}
    (hcall : Bridge.answer host levels request {} bridge = some (reply, bridge'))
    (hapart : Bridge.answerApart host levels request {} bridge = some (reply, bridge')) :
    bridge'.Apart host :=
  h.call levels {} request _ hcall (hapart.trans hcall.symm)

/-- Of two channels with identifiers of their own each is found. -/
theorem selfNamed_addressed : ∃ bridge : Bridge Unit, bridge.Apart .selfNamed ∧
    bridge.identifiers = ["first", "second"] ∧
      bridge.handlers?.map Table.keys = some ["first", "second"] ∧ bridge.Addressed := by
  have hstart : Bridge.Apart .selfNamed { native := (), context := some {} } :=
    .start _ rfl (by rintro _ ⟨⟩; rfl)
  have hone := hstart.addChannel {} { worker := 0 } rfl _ rfl
  have htwo := hone.addChannel {} { worker := 0 } rfl _ rfl
  have hfirst := htwo.request 2 (.bind 0 ⟨0, "first"⟩ "app") rfl rfl
  have hsecond := hfirst.request 2 (.bind 1 ⟨1, "second"⟩ "more") rfl rfl
  exact ⟨_, hsecond, rfl, rfl, hsecond.addressed⟩

/-- Requests, one after the other. -/
def Bridge.callAll (host : Host σ) (levels : Nat) : List BridgeCall → Run σ Unit
  | [] => return
  | request :: requests => do
    discard (Bridge.answer host levels request)
    callAll host levels requests

/-- Not every run of bindings keeps bound channels addressed: an object that declares the identifier
of a bound channel is refused at its place, and the first channel, still bound, is not found any
more. -/
theorem not_always_addressed :
    ¬ ∀ (host : Host Unit) (levels : Nat) (requests : List BridgeCall)
      (bridge bridge' : Bridge Unit), bridge.Addressed →
        Bridge.callAll host levels requests {} bridge = some ((), bridge') →
          bridge'.Addressed := by
  intro h
  let bridge : Bridge Unit := {
    native := ()
    context := some {}
    channels := (Table.empty.insert 0 { worker := 0 }).insert 1 { worker := 0 } }
  have hbridge : bridge.Addressed := by
    refine .of_unbound (fun c ↦ ?_) (by rintro _ ⟨⟩; rfl)
    simp only [bridge, Bridge.boundOf, Table.get?_insert, Table.get?_empty]
    split
    · rfl
    · split <;> rfl
  have hlost := h .selfNamed 3 [.bind 0 ⟨0, "dup"⟩ "app", .steer .reject, .bind 1 ⟨1, "dup"⟩ "more"]
    bridge _ hbridge rfl
  have hfound := (hlost.registered .empty rfl "dup" 0).mpr rfl
  cases hfound

end ScriptBridge
