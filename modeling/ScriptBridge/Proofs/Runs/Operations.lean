import ScriptBridge.Proofs.Runs.Messages

/-!
# Channels between operations

The surroundings of the bridge make channels and workers, call the bridge, and let workers get on
with what waits for them. Between any two such operations every channel is *orderly*: an unbound one
has no tables, and the tables of a bound one agree with each other and owe no stub.

## The invariant

What is carried from operation to operation is soundness, coherence of the tables and the empty
queue (`Bridge.Tidy`). An operation that is a calm move of the channel's scene keeps all three. The
one that is not is binding the channel itself, which starts from nothing: it is a calm move up to
the start, puts down tables that are coherent, and moves on from there.
-/

namespace ScriptBridge

open Bridge (Sound Moves Settled)

/-! ## What is seen of a channel -/

namespace Channel

/-- The identifier a channel is bound under. -/
def identifier? (channel : Channel) : Option String := channel.bound.map (·.identifier)

/-- The place a channel is bound at. -/
def place? (channel : Channel) : Option String := channel.bound.map (·.place)

/-- The instances of a channel. -/
def instances (channel : Channel) : Table Int Binding :=
  (channel.bound.map (·.instances)).getD .empty

/-- The references of a channel. -/
def references (channel : Channel) : Table Nat Int :=
  (channel.bound.map (·.references)).getD .empty

/-- The objects of a channel whose stubs are still to be made. -/
def pending (channel : Channel) : List Pending := (channel.bound.map (·.pending)).getD []

/-- The id for the next object, while the channel is bound. -/
def nextReference? (channel : Channel) : Option Int := channel.bound.map (·.nextReference)

/-- What holds of a channel between operations. -/
structure Orderly (channel : Channel) : Prop where
  /-- An unbound channel has nothing. -/
  unbound : channel.identifier? = none →
    channel.instances = .empty ∧ channel.references = .empty ∧ channel.pending = []
  /-- The principal stands at the place of the binding. -/
  principal : ∀ place, channel.place? = some place →
    ∃ object, channel.instances.get? 0 = some ⟨place, object⟩
  /-- Every other instance stands at its numbered place. -/
  placed : ∀ place k binding, channel.place? = some place → k ≠ 0 →
    channel.instances.get? k = some binding → binding.place = place ++ "[" ++ toString k ++ "]"
  /-- References and instances invert each other. -/
  inverse : ∀ i k, channel.references.get? i = some k ↔
    ∃ binding, channel.instances.get? k = some binding ∧ binding.object.identity = i
  /-- Negative ids in use lie above the next one to be given away. -/
  negative : ∀ next k binding, channel.nextReference? = some next → k < 0 →
    channel.instances.get? k = some binding → next < k
  /-- No stub is still to be made. -/
  settled : channel.pending = []

theorem orderly_of_coherent {channel : Channel}
    (h : ∀ bound, channel.bound = some bound → bound.Coherent ∧ bound.pending = []) :
    channel.Orderly := by
  cases hbound : channel.bound with
  | none =>
    constructor <;>
      simp [identifier?, place?, instances, references, pending, nextReference?, hbound]
  | some bound =>
    obtain ⟨hcoherent, hpending⟩ := h bound hbound
    have hinstances : channel.instances = bound.instances := by simp [instances, hbound]
    have hreferences : channel.references = bound.references := by simp [references, hbound]
    refine ⟨?_, ?_, ?_, ?_, ?_, ?_⟩
    · intro hnone
      simp [identifier?, hbound] at hnone
    · intro place hplace
      obtain rfl : bound.place = place := by simpa [place?, hbound] using hplace
      exact hinstances ▸ hcoherent.principal
    · intro place k binding hplace hk hbinding
      obtain rfl : bound.place = place := by simpa [place?, hbound] using hplace
      exact hcoherent.placed k binding hk (hinstances ▸ hbinding)
    · intro i k
      rw [hinstances, hreferences]
      exact hcoherent.inverse i k
    · intro next k binding hnext hk hbinding
      obtain rfl : bound.nextReference = next := by simpa [nextReference?, hbound] using hnext
      exact hcoherent.free k binding hk (hinstances ▸ hbinding)
    · simp [pending, hbound, hpending]

end Channel

variable {σ α β : Type} {known : σ → Nat → Prop} {c : ChannelId} {host : Host σ}
  {answer : Answerer σ} {frame : Frame} {bridge bridge' : Bridge σ}

/-! ## The invariant -/

/-- What every operation keeps, seen from one channel. -/
structure Bridge.Tidy (known : σ → Nat → Prop) (c : ChannelId) (bridge : Bridge σ) : Prop where
  sound : Sound known c bridge
  coherent : ∀ bound, bridge.boundOf c = some bound → bound.Coherent
  settled : bridge.Settled c

open Bridge (Tidy)

/-- A run keeps what holds between operations. -/
def Run.Keeps (known : σ → Nat → Prop) (c : ChannelId) (run : Run σ α) (frame : Frame)
    (bridge : Bridge σ) : Prop :=
  Tidy known c bridge → ∀ a bridge', run frame bridge = some (a, bridge') → Tidy known c bridge'

namespace Run.Keeps

theorem pure (a : α) : (Pure.pure a : Run σ α).Keeps known c frame bridge := by
  rintro htidy _ _ ⟨⟩
  exact htidy

theorem get_bind {next : Bridge σ → Run σ α} (h : (next bridge).Keeps known c frame bridge) :
    ((get : Run σ (Bridge σ)) >>= next).Keeps known c frame bridge := h

theorem bound?_bind {id : ChannelId} {next : Option Bound → Run σ α}
    (h : (next (bridge.boundOf id)).Keeps known c frame bridge) :
    (Run.bound? id >>= next).Keeps known c frame bridge := h

end Run.Keeps

namespace Run.Leads

variable {run : Run σ α} {post : α → Bridge σ → Prop}

/-- A run that ends with nothing left to be made. -/
theorem keeps_of_settled (calm : Prop)
    (h : run.Leads known c calm frame bridge fun _ bridge' ↦ bridge'.Settled c) :
    run.Keeps known c frame bridge := by
  intro htidy a bridge' hrun
  obtain ⟨hsound, hmoves, hsettled⟩ := h htidy.sound a bridge' hrun
  obtain ⟨_, hchanges⟩ := hmoves.changes
  exact ⟨hsound, hchanges.coherent htidy.coherent, hsettled⟩

/-- **A calm move keeps what holds between operations.** -/
theorem keeps (h : run.Leads known c True frame bridge post) : run.Keeps known c frame bridge := by
  intro htidy
  refine keeps_of_settled True (h.mono id ?_) htidy
  intro _ _ hmoves _
  exact hmoves.settled trivial htidy.settled

/-- A calm move, and then a run that keeps what holds between operations. -/
theorem keeps_bind {next : α → Run σ β} (hrun : run.Leads known c True frame bridge post)
    (hnext : ∀ a bridge', Moves known c True bridge bridge' → post a bridge' →
      (next a).Keeps known c frame bridge') :
    (run >>= next).Keeps known c frame bridge := by
  intro htidy b bridge'' hboth
  obtain ⟨⟨a, bridge'⟩, hfirst, hsecond⟩ := Option.bind_eq_some_iff.mp hboth
  obtain ⟨-, hmoves, hpost⟩ := hrun htidy.sound a bridge' hfirst
  exact hnext a bridge' hmoves hpost (hrun.keeps htidy a bridge' hfirst) b bridge'' hsecond

end Run.Leads

/-! ## Binding -/

/-- Tables that start with an object that exists are as they should be. -/
theorem Bridge.Tidy.start (h : Tidy known c bridge) (identifier place : String)
    {object : ObjectRef} (hobject : known bridge.native object.identity) :
    Tidy known c (bridge.withBound c (some (.start identifier place object))) := by
  cases hchannel : bridge.channels.get? c with
  | none =>
    simp only [Bridge.withBound, hchannel]
    exact h
  | some channel =>
    have hbound : (bridge.withBound c (some (.start identifier place object))).boundOf c =
        some (.start identifier place object) := by
      simp [Bridge.withBound, hchannel, Bridge.boundOf, Table.get?_insert]
    refine ⟨⟨?_, ?_⟩, ?_, ?_⟩
    · intro bound hsome i k hk
      obtain rfl := Option.some.inj (hbound.symm.trans hsome)
      rw [Bound.start, Table.get?_insert] at hk
      split at hk
      · next hi =>
        rw [hi]
        simpa [Bridge.scene] using hobject
      · cases hk
    · exact (bridge.withBound_workers c _) ▸ h.sound.waiting
    · intro bound hsome
      obtain rfl := Option.some.inj (hbound.symm.trans hsome)
      exact Bound.coherent_start identifier place object
    · intro bound hsome
      obtain rfl := Option.some.inj (hbound.symm.trans hsome)
      rfl

theorem Run.Keeps.start_bind {identifier place : String} {object : ObjectRef}
    {next : Unit → Run σ α} (hobject : known bridge.native object.identity)
    (hnext : (next ()).Keeps known c frame
      (bridge.withBound c (some (.start identifier place object)))) :
    (Run.setBound c (some (.start identifier place object)) >>= next).Keeps known c frame bridge :=
  fun htidy a bridge' hrun ↦ hnext (htidy.start identifier place hobject) a bridge' hrun

/-- Binding the channel itself, whether it succeeds or not. -/
theorem ChannelId.bind_keeps (hhost : host.Lawful known c) (hanswer : answer.Lawful known c)
    (patience : Nat) (object : ObjectRef) (place : String)
    (hobject : known bridge.native object.identity) :
    (ChannelId.bind host answer patience c object place).Keeps known c frame bridge := by
  unfold ChannelId.bind
  split
  · exact .pure _
  · refine .get_bind ?_
    split
    · exact .pure _
    · refine (Binding.values_leads hhost hanswer ⟨place, object⟩).keeps_bind ?_
      intro values bridge₁ hmoves hvalues
      refine .bound?_bind ?_
      split
      · exact .pure _
      · refine (identifierFor_leads object).keeps_bind ?_
        rintro identifier bridge₂ - ⟨hnative, -⟩
        refine .get_bind ?_
        -- the start of the binding is no move; what comes after it is one again
        refine .start_bind (hnative ▸ hmoves.known_mono _ hobject) ?_
        refine Run.Leads.keeps_of_settled (c ≠ c) ?_
        have hvalues' : ∀ i ∈ Value.fieldIdentities values,
            known (bridge₂.withBound c (some (.start identifier place object))).native i := by
          rw [Bridge.withBound_native, hnative]
          exact hvalues
        refine (stub?_leads c _ (.plugin place) ⟨place, object⟩ hvalues').bind ?_
        intro source _ _ _ hsource
        split
        · refine .pure ?_
          intro bound hbound
          simp [hsource rfl] at hbound
        · exact (install_leads hhost hanswer patience c _ identifier place _).mono (fun h ↦ h)
            fun _ _ _ hsettled ↦ hsettled rfl

/-! ## Operations -/

/-- Every call of the bridge, binding the channel among them. -/
theorem Bridge.answer_keeps (hhost : host.Lawful known c) (levels : Nat) (request : BridgeCall)
    (hidentities : ∀ i ∈ request.identities, known bridge.native i) :
    (Bridge.answer host levels request).Keeps known c frame bridge := by
  cases levels with
  | zero => exact (Run.Leads.stuck fun _ _ ↦ True).keeps
  | succ levels =>
    -- the calls that do not bind the channel are calm; the others are all of one form:
    by_cases havoids : request.Avoids c
    · exact (answer_lawful hhost (levels + 1) request frame bridge havoids hidentities).keeps
    · obtain ⟨object, place, rfl⟩ : ∃ object place, request = .bind c object place := by
        unfold BridgeCall.Avoids at havoids
        grind
      exact ChannelId.bind_keeps hhost (answer_lawful hhost levels) levels object place
        (hidentities _ (by simp [BridgeCall.identities]))

/-- What the surroundings of the bridge do to it, one thing at a time. -/
inductive Bridge.Operation (known : σ → Nat → Prop) (host : Host σ) :
    Bridge σ → Bridge σ → Prop where
  /-- The bridge is called: a channel is bound or unbound, a message is dispatched, a value
  serialized, a callback completed. What is handed over exists. -/
  | call {bridge bridge' : Bridge σ} (levels : Nat) (frame : Frame) (request : BridgeCall)
    (reply : request.Reply) (hidentities : ∀ i ∈ request.identities, known bridge.native i)
    (h : Bridge.answer host levels request frame bridge = some (reply, bridge')) :
    Operation known host bridge bridge'
  /-- A worker runs the oldest call that waits for it. -/
  | advance {bridge bridge' : Bridge σ} (levels : Nat) (frame : Frame) (id : WorkerId)
    (h : Run.advance host (Bridge.answer host levels) id frame bridge = some ((), bridge')) :
    Operation known host bridge bridge'
  /-- All calls that wait for a worker are run. -/
  | flush {bridge bridge' : Bridge σ} (levels : Nat) (frame : Frame) (id : WorkerId)
    (h : Run.flush host (Bridge.answer host levels) id frame bridge = some ((), bridge')) :
    Operation known host bridge bridge'
  | addWorker {bridge bridge' : Bridge σ} (frame : Frame) (kind : WorkerKind) (label : String)
    (id : WorkerId) (h : Bridge.addWorker kind label frame bridge = some (id, bridge')) :
    Operation known host bridge bridge'
  /-- A channel is made; it is not bound yet. -/
  | addChannel {bridge bridge' : Bridge σ} (frame : Frame) (channel : Channel)
    (hunbound : channel.bound = none) (id : ChannelId)
    (h : Bridge.addChannel channel frame bridge = some (id, bridge')) :
    Operation known host bridge bridge'
  /-- Something happens outside: native code goes on by itself, the context is replaced. -/
  | outside {bridge bridge' : Bridge σ}
    (hnative : ∀ i, known bridge.native i → known bridge'.native i)
    (hchannels : bridge'.channels = bridge.channels) (hworkers : bridge'.workers = bridge.workers) :
    Operation known host bridge bridge'

theorem Bridge.Operation.keeps (hhost : host.Lawful known c)
    (h : Bridge.Operation known host bridge bridge') (htidy : Tidy known c bridge) :
    Tidy known c bridge' := by
  cases h with
  | call levels frame request reply hidentities h =>
    exact answer_keeps hhost levels request hidentities htidy reply bridge' h
  | advance levels frame id h =>
    exact (Run.advance_leads hhost (answer_lawful hhost levels) id).keeps htidy () bridge' h
  | flush levels frame id h =>
    exact (Run.flush_leads hhost (answer_lawful hhost levels) id).keeps htidy () bridge' h
  | addWorker frame kind label id h =>
    obtain ⟨⟨hgrounded, hwaiting⟩, hcoherent, hsettled⟩ := htidy
    cases h
    refine ⟨⟨hgrounded, ?_⟩, hcoherent, hsettled⟩
    intro other worker hworker task htask
    rw [Table.get?_insert] at hworker
    split at hworker
    · cases hworker
      cases htask
    · exact hwaiting other worker hworker task htask
  | addChannel frame channel hunbound id h =>
    obtain ⟨⟨hgrounded, hwaiting⟩, hcoherent, hsettled⟩ := htidy
    cases h
    have hbound : ∀ bound, ((bridge.channels.insert (nextName bridge.channels) channel).get? c).bind
        (·.bound) = some bound → bridge.boundOf c = some bound := by
      intro bound h
      rw [Table.get?_insert] at h
      split at h
      · simp [hunbound] at h
      · exact h
    exact ⟨⟨fun bound h ↦ hgrounded bound (hbound bound h), hwaiting⟩,
      fun bound h ↦ hcoherent bound (hbound bound h), fun bound h ↦ hsettled bound (hbound bound h)⟩
  | outside hnative hchannels hworkers =>
    have hbound : ∀ bound, bridge'.boundOf c = some bound → bridge.boundOf c = some bound := by
      intro bound h
      rwa [boundOf, hchannels] at h
    refine ⟨⟨?_, ?_⟩, ?_, ?_⟩
    · exact fun bound h i k hk ↦ hnative i (htidy.sound.grounded bound (hbound bound h) i k hk)
    · exact hworkers ▸ htidy.sound.waiting
    · exact fun bound h ↦ htidy.coherent bound (hbound bound h)
    · exact fun bound h ↦ htidy.settled bound (hbound bound h)

/-- The states that operations lead to from a bridge without channels and workers. -/
inductive Bridge.Reached (known : σ → Nat → Prop) (host : Host σ) : Bridge σ → Prop where
  | start (bridge : Bridge σ) (hchannels : bridge.channels = .empty)
    (hworkers : bridge.workers = .empty) : Reached known host bridge
  | operation {bridge bridge' : Bridge σ} (h : Reached known host bridge)
    (hlast : Bridge.Operation known host bridge bridge') : Reached known host bridge'

theorem Bridge.Reached.tidy (hhost : host.Lawful known c) (h : Bridge.Reached known host bridge) :
    Tidy known c bridge := by
  induction h with
  | start bridge hchannels hworkers =>
    have hbound : ∀ bound, bridge.boundOf c ≠ some bound := by simp [boundOf, hchannels]
    refine ⟨⟨?_, ?_⟩, ?_, ?_⟩
    · exact fun bound h ↦ absurd h (hbound bound)
    · intro id worker h
      simp [hworkers] at h
    · exact fun bound h ↦ absurd h (hbound bound)
    · exact fun bound h ↦ absurd h (hbound bound)
  | operation _ hlast ih => exact hlast.keeps hhost ih

/-- **Between operations every channel is orderly**, as long as native code does not bind it and
initializers make fresh objects. -/
theorem Bridge.Reached.channel_orderly (hhost : host.Lawful known c)
    (h : Bridge.Reached known host bridge) {channel : Channel}
    (hchannel : bridge.channels.get? c = some channel) : channel.Orderly := by
  obtain ⟨-, hcoherent, hsettled⟩ := h.tidy hhost
  refine Channel.orderly_of_coherent fun bound hbound ↦ ?_
  have hboundOf : bridge.boundOf c = some bound := by simp [boundOf, hchannel, hbound]
  exact ⟨hcoherent bound hboundOf, hsettled bound hboundOf⟩

/-- A call that has a result leads on. -/
theorem Bridge.Reached.call (h : Bridge.Reached known host bridge) (levels : Nat)
    (request : BridgeCall) (hidentities : ∀ i ∈ request.identities, known bridge.native i)
    (hends : (Bridge.answer host levels request {} bridge).isSome) :
    Bridge.Reached known host ((Bridge.answer host levels request {} bridge).get hends).2 :=
  h.operation (.call levels {} request _ hidentities (Option.some_get hends).symm)

/-- A principal, an instance made by a script and an object that crossed as a value, under their
ids. -/
theorem numbering_channel_orderly : ∃ (bridge : Bridge Nat) (channel : Channel),
    Bridge.Reached (fun count i ↦ i < count) Host.numbering bridge ∧
      bridge.channels.get? 0 = some channel ∧ channel.place? = some "app" ∧
        channel.instances.keys = [-1, 0, 1] ∧ channel.Orderly := by
  have hstart : Bridge.Reached (fun count i ↦ i < count) Host.numbering
      { native := 2, context := some {} } := .start _ rfl rfl
  have hworker := hstart.operation (.addWorker {} .queue "queue" _ rfl)
  have hchannel := hworker.operation (.addChannel {} { worker := 0 } rfl _ rfl)
  have hbound := hchannel.call 3 (.bind 0 ⟨0, "Node"⟩ "app") (by decide) rfl
  have hcreated := hbound.call 3 (.dispatch 0 ⟨"1", some (.object
    [(opcodeKey, .string "+"), (targetKey, .int 1)])⟩) (by decide) rfl
  exact ⟨_, _, hcreated, rfl, rfl, rfl, hcreated.channel_orderly (Host.numbering_lawful 0) rfl⟩

end ScriptBridge
