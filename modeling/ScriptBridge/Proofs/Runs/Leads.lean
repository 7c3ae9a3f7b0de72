import ScriptBridge.Bridge.Perform
import ScriptBridge.Proofs.Tables.Changes

/-!
# Runs seen from one channel

A run changes the state of the whole bridge. Seen from one channel, all of it is a sequence of
changes of that channel's scene, whatever else goes on, and this file is the calculus in which that
is proved: one judgement about a run, and a rule for each way in which runs are put together.

## The judgement

`Run.Leads` says of a run that starts in a sound state: when it comes to an end, the state is sound
again, the scene of the channel has gone through changes, and the result is as a postcondition says.
A run that never ends satisfies it. Queues that are empty at the start of a *calm* run are empty at
its end; the runs that give ids to objects or make their stubs are the only ones that are not calm
by themselves.

## Soundness

A state is sound for a channel if the identities in its references belong to objects that exist, and
the calls that wait for workers carry no objects. The first is what makes a fresh object new to the
tables, and the second holds because such calls come from scripts, which send plain data.
-/

namespace ScriptBridge

variable {σ α β : Type}

namespace Bridge

/-- The binding of a channel, while it has one. -/
def boundOf (c : ChannelId) (bridge : Bridge σ) : Option Bound :=
  (bridge.channels.get? c).bind (·.bound)

/-- What is seen of a channel. -/
def scene (c : ChannelId) (bridge : Bridge σ) : Scene σ := (bridge.native, bridge.boundOf c)

/-- No stub of the channel is still to be made. -/
def Settled (c : ChannelId) (bridge : Bridge σ) : Prop :=
  ∀ bound, bridge.boundOf c = some bound → bound.pending = []

/-- The bridge with another binding of a channel. -/
def withBound (id : ChannelId) (bound : Option Bound) (bridge : Bridge σ) : Bridge σ :=
  match bridge.channels.get? id with
  | none => bridge
  | some channel => { bridge with channels := bridge.channels.insert id { channel with bound } }

@[simp] theorem withBound_native (id : ChannelId) (bound : Option Bound) (bridge : Bridge σ) :
    (bridge.withBound id bound).native = bridge.native := by
  unfold withBound
  split <;> rfl

@[simp] theorem withBound_workers (id : ChannelId) (bound : Option Bound) (bridge : Bridge σ) :
    (bridge.withBound id bound).workers = bridge.workers := by
  unfold withBound
  split <;> rfl

@[simp] theorem withBound_context (id : ChannelId) (bound : Option Bound) (bridge : Bridge σ) :
    (bridge.withBound id bound).context = bridge.context := by
  unfold withBound
  split <;> rfl

theorem withBound_background (id : ChannelId) (bound : Option Bound) (bridge : Bridge σ) :
    (bridge.withBound id bound).background = bridge.background := by
  unfold withBound
  split <;> rfl

theorem withBound_drawn (id : ChannelId) (bound : Option Bound) (bridge : Bridge σ) :
    (bridge.withBound id bound).drawn = bridge.drawn := by
  unfold withBound
  split <;> rfl

/-- Another binding for a channel leaves other channels as they are. -/
theorem get?_withBound (id k : ChannelId) (bound : Option Bound) (bridge : Bridge σ) :
    (bridge.withBound id bound).channels.get? k =
      if k = id then (bridge.channels.get? k).map fun channel ↦ { channel with bound }
      else bridge.channels.get? k := by
  by_cases hk : k = id
  · subst hk
    cases hchannel : bridge.channels.get? k <;>
      simp [withBound, hchannel, Table.get?_insert]
  · cases hchannel : bridge.channels.get? id <;>
      simp [withBound, hchannel, Table.get?_insert, hk]

theorem get?_withBound_self {id : ChannelId} {channel : Channel} {bridge : Bridge σ}
    (h : bridge.channels.get? id = some channel) (bound : Option Bound) :
    (bridge.withBound id bound).channels.get? id = some { channel with bound } := by
  rw [get?_withBound, if_pos rfl, h]
  rfl

theorem boundOf_withBound_of_ne {c id : ChannelId} (h : c ≠ id) (bound : Option Bound)
    (bridge : Bridge σ) : (bridge.withBound id bound).boundOf c = bridge.boundOf c := by
  unfold withBound
  split
  · rfl
  · simp [boundOf, Table.get?_insert, h]

theorem boundOf_withBound {c : ChannelId} {bridge : Bridge σ} (h : (bridge.boundOf c).isSome)
    (bound : Option Bound) : (bridge.withBound c bound).boundOf c = bound := by
  unfold withBound
  cases hchannel : bridge.channels.get? c with
  | none => simp [boundOf, hchannel] at h
  | some channel => simp [boundOf, Table.get?_insert]

/-- Putting back the binding that is there changes nothing. -/
theorem withBound_boundOf {c : ChannelId} {bound : Bound} {bridge : Bridge σ}
    (h : bridge.boundOf c = some bound) : bridge.withBound c (some bound) = bridge := by
  obtain ⟨channel, hchannel, hbound⟩ := Option.bind_eq_some_iff.mp h
  have hsame : { channel with bound := some bound } = channel := by rw [← hbound]
  have htable : bridge.channels.insert c channel = bridge.channels := by
    refine Table.ext_get? fun k ↦ ?_
    rw [Table.get?_insert]
    split
    · next hk => rw [hk, hchannel]
    · rfl
  simp only [withBound, hchannel, hsame, htable]

end Bridge

/-- The call carries no native objects. -/
def Task.Plain : Task → Prop
  | .set _ _ value => value.identities = []
  | .invoke _ _ args => Value.itemIdentities args = []
  | .receive _ _ => True

/-- What every state keeps to, seen from one channel. -/
structure Bridge.Sound (known : σ → Nat → Prop) (c : ChannelId) (bridge : Bridge σ) : Prop where
  grounded : Changes.Grounded known (bridge.scene c)
  waiting : ∀ id worker, bridge.workers.get? id = some worker →
    ∀ task ∈ worker.waiting, task.Plain

/-- How the scene of a channel moves in a run. -/
structure Bridge.Moves (known : σ → Nat → Prop) (c : ChannelId) (calm : Prop)
    (bridge bridge' : Bridge σ) : Prop where
  changes : ∃ taken, Changes known (bridge.scene c) taken (bridge'.scene c)
  settled : calm → bridge.Settled c → bridge'.Settled c

namespace Bridge.Moves

variable {known : σ → Nat → Prop} {c : ChannelId} {calm : Prop} {bridge bridge' bridge'' : Bridge σ}

/-- The scene stays as it is. -/
theorem of_scene_eq (h : bridge'.scene c = bridge.scene c) : Moves known c calm bridge bridge' where
  changes := ⟨[], h ▸ .refl _⟩
  settled _ hsettled := by
    have hbound : bridge'.boundOf c = bridge.boundOf c := congrArg Prod.snd h
    rwa [Settled, hbound]

theorem refl (bridge : Bridge σ) : Moves known c calm bridge bridge := of_scene_eq rfl

theorem trans (h : Moves known c calm bridge bridge') (h' : Moves known c calm bridge' bridge'') :
    Moves known c calm bridge bridge'' where
  changes := by
    obtain ⟨taken, hchanges⟩ := h.changes
    obtain ⟨more, hmore⟩ := h'.changes
    exact ⟨taken ++ more, hchanges.trans hmore⟩
  settled hcalm hsettled := h'.settled hcalm (h.settled hcalm hsettled)

theorem known_mono (h : Moves known c calm bridge bridge') (i : Nat) (hi : known bridge.native i) :
    known bridge'.native i := by
  obtain ⟨_, hchanges⟩ := h.changes
  exact hchanges.known_mono i hi

end Bridge.Moves

open Bridge (Sound Moves Settled)

/-- **A run from a sound state**: if it ends, the state is sound, the scene of the channel has
moved, and the result is as `post` says. -/
def Run.Leads (known : σ → Nat → Prop) (c : ChannelId) (calm : Prop) (run : Run σ α)
    (frame : Frame) (bridge : Bridge σ) (post : α → Bridge σ → Prop) : Prop :=
  Sound known c bridge → ∀ a bridge', run frame bridge = some (a, bridge') →
    Sound known c bridge' ∧ Moves known c calm bridge bridge' ∧ post a bridge'

namespace Run.Leads

variable {known : σ → Nat → Prop} {c : ChannelId} {calm calm' : Prop} {frame : Frame}
  {bridge : Bridge σ}

/-! ## Runs put together -/

theorem pure {a : α} {post : α → Bridge σ → Prop} (h : post a bridge) :
    (Pure.pure a : Run σ α).Leads known c calm frame bridge post := by
  rintro hsound _ _ ⟨⟩
  exact ⟨hsound, .refl _, h⟩

theorem stuck (post : α → Bridge σ → Prop) :
    (Run.stuck : Run σ α).Leads known c calm frame bridge post := by
  rintro - _ _ ⟨⟩

/-- A run that is continued; the continuation starts where the first run led. -/
theorem bind {run : Run σ α} {next : α → Run σ β} {mid : α → Bridge σ → Prop}
    {post : β → Bridge σ → Prop} (hrun : run.Leads known c calm frame bridge mid)
    (hnext : ∀ a bridge', Sound known c bridge' → Moves known c calm bridge bridge' →
      mid a bridge' → (next a).Leads known c calm frame bridge' post) :
    (run >>= next).Leads known c calm frame bridge post := by
  intro hsound b bridge'' hrun'
  obtain ⟨⟨a, bridge'⟩, hfirst, hsecond⟩ := Option.bind_eq_some_iff.mp hrun'
  obtain ⟨hsound', hmoves, hmid⟩ := hrun hsound a bridge' hfirst
  obtain ⟨hsound'', hmoves', hpost⟩ :=
    hnext a bridge' hsound' hmoves hmid hsound' b bridge'' hsecond
  exact ⟨hsound'', hmoves.trans hmoves', hpost⟩

/-- A run whose result is given up. -/
theorem discard {run : Run σ α} {mid : α → Bridge σ → Prop} {post : Unit → Bridge σ → Prop}
    (hrun : run.Leads known c calm frame bridge mid)
    (hpost : ∀ a bridge', mid a bridge' → post () bridge') :
    (discard run).Leads known c calm frame bridge post := by
  have hbind : (run >>= fun _ ↦ Pure.pure ()).Leads known c calm frame bridge post :=
    hrun.bind fun a bridge' _ _ hmid ↦ .pure (hpost a bridge' hmid)
  exact hbind

theorem mono {run : Run σ α} {mid post : α → Bridge σ → Prop}
    (h : run.Leads known c calm frame bridge mid) (hcalm : calm' → calm)
    (hpost : ∀ a bridge', Moves known c calm bridge bridge' → mid a bridge' → post a bridge') :
    run.Leads known c calm' frame bridge post := by
  intro hsound a bridge' hrun
  obtain ⟨hsound', hmoves, hmid⟩ := h hsound a bridge' hrun
  have hmoves' : Moves known c calm' bridge bridge' :=
    ⟨hmoves.changes, fun h ↦ hmoves.settled (hcalm h)⟩
  exact ⟨hsound', hmoves', hpost a bridge' hmoves hmid⟩

/-- What became of the run is of no concern. -/
theorem forget {run : Run σ α} {post : α → Bridge σ → Prop}
    (h : run.Leads known c calm frame bridge post) :
    run.Leads known c calm frame bridge fun _ _ ↦ True :=
  h.mono id fun _ _ _ _ ↦ trivial

/-- What a run leads to is what it leads to. -/
theorem traced {run : Run σ α} {post : α → Bridge σ → Prop}
    (h : run.Leads known c calm frame bridge post) :
    run.Leads known c calm frame bridge fun a bridge' ↦
      run frame bridge = some (a, bridge') ∧ post a bridge' := by
  intro hsound a bridge' hrun
  obtain ⟨hsound', hmoves, hpost⟩ := h hsound a bridge' hrun
  exact ⟨hsound', hmoves, hrun, hpost⟩

/-- A run that is calm for other channels, and for its own ends with nothing left to be made, is
calm, whatever it did meanwhile. -/
theorem calm_of_settled (id : ChannelId) {run : Run σ α} {post : α → Bridge σ → Prop}
    (h : run.Leads known c (c ≠ id) frame bridge fun a bridge' ↦
      (c = id → bridge'.Settled c) ∧ post a bridge') :
    run.Leads known c True frame bridge post := by
  intro hsound a bridge' hrun
  obtain ⟨hsound', hmoves, hsettled, hpost⟩ := h hsound a bridge' hrun
  refine ⟨hsound', ⟨hmoves.changes, fun _ hbefore ↦ ?_⟩, hpost⟩
  -- the channel at work ends settled, and any other has moved calmly:
  by_cases hid : c = id
  · exact hsettled hid
  · exact hmoves.settled hid hbefore

theorem within {run : Run σ α} {frame' : Frame} {post : α → Bridge σ → Prop}
    (h : run.Leads known c calm frame' bridge post) :
    (Run.within frame' run).Leads known c calm frame bridge post := h

/-- A run that only looks at the state. -/
theorem get_bind {next : Bridge σ → Run σ α} {post : α → Bridge σ → Prop}
    (h : (next bridge).Leads known c calm frame bridge post) :
    ((get : Run σ (Bridge σ)) >>= next).Leads known c calm frame bridge post := h

/-- A run that only looks where it happens. -/
theorem read_bind {next : Frame → Run σ α} {post : α → Bridge σ → Prop}
    (h : (next frame).Leads known c calm frame bridge post) :
    ((read : Run σ Frame) >>= next).Leads known c calm frame bridge post := h

/-- A change of the state outside of the channels, the workers and the native state. -/
theorem modify {f : Bridge σ → Bridge σ} {post : Unit → Bridge σ → Prop}
    (hnative : (f bridge).native = bridge.native)
    (hchannels : (f bridge).channels = bridge.channels)
    (hworkers : (f bridge).workers = bridge.workers) (hpost : post () (f bridge)) :
    (modify f : Run σ Unit).Leads known c calm frame bridge post := by
  have hscene : (f bridge).scene c = bridge.scene c := by
    rw [Bridge.scene, Bridge.boundOf, hnative, hchannels]
    rfl
  rintro hsound _ _ ⟨⟩
  refine ⟨⟨?_, ?_⟩, .of_scene_eq hscene, hpost⟩
  · rw [hscene]
    exact hsound.grounded
  · rw [hworkers]
    exact hsound.waiting

theorem say {level : Level} {text : String} :
    (Run.say level text).Leads known c calm frame bridge fun _ bridge' ↦
      bridge' = { bridge with log := bridge.log ++ [.ofBridge level text] } :=
  modify rfl rfl rfl rfl

theorem sayAll {lines : List Line} :
    (Run.sayAll lines).Leads known c calm frame bridge fun _ bridge' ↦
      bridge' = { bridge with log := bridge.log ++ lines } :=
  modify rfl rfl rfl rfl

/-- A run that may log a line before it goes on. -/
theorem say_if {p : Prop} [Decidable p] {level : Level} {text : String} {run : Run σ α}
    {post : α → Bridge σ → Prop}
    (h : ∀ bridge, run.Leads known c calm frame bridge post) :
    (if p then do
        Run.say level text
        run
      else run).Leads known c calm frame bridge post := by
  split
  · exact say.bind fun _ bridge' _ _ _ ↦ h bridge'
  · exact h bridge

theorem changeContext {f : Context → Context} :
    (Run.changeContext f).Leads known c calm frame bridge fun _ bridge' ↦
      bridge' = { bridge with context := bridge.context.map f } :=
  modify rfl rfl rfl rfl

theorem threadName :
    (Run.threadName : Run σ String).Leads known c calm frame bridge fun _ bridge' ↦
      bridge' = bridge := by
  refine .read_bind ?_
  split
  · exact .pure rfl
  · exact .pure rfl
  · exact .get_bind (.pure rfl)

/-! ## The binding of a channel -/

/-- Looking at the binding of a channel. -/
theorem bound?_bind {id : ChannelId} {next : Option Bound → Run σ α} {post : α → Bridge σ → Prop}
    (h : (next (bridge.boundOf id)).Leads known c calm frame bridge post) :
    (Run.bound? id >>= next).Leads known c calm frame bridge post := h

/-- The binding of another channel is replaced. -/
theorem setBound_of_ne {id : ChannelId} (hne : c ≠ id) (bound : Option Bound) :
    (Run.setBound id bound).Leads known c calm frame bridge fun _ bridge' ↦
      bridge' = bridge.withBound id bound := by
  have hscene : (bridge.withBound id bound).scene c = bridge.scene c := by
    simp [Bridge.scene, Bridge.boundOf_withBound_of_ne hne]
  rintro hsound _ _ ⟨⟩
  refine ⟨⟨?_, ?_⟩, .of_scene_eq hscene, rfl⟩
  · exact hscene ▸ hsound.grounded
  · exact (bridge.withBound_workers id bound) ▸ hsound.waiting

/-- The binding of the channel itself is changed. -/
theorem setBound_self {bound : Bound} {bound' : Option Bound} {taken : List Pending}
    (hbound : bridge.boundOf c = some bound)
    (hchanges : Changes known (bridge.native, some bound) taken (bridge.native, bound'))
    (hcalm : calm → bound.pending = [] → ∀ b, bound' = some b → b.pending = []) :
    (Run.setBound c bound').Leads known c calm frame bridge fun _ bridge' ↦
      bridge' = bridge.withBound c bound' := by
  have hafter : (bridge.withBound c bound').boundOf c = bound' :=
    Bridge.boundOf_withBound (by simp [hbound]) bound'
  have hscene : (bridge.withBound c bound').scene c = (bridge.native, bound') := by
    simp [Bridge.scene, hafter]
  have hbefore : bridge.scene c = (bridge.native, some bound) := by simp [Bridge.scene, hbound]
  rintro hsound _ _ ⟨⟩
  refine ⟨⟨?_, ?_⟩, ⟨⟨taken, ?_⟩, ?_⟩, rfl⟩
  · exact hscene ▸ hchanges.grounded (hbefore ▸ hsound.grounded)
  · exact (bridge.withBound_workers c bound') ▸ hsound.waiting
  · exact hbefore ▸ hscene ▸ hchanges
  · intro h hsettled b hb
    exact hcalm h (hsettled bound hbound) b (hafter ▸ hb)

/-- The binding of some channel is changed, as the channel's own would be. -/
theorem setBound {id : ChannelId} {bound : Bound} {bound' : Option Bound} {taken : List Pending}
    (hbound : bridge.boundOf id = some bound)
    (hchanges : Changes known (bridge.native, some bound) taken (bridge.native, bound'))
    (hcalm : c = id → calm → bound.pending = [] → ∀ b, bound' = some b → b.pending = []) :
    (Run.setBound id bound').Leads known c calm frame bridge fun _ bridge' ↦
      bridge' = bridge.withBound id bound' := by
  by_cases hid : c = id
  · subst hid
    exact setBound_self hbound hchanges (hcalm rfl)
  · exact setBound_of_ne hid bound'

end Run.Leads

end ScriptBridge
