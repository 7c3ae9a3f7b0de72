import Mathlib.Data.List.Forall2
import ScriptBridge.Proofs.Bindings.Refused
import ScriptBridge.Proofs.Engines.Drafts
import ScriptBridge.Proofs.Expressions.Identity
import ScriptBridge.Proofs.Messages.Errands

/-!
# Bridges side by side

Two bridges are *twins* if the one has an engine that runs text, the other keeps text, and they
have the same to say about a channel otherwise: the same workers with the same work, the same
instances at the same places, the same references, the same pending objects (`Bridge.Twins`). What
may differ is the identifier of the channel, which each bridge may have drawn for itself, and with
it the names of messages. How much identifiers may differ is a parameter: with equality for `Like`
they are the same. Logs are not compared.

The channel is the only one there is, so that identifiers never get into each other's way: in both
bridges the name that leads to it is its own.

Two runs are twins if both come back or neither does, with results that correspond and bridges that
are twins again (`Run.Twins`).
-/

namespace ScriptBridge

variable {σ α β γ δ : Type} {Like : String → String → Prop}

/-! ## Optional values that correspond -/

section Rel

variable {R : α → β → Prop} {S : γ → δ → Prop} {a? : Option α} {b? : Option β}

theorem rel_cases (h : Option.Rel R a? b?) :
    (a? = none ∧ b? = none) ∨ ∃ a b, a? = some a ∧ b? = some b ∧ R a b := by
  cases h with
  | none => exact .inl ⟨rfl, rfl⟩
  | some h => exact .inr ⟨_, _, rfl, rfl, h⟩

theorem rel_get (h : Option.Rel R a? b?) (ha : a?.isSome) (hb : b?.isSome) :
    R (a?.get ha) (b?.get hb) := by
  cases h with
  | none => cases ha
  | some h => exact h

theorem rel_imp {S : α → β → Prop} (h : Option.Rel R a? b?) (hrs : ∀ a b, R a b → S a b) :
    Option.Rel S a? b? := by
  cases h with
  | none => exact .none
  | some h => exact .some (hrs _ _ h)

theorem rel_map (h : Option.Rel R a? b?) {f : α → γ} {g : β → δ}
    (hfg : ∀ a b, R a b → S (f a) (g b)) : Option.Rel S (a?.map f) (b?.map g) := by
  cases h with
  | none => exact .none
  | some h => exact .some (hfg _ _ h)

theorem rel_bind (h : Option.Rel R a? b?) {f : α → Option γ} {g : β → Option δ}
    (hfg : ∀ a b, R a b → Option.Rel S (f a) (g b)) : Option.Rel S (a?.bind f) (b?.bind g) := by
  cases h with
  | none => exact .none
  | some h => exact hfg _ _ h

theorem bind_eq_of_rel (h : Option.Rel R a? b?) {f : α → Option γ} {g : β → Option γ}
    (hfg : ∀ a b, R a b → g b = f a) : b?.bind g = a?.bind f := by
  cases h with
  | none => rfl
  | some h => exact hfg _ _ h

theorem map_eq_of_rel (h : Option.Rel R a? b?) {f : α → γ} {g : β → γ}
    (hfg : ∀ a b, R a b → g b = f a) : b?.map g = a?.map f := by
  cases h with
  | none => rfl
  | some h => exact congrArg some (hfg _ _ h)

end Rel

/-! ## Tables -/

namespace Bound

/-- Tables under another identifier. -/
def named (identifier : String) (bound : Bound) : Bound := { bound with identifier }

/-- The same tables, under identifiers that may differ. -/
inductive Twins (Like : String → String → Prop) : Bound → Bound → Prop where
  | intro (bound : Bound) {identifier : String} (h : Like bound.identifier identifier) :
    Twins Like bound (bound.named identifier)

theorem resolve_named (object : ObjectRef) (identifier : String) (bound : Bound) :
    resolve object (bound.named identifier) =
      ((resolve object bound).1, (resolve object bound).2.named identifier) := by
  have hsame : (bound.named identifier).bindingOf? object = bound.bindingOf? object := rfl
  unfold resolve
  rw [hsame]
  cases bound.bindingOf? object <;> rfl

theorem referAll_named (objects : List ObjectRef) (identifier : String) (bound : Bound) :
    referAll objects (bound.named identifier) = (referAll objects bound).named identifier := by
  induction objects generalizing bound with
  | nil => rfl
  | cons object objects ih => rw [referAll_cons, referAll_cons, resolve_named, ih]

/-- Objects are referred to by their places, whatever the channel is called. -/
theorem answered_named (objects : List ObjectRef) (identifier : String) (bound : Bound) :
    Value.answered resolve objects (bound.named identifier) =
      Value.answered resolve objects bound := by
  induction objects generalizing bound with
  | nil => rfl
  | cons object objects ih => rw [Value.answered, Value.answered, resolve_named, ih]

/-- A literal does not depend on what the channel is called. -/
theorem literal_named (engine : EngineLiterals) (value : Value) (identifier : String)
    (bound : Bound) :
    (literal engine value (bound.named identifier)).1 = (literal engine value bound).1 := by
  have hnamed := Value.literalWith_dictated engine resolve value (bound.named identifier) []
  rw [answered_named, Value.literalWith_dictated engine resolve value bound []] at hnamed
  exact (congrArg Prod.fst hnamed).symm

variable {bound bound' : Bound}

theorem Twins.like (h : bound.Twins Like bound') : Like bound.identifier bound'.identifier := by
  cases h with
  | intro h => exact h

theorem Twins.instances (h : bound.Twins Like bound') : bound'.instances = bound.instances := by
  cases h
  rfl

theorem Twins.place (h : bound.Twins Like bound') : bound'.place = bound.place := by
  cases h
  rfl

theorem Twins.principal? (h : bound.Twins Like bound') : bound'.principal? = bound.principal? := by
  cases h
  rfl

/-- Twins that are called the same are the same. -/
theorem Twins.eq (h : bound.Twins Like bound') (hname : bound'.identifier = bound.identifier) :
    bound' = bound := by
  cases h with
  | intro h => exact congrArg (bound.named ·) hname

/-- Twins are twins again when an instance is put into them. -/
theorem Twins.put (h : bound.Twins Like bound') (id : Int) (binding : Binding) :
    (bound.put id binding).1.Twins Like (bound'.put id binding).1 ∧
      (bound'.put id binding).2 = (bound.put id binding).2 := by
  cases h with
  | intro h => exact ⟨.intro (bound.put id binding).1 h, rfl⟩

theorem Twins.remove (h : bound.Twins Like bound') (id : Int) (binding : Binding) :
    (bound.remove id binding).Twins Like (bound'.remove id binding) := by
  cases h with
  | intro h => exact .intro (bound.remove id binding) h

/-- Twins are twins again when objects are referred to. -/
theorem Twins.referAll (h : bound.Twins Like bound') (objects : List ObjectRef) :
    (Bound.referAll objects bound).Twins Like (Bound.referAll objects bound') := by
  cases h with
  | intro hlike =>
    rw [referAll_named]
    exact .intro _ (by rwa [referAll_identifier])

end Bound

/-! ## Parts of the bridge -/

/-- Channels that differ in the identifier of their binding at most. -/
inductive Channel.Twins (Like : String → String → Prop) : Channel → Channel → Prop where
  | intro (channel : Channel) {bound : Option Bound}
    (h : Option.Rel (Bound.Twins Like) channel.bound bound) :
    Twins Like channel { channel with bound }

/-- Calls that differ in the name of a message at most. -/
inductive Task.Twins (Like : String → String → Prop) : Task → Task → Prop where
  | same (task : Task) : Twins Like task task
  | receive (object : ObjectRef) (body : Option Json) {name name' : String} (h : Like name name') :
    Twins Like (.receive object ⟨name, body⟩) (.receive object ⟨name', body⟩)

/-- Workers with corresponding calls. -/
inductive Worker.Twins (Like : String → String → Prop) : Worker Task → Worker Task → Prop where
  | intro (worker : Worker Task) {waiting : List Task}
    (h : List.Forall₂ (Task.Twins Like) worker.waiting waiting) :
    Twins Like worker { worker with waiting }

/-- One context runs text and the other keeps it, and neither refuses any. -/
structure Context.Twins (context context' : Context) : Prop where
  runs : context.engine = .running
  keeps : context'.engine = .recording
  accepts : context.injection = .accept
  accepts' : context'.injection = .accept

/-- **Bridges that differ in their engines and in the identifier of the channel.** -/
structure Bridge.Twins (Like : String → String → Prop) (c : ChannelId) (bridge bridge' : Bridge σ) :
    Prop where
  native : bridge'.native = bridge.native
  background : bridge'.background = bridge.background
  drawn : bridge'.drawn = bridge.drawn
  context : Option.Rel Context.Twins bridge.context bridge'.context
  channels : ∀ id,
    Option.Rel (Channel.Twins Like) (bridge.channels.get? id) (bridge'.channels.get? id)
  workers : ∀ w, Option.Rel (Worker.Twins Like) (bridge.workers.get? w) (bridge'.workers.get? w)
  /-- There is no other channel. -/
  alone : ∀ id, id ≠ c → bridge.channels.get? id = none
  addressed : bridge.Addressed
  addressed' : bridge'.Addressed

namespace Bridge.Twins

variable {c : ChannelId} {bridge bridge' after after' : Bridge σ}

theorem boundOf (h : bridge.Twins Like c bridge') (id : ChannelId) :
    Option.Rel (Bound.Twins Like) (bridge.boundOf id) (bridge'.boundOf id) := by
  refine rel_bind (h.channels id) ?_
  rintro _ _ ⟨hbound⟩
  exact hbound

theorem waitingOf (h : bridge.Twins Like c bridge') (w : WorkerId) :
    List.Forall₂ (Task.Twins Like) (bridge.waitingOf w) (bridge'.waitingOf w) := by
  rw [Bridge.waitingOf, Bridge.waitingOf]
  rcases rel_cases (h.workers w) with ⟨hnone, hnone'⟩ | ⟨_, _, hworker, hworker', ⟨hwaiting⟩⟩
  · rw [hnone, hnone']
    exact .nil
  · rw [hworker, hworker']
    exact hwaiting

theorem labels (h : bridge.Twins Like c bridge') (w : WorkerId) :
    (bridge'.workers.get? w).map (·.label) = (bridge.workers.get? w).map (·.label) := by
  refine map_eq_of_rel (h.workers w) ?_
  rintro _ _ ⟨-⟩
  rfl

theorem nameOf (h : bridge.Twins Like c bridge') (thread : Thread) :
    bridge'.nameOf thread = bridge.nameOf thread := by
  cases thread with
  | caller => rfl
  | background => rfl
  | worker w => rw [Bridge.nameOf, Bridge.nameOf, h.labels]

theorem isNone_context (h : bridge.Twins Like c bridge') :
    bridge'.context.isNone = bridge.context.isNone := by
  rcases rel_cases h.context with ⟨hnone, hnone'⟩ | ⟨_, _, hsome, hsome', -⟩
  · rw [hnone, hnone']
  · rw [hsome, hsome']
    rfl

/-- Something changes that is neither a channel nor a worker nor a registration. -/
theorem aside (h : bridge.Twins Like c bridge')
    (hchannels : after.channels = bridge.channels) (hchannels' : after'.channels = bridge'.channels)
    (hworkers : after.workers = bridge.workers) (hworkers' : after'.workers = bridge'.workers)
    (hhandlers : after.handlers? = bridge.handlers?)
    (hhandlers' : after'.handlers? = bridge'.handlers?)
    (hcontext : Option.Rel Context.Twins after.context after'.context)
    (hnative : after'.native = after.native) (hbackground : after'.background = after.background)
    (hdrawn : after'.drawn = after.drawn) : after.Twins Like c after' where
  native := hnative
  background := hbackground
  drawn := hdrawn
  context := hcontext
  channels id := by rw [hchannels, hchannels']; exact h.channels id
  workers w := by rw [hworkers, hworkers']; exact h.workers w
  alone id hid := by rw [hchannels]; exact h.alone id hid
  addressed := h.addressed.of_aside hchannels hhandlers
  addressed' := h.addressed'.of_aside hchannels' hhandlers'

theorem logged (h : bridge.Twins Like c bridge') (lines lines' : List Line) :
    (bridge.logged lines).Twins Like c (bridge'.logged lines') :=
  h.aside rfl rfl rfl rfl rfl rfl h.context h.native h.background h.drawn

/-- Something is logged on the side of the engine only. -/
theorem logged_left (h : bridge.Twins Like c bridge') (lines : List Line) :
    (bridge.logged lines).Twins Like c bridge' := by
  have hlogged := h.logged lines []
  rwa [Bridge.logged_nil] at hlogged

/-- The script side is let go. -/
theorem released (h : bridge.Twins Like c bridge') :
    ({ bridge with context := none } : Bridge σ).Twins Like c { bridge' with context := none } where
  native := h.native
  background := h.background
  drawn := h.drawn
  context := .none
  channels := h.channels
  workers := h.workers
  alone := h.alone
  addressed := ⟨h.addressed.distinct, nofun⟩
  addressed' := ⟨h.addressed'.distinct, nofun⟩

/-- The contexts change, but not their registrations. -/
theorem contexts (h : bridge.Twins Like c bridge') {f f' : Context → Context}
    (hhandlers : ∀ context, (f context).handlers = context.handlers)
    (hhandlers' : ∀ context, (f' context).handlers = context.handlers)
    (hf : ∀ context context' : Context, context.Twins context' → (f context).Twins (f' context')) :
    ({ bridge with context := bridge.context.map f } : Bridge σ).Twins Like c
      { bridge' with context := bridge'.context.map f' } := by
  have hkept : ∀ (bridge : Bridge σ) {f : Context → Context},
      (∀ context, (f context).handlers = context.handlers) →
        ({ bridge with context := bridge.context.map f } : Bridge σ).handlers? =
          bridge.handlers? := by
    intro bridge f hf
    cases hcontext : bridge.context <;> simp [handlers?, hcontext, hf]
  exact h.aside rfl rfl rfl rfl (hkept bridge hhandlers) (hkept bridge' hhandlers')
    (rel_map h.context hf) h.native h.background h.drawn

/-- Workers change in corresponding ways. -/
theorem adjust (h : bridge.Twins Like c bridge') (w : WorkerId)
    {f f' : Worker Task → Worker Task}
    (hf : ∀ worker worker', Worker.Twins Like worker worker' →
      Worker.Twins Like (f worker) (f' worker')) :
    ({ bridge with workers := bridge.workers.adjust w f } : Bridge σ).Twins Like c
      { bridge' with workers := bridge'.workers.adjust w f' } where
  native := h.native
  background := h.background
  drawn := h.drawn
  context := h.context
  channels := h.channels
  workers k := by
    have hworker := h.workers k
    rw [Table.get?_adjust, Table.get?_adjust]
    split
    · exact rel_map hworker hf
    · exact hworker
  alone := h.alone
  addressed := h.addressed.of_aside rfl rfl
  addressed' := h.addressed'.of_aside rfl rfl

theorem submitted (h : bridge.Twins Like c bridge') (w : WorkerId) {task task' : Task}
    (htask : task.Twins Like task') :
    (bridge.submitted w task).Twins Like c (bridge'.submitted w task') := by
  refine h.adjust w ?_
  rintro worker _ ⟨hwaiting⟩
  exact .intro { worker with waiting := worker.waiting ++ [task] }
    (List.rel_append hwaiting (.cons htask .nil))

theorem withWaiting (h : bridge.Twins Like c bridge') (w : WorkerId) {tasks tasks' : List Task}
    (htasks : List.Forall₂ (Task.Twins Like) tasks tasks') :
    (bridge.withWaiting w tasks).Twins Like c (bridge'.withWaiting w tasks') := by
  refine h.adjust w ?_
  rintro worker _ ⟨-⟩
  exact .intro { worker with waiting := tasks } htasks

/-- The binding of a channel changes, and the registrations with it. -/
private theorem rebound (h : bridge.Twins Like c bridge') (id : ChannelId)
    {bound bound' : Option Bound} (hbound : Option.Rel (Bound.Twins Like) bound bound')
    {f f' : Table String ChannelId → Table String ChannelId}
    (haddressed : ((bridge.withBound id bound).withHandlers f).Addressed)
    (haddressed' : ((bridge'.withBound id bound').withHandlers f').Addressed) :
    ((bridge.withBound id bound).withHandlers f).Twins Like c
      ((bridge'.withBound id bound').withHandlers f') where
  native := by
    have hnative := h.native
    rwa [← bridge.withBound_native id bound, ← bridge'.withBound_native id bound'] at hnative
  background := by
    have hbackground := h.background
    rwa [← bridge.withBound_background id bound, ← bridge'.withBound_background id bound']
      at hbackground
  drawn := by
    have hdrawn := h.drawn
    rwa [← bridge.withBound_drawn id bound, ← bridge'.withBound_drawn id bound'] at hdrawn
  context := by
    have hcontext := h.context
    rw [← bridge.withBound_context id bound, ← bridge'.withBound_context id bound'] at hcontext
    exact rel_map hcontext fun _ _ hpair ↦
      ⟨hpair.runs, hpair.keeps, hpair.accepts, hpair.accepts'⟩
  channels k := by
    have hchannel := h.channels k
    change Option.Rel _ ((bridge.withBound id bound).channels.get? k)
      ((bridge'.withBound id bound').channels.get? k)
    rw [get?_withBound, get?_withBound]
    split
    · refine rel_map hchannel ?_
      rintro channel _ ⟨-⟩
      exact .intro { channel with bound := bound } hbound
    · exact hchannel
  workers w := by
    have hworker := h.workers w
    rwa [← bridge.withBound_workers id bound, ← bridge'.withBound_workers id bound'] at hworker
  alone k hk := by
    change (bridge.withBound id bound).channels.get? k = none
    rw [get?_withBound, h.alone k hk]
    split <;> rfl
  addressed := haddressed
  addressed' := haddressed'

/-- Registrations that stay as they are. -/
private theorem withHandlers_id (bridge : Bridge σ) : bridge.withHandlers id = bridge :=
  congrArg (fun context ↦ { bridge with context }) (congrFun Option.map_id bridge.context)

/-- The tables of a binding change. -/
theorem tables (h : bridge.Twins Like c bridge') {id : ChannelId} {old old' new new' : Bound}
    (hold : bridge.boundOf id = some old) (hold' : bridge'.boundOf id = some old')
    (hnew : new.Twins Like new') (hname : new.identifier = old.identifier)
    (hname' : new'.identifier = old'.identifier) :
    (bridge.withBound id (some new)).Twins Like c (bridge'.withBound id (some new')) := by
  have haddressed : (bridge.withBound id (some new)).Addressed :=
    h.addressed.congr (identifierOf_withBound_of_tables hold hname) (handlers?_withBound ..)
  have haddressed' : (bridge'.withBound id (some new')).Addressed :=
    h.addressed'.congr (identifierOf_withBound_of_tables hold' hname') (handlers?_withBound ..)
  rw [← withHandlers_id (bridge.withBound id (some new))] at haddressed ⊢
  rw [← withHandlers_id (bridge'.withBound id (some new'))] at haddressed' ⊢
  exact h.rebound id (.some hnew) haddressed haddressed'

/-- A binding ends. -/
theorem ended (h : bridge.Twins Like c bridge') {id : ChannelId} {bound bound' : Bound}
    (hbound : bridge.boundOf id = some bound) (hbound' : bridge'.boundOf id = some bound') :
    ((bridge.withBound id none).withHandlers (·.erase bound.identifier)).Twins Like c
      ((bridge'.withBound id none).withHandlers (·.erase bound'.identifier)) :=
  h.rebound id .none (h.addressed.unbind hbound) (h.addressed'.unbind hbound')

/-- A channel that is not bound has no identifier, and there is no other channel. -/
theorem not_mem_identifiers (h : bridge.Twins Like c bridge') {id : ChannelId} {channel : Channel}
    (hchannel : bridge.channels.get? id = some channel) (hunbound : channel.bound = none)
    (name : String) : name ∉ bridge.identifiers := by
  have hid : id = c := by
    by_contra hne
    simp [h.alone id hne] at hchannel
  rw [mem_identifiers_iff]
  rintro ⟨k, hk⟩
  by_cases hkc : k = c
  · rw [hkc, ← hid] at hk
    simp [identifierOf, Bridge.boundOf, hchannel, hunbound] at hk
  · simp [identifierOf, Bridge.boundOf, h.alone k hkc] at hk

/-- A binding starts. -/
theorem started (h : bridge.Twins Like c bridge') {id : ChannelId} {channel channel' : Channel}
    (hchannel : bridge.channels.get? id = some channel) (hunbound : channel.bound = none)
    (hchannel' : bridge'.channels.get? id = some channel') (hunbound' : channel'.bound = none)
    {bound bound' : Bound} (hbound : bound.Twins Like bound') :
    ((bridge.withBound id (some bound)).withHandlers (·.insert bound.identifier id)).Twins Like c
      ((bridge'.withBound id (some bound')).withHandlers (·.insert bound'.identifier id)) := by
  have hfree : bound.identifier ∉ bridge.identifiers := h.not_mem_identifiers hchannel hunbound _
  have hfree' : bound'.identifier ∉ bridge'.identifiers := by
    rw [mem_identifiers_iff]
    rintro ⟨k, hk⟩
    obtain ⟨other', hother', -⟩ := Option.map_eq_some_iff.mp hk
    rcases rel_cases (h.boundOf k) with ⟨-, hnone⟩ | ⟨other, _, hother, -, -⟩
    · rw [hnone] at hother'
      cases hother'
    · refine h.not_mem_identifiers hchannel hunbound other.identifier ?_
      exact mem_identifiers_iff.mpr ⟨k, by rw [identifierOf, hother, Option.map_some]⟩
  exact h.rebound id (.some hbound) (h.addressed.bind hchannel hunbound hfree)
    (h.addressed'.bind hchannel' hunbound' hfree')

end Bridge.Twins

/-! ## Twin runs -/

/-- Both runs come back or neither does, with results that correspond and twin bridges. -/
def Run.Twins (Like : String → String → Prop) (c : ChannelId) (Same : α → β → Prop) (run : Run σ α)
    (run' : Run σ β) (frame : Frame) (bridge bridge' : Bridge σ) : Prop :=
  Option.Rel (fun result result' ↦ Same result.1 result'.1 ∧ result.2.Twins Like c result'.2)
    (run frame bridge) (run' frame bridge')

namespace Run.Twins

variable {c : ChannelId} {frame : Frame} {bridge bridge' : Bridge σ} {Same : α → β → Prop}

theorem pure (h : bridge.Twins Like c bridge') {a : α} {b : β} (hab : Same a b) :
    Twins Like c Same (Pure.pure a) (Pure.pure b) frame bridge bridge' := .some ⟨hab, h⟩

theorem stuck : Twins Like c Same (Run.stuck : Run σ α) Run.stuck frame bridge bridge' := .none

theorem bind {Same' : γ → δ → Prop} {run : Run σ α} {run' : Run σ β} {next : α → Run σ γ}
    {next' : β → Run σ δ} (hrun : Twins Like c Same run run' frame bridge bridge')
    (hnext : ∀ a b after after', Same a b → after.Twins Like c after' →
      Twins Like c Same' (next a) (next' b) frame after after') :
    Twins Like c Same' (run >>= next) (run' >>= next') frame bridge bridge' :=
  rel_bind hrun fun _ _ h ↦ hnext _ _ _ _ h.1 h.2

/-- What comes next may depend on what the first runs do to each of the bridges. -/
theorem bind_of_run {Same' : γ → δ → Prop} {run : Run σ α} {run' : Run σ β} {next : α → Run σ γ}
    {next' : β → Run σ δ} (hrun : Twins Like c Same run run' frame bridge bridge')
    (hnext : ∀ a b after after', run frame bridge = some (a, after) →
      run' frame bridge' = some (b, after') → Same a b → after.Twins Like c after' →
        Twins Like c Same' (next a) (next' b) frame after after') :
    Twins Like c Same' (run >>= next) (run' >>= next') frame bridge bridge' := by
  rcases rel_cases hrun with ⟨hnone, hnone'⟩ | ⟨_, _, hsome, hsome', hsame, hafter⟩
  · change Option.Rel _ ((run frame bridge).bind _) ((run' frame bridge').bind _)
    rw [hnone, hnone']
    exact .none
  · rw [Twins, Run.bind_run hsome, Run.bind_run hsome']
    exact hnext _ _ _ _ hsome hsome' hsame hafter

theorem mono {Same' : α → β → Prop} {run : Run σ α} {run' : Run σ β}
    (hrun : Twins Like c Same run run' frame bridge bridge')
    (hsame : ∀ a b, Same a b → Same' a b) :
    Twins Like c Same' run run' frame bridge bridge' :=
  rel_imp hrun fun _ _ hended ↦ ⟨hsame _ _ hended.1, hended.2⟩

theorem within {frame' : Frame} {run : Run σ α} {run' : Run σ β}
    (hrun : Twins Like c Same run run' frame' bridge bridge') :
    Twins Like c Same (Run.within frame' run) (Run.within frame' run') frame bridge bridge' := hrun

theorem read_bind {next : Frame → Run σ α} {next' : Frame → Run σ β}
    (h : Twins Like c Same (next frame) (next' frame) frame bridge bridge') :
    Twins Like c Same ((read : Run σ Frame) >>= next) ((read : Run σ Frame) >>= next') frame
      bridge bridge' := h

theorem get_bind {next : Bridge σ → Run σ α} {next' : Bridge σ → Run σ β}
    (h : Twins Like c Same (next bridge) (next' bridge') frame bridge bridge') :
    Twins Like c Same ((get : Run σ (Bridge σ)) >>= next) ((get : Run σ (Bridge σ)) >>= next') frame
      bridge bridge' := h

theorem bound?_bind {id : ChannelId} {next : Option Bound → Run σ α}
    {next' : Option Bound → Run σ β}
    (h : Twins Like c Same (next (bridge.boundOf id)) (next' (bridge'.boundOf id)) frame bridge
      bridge') :
    Twins Like c Same (Run.bound? id >>= next) (Run.bound? id >>= next') frame bridge bridge' := h

/-- Both bridges are changed. -/
theorem change {f f' : Bridge σ → Bridge σ} (h : (f bridge).Twins Like c (f' bridge')) :
    Twins Like c (fun _ _ ↦ True) (modify f : Run σ Unit) (modify f' : Run σ Unit) frame bridge
      bridge' := .some ⟨trivial, h⟩

/-- The two logs need not have anything to do with each other. -/
theorem sayAll (h : bridge.Twins Like c bridge') (lines lines' : List Line) :
    Twins Like c (fun _ _ ↦ True) (Run.sayAll lines) (Run.sayAll lines') frame bridge bridge' :=
  change (h.logged lines lines')

theorem say (h : bridge.Twins Like c bridge') (level level' : Level) (text text' : String) :
    Twins Like c (fun _ _ ↦ True) (Run.say level text) (Run.say level' text') frame bridge
      bridge' :=
  sayAll h [.ofBridge level text] [.ofBridge level' text']

theorem changeContext (h : bridge.Twins Like c bridge') {f f' : Context → Context}
    (hhandlers : ∀ context, (f context).handlers = context.handlers)
    (hhandlers' : ∀ context, (f' context).handlers = context.handlers)
    (hf : ∀ context context' : Context, context.Twins context' → (f context).Twins (f' context')) :
    Twins Like c (fun _ _ ↦ True) (Run.changeContext f) (Run.changeContext f') frame bridge
      bridge' :=
  change (h.contexts hhandlers hhandlers' hf)

theorem setBound (h : bridge.Twins Like c bridge') {id : ChannelId} {old old' new new' : Bound}
    (hold : bridge.boundOf id = some old) (hold' : bridge'.boundOf id = some old')
    (hnew : new.Twins Like new') (hname : new.identifier = old.identifier)
    (hname' : new'.identifier = old'.identifier) :
    Twins Like c (fun _ _ ↦ True) (Run.setBound id (some new)) (Run.setBound id (some new')) frame
      bridge bridge' :=
  change (h.tables hold hold' hnew hname hname')

end Run.Twins

end ScriptBridge
