import Mathlib.Logic.Equiv.Basic
import ScriptBridge.Proofs.Runs.Names

/-!
# Channels that are alike

The bridge does not care which of its channels is which. Two bridges are *swapped* if they differ
only in that two channels have changed places, in the table of channels and wherever a name leads to
one of them. A binding of the one channel in one bridge, as long as nobody calls the bridge in the
course of it, is matched by a binding of the other channel in the other bridge: the result is the
same but for the channel, and the bridges are swapped afterwards (`ChannelId.bind_swaps`).

That nobody calls the bridge is said by running against `Answerer.silent`, which answers no call: a
run that comes back from there has made none, and so comes back in the same way whatever calls would
have been answered. Swapping a channel with itself changes nothing, which gives this as a special
case (`Bridge.Swapped.eq_of_self`).

If two channels have the same record and no name leads to either, the bridge is swapped with itself.
So what their bindings come to is the same in every respect: the stub that is made, the tables, the
ids (`ChannelId.bind_alike`).
-/

namespace ScriptBridge

variable {σ α β γ δ : Type}

/-! ## Bridges with two channels swapped -/

/-- A context without its registrations. -/
def Context.unlisted (context : Context) : Context := { context with handlers := .empty }

namespace Bridge

/-- The channel that a name leads to. -/
def handler? (name : String) (bridge : Bridge σ) : Option ChannelId :=
  bridge.handlers?.bind (·.get? name)

/-- The bridge without its channels and registrations. -/
def shell (bridge : Bridge σ) : Bridge σ :=
  { bridge with channels := .empty, context := bridge.context.map Context.unlisted }

theorem shell_withBound (c : ChannelId) (bound : Option Bound) (bridge : Bridge σ) :
    (bridge.withBound c bound).shell = bridge.shell := by
  unfold withBound
  split <;> rfl

theorem shell_withHandlers (f : Table String ChannelId → Table String ChannelId)
    (bridge : Bridge σ) : (bridge.withHandlers f).shell = bridge.shell := by
  simp only [shell, withHandlers, Option.map_map]
  rfl

/-- Two channels have changed places, and nothing else is different. -/
structure Swapped (c n : ChannelId) (bridge bridge' : Bridge σ) : Prop where
  shell : bridge'.shell = bridge.shell
  channels : ∀ k, bridge'.channels.get? (Equiv.swap c n k) = bridge.channels.get? k
  handlers : ∀ name, bridge'.handler? name = (bridge.handler? name).map (Equiv.swap c n)

namespace Swapped

variable {c n : ChannelId} {bridge bridge' after after' : Bridge σ}

theorem native (h : bridge.Swapped c n bridge') : bridge'.native = bridge.native :=
  congrArg (·.native) h.shell

/-- The two contexts differ in their registrations only. -/
theorem context (h : bridge.Swapped c n bridge') :
    (bridge.context = none ∧ bridge'.context = none) ∨
      ∃ context handlers, bridge.context = some context ∧
        bridge'.context = some { context with handlers } := by
  have hunlisted : bridge'.context.map Context.unlisted = bridge.context.map Context.unlisted :=
    congrArg (·.context) h.shell
  cases hcontext : bridge.context with
  | none =>
    rw [hcontext] at hunlisted
    exact .inl ⟨rfl, Option.map_eq_none_iff.mp hunlisted⟩
  | some context =>
    rw [hcontext] at hunlisted
    obtain ⟨context', hcontext', hsame⟩ := Option.map_eq_some_iff.mp hunlisted
    refine .inr ⟨context, context'.handlers, rfl, ?_⟩
    rw [hcontext']
    exact congrArg (fun other : Context ↦ some { other with handlers := context'.handlers }) hsame

theorem engine (h : bridge.Swapped c n bridge') : bridge'.engine = bridge.engine := by
  rcases h.context with ⟨hnone, hnone'⟩ | ⟨context, handlers, hsome, hsome'⟩
  · rw [Bridge.engine, Bridge.engine, hnone, hnone']
  · rw [Bridge.engine, Bridge.engine, hsome, hsome']

theorem nameOf (h : bridge.Swapped c n bridge') (thread : Thread) :
    bridge'.nameOf thread = bridge.nameOf thread := by
  have hworkers : bridge'.workers = bridge.workers := congrArg (·.workers) h.shell
  cases thread with
  | caller => rfl
  | background => rfl
  | worker id => rw [Bridge.nameOf, Bridge.nameOf, hworkers]

/-- The record of the one channel has become that of the other. -/
theorem channel (h : bridge.Swapped c n bridge') :
    bridge'.channels.get? n = bridge.channels.get? c := by
  simpa using h.channels c

theorem boundOf (h : bridge.Swapped c n bridge') : bridge'.boundOf n = bridge.boundOf c := by
  rw [Bridge.boundOf, h.channel, Bridge.boundOf]

/-- What changes neither channels nor registrations leaves bridges swapped, if it does the same to
both. -/
theorem aside (h : bridge.Swapped c n bridge') (hshell : after'.shell = after.shell)
    (hchannels : after.channels = bridge.channels) (hhandlers : after.handlers? = bridge.handlers?)
    (hchannels' : after'.channels = bridge'.channels)
    (hhandlers' : after'.handlers? = bridge'.handlers?) : after.Swapped c n after' where
  shell := hshell
  channels k := by rw [hchannels', h.channels, hchannels]
  handlers name := by
    have hname := h.handlers name
    simp only [handler?, hhandlers, hhandlers'] at hname ⊢
    exact hname

theorem withBound (h : bridge.Swapped c n bridge') (bound : Option Bound) :
    (bridge.withBound c bound).Swapped c n (bridge'.withBound n bound) where
  shell := by rw [shell_withBound, shell_withBound, h.shell]
  channels k := by
    cases hchannel : bridge.channels.get? c with
    | none => simpa [Bridge.withBound, h.channel, hchannel] using h.channels k
    | some channel =>
      simp only [Bridge.withBound, h.channel, hchannel, Table.get?_insert, h.channels]
      have hn : Equiv.swap c n k = n ↔ k = c := by
        rw [Equiv.swap_apply_eq_iff, Equiv.swap_apply_right]
      simp only [hn]
  handlers name := by simpa [handler?] using h.handlers name

/-- Registrations are changed in a way that swaps them again. -/
theorem withHandlers (h : bridge.Swapped c n bridge')
    {f f' : Table String ChannelId → Table String ChannelId}
    (hf : ∀ handlers handlers' : Table String ChannelId,
      (∀ name, handlers'.get? name = (handlers.get? name).map (Equiv.swap c n)) →
        ∀ name, (f' handlers').get? name = ((f handlers).get? name).map (Equiv.swap c n)) :
    (bridge.withHandlers f).Swapped c n (bridge'.withHandlers f') where
  shell := by rw [shell_withHandlers, shell_withHandlers, h.shell]
  channels := h.channels
  handlers name := by
    have hhandlers := h.handlers
    simp only [handler?, handlers?_withHandlers] at hhandlers ⊢
    rcases h.context with ⟨hnone, hnone'⟩ | ⟨context, handlers', hsome, hsome'⟩
    · simp [handlers?, hnone, hnone']
    · simp only [handlers?, hsome, hsome', Option.map_some, Option.bind_some] at hhandlers ⊢
      exact hf context.handlers handlers' hhandlers name

theorem logged (h : bridge.Swapped c n bridge') (lines : List Line) :
    (bridge.logged lines).Swapped c n (bridge'.logged lines) :=
  h.aside (congrArg (Bridge.logged lines) h.shell) rfl rfl rfl rfl

/-- Swapping a channel with itself changes nothing. -/
theorem eq_of_self (h : bridge.Swapped c c bridge') : bridge' = bridge := by
  have hchannels : bridge'.channels = bridge.channels :=
    Table.ext_get? fun k ↦ by simpa using h.channels k
  have hcontext : bridge'.context = bridge.context := by
    rcases h.context with ⟨hnone, hnone'⟩ | ⟨context, handlers, hsome, hsome'⟩
    · rw [hnone, hnone']
    · have hhandlers : handlers = context.handlers :=
        Table.ext_get? fun name ↦ by
          simpa [handler?, handlers?, hsome, hsome'] using h.handlers name
      rw [hsome, hsome', hhandlers]
  have hrest : ∀ bridge : Bridge σ,
      bridge = { bridge.shell with channels := bridge.channels, context := bridge.context } :=
    fun _ ↦ rfl
  rw [hrest bridge', hrest bridge, h.shell, hchannels, hcontext]

end Swapped

/-- A bridge in which two channels have the same record and no name leads to either looks the same
when they are swapped. -/
theorem swapped_self {c n : ChannelId} {bridge : Bridge σ}
    (hchannel : bridge.channels.get? n = bridge.channels.get? c)
    (hc : ∀ name, bridge.handler? name ≠ some c) (hn : ∀ name, bridge.handler? name ≠ some n) :
    bridge.Swapped c n bridge where
  shell := rfl
  channels k := by
    rw [Equiv.swap_apply_def]
    split
    · next hk => rw [hk, hchannel]
    · split
      · next hk => rw [hk, hchannel]
      · rfl
  handlers name := by
    cases hname : bridge.handler? name with
    | none => rfl
    | some d =>
      have hdc : d ≠ c := fun h ↦ hc name (h ▸ hname)
      have hdn : d ≠ n := fun h ↦ hn name (h ▸ hname)
      rw [Option.map_some, Equiv.swap_apply_of_ne_of_ne hdc hdn]

theorem swapped_refl (c : ChannelId) (bridge : Bridge σ) : bridge.Swapped c c bridge where
  shell := rfl
  channels k := by simp
  handlers name := by simp

end Bridge

/-! ## Runs that swap -/

/-- Answers no call: who makes one never returns. -/
def Answerer.silent : Answerer σ := fun _ ↦ Run.stuck

/-- Whatever the first run comes to, the second comes to the same, up to `tell`, and leaves the
bridges swapped. -/
def Run.Swaps (c n : ChannelId) (tell : α → β) (run : Run σ α) (run' : Run σ β) (frame : Frame)
    (bridge bridge' : Bridge σ) : Prop :=
  ∀ a after, run frame bridge = some (a, after) →
    ∃ after', run' frame bridge' = some (tell a, after') ∧ after.Swapped c n after'

open Bridge (Swapped)

variable {c n : ChannelId} {frame : Frame} {bridge bridge' : Bridge σ} {host : Host σ}
  {answer : Answerer σ}

namespace Run.Swaps

theorem pure (h : bridge.Swapped c n bridge') (tell : α → β) (a : α) :
    Swaps c n tell (Pure.pure a) (Pure.pure (tell a)) frame bridge bridge' := by
  rintro _ _ ⟨⟩
  exact ⟨bridge', rfl, h⟩

theorem bind {tell : α → β} {tell' : γ → δ} {run : Run σ α} {run' : Run σ β} {next : α → Run σ γ}
    {next' : β → Run σ δ} (hrun : Swaps c n tell run run' frame bridge bridge')
    (hnext : ∀ a after after', after.Swapped c n after' →
      Swaps c n tell' (next a) (next' (tell a)) frame after after') :
    Swaps c n tell' (run >>= next) (run' >>= next') frame bridge bridge' := by
  intro b last hboth
  obtain ⟨a, after, hfirst, hsecond⟩ := Run.of_bind_run hboth
  obtain ⟨after', hfirst', hafter⟩ := hrun a after hfirst
  obtain ⟨last', hsecond', hlast⟩ := hnext a after after' hafter b last hsecond
  exact ⟨last', (Run.bind_run hfirst').trans hsecond', hlast⟩

theorem get_bind {tell : α → β} {next : Bridge σ → Run σ α} {next' : Bridge σ → Run σ β}
    (h : Swaps c n tell (next bridge) (next' bridge') frame bridge bridge') :
    Swaps c n tell ((get : Run σ (Bridge σ)) >>= next) ((get : Run σ (Bridge σ)) >>= next') frame
      bridge bridge' := h

theorem stuck {tell : α → β} {run' : Run σ β} :
    Swaps c n tell Run.stuck run' frame bridge bridge' := by
  rintro _ _ ⟨⟩

/-- The bridges are changed, and are swapped again. -/
theorem change {f f' : Bridge σ → Bridge σ} (h : (f bridge).Swapped c n (f' bridge')) :
    Swaps c n id (modify f : Run σ Unit) (modify f') frame bridge bridge' := by
  rintro _ _ ⟨⟩
  exact ⟨f' bridge', rfl, h⟩

theorem sayAll (h : bridge.Swapped c n bridge') (lines : List Line) :
    Swaps c n id (Run.sayAll lines) (Run.sayAll lines) frame bridge bridge' :=
  change (h.logged lines)

theorem say (h : bridge.Swapped c n bridge') (level : Level) (text : String) :
    Swaps c n id (Run.say level text) (Run.say level text) frame bridge bridge' :=
  sayAll h [.ofBridge level text]

theorem setBound (h : bridge.Swapped c n bridge') (bound : Option Bound) :
    Swaps c n id (Run.setBound c bound) (Run.setBound n bound) frame bridge bridge' :=
  change (h.withBound bound)

/-- The contexts are changed, but not their registrations. -/
theorem changeContext (h : bridge.Swapped c n bridge') {f : Context → Context}
    (hunlisted : ∀ context, (f context).unlisted = f context.unlisted)
    (hhandlers : ∀ context, (f context).handlers = context.handlers) :
    Swaps c n id (Run.changeContext f) (Run.changeContext f) frame bridge bridge' := by
  have hchanged : ∀ bridge : Bridge σ,
      ({ bridge with context := bridge.context.map f } : Bridge σ).shell =
        { bridge.shell with context := bridge.shell.context.map f } := by
    intro bridge
    cases hcontext : bridge.context <;> simp [Bridge.shell, hcontext, hunlisted]
  have hkept : ∀ bridge : Bridge σ,
      ({ bridge with context := bridge.context.map f } : Bridge σ).handlers? =
        bridge.handlers? := by
    intro bridge
    cases hcontext : bridge.context <;> simp [Bridge.handlers?, hcontext, hhandlers]
  refine change (h.aside ?_ rfl (hkept bridge) rfl (hkept bridge'))
  rw [hchanged, hchanged, h.shell]

end Run.Swaps

/-! ## Native code and scripts that call nobody -/

theorem Native.run_swaps (program : Native σ α) (h : bridge.Swapped c n bridge') :
    Run.Swaps c n id (program.run .silent) (program.run answer) frame bridge bridge' := by
  induction program generalizing bridge bridge' with
  | done a => exact .pure h id a
  | read next ih =>
    intro a after hrun
    obtain ⟨after', hrun', hafter⟩ := ih bridge.native h a after hrun
    rw [← h.native] at hrun'
    exact ⟨after', hrun', hafter⟩
  | write s next ih =>
    refine .bind (.change ?_) fun _ _ _ hafter ↦ ih hafter
    exact h.aside (congrArg (fun shell : Bridge σ ↦ { shell with native := s }) h.shell)
      rfl rfl rfl rfl
  | thread next ih =>
    intro a after hrun
    have hname : Run.threadName frame bridge' = some (bridge.nameOf frame.thread, bridge') := by
      rw [Run.threadName_run, h.nameOf]
    rw [run, Run.bind_run Run.threadName_run] at hrun
    obtain ⟨after', hrun', hafter⟩ := ih _ h a after hrun
    exact ⟨after', (Run.bind_run hname).trans hrun', hafter⟩
  | log line next ih => exact .bind (.sayAll h [line]) fun _ _ _ hafter ↦ ih hafter
  | defer work next ih =>
    refine .bind (.change ?_) fun _ _ _ hafter ↦ ih hafter
    exact h.aside (congrArg (fun shell : Bridge σ ↦
      { shell with background := shell.background ++ [work] }) h.shell) rfl rfl rfl rfl
  | call request next ih => exact .bind .stuck fun _ _ _ hafter ↦ ih _ hafter

theorem Binding.readAll_swaps (binding : Binding) (names : List String)
    (h : bridge.Swapped c n bridge') :
    Run.Swaps c n id (binding.readAll host .silent names) (binding.readAll host answer names) frame
      bridge bridge' := by
  induction names generalizing bridge bridge' with
  | nil => exact .pure h id _
  | cons name names ih =>
    refine .bind (Native.run_swaps _ h) fun _ _ _ h₁ ↦ ?_
    exact .bind (ih h₁) fun _ _ _ h₂ ↦ .pure h₂ id _

namespace Gate

theorem handler?_eq (name : String) :
    (handler? name : Run σ _) frame bridge = some (bridge.handler? name, bridge) := by
  rw [Bridge.handler?, Bridge.handlers?, Option.bind_map]
  rfl

/-- Looking a name up gives the channel that is in the place of the other. -/
theorem handler?_swaps (name : String) (h : bridge.Swapped c n bridge') :
    Run.Swaps c n (Option.map (Equiv.swap c n)) (handler? name) (handler? name) frame bridge
      bridge' := by
  intro found after hfound
  rw [handler?_eq] at hfound
  cases hfound
  exact ⟨bridge', by rw [handler?_eq, h.handlers], h⟩

/-- A message to a name that leads nowhere is dropped, and no other is answered. -/
theorem post_swaps (name : String) (body : Option String) (h : bridge.Swapped c n bridge') :
    Run.Swaps c n id (post .silent name body) (post answer name body) frame bridge bridge' := by
  refine .bind (handler?_swaps name h) fun found after after' hafter ↦ ?_
  cases found with
  | none => exact .say hafter _ _
  | some channel =>
    intro _ _ hrun
    obtain ⟨_, _, -, hnever⟩ := Run.of_bind_run hrun
    cases hnever

theorem postSync_swaps (name : String) (body : Option String) (h : bridge.Swapped c n bridge') :
    Run.Swaps c n id (postSync .silent name body) (postSync answer name body) frame bridge
      bridge' := by
  refine .bind (handler?_swaps name h) fun found after after' hafter ↦ ?_
  cases found with
  | none => exact .bind (.say hafter _ _) fun _ _ _ h₁ ↦ .pure h₁ id _
  | some channel =>
    intro _ _ hrun
    obtain ⟨_, _, -, hnever⟩ := Run.of_bind_run hrun
    cases hnever

end Gate

namespace Run

theorem converse_swaps (dialogue : Script.Dialogue α) (h : bridge.Swapped c n bridge') :
    Swaps c n id (converse .silent dialogue) (converse answer dialogue) frame bridge bridge' := by
  induction dialogue generalizing bridge bridge' with
  | done result => exact .pure h id result
  | post name body next ih =>
    exact .bind (Gate.post_swaps name body h) fun _ _ _ hafter ↦ ih () hafter
  | ask name body next ih =>
    exact .bind (Gate.postSync_swaps name body h) fun reply _ _ hafter ↦ ih reply hafter

theorem takeRealm_swaps (h : bridge.Swapped c n bridge') :
    Swaps c n id takeRealm takeRealm frame bridge bridge' := by
  refine .get_bind ?_
  have hrealm : bridge'.context.bind (·.realm) = bridge.context.bind (·.realm) := by
    rcases h.context with ⟨hnone, hnone'⟩ | ⟨context, handlers, hsome, hsome'⟩
    · rw [hnone, hnone']
    · rw [hsome, hsome']
      rfl
  simp only [hrealm]
  split
  · exact .stuck
  · refine .bind (.changeContext h (fun _ ↦ rfl) fun _ ↦ rfl) fun _ _ _ hafter ↦ ?_
    exact .pure hafter id _

theorem script_swaps (text : String) (h : bridge.Swapped c n bridge') :
    Swaps c n id (script .silent text) (script answer text) frame bridge bridge' := by
  unfold script
  split
  · exact .pure h id _
  · refine .bind (takeRealm_swaps h) fun realm _ _ h₁ ↦ ?_
    refine .bind (converse_swaps _ h₁) fun ended _ _ h₂ ↦ ?_
    refine .bind (.changeContext h₂ (fun _ ↦ rfl) fun _ ↦ rfl) fun _ _ _ h₃ ↦ ?_
    obtain ⟨outcome, realm⟩ := ended
    cases outcome with
    | ok _ => exact .pure h₃ id _
    | error d => exact .pure h₃ id _

end Run

/-! ## Bindings -/

namespace ChannelId

theorem inject_swaps (source : Source) (h : bridge.Swapped c n bridge') :
    Run.Swaps c n id (inject .silent source) (inject answer source) frame bridge bridge' := by
  refine .get_bind ?_
  rcases h.context with ⟨hnone, hnone'⟩ | ⟨context, handlers, hsome, hsome'⟩
  · simp only [hnone, hnone']
    exact .pure h id none
  · simp only [hsome, hsome']
    have hrefusal : ({ context with handlers } : Context).refusal? source =
        context.refusal? source := rfl
    rw [hrefusal]
    cases context.refusal? source with
    | some e => exact .pure h id (some e)
    | none =>
      cases context.engine with
      | recording =>
        refine .bind (.changeContext h (fun _ ↦ rfl) fun _ ↦ rfl) fun _ _ _ hafter ↦ ?_
        exact .pure hafter id none
      | running =>
        refine .bind (Run.script_swaps _ h) fun outcome _ _ hafter ↦ ?_
        cases outcome with
        | ok _ => exact .pure hafter id none
        | error text => exact .pure hafter id _

theorem injectAll_swaps (sources : List Source) (h : bridge.Swapped c n bridge') :
    Run.Swaps c n id (injectAll .silent sources) (injectAll answer sources) frame bridge
      bridge' := by
  induction sources generalizing bridge bridge' with
  | nil => exact .pure h id ()
  | cons source sources ih =>
    refine .bind (inject_swaps source h) fun refusal _ _ h₁ ↦ ?_
    cases refusal with
    | none => exact ih h₁
    | some e => exact .bind (.say h₁ _ _) fun _ _ _ h₂ ↦ ih h₂

theorem bound?_swaps (h : bridge.Swapped c n bridge') :
    Run.Swaps c n id (Run.bound? c) (Run.bound? n) frame bridge bridge' := by
  rintro _ _ ⟨⟩
  refine ⟨bridge', ?_, h⟩
  rw [Run.bound?_run, h.boundOf]
  rfl

theorem stub?_swaps (engine : EngineLiterals) (target : StubTarget) (binding : Binding)
    (values : List (String × Value)) (h : bridge.Swapped c n bridge') :
    Run.Swaps c n id (stub? host c engine target binding values)
      (stub? host n engine target binding values) frame bridge bridge' := by
  intro source after hrun
  cases hbound : bridge.boundOf c with
  | none =>
    rw [stub?_run_of_unbound hbound] at hrun
    cases hrun
    exact ⟨bridge', stub?_run_of_unbound (h.boundOf.trans hbound) .., h⟩
  | some bound =>
    obtain ⟨channel, hchannel, hchannelBound⟩ := Option.bind_eq_some_iff.mp hbound
    rw [stub?_run hchannel hchannelBound] at hrun
    cases hrun
    refine ⟨_, (stub?_run (h.channel.trans hchannel) hchannelBound ..).trans ?_,
      (h.withBound _).logged _⟩
    rw [h.native]
    rfl

theorem drain_swaps (engine : EngineLiterals) (patience : Nat) (h : bridge.Swapped c n bridge') :
    Run.Swaps c n id (drain host .silent c engine patience) (drain host answer n engine patience)
      frame bridge bridge' := by
  induction patience generalizing bridge bridge' with
  | zero => exact .stuck
  | succ patience ih =>
    refine .bind (bound?_swaps h) fun found _ _ h₁ ↦ ?_
    cases found with
    | none => exact .pure h₁ id []
    | some bound =>
      dsimp only [id]
      cases bound.pending with
      | nil => exact .pure h₁ id []
      | cons next rest =>
        refine .bind (.setBound h₁ _) fun _ _ _ h₂ ↦ ?_
        refine .bind (Binding.readAll_swaps _ _ h₂) fun values _ _ h₃ ↦ ?_
        refine .bind (stub?_swaps _ _ _ _ h₃) fun source _ _ h₄ ↦ ?_
        cases source with
        | none => exact .pure h₄ id []
        | some source => exact .bind (ih h₄) fun _ _ _ h₅ ↦ .pure h₅ id _

theorem engineLiterals_swaps (h : bridge.Swapped c n bridge') :
    Run.Swaps c n id Run.engineLiterals Run.engineLiterals frame bridge bridge' := by
  intro engine after hrun
  rw [Run.engineLiterals_run] at hrun
  cases hrun
  exact ⟨bridge', by rw [Run.engineLiterals_run, h.engine]; rfl, h⟩

theorem identifierFor_swaps (object : ObjectRef) (h : bridge.Swapped c n bridge') :
    Run.Swaps c n id (identifierFor host object) (identifierFor host object) frame bridge
      bridge' := by
  refine .get_bind ?_
  have hdeclared : (host.hooks bridge'.native object).identifier =
      (host.hooks bridge.native object).identifier := by rw [h.native]
  rw [hdeclared]
  cases (host.hooks bridge.native object).identifier with
  | some identifier => exact .pure h id identifier
  | none =>
    have hdrawn : bridge'.drawn = bridge.drawn := congrArg (·.drawn) h.shell
    have hnext : ({ bridge with drawn := bridge.drawn + 1 } : Bridge σ).Swapped c n
        { bridge' with drawn := bridge'.drawn + 1 } :=
      h.aside (congrArg (fun shell : Bridge σ ↦ { shell with drawn := shell.drawn + 1 }) h.shell)
        rfl rfl rfl rfl
    rw [hdrawn] at hnext ⊢
    exact .bind (.change hnext) fun _ _ _ hafter ↦ .pure hafter id _

theorem unbind_swaps (h : bridge.Swapped c n bridge') :
    Run.Swaps c n id (unbind c) (unbind n) frame bridge bridge' := by
  refine .bind (bound?_swaps h) fun found _ _ h₁ ↦ ?_
  cases found with
  | none => exact .pure h₁ id ()
  | some bound =>
    refine .bind (.setBound h₁ none) fun _ after after' h₂ ↦ ?_
    have hended : (after.withHandlers (·.erase bound.identifier)).Swapped c n
        (after'.withHandlers (·.erase bound.identifier)) := by
      refine h₂.withHandlers fun handlers handlers' hhandlers name ↦ ?_
      rw [Table.get?_erase, Table.get?_erase, hhandlers]
      split
      · rfl
      · rfl
    exact .bind (.change hended) fun _ _ _ h₃ ↦ .say h₃ _ _

theorem install_swaps (patience : Nat) (engine : EngineLiterals) (identifier place : String)
    (source : Source) (h : bridge.Swapped c n bridge') :
    Run.Swaps c n (Except.map fun handle ↦ { handle with channel := n })
      (install host .silent patience c engine identifier place source)
      (install host answer patience n engine identifier place source) frame bridge bridge' := by
  have hregistered : (bridge.withHandlers (·.insert identifier c)).Swapped c n
      (bridge'.withHandlers (·.insert identifier n)) := by
    refine h.withHandlers fun handlers handlers' hhandlers name ↦ ?_
    rw [Table.get?_insert, Table.get?_insert, hhandlers]
    split
    · rw [Option.map_some, Equiv.swap_apply_left]
    · rfl
  refine .bind (.change hregistered) fun _ _ _ h₁ ↦ ?_
  refine .bind (inject_swaps source h₁) fun refusal _ _ h₂ ↦ ?_
  cases refusal with
  | some e =>
    refine .bind (.say h₂ _ _) fun _ _ _ h₃ ↦ ?_
    exact .bind (unbind_swaps h₃) fun _ _ _ h₄ ↦ .pure h₄ _ _
  | none =>
    refine .bind (drain_swaps engine patience h₂) fun sources _ _ h₃ ↦ ?_
    refine .bind (injectAll_swaps sources h₃) fun _ _ _ h₄ ↦ ?_
    exact .bind (.say h₄ _ _) fun _ _ _ h₅ ↦ .pure h₅ _ _

/-- **A binding of the one channel is matched by a binding of the other**, if nobody calls the
bridge in the course of it. -/
theorem bind_swaps (patience : Nat) (object : ObjectRef) (place : String)
    (h : bridge.Swapped c n bridge') :
    Run.Swaps c n (Except.map fun handle ↦ { handle with channel := n })
      (ChannelId.bind host .silent patience c object place)
      (ChannelId.bind host answer patience n object place) frame bridge bridge' := by
  unfold ChannelId.bind
  split
  · exact .pure h _ _
  · refine .get_bind ?_
    have hcontext : bridge'.context.isNone = bridge.context.isNone := by
      rcases h.context with ⟨hnone, hnone'⟩ | ⟨context, handlers, hsome, hsome'⟩
      · rw [hnone, hnone']
      · rw [hsome, hsome']
        rfl
    rw [hcontext]
    split
    · exact .pure h _ _
    · refine .bind (Binding.readAll_swaps _ _ h) fun values _ _ h₁ ↦ ?_
      refine .bind (bound?_swaps h₁) fun found _ _ h₂ ↦ ?_
      cases found with
      | some bound => exact .pure h₂ _ _
      | none =>
        refine .bind (identifierFor_swaps object h₂) fun identifier _ _ h₃ ↦ ?_
        refine .bind (engineLiterals_swaps h₃) fun engine _ _ h₄ ↦ ?_
        refine .bind (.setBound h₄ _) fun _ _ _ h₅ ↦ ?_
        refine .bind (stub?_swaps _ _ _ _ h₅) fun source _ _ h₆ ↦ ?_
        cases source with
        | none => exact .pure h₆ _ _
        | some source => exact install_swaps patience engine identifier place source h₆

/-- A binding in the course of which nobody calls the bridge comes to the same whatever calls would
have been answered. -/
theorem bind_of_silent {patience : Nat} {object : ObjectRef} {place : String}
    {outcome : Except BridgeError Handle}
    (h : ChannelId.bind host .silent patience c object place frame bridge =
      some (outcome, bridge')) :
    ChannelId.bind host answer patience c object place frame bridge = some (outcome, bridge') := by
  have hself : ∀ answer : Answerer σ, ∃ after,
      ChannelId.bind host answer patience c object place frame bridge =
        some (outcome.map fun handle ↦ { handle with channel := c }, after) ∧
      bridge'.Swapped c c after :=
    fun _ ↦ bind_swaps patience object place (bridge.swapped_refl c) outcome bridge' h
  obtain ⟨_, hsilent, -⟩ := hself .silent
  obtain ⟨after, hanswered, hafter⟩ := hself answer
  have hnamed : outcome = outcome.map fun handle ↦ { handle with channel := c } :=
    congrArg Prod.fst (Option.some.inj (h.symm.trans hsilent))
  rw [hanswered, hafter.eq_of_self, ← hnamed]

/-- **Two channels that have the same record, and that no name leads to, are bound alike**: in the
same bridge the binding of the one and the binding of the other have the same result but for the
channel, and leave the same behind, the two channels swapped. -/
theorem bind_alike {patience : Nat} {object : ObjectRef} {place : String}
    {outcome : Except BridgeError Handle}
    (hchannel : bridge.channels.get? n = bridge.channels.get? c)
    (hc : ∀ name, bridge.handler? name ≠ some c) (hn : ∀ name, bridge.handler? name ≠ some n)
    (h : ChannelId.bind host .silent patience c object place frame bridge =
      some (outcome, bridge')) :
    ∃ bridge'', ChannelId.bind host answer patience n object place frame bridge =
        some (outcome.map fun handle ↦ { handle with channel := n }, bridge'') ∧
      bridge'.Swapped c n bridge'' :=
  bind_swaps patience object place (Bridge.swapped_self hchannel hc hn) outcome bridge' h

end ChannelId

end ScriptBridge
