import ScriptBridge.Proofs.Bindings.Alike

/-!
# Bindings that are refused

The faults of a binding are looked for in the order place, context, channel, stub. Of the first two
nothing is left. Before it is known that the channel is bound already, the getters of the object
have run, and they may come back to the channel: it is left as they left it, and as it was if they
call nobody. A stub that is refused ends the binding that had begun (`Bridge.Undone`).

Behind a binding that was undone the channel is as good as new (`Bridge.AsNew`). Two things go into
this. The bridge changes nothing about a channel but its binding (`Bridge.ended_regime`), and no
name leads to a channel that is not bound under it (`Bridge.Registered`), so an unbound channel
differs from a new one in nothing that a binding could notice.

What became of the identifier is less simple. It was registered for this channel, and that is taken
out; but running the stub may have bound other channels, and one of them may have the identifier.
-/

namespace ScriptBridge

open Bridge (Regime)

variable {σ : Type} {host : Host σ} {answer : Answerer σ} {frame : Frame}
  {bridge bridge' : Bridge σ} {c : ChannelId}

/-! ## What becomes of records -/

/-- A channel without its binding. -/
def Channel.ended (channel : Channel) : Channel := { channel with bound := none }

theorem Channel.ended_of_unbound {channel : Channel} (h : channel.bound = none) :
    channel.ended = channel := by
  obtain ⟨worker, urlPrefix, traces, bound, held⟩ := channel
  cases h
  rfl

namespace Bridge

/-- The record of a channel without its binding. -/
def endedOf (c : ChannelId) (bridge : Bridge σ) : Option Channel :=
  (bridge.channels.get? c).map Channel.ended

theorem endedOf_withBound (c d : ChannelId) (bound : Option Bound) (bridge : Bridge σ) :
    (bridge.withBound d bound).endedOf c = bridge.endedOf c := by
  cases hchannel : bridge.channels.get? d with
  | none => simp [withBound, hchannel]
  | some channel =>
    simp only [endedOf, withBound, hchannel, Table.get?_insert]
    split
    · next hc =>
      rw [hc, hchannel]
      rfl
    · rfl

/-- Where a channel is not bound, its record is all there is. -/
theorem endedOf_of_unbound (h : bridge.boundOf c = none) :
    bridge.endedOf c = bridge.channels.get? c := by
  cases hchannel : bridge.channels.get? c with
  | none => simp [endedOf, hchannel]
  | some channel =>
    have hbound : channel.bound = none := by simpa [boundOf, hchannel] using h
    rw [endedOf, hchannel, Option.map_some, Channel.ended_of_unbound hbound]

/-- Nothing that the bridge does changes more of a channel's record than its binding. -/
theorem ended_regime (host : Host σ) (c : ChannelId) :
    Regime (ChannelId.identifierFor host) fun bridge bridge' ↦
      bridge'.endedOf c = bridge.endedOf c where
  refl _ := rfl
  trans h h' := h'.trans h
  aside hchannels _ := by rw [endedOf, hchannels, endedOf]
  tables _ _ := endedOf_withBound ..
  ends _ := endedOf_withBound ..
  finds h := ChannelId.identifierFor_aside h
  starts {_ _ bridge' d _ _ bound} _ _ hidentify := by
    have hchannels := (ChannelId.identifierFor_aside hidentify).1
    exact (endedOf_withBound c d (some bound) bridge').trans (by rw [endedOf, hchannels, endedOf])

/-! ## Registrations -/

/-- **No name leads to a channel that is not bound under it.** -/
def Registered (bridge : Bridge σ) : Prop :=
  ∀ name c, bridge.handler? name = some c → bridge.identifierOf c = some name

@[simp] theorem handler?_withBound (name : String) (c : ChannelId) (bound : Option Bound)
    (bridge : Bridge σ) : (bridge.withBound c bound).handler? name = bridge.handler? name := by
  rw [handler?, handlers?_withBound, handler?]

/-- A name leads where the registrations say, once they have been changed. -/
theorem handler?_withHandlers (f : Table String ChannelId → Table String ChannelId)
    (name : String) (bridge : Bridge σ) :
    (bridge.withHandlers f).handler? name =
      bridge.handlers?.bind fun table ↦ (f table).get? name := by
  rw [handler?, handlers?_withHandlers, Option.bind_map]
  rfl

theorem handler?_erase (name taken : String) (bridge : Bridge σ) :
    (bridge.withHandlers (·.erase taken)).handler? name =
      if name = taken then none else bridge.handler? name := by
  rw [handler?_withHandlers, handler?]
  cases bridge.handlers? with
  | none => simp
  | some table => simp [Table.get?_erase]

theorem handler?_insert {name taken : String} {d : ChannelId}
    (h : (bridge.withHandlers (·.insert taken c)).handler? name = some d) :
    (name = taken ∧ d = c) ∨ (name ≠ taken ∧ bridge.handler? name = some d) := by
  rw [handler?_withHandlers] at h
  obtain ⟨table, htable, hd⟩ := Option.bind_eq_some_iff.mp h
  rw [Table.get?_insert] at hd
  split at hd
  · next hname => exact .inl ⟨hname, (Option.some.inj hd).symm⟩
  · next hname => exact .inr ⟨hname, by simp [handler?, htable, hd]⟩

theorem Registered.of_aside (h : bridge.Registered) (hchannels : bridge'.channels = bridge.channels)
    (hhandlers : bridge'.handlers? = bridge.handlers?) : bridge'.Registered := by
  intro name c hname
  rw [handler?, hhandlers] at hname
  rw [identifierOf_of_channels hchannels]
  exact h name c hname

/-- Where no names are registered that are not so already, it is enough that those who are found
keep their identifiers. -/
theorem Registered.of_found (h : bridge.Registered)
    (hfound : ∀ name c, bridge'.handler? name = some c → bridge.handler? name = some c ∧
      bridge'.identifierOf c = bridge.identifierOf c) : bridge'.Registered := by
  intro name c hname
  obtain ⟨hbefore, hsame⟩ := hfound name c hname
  rw [hsame, h name c hbefore]

/-- **The bridge registers nobody under a name that is not the one they are bound under**, and takes
a registration out when the binding ends. -/
theorem registered_regime (host : Host σ) :
    Regime (ChannelId.identifierFor host) fun bridge bridge' ↦
      bridge.Registered → bridge'.Registered where
  refl _ := id
  trans h h' := h' ∘ h
  aside hchannels hhandlers h := h.of_aside hchannels hhandlers
  tables hbound hidentifier h :=
    h.of_found fun name d hname ↦
      ⟨by rwa [handler?_withBound] at hname,
        identifierOf_withBound_of_tables hbound hidentifier d⟩
  ends {bridge c bound} hbound h := by
    refine h.of_found fun name d hname ↦ ?_
    rw [handler?_erase] at hname
    split at hname
    · cases hname
    · next hne =>
      rw [handler?_withBound] at hname
      refine ⟨hname, ?_⟩
      -- the channel is found under its identifier only, and that is taken out:
      have hd : d ≠ c := by
        rintro rfl
        have hname' := h name d hname
        rw [identifierOf, hbound] at hname'
        exact hne (Option.some.inj hname').symm
      rw [identifierOf_withHandlers, identifierOf_withBound_of_ne hd]
  finds h := ChannelId.identifierFor_aside h
  starts {frame bridge bridge' c channel object bound} hchannel hunbound hidentify h := by
    obtain ⟨hchannels, hhandlers⟩ := ChannelId.identifierFor_aside hidentify
    intro name d hname
    rcases handler?_insert hname with ⟨rfl, rfl⟩ | ⟨hne, hbefore⟩
    · exact identifierOf_withBound (hchannels ▸ hchannel) (some bound)
    · rw [handler?_withBound, handler?, hhandlers] at hbefore
      have hname' := h name d hbefore
      have hd : d ≠ c := by
        rintro rfl
        simp [identifierOf, boundOf, hchannel, hunbound] at hname'
      rw [identifierOf_withHandlers, identifierOf_withBound_of_ne hd,
        identifierOf_of_channels hchannels]
      exact hname'

/-- The states that are reached from a bridge without channels, whatever is bound in the course of
it. -/
inductive Arises (host : Host σ) : Bridge σ → Prop where
  | start (bridge : Bridge σ) (hchannels : bridge.channels = .empty)
    (hhandlers : ∀ handlers, bridge.handlers? = some handlers → handlers = .empty) :
    Arises host bridge
  /-- The bridge is called: a channel is bound or unbound, its principal disposed of, a message
  dispatched, a value serialized, a callback completed. -/
  | call {bridge bridge' : Bridge σ} (hbefore : Arises host bridge) (levels : Nat) (frame : Frame)
    (request : BridgeCall) (reply : request.Reply)
    (hcall : Bridge.answer host levels request frame bridge = some (reply, bridge')) :
    Arises host bridge'
  /-- A worker runs the oldest call that waits for it. -/
  | advance {bridge bridge' : Bridge σ} (hbefore : Arises host bridge) (levels : Nat)
    (frame : Frame) (id : WorkerId)
    (hrun : Run.advance host (Bridge.answer host levels) id frame bridge = some ((), bridge')) :
    Arises host bridge'
  /-- All calls that wait for a worker are run. -/
  | flush {bridge bridge' : Bridge σ} (hbefore : Arises host bridge) (levels : Nat)
    (frame : Frame) (id : WorkerId)
    (hrun : Run.flush host (Bridge.answer host levels) id frame bridge = some ((), bridge')) :
    Arises host bridge'
  /-- A channel is made; it is not bound yet. -/
  | addChannel {bridge bridge' : Bridge σ} (hbefore : Arises host bridge) (frame : Frame)
    (channel : Channel) (hunbound : channel.bound = none) (id : ChannelId)
    (hrun : Bridge.addChannel channel frame bridge = some (id, bridge')) : Arises host bridge'
  /-- Something happens elsewhere: a worker is made, native code goes on by itself. -/
  | aside {bridge bridge' : Bridge σ} (hbefore : Arises host bridge)
    (hchannels : bridge'.channels = bridge.channels)
    (hhandlers : bridge'.handlers? = bridge.handlers?) : Arises host bridge'
  /-- The script side is let go, and with it all registrations. -/
  | release {bridge : Bridge σ} (hbefore : Arises host bridge) :
    Arises host { bridge with context := none }

theorem answer_obeys {R : Bridge σ → Bridge σ → Prop}
    (hR : Regime (ChannelId.identifierFor host) R) (levels : Nat) :
    (Bridge.answer host levels).Obeys (fun _ ↦ True) R :=
  answerBy_identifierFor host levels ▸ answerBy_obeys hR host levels

theorem Arises.registered (h : bridge.Arises host) : bridge.Registered := by
  induction h with
  | start bridge hchannels hhandlers =>
    intro name c hname
    obtain ⟨table, htable, hc⟩ := Option.bind_eq_some_iff.mp hname
    simp [hhandlers table htable] at hc
  | call _ levels frame request reply hcall ih =>
    exact answer_obeys (registered_regime host) levels request trivial frame _ reply _ hcall ih
  | advance _ levels frame id hrun ih =>
    exact Run.advance_obeys (registered_regime host).toCourse
      (answer_obeys (registered_regime host) levels) host.calls_all id () _ hrun ih
  | flush _ levels frame id hrun ih =>
    exact Run.flush_obeys (registered_regime host).toCourse
      (answer_obeys (registered_regime host) levels) host.calls_all id () _ hrun ih
  | addChannel _ frame channel hunbound id hrun ih =>
    have hsame := identifierOf_addChannel hunbound hrun
    cases hrun
    exact ih.of_found fun name d hname ↦ ⟨hname, hsame d⟩
  | aside _ hchannels hhandlers ih => exact ih.of_aside hchannels hhandlers
  | release _ ih =>
    rintro name c ⟨⟩

/-! ## Channels that are as good as new -/

/-- **A channel is as good as new**: it is not bound, and when a channel is made with its record,
the two are bound alike. As long as nobody calls the bridge in the course of it, the binding of the
one and the binding of the other have the same result but for the channel, and leave the same
behind, the two channels swapped. -/
def AsNew (host : Host σ) (c : ChannelId) (bridge : Bridge σ) : Prop :=
  ∃ channel, bridge.channels.get? c = some channel ∧ channel.bound = none ∧
    ∀ frame n made, Bridge.addChannel channel frame bridge = some (n, made) → n ≠ c ∧
      ∀ frame levels object place outcome after,
        ChannelId.bind host .silent levels c object place frame made = some (outcome, after) →
          Bridge.answer host (levels + 1) (.bind c object place) frame made =
              some (outcome, after) ∧
            ∃ after', Bridge.answer host (levels + 1) (.bind n object place) frame made =
                some (outcome.map fun handle ↦ { handle with channel := n }, after') ∧
              after.Swapped c n after'

/-- Nothing but its record and its names tells a channel that is not bound from a new one. -/
theorem Registered.asNew (h : bridge.Registered) {channel : Channel}
    (hchannel : bridge.channels.get? c = some channel) (hunbound : channel.bound = none) :
    bridge.AsNew host c := by
  refine ⟨channel, hchannel, hunbound, ?_⟩
  rintro _ _ _ ⟨⟩
  -- a new channel has a name of its own, so no name leads to it yet:
  have hnew : nextName bridge.channels ≠ c := by
    rintro rfl
    rw [get?_nextName] at hchannel
    cases hchannel
  have hunfound : ∀ d, bridge.identifierOf d = none → ∀ name, bridge.handler? name ≠ some d := by
    intro d hd name hname
    rw [h name d hname] at hd
    cases hd
  refine ⟨hnew, fun frame levels object place outcome after hbind ↦ ?_⟩
  refine ⟨ChannelId.bind_of_silent hbind, ChannelId.bind_alike ?_ ?_ ?_ hbind⟩
  · simp [Table.get?_insert, hnew.symm, hchannel]
  · exact hunfound c (by simp [identifierOf, boundOf, hchannel, hunbound])
  · exact hunfound _ (by simp [identifierOf, boundOf, get?_nextName])

end Bridge

/-! ## How a binding fails -/

namespace Bridge

/-- A binding that had begun has been undone. -/
structure Undone (host : Host σ) (c : ChannelId) (identifier : String) (e : BridgeError)
    (bridge bridge' : Bridge σ) : Prop where
  /-- Whatever is refused counts as a failure of evaluation. -/
  evaluation : ∃ text, e = .evaluation text
  /-- If the identifier is registered, then for another channel that is bound under it. -/
  freed : ∀ d, bridge'.handler? identifier = some d →
    d ≠ c ∧ bridge'.identifierOf d = some identifier
  asNew : bridge'.AsNew host c
  /-- If the context refuses text without running it, the identifier is not registered any more,
  and otherwise only the numbers drawn and the log have changed. -/
  refused : ∀ context, bridge.context = some context → context.injection ≠ .accept →
    (∀ refusal, context.injection = .fail refusal → e = ChannelId.refused refusal) ∧
      ∃ drawn lines, bridge' =
        (({ bridge with drawn } : Bridge σ).withHandlers (·.erase identifier)).logged lines

end Bridge

namespace Bridge

theorem withBound_of_unbound (h : bridge.boundOf c = none) : bridge.withBound c none = bridge := by
  cases hchannel : bridge.channels.get? c with
  | none => simp [withBound, hchannel]
  | some channel =>
    have hbound : channel.bound = none := by simpa [boundOf, hchannel] using h
    have htable : bridge.channels.insert c channel.ended = bridge.channels := by
      refine Table.ext_get? fun k ↦ ?_
      rw [Table.get?_insert]
      split
      · next hk => rw [hk, hchannel, Channel.ended_of_unbound hbound]
      · rfl
    simp only [withBound, hchannel]
    exact congrArg (fun channels ↦ { bridge with channels }) htable

theorem withBound_logged (lines : List Line) (bound : Option Bound) (bridge : Bridge σ) :
    (bridge.logged lines).withBound c bound = (bridge.withBound c bound).logged lines := by
  cases hchannel : bridge.channels.get? c <;> simp [withBound, logged, hchannel]

theorem withBound_withHandlers (f : Table String ChannelId → Table String ChannelId)
    (bound : Option Bound) (bridge : Bridge σ) :
    (bridge.withHandlers f).withBound c bound = (bridge.withBound c bound).withHandlers f := by
  cases hchannel : bridge.channels.get? c <;> simp [withBound, withHandlers, hchannel]

/-- A registration that is taken out again leaves nothing, not even what was there before. -/
theorem erase_insert (identifier : String) (bridge : Bridge σ) :
    (bridge.withHandlers (·.insert identifier c)).withHandlers (·.erase identifier) =
      bridge.withHandlers (·.erase identifier) := by
  have htable : ∀ table : Table String ChannelId,
      (table.insert identifier c).erase identifier = table.erase identifier := by
    intro table
    refine Table.ext_get? fun k ↦ ?_
    rw [Table.get?_erase, Table.get?_erase, Table.get?_insert]
    split
    · rfl
    · rfl
  simp only [withHandlers, Option.map_map, Function.comp_def, htable]

theorem logged_logged (lines lines' : List Line) (bridge : Bridge σ) :
    (bridge.logged lines).logged lines' = bridge.logged (lines ++ lines') := by
  simp only [logged, List.append_assoc]

/-- Between the start of a binding and its end there are the tables and the registration, and both
are gone at the end. -/
theorem withBound_undone (h : bridge.boundOf c = none) (bound : Option Bound) (identifier : String)
    (lines lines' : List Line) :
    (((((bridge.withBound c bound).logged lines).withHandlers (·.insert identifier c)).logged
        lines').withBound c none).withHandlers (·.erase identifier) =
      (bridge.withHandlers (·.erase identifier)).logged (lines ++ lines') := by
  rw [withBound_logged, withBound_withHandlers, withBound_logged, withBound_withBound,
    withBound_of_unbound h]
  have herased := congrArg (logged lines') (erase_insert (c := c) identifier (bridge.logged lines))
  refine Eq.trans herased ?_
  simp only [logged, withHandlers, List.append_assoc]

end Bridge

/-- Getters that do not call the bridge leave all channels alone. -/
theorem Binding.readAll_channels {binding : Binding} {names : List String}
    (hquiet : ∀ name ∈ names, (host.get binding.object name).Quiet)
    {values : List (String × Value)}
    (h : binding.readAll host answer names frame bridge = some (values, bridge')) :
    bridge'.channels = bridge.channels := by
  have hcourse : Bridge.Course fun bridge bridge' : Bridge σ ↦
      bridge'.channels = bridge.channels := ⟨fun _ ↦ rfl, fun h h' ↦ h'.trans h, fun h _ ↦ h⟩
  have hanswer : answer.Obeys (fun _ ↦ False) fun bridge bridge' ↦
      bridge'.channels = bridge.channels := fun _ hnever ↦ hnever.elim
  induction names generalizing bridge values with
  | nil =>
    cases h
    rfl
  | cons name names ih =>
    obtain ⟨value, mid, hfirst, hrest⟩ := Run.of_bind_run h
    obtain ⟨values', after, hothers, hdone⟩ := Run.of_bind_run hrest
    cases hdone
    have hheeds : (host.get binding.object name).Heeds (fun _ ↦ False) (fun _ ↦ True)
        bridge.native := (hquiet name List.mem_cons_self).heeds (fun _ _ ↦ id) bridge.native
    have hmid := Native.run_obeys hcourse hanswer hheeds value mid hfirst
    exact (ih (fun other hother ↦ hquiet other (List.mem_cons_of_mem _ hother)) hothers).trans hmid

/-- A context that does not accept text refuses any, and if it fails, then in its own way. -/
theorem Context.refusal?_of_refuses (context : Context) (source : Source)
    (h : context.injection ≠ .accept) :
    ∃ refusal, context.refusal? source = some refusal ∧
      ∀ failure, context.injection = .fail failure → refusal = failure := by
  cases hinjection : context.injection with
  | accept => exact absurd hinjection h
  | reject => exact ⟨_, by simp only [refusal?, hinjection]; rfl, by rintro _ ⟨⟩⟩
  | fail e =>
    refine ⟨e, by simp only [refusal?, hinjection], ?_⟩
    rintro _ ⟨⟩
    rfl

namespace ChannelId

theorem refused_eq (e : BridgeError) : ∃ text, refused e = .evaluation text := by
  cases e <;> exact ⟨_, rfl⟩

theorem identifierFor_drawn {object : ObjectRef} {identifier : String}
    (h : identifierFor host object frame bridge = some (identifier, bridge')) :
    bridge' = { bridge with drawn := bridge'.drawn } := by
  have hget : (get : Run σ (Bridge σ)) frame bridge = some (bridge, bridge) := rfl
  rw [identifierFor, Run.bind_run hget] at h
  cases hdeclared : (host.hooks bridge.native object).identifier with
  | some declared =>
    rw [hdeclared] at h
    cases h
    rfl
  | none =>
    rw [hdeclared] at h
    cases h
    rfl

/-- Text that the context refuses is not run. -/
theorem inject_run_of_refusal {context : Context} (hcontext : bridge.context = some context)
    {source : Source} {refusal : BridgeError} (h : context.refusal? source = some refusal) :
    inject answer source frame bridge = some (some refusal, bridge) := by
  have hget : (get : Run σ (Bridge σ)) frame bridge = some (bridge, bridge) := rfl
  rw [inject, Run.bind_run hget]
  simp only [hcontext, h]
  rfl

/-- If the context refuses the stub without running it, the binding ends at once. -/
theorem install_run_of_refusal {bound : Bound} (hbound : bridge.boundOf c = some bound)
    {context : Context} (hcontext : bridge.context = some context) {source : Source}
    {refusal : BridgeError} (hrefusal : context.refusal? source = some refusal) (patience : Nat)
    (engine : EngineLiterals) (place : String) :
    ∃ lines, install host answer patience c engine bound.identifier place source frame bridge =
      some (.error (refused refusal),
        ((((bridge.withHandlers (·.insert bound.identifier c)).logged
          [.ofBridge .error ("stub injection failed: " ++ refusal.message)]).withBound c
            none).withHandlers (·.erase bound.identifier)).logged lines) := by
  let registered := bridge.withHandlers (·.insert bound.identifier c)
  let said := registered.logged
    [.ofBridge .error ("stub injection failed: " ++ refusal.message)]
  have hregister : (Run.changeContext fun context ↦
      { context with handlers := context.handlers.insert bound.identifier c } : Run σ Unit) frame
        bridge = some ((), registered) := rfl
  have hregistered : registered.context =
      some { context with handlers := context.handlers.insert bound.identifier c } := by
    simp [registered, Bridge.withHandlers, hcontext]
  have hinject : inject answer source frame registered = some (some refusal, registered) :=
    inject_run_of_refusal hregistered hrefusal
  have hsay : (Run.say .error ("stub injection failed: " ++ refusal.message) : Run σ Unit) frame
      registered = some ((), said) := rfl
  have hunbind : (unbind c : Run σ Unit) frame said = some ((), ((said.withBound c
      none).withHandlers (·.erase bound.identifier)).logged [.ofBridge .info "plugin unbound"]) :=
    unbind_run hbound
  refine ⟨[.ofBridge .info "plugin unbound"], ?_⟩
  rw [install, Run.bind_run hregister, Run.bind_run hinject]
  exact (Run.bind_run hsay).trans (Run.bind_run hunbind)

/-- If the stub is not installed, the context has refused it, and whatever binding there is ends. -/
theorem install_refused {patience : Nat} {engine : EngineLiterals} {identifier place : String}
    {source : Source} {e : BridgeError}
    (h : install host answer patience c engine identifier place source frame bridge =
      some (.error e, bridge')) :
    ∃ refusal mid, inject answer source frame (bridge.withHandlers (·.insert identifier c)) =
        some (some refusal, mid) ∧ e = refused refusal ∧
      (unbind c : Run σ Unit) frame
        (mid.logged [.ofBridge .error ("stub injection failed: " ++ refusal.message)]) =
          some ((), bridge') := by
  obtain ⟨_, registered, hregister, h⟩ := Run.of_bind_run h
  cases hregister
  obtain ⟨refusal, mid, hinject, h⟩ := Run.of_bind_run h
  cases refusal with
  | some refusal =>
    obtain ⟨_, said, hsaid, h⟩ := Run.of_bind_run h
    cases hsaid
    obtain ⟨_, after, hunbind, h⟩ := Run.of_bind_run h
    cases h
    exact ⟨refusal, mid, hinject, rfl, hunbind⟩
  | none =>
    obtain ⟨sources, drained, -, h⟩ := Run.of_bind_run h
    obtain ⟨_, injected, -, h⟩ := Run.of_bind_run h
    obtain ⟨_, said, -, h⟩ := Run.of_bind_run h
    cases h

theorem install_unbinds {patience : Nat} {engine : EngineLiterals} {identifier place : String}
    {source : Source} {e : BridgeError}
    (h : install host answer patience c engine identifier place source frame bridge =
      some (.error e, bridge')) : bridge'.boundOf c = none := by
  obtain ⟨_, _, -, -, hunbind⟩ := install_refused h
  exact unbind_unbinds c hunbind

end ChannelId

namespace Bridge

/-- A binding that had begun and failed has been undone. -/
theorem Registered.undone (hregistered : bridge'.Registered)
    (hchannel : bridge'.channels.get? c = bridge.channels.get? c)
    (hunbound : bridge.boundOf c = none) {channel : Channel}
    (hsome : bridge.channels.get? c = some channel) {levels : Nat} {place : String}
    {object : ObjectRef} {drawn : Bridge σ} {engine : EngineLiterals}
    {source : Source} {bound : Bound} {lines : List Line} {e : BridgeError}
    (hidentify : ChannelId.identifierFor host object frame bridge = some (bound.identifier, drawn))
    (h : ChannelId.install host answer levels c engine bound.identifier place source frame
      ((drawn.withBound c (some bound)).logged lines) = some (.error e, bridge')) :
    bridge.Undone host c bound.identifier e bridge' := by
  have hboundOf : channel.bound = none := by simpa [boundOf, hsome] using hunbound
  obtain ⟨refusal, mid, hinject, rfl, hunbind⟩ := ChannelId.install_refused h
  refine ⟨ChannelId.refused_eq refusal, fun d hd ↦ ⟨?_, hregistered bound.identifier d hd⟩,
    hregistered.asNew (hchannel.trans hsome) hboundOf, fun context hcontext hrefuses ↦ ?_⟩
  · rintro rfl
    have hfound := hregistered bound.identifier d hd
    rw [identifierOf, ChannelId.unbind_unbinds d hunbind] at hfound
    cases hfound
  · have hdrawn := ChannelId.identifierFor_drawn hidentify
    have hchannels : drawn.channels = bridge.channels :=
      (ChannelId.identifierFor_aside hidentify).1
    have hdrawnUnbound : drawn.boundOf c = none := by rwa [boundOf, hchannels]
    have hdrawnContext : drawn.context = some context :=
      (congrArg (·.context) hdrawn).trans hcontext
    have hbegun : ((drawn.withBound c (some bound)).logged lines).boundOf c = some bound := by
      rw [boundOf_logged]
      simp [withBound, hchannels, hsome, boundOf, Table.get?_insert]
    have hbegunContext : ((drawn.withBound c (some bound)).logged lines).context = some context :=
      (withBound_context ..).trans hdrawnContext
    obtain ⟨outright, houtright, hfail⟩ := context.refusal?_of_refuses source hrefuses
    obtain ⟨lines', hinstall⟩ :=
      ChannelId.install_run_of_refusal hbegun hbegunContext houtright levels engine place
    obtain ⟨hsame, hafter⟩ := Prod.mk.inj (Option.some.inj (h.symm.trans hinstall))
    rw [withBound_undone hdrawnUnbound, logged_logged] at hafter
    rw [hdrawn] at hafter
    refine ⟨fun failure hfailure ↦ ?_, _, _, hafter⟩
    rw [Except.error.inj hsame, hfail failure hfailure]

/-- How far a binding gets that fails: it is stopped by its place, the lack of a context, or the
binding that the channel is found to have when the getters have run, or it begins and is not
installed. -/
theorem bind_error {channel : Channel} (hchannel : bridge.channels.get? c = some channel)
    {levels : Nat} {object : ObjectRef} {place : String} {e : BridgeError}
    (hbind : Bridge.answer host (levels + 1) (.bind c object place) frame bridge =
      some (.error e, bridge')) :
    (place = "" ∧ e = .emptyPlace ∧ bridge' = bridge) ∨
    (place ≠ "" ∧ bridge.context = none ∧ e = .contextReleased ∧ bridge' = bridge) ∨
    (place ≠ "" ∧ bridge.context ≠ none ∧ ∃ values mid,
      (⟨place, object⟩ : Binding).values host (Bridge.answer host levels) frame bridge =
          some (values, mid) ∧
        ((∃ bound, mid.boundOf c = some bound ∧ e = .alreadyBound bound.identifier ∧
            bridge' = mid) ∨
          (mid.channels.get? c = some channel.ended ∧ ∃ drawn engine source bound lines,
            ChannelId.identifierFor host object frame mid = some (bound.identifier, drawn) ∧
              ChannelId.install host (Bridge.answer host levels) levels c engine bound.identifier
                place source frame ((drawn.withBound c (some bound)).logged lines) =
                  some (.error e, bridge')))) := by
  have hget : (get : Run σ (Bridge σ)) frame bridge = some (bridge, bridge) := rfl
  change ChannelId.bind host (Bridge.answer host levels) levels c object place frame bridge = _
    at hbind
  by_cases hplace : place = ""
  · rw [ChannelId.bind, if_pos hplace] at hbind
    cases hbind
    exact .inl ⟨hplace, rfl, rfl⟩
  refine .inr ?_
  rw [ChannelId.bind, if_neg hplace, Run.bind_run hget] at hbind
  cases hcontext : bridge.context with
  | none =>
    simp only [hcontext, Option.isNone_none, if_true] at hbind
    cases hbind
    exact .inl ⟨hplace, rfl, rfl, rfl⟩
  | some context =>
    simp only [hcontext, Option.isNone_some, Bool.false_eq_true, if_false] at hbind
    obtain ⟨values, mid, hvalues, hrest⟩ := Run.of_bind_run hbind
    rw [Run.bind_run (Run.bound?_run c)] at hrest
    refine .inr ⟨hplace, by simp, values, mid, hvalues, ?_⟩
    cases hbound : mid.boundOf c with
    | some bound =>
      rw [hbound] at hrest
      cases hrest
      exact .inl ⟨bound, rfl, rfl, rfl⟩
    | none =>
      rw [hbound] at hrest
      have hkept : mid.endedOf c = bridge.endedOf c :=
        Binding.readAll_obeys (ended_regime host c).toCourse
          (answer_obeys (ended_regime host c) levels) host.calls_all _ _ values mid hvalues
      have hmid : mid.channels.get? c = some channel.ended := by
        rw [← endedOf_of_unbound hbound, hkept, endedOf, hchannel, Option.map_some]
      obtain ⟨identifier, drawn, hidentify, -⟩ := Run.of_bind_run hrest
      have hdrawn : drawn.channels.get? c = some channel.ended := by
        rw [(ChannelId.identifierFor_aside hidentify).1, hmid]
      obtain ⟨source, bound, lines, hstub, hstarted⟩ :=
        ChannelId.start_run hidentify hdrawn place values
      have hidentifier : bound.identifier = identifier :=
        (congrArg (·.2.identifier) hstub).symm.trans (ChannelId.stubOf_identifier ..)
      rw [← hidentifier] at hidentify hstarted
      exact .inr ⟨hmid, drawn, _, source, bound, lines, hidentify, hstarted.symm.trans hrest⟩

/-- **What a binding that fails leaves behind.** Without a place or a context nothing has happened.
Otherwise the getters have run, and the channel is exactly as they left it: bound, and that is why
the binding was refused, or not bound, and then the binding that had begun was undone. -/
theorem Arises.bind_refused (h : bridge.Arises host) {channel : Channel}
    (hchannel : bridge.channels.get? c = some channel) {levels : Nat} {object : ObjectRef}
    {place : String} {e : BridgeError}
    (hbind : Bridge.answer host (levels + 1) (.bind c object place) frame bridge =
      some (.error e, bridge')) :
    (place = "" ∧ e = .emptyPlace ∧ bridge' = bridge) ∨
    (place ≠ "" ∧ bridge.context = none ∧ e = .contextReleased ∧ bridge' = bridge) ∨
    (place ≠ "" ∧ bridge.context ≠ none ∧ ∃ values mid,
      (⟨place, object⟩ : Binding).values host (Bridge.answer host levels) frame bridge =
          some (values, mid) ∧
        bridge'.channels.get? c = mid.channels.get? c ∧
        ((∀ name ∈ (host.surfaceOf object).propertyNames, (host.get object name).Quiet) →
          bridge'.channels.get? c = bridge.channels.get? c) ∧
        ((∃ bound, mid.boundOf c = some bound ∧ e = .alreadyBound bound.identifier ∧
            bridge' = mid) ∨
          (mid.boundOf c = none ∧ ∃ identifier drawn,
            ChannelId.identifierFor host object frame mid = some (identifier, drawn) ∧
              mid.Undone host c identifier e bridge'))) := by
  rcases bind_error hchannel hbind with hplace | hcontext | ⟨hplace, hcontext, values, mid, hvalues,
    ⟨bound, hbound, he, rfl⟩ | ⟨hmid, drawn, engine, source, bound, lines, hidentify, hinstall⟩⟩
  · exact .inl hplace
  · exact .inr (.inl hcontext)
  · refine .inr (.inr ⟨hplace, hcontext, values, _, hvalues, rfl, fun hquiet ↦ ?_,
      .inl ⟨bound, hbound, he, rfl⟩⟩)
    rw [Binding.readAll_channels hquiet hvalues]
  · have hunbound : mid.boundOf c = none := by simp [boundOf, hmid, Channel.ended]
    have hkept : bridge'.endedOf c = some channel.ended := by
      rw [answer_obeys (ended_regime host c) (levels + 1) _ trivial frame bridge _ bridge' hbind,
        endedOf, hchannel, Option.map_some]
    have hregistered : bridge'.Registered :=
      answer_obeys (registered_regime host) (levels + 1) _ trivial frame bridge _ bridge' hbind
        h.registered
    have hsame : bridge'.channels.get? c = mid.channels.get? c := by
      rw [← endedOf_of_unbound (ChannelId.install_unbinds hinstall), hkept, hmid]
    refine .inr (.inr ⟨hplace, hcontext, values, mid, hvalues, hsame, fun hquiet ↦ ?_,
      .inr ⟨hunbound, bound.identifier, drawn, hidentify,
        hregistered.undone hsame hunbound hmid hidentify hinstall⟩⟩)
    rw [hsame, Binding.readAll_channels hquiet hvalues]

end Bridge

/-- Objects of the type `Glance` serialize another object on the first channel when their property
is read; other objects show nothing. -/
def Host.glancing : Host Unit where
  surface typeName := ⟨typeName,
    if typeName = "Glance" then .ofList [("live", .property false)] else .empty⟩
  hooks _ object := { description := object.typeName }
  get _ _ := .call (.serialize 0 (.native ⟨2, "Plain"⟩)) fun _ ↦ .done .undefined
  set _ _ _ := .done (.returned (.ok ()))
  invoke _ _ _ := .done (.returned (.ok .undefined))
  construct typeName _ := .done (.returned (.ok ⟨3, typeName⟩))
  receive _ _ := .done (.returned ())

/-- One channel that is not bound, in a context that refuses text. -/
def Bridge.barred (native : σ) : Bridge σ where
  native := native
  context := some { injection := .reject }
  channels := Table.empty.insert 0 { worker := 0 }

theorem Bridge.barred_arises (host : Host σ) (native : σ) :
    (Bridge.barred native).Arises host :=
  Arises.addChannel (.start { native, context := some { injection := .reject } } rfl
    (by rintro _ ⟨⟩; rfl)) {} { worker := 0 } rfl 0 rfl

/-- A stub is refused, and the channel is as it was and as good as new. -/
theorem barred_bind_refused :
    ∃ after e, Bridge.answer .glancing 2 (.bind 0 ⟨0, "Plain"⟩ "app") {} (.barred ()) =
        some (.error e, after) ∧
      after.channels.get? 0 = (Bridge.barred ()).channels.get? 0 ∧
      (Bridge.barred ()).Undone .glancing 0 "1" e after := by
  refine ⟨_, _, rfl, ?_⟩
  rcases (Bridge.barred_arises .glancing ()).bind_refused rfl
      (show Bridge.answer .glancing 2 (.bind 0 ⟨0, "Plain"⟩ "app") {} (.barred ()) = _ from rfl)
    with ⟨hplace, -⟩ | ⟨-, hcontext, -⟩ | ⟨-, -, values, mid, hvalues, hsame, -, hfailed⟩
  · exact absurd hplace (by decide)
  · cases hcontext
  · cases hvalues
    rcases hfailed with ⟨bound, hbound, -⟩ | ⟨-, identifier, drawn, hidentify, hundone⟩
    · cases hbound
    · cases hidentify
      exact ⟨hsame, hundone⟩

/-- A getter may come back to the channel, before it is known that the channel is bound. Then a
binding that is refused because of that has changed the tables: an object has been given an id. -/
theorem not_always_as_before :
    ¬ ∀ (host : Host Unit) (levels : Nat) (object : ObjectRef) (place : String) (e : BridgeError)
      (bridge bridge' : Bridge Unit), bridge.Arises host →
        Bridge.answer host (levels + 1) (.bind 0 object place) {} bridge =
          some (.error e, bridge') → bridge'.channels.get? 0 = bridge.channels.get? 0 := by
  intro h
  let ids (bridge : Bridge Unit) : Option (List Int) :=
    (bridge.boundOf 0).map fun bound ↦ bound.instances.keys
  obtain ⟨bridge, after, e, harises, hrefused, hbefore, hafter⟩ : ∃ bridge after e,
      bridge.Arises .glancing ∧
      Bridge.answer .glancing 4 (.bind 0 ⟨1, "Glance"⟩ "other") {} bridge =
        some (.error e, after) ∧ ids bridge = some [0] ∧ ids after = some [-1, 0] := by
    have haccepting := (Bridge.barred_arises .glancing ()).call 1 {} (.steer .accept) () rfl
    exact ⟨_, _, _, haccepting.call 3 {} (.bind 0 ⟨0, "Plain"⟩ "app") _ rfl, rfl, rfl, rfl⟩
  have hsame : ids after = ids bridge :=
    congrArg (fun channel ↦ (channel.bind (·.bound)).map fun bound ↦ bound.instances.keys)
      (h .glancing 3 ⟨1, "Glance"⟩ "other" e bridge after harises hrefused)
  rw [hbefore, hafter] at hsame
  exact absurd hsame (by decide)

end ScriptBridge
