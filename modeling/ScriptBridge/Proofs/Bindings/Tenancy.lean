import Mathlib.Data.List.Basic
import ScriptBridge.Proofs.Tables.Changes

/-!
# One binding after another

A channel can be bound, unbound and bound again, and each time it starts with tables of its own. An
operation that has to run native code, or to inject text, lets go of the tables and comes back to
them later: it makes an *excursion*. What it finds then are the tables of whatever binding there is,
for all that is asked is whether there is one. `Tenancy` follows one channel through every
interleaving of such operations with binding and unbinding, and keeps for each excursion the *term*,
that is, the binding, under which it left.

## Main statement

`Tenancy.History.kept`: an operation comes back to its own binding, or to none, or to a later one;
to a later one only if a binding was started since it left. So as long as no binding starts while an
excursion of the channel is under way, no operation has an effect on a later binding, and all that
stands in the tables of a binding stands at a place of that binding (`Tenancy.History.at_home`, for
a stretch of a history). What comes back to a later binding has its effect there: an instance is put
in at the place that it had in the earlier one.

## What an operation brings along

The instance to be made has its place, and the object to be shown has the names of its owner, from
the term under which the operation left (`Excursion.Of`). All else is taken from the tables that are
found.
-/

namespace ScriptBridge

/-! ## Excursions -/

/-- What the stub of an object is made from, besides the tables. -/
structure Showing where
  engine : EngineLiterals
  urlPrefix : String
  surface : Surface
  hooks : Hooks
  values : List (String × Value)

/-- The stub of an object, and the tables after its values were referred to. -/
def Showing.stub (showing : Showing) (target : StubTarget) (place : String) :
    StateM Bound Source :=
  Bound.stubFor showing.engine showing.urlPrefix showing.surface showing.hooks target place
    showing.values

/-- What an operation has in hand while it has let go of the tables. -/
inductive Excursion where
  /-- The initializer of an instance runs. -/
  | create (target : Int) (place : String)
  /-- The getters of an object run, whose stub is to be made. -/
  | stub (next : Pending)
  /-- The stub of the principal is injected. -/
  | install
  /-- An instance has been found that is to be given up. -/
  | dispose (target : Int)
  /-- Native code finds a value for a script. -/
  | reply
  deriving DecidableEq

/-- What an operation comes back with, if it does not come back for nothing. -/
inductive Return : Excursion → Type where
  | made {target : Int} {place : String} (object : ObjectRef) : Return (.create target place)
  | shown {next : Pending} (showing : Showing) : Return (.stub next)
  | refused : Return .install
  | disposed {target : Int} : Return (.dispose target)
  | found (engine : EngineLiterals) (value : Value) : Return .reply

/-- What becomes of the tables that an operation comes back to. -/
def Return.act : {x : Excursion} → Return x → Bound → Option Bound
  | .create target place, .made object, bound => some (bound.put target ⟨place, object⟩).1
  | .stub next, .shown showing, bound =>
    some (showing.stub (.reference next.owner next.id) next.binding.place bound).2
  | .install, .refused, _ => none
  | .dispose target, .disposed, bound =>
    if target = 0 then none
    else
      match bound.instances.get? target with
      | none => some bound
      | some binding => some (bound.remove target binding)
  | .reply, .found engine value, bound => some (Bound.literal engine value bound).2

/-- With what in hand an operation may let go of the tables, and what it leaves behind. -/
inductive Bound.Lets (bound : Bound) : Excursion → Bound → Prop where
  | create {target : Int} (htarget : 0 < target) :
    Lets bound (.create target (bound.placeOf target)) bound
  | stub {next : Pending} {rest : List Pending} (hpending : bound.pending = next :: rest) :
    Lets bound (.stub next) { bound with pending := rest }
  | dispose {target : Int} (hfound : (bound.instances.get? target).isSome) :
    Lets bound (.dispose target) bound
  | reply : Lets bound .reply bound

/-! ## Terms -/

/-- One of the bindings that a channel has had. -/
structure Term where
  number : Nat
  identifier : String
  place : String
  deriving DecidableEq, Repr

/-- The place of an instance other than the principal. -/
def Term.placeOf (term : Term) (id : Int) : String := term.place ++ "[" ++ toString id ++ "]"

/-- The binding as one of those that the channel has had. -/
def Bound.term (number : Nat) (bound : Bound) : Term := ⟨number, bound.identifier, bound.place⟩

/-- What an operation brings along is from this term. -/
def Excursion.Of (term : Term) : Excursion → Prop
  | .create target place => 0 < target ∧ place = term.placeOf target
  | .stub next => next.owner = term.place ∧ next.binding.place = term.placeOf next.id
  | .install | .dispose _ | .reply => True

/-- A channel with its operations. -/
structure Tenancy where
  bound : Option Bound := none
  /-- How many bindings there have been. -/
  terms : Nat := 0
  /-- The excursions under way, each with the term under which it left. -/
  away : List (Term × Excursion) := []

namespace Tenancy

/-- The present binding. -/
def term? (s : Tenancy) : Option Term := s.bound.map (·.term s.terms)

/-! ## Steps -/

/-- What happens. -/
inductive Event where
  /-- A binding starts, while so many excursions are under way, and its stub is to be injected. -/
  | started (term : Term) (underway : Nat)
  | ended (term : Term)
  | left (term : Term) (x : Excursion)
  /-- An operation comes back, and finds a binding or none. -/
  | returned (term : Term) (x : Excursion) (found : Option Term)
  /-- An operation comes back for nothing. -/
  | forgone (term : Term) (x : Excursion)
  deriving DecidableEq

/-- The binding that starts. -/
def Event.started? : Event → Option Term
  | .started term _ => some term
  | _ => none

/-- The excursion that begins. -/
def Event.left? : Event → Option (Term × Excursion)
  | .started term _ => some (term, .install)
  | .left term x => some (term, x)
  | _ => none

/-- **What can happen next.** -/
inductive Step : Tenancy → Event → Tenancy → Prop where
  | start {s : Tenancy} {identifier place : String} {object : ObjectRef} {showing : Showing}
    {bound : Bound} (hunbound : s.bound = none)
    (hstub : bound = (showing.stub (.plugin place) place (.start identifier place object)).2) :
    Step s (.started (bound.term (s.terms + 1)) s.away.length)
      { bound := some bound, terms := s.terms + 1,
        away := s.away ++ [(bound.term (s.terms + 1), .install)] }
  | finish {s : Tenancy} {bound : Bound} (hbound : s.bound = some bound) :
    Step s (.ended (bound.term s.terms)) { s with bound := none }
  | leave {s : Tenancy} {bound bound' : Bound} {x : Excursion} (hbound : s.bound = some bound)
    (hlets : bound.Lets x bound') :
    Step s (.left (bound.term s.terms) x)
      { s with bound := some bound', away := s.away ++ [(bound.term s.terms, x)] }
  | back {s : Tenancy} {term : Term} {x : Excursion} (haway : (term, x) ∈ s.away)
    (result : Return x) :
    Step s (.returned term x s.term?)
      { s with bound := s.bound.bind result.act, away := s.away.erase (term, x) }
  | forgo {s : Tenancy} {term : Term} {x : Excursion} (haway : (term, x) ∈ s.away) :
    Step s (.forgone term x) { s with away := s.away.erase (term, x) }

/-- What has happened, in its order. -/
inductive History : Tenancy → List Event → Tenancy → Prop where
  | refl (s : Tenancy) : History s [] s
  | next {s s' s'' : Tenancy} {events : List Event} {event : Event} (h : History s events s')
    (hstep : Step s' event s'') : History s (events ++ [event]) s''

end Tenancy

/-! ## Tables of their own -/

namespace Bound

/-- The place of an instance, the principal among them. -/
def seat (bound : Bound) (id : Int) : String := if id = 0 then bound.place else bound.placeOf id

/-- What stands in the tables stands at a place of the binding, but for some strays. -/
structure AtHome (stray : Int → Prop) (bound : Bound) : Prop where
  seated : ∀ id binding, bound.instances.get? id = some binding →
    binding.place = bound.seat id ∨ stray id
  owned : ∀ next ∈ bound.pending, next.owner = bound.place ∧
    next.binding.place = bound.placeOf next.id
  next_neg : bound.nextReference < 0

variable {stray : Int → Prop} {bound : Bound}

theorem seat_of_pos {id : Int} (h : 0 < id) : bound.seat id = bound.placeOf id :=
  if_neg (by omega)

theorem atHome_start (stray : Int → Prop) (identifier place : String) (object : ObjectRef) :
    (start identifier place object).AtHome stray where
  seated id binding h := by
    simp only [start, Table.get?_insert, Table.get?_empty] at h
    split at h
    · next hid =>
      cases h
      exact .inl (if_pos hid).symm
    · cases h
  owned := List.forall_mem_nil _
  next_neg := by simp [start]

namespace AtHome

theorem mono {stray' : Int → Prop} (h : bound.AtHome stray) (hstray : ∀ id, stray id → stray' id) :
    bound.AtHome stray' :=
  { h with seated := fun id binding hid ↦ (h.seated id binding hid).imp_right (hstray id) }

theorem allocate (h : bound.AtHome stray) (object : ObjectRef) :
    (bound.allocate object).AtHome stray where
  seated id binding hid := by
    simp only [Bound.allocate, Table.get?_insert] at hid
    split at hid
    · next heq =>
      cases hid
      have hne : id ≠ 0 := by
        have hneg := h.next_neg
        omega
      rw [seat, if_neg hne, heq]
      exact .inl rfl
    · exact h.seated id binding hid
  owned next hnext := by
    rcases List.mem_append.mp hnext with hnext | hnext
    · exact h.owned next hnext
    · rw [List.mem_singleton.mp hnext]
      exact ⟨rfl, rfl⟩
  next_neg := by
    have hneg := h.next_neg
    simp only [Bound.allocate]
    omega

theorem resolve (h : bound.AtHome stray) (object : ObjectRef) :
    (Bound.resolve object bound).2.AtHome stray := by
  unfold Bound.resolve
  split
  · exact h
  · exact h.allocate object

theorem referAll (h : bound.AtHome stray) (objects : List ObjectRef) :
    (Bound.referAll objects bound).AtHome stray := by
  induction objects generalizing bound with
  | nil => exact h
  | cons object objects ih => exact ih (h.resolve object)

/-- An instance at its own place is at home, and one from elsewhere is a stray. -/
theorem put (h : bound.AtHome stray) {target : Int} (htarget : 0 < target) {place : String}
    (hplace : place = bound.placeOf target ∨ stray target) (object : ObjectRef) :
    (bound.put target ⟨place, object⟩).1.AtHome stray where
  seated id binding hid := by
    simp only [Bound.put, Table.get?_insert] at hid
    split at hid
    · next heq =>
      cases hid
      subst heq
      exact hplace.imp_left fun hplace ↦ hplace.trans (seat_of_pos htarget).symm
    · exact h.seated id binding hid
  owned := h.owned
  next_neg := h.next_neg

theorem remove (h : bound.AtHome stray) (target : Int) (binding : Binding) :
    (bound.remove target binding).AtHome stray where
  seated id binding hid := by
    simp only [Bound.remove, Table.get?_erase] at hid
    split at hid
    · cases hid
    · exact h.seated id binding hid
  owned := h.owned
  next_neg := h.next_neg

/-- What an operation leaves behind is still at home, and what it has in hand is from here. -/
theorem lets (h : bound.AtHome stray) {x : Excursion} {bound' : Bound} (hlets : bound.Lets x bound')
    (number : Nat) : bound'.AtHome stray ∧ x.Of (bound.term number) := by
  cases hlets with
  | create htarget => exact ⟨h, htarget, rfl⟩
  | @stub next rest hpending =>
    have hrest : ∀ other ∈ rest, other ∈ bound.pending := fun other hother ↦ by
      rw [hpending]
      exact List.mem_cons_of_mem _ hother
    refine ⟨{ h with owned := fun other hother ↦ h.owned other (hrest other hother) }, ?_⟩
    exact h.owned next (by rw [hpending]; exact List.mem_cons_self)
  | dispose | reply => exact ⟨h, trivial⟩

end AtHome

/-- No binding starts when an operation leaves. -/
theorem Lets.term {x : Excursion} {bound' : Bound} (h : bound.Lets x bound') (number : Nat) :
    bound'.term number = bound.term number := by
  cases h <;> rfl

theorem referAll_term (objects : List ObjectRef) (number : Nat) (bound : Bound) :
    (referAll objects bound).term number = bound.term number := by
  induction objects generalizing bound with
  | nil => rfl
  | cons object objects ih =>
    obtain ⟨hplace, hidentifier⟩ := Changes.resolve_frame object bound
    rw [referAll_cons, ih, term, hplace, hidentifier]
    rfl

end Bound

namespace Return

variable {x : Excursion} {bound bound' : Bound} {stray : Int → Prop} {term : Term}

/-- No operation starts a binding when it comes back. -/
theorem act_term (result : Return x) (h : result.act bound = some bound') (number : Nat) :
    bound'.term number = bound.term number := by
  cases result with
  | made object =>
    cases h
    rfl
  | shown showing =>
    cases h
    rw [Showing.stub, Bound.stubFor_state, Bound.referAll_term]
  | refused => cases h
  | disposed =>
    simp only [act] at h
    split at h
    · cases h
    · split at h
      · cases h
        rfl
      · cases h
        rfl
  | found engine value =>
    cases h
    rw [Bound.literal_state, Bound.referAll_term]

/-- What comes back is at home where it is from; elsewhere an instance is a stray. -/
theorem act_atHome (result : Return x) (hx : x.Of term) (h : bound.AtHome stray) (number : Nat)
    (hstray : bound.term number = term ∨ ∀ target place, x = .create target place → stray target)
    (hact : result.act bound = some bound') : bound'.AtHome stray := by
  cases result with
  | made object =>
    cases hact
    refine h.put hx.1 ?_ object
    rcases hstray with hterm | hstray
    · rw [hx.2, ← hterm]
      exact .inl rfl
    · exact .inr (hstray _ _ rfl)
  | shown showing =>
    cases hact
    rw [Showing.stub, Bound.stubFor_state]
    exact h.referAll _
  | refused => cases hact
  | disposed =>
    simp only [act] at hact
    split at hact
    · cases hact
    · split at hact
      · cases hact
        exact h
      · cases hact
        exact h.remove _ _
  | found engine value =>
    cases hact
    rw [Bound.literal_state]
    exact h.referAll _

end Return

namespace Tenancy

variable {s s' s'' : Tenancy} {events events' : List Event} {event : Event} {term : Term}
  {x : Excursion}

/-! ## Histories put together -/

theorem History.trans (h : History s events s') (h' : History s' events' s'') :
    History s (events ++ events') s'' := by
  induction h' with
  | refl =>
    rw [List.append_nil]
    exact h
  | next _ hstep ih =>
    rw [← List.append_assoc]
    exact ih.next hstep

/-- No binding has started. -/
def Quiet (events : List Event) : Prop := ∀ event ∈ events, event.started? = none

theorem Quiet.append (h : Quiet events) (h' : Quiet events') : Quiet (events ++ events') :=
  fun event hevent ↦ (List.mem_append.mp hevent).elim (h event) (h' event)

theorem Quiet.single (h : event.started? = none) : Quiet [event] := List.forall_mem_singleton.mpr h

/-- The present binding is the one from before, if there is one. -/
def Stays (s s' : Tenancy) : Prop :=
  s'.terms = s.terms ∧ ∀ bound, s'.bound = some bound → s.term? = some (bound.term s.terms)

theorem Step.stays (hstep : Step s event s') (hquiet : event.started? = none) : s.Stays s' := by
  cases hstep with
  | start => cases hquiet
  | finish => exact ⟨rfl, by rintro _ ⟨⟩⟩
  | leave hbound hlets =>
    refine ⟨rfl, ?_⟩
    rintro _ ⟨⟩
    rw [term?, hbound, Option.map_some, hlets.term]
  | back _ result =>
    refine ⟨rfl, fun bound' hbound' ↦ ?_⟩
    obtain ⟨bound, hbound, hact⟩ := Option.bind_eq_some_iff.mp hbound'
    rw [term?, hbound, Option.map_some, result.act_term hact]
  | forgo =>
    refine ⟨rfl, fun bound hbound ↦ ?_⟩
    rw [term?, hbound]
    rfl

theorem History.stays (h : History s events s') (hquiet : Quiet events) : s.Stays s' := by
  induction h with
  | refl => exact ⟨rfl, fun bound hbound ↦ by rw [term?, hbound]; rfl⟩
  | next _ hstep ih =>
    obtain ⟨hterms, hsame⟩ := ih fun event hevent ↦ hquiet event (List.mem_append_left _ hevent)
    obtain ⟨hterms', hsame'⟩ :=
      hstep.stays (hquiet _ (List.mem_append_right _ List.mem_cons_self))
    refine ⟨hterms'.trans hterms, fun bound'' hbound'' ↦ ?_⟩
    obtain ⟨bound', hbound', hterm⟩ := Option.map_eq_some_iff.mp (hsame' bound'' hbound'')
    rw [hterms] at hterm
    exact (hsame bound' hbound').trans (congrArg some hterm)

/-! ## What is known of a history -/

/-- The operation has left, and its term is the latest one unless a binding has started since. -/
def LeftAt (events : List Event) (s : Tenancy) (term : Term) (x : Excursion) : Prop :=
  ∃ before event after, events = before ++ event :: after ∧ event.left? = some (term, x) ∧
    term.number ≤ s.terms ∧ (term.number = s.terms ↔ Quiet after)

/-- An instance has been put in at this id, in the present binding and from an earlier one. -/
def Stray (events : List Event) (s : Tenancy) (id : Int) : Prop :=
  ∃ term place found, .returned term (.create id place) (some found) ∈ events ∧
    term.number < found.number ∧ found.number = s.terms

/-- What is kept track of: where the excursions come from, and what the tables hold. -/
structure Tracked (events : List Event) (s : Tenancy) : Prop where
  left : ∀ term x, (term, x) ∈ s.away → LeftAt events s term x
  own : ∀ term x, (term, x) ∈ s.away → x.Of term
  /-- The latest term is that of the present binding. -/
  latest : ∀ term x, (term, x) ∈ s.away → term.number = s.terms →
    ∀ bound, s.bound = some bound → bound.term s.terms = term
  tables : ∀ bound, s.bound = some bound → bound.AtHome (Stray events s)

namespace LeftAt

/-- An excursion that has just begun. -/
theorem last (hleft : event.left? = some (term, x)) (hterm : term.number = s'.terms) :
    LeftAt (events ++ [event]) s' term x :=
  ⟨events, event, [], rfl, hleft, Nat.le_of_eq hterm, iff_of_true hterm (List.forall_mem_nil _)⟩

theorem append (h : LeftAt events s term x) (hquiet : event.started? = none)
    (hterms : s'.terms = s.terms) : LeftAt (events ++ [event]) s' term x := by
  obtain ⟨before, first, after, rfl, hleft, hle, hlatest⟩ := h
  refine ⟨before, first, after ++ [event], by simp, hleft, hterms ▸ hle, ?_⟩
  rw [hterms, hlatest]
  refine ⟨fun hafter later hlater ↦ ?_, fun hall later hlater ↦ ?_⟩
  · rcases List.mem_append.mp hlater with hlater | hlater
    · exact hafter later hlater
    · rw [List.mem_singleton.mp hlater]
      exact hquiet
  · exact hall later (List.mem_append_left _ hlater)

theorem started (h : LeftAt events s term x) {started : Term}
    (hstarted : event.started? = some started) (hterms : s'.terms = s.terms + 1) :
    LeftAt (events ++ [event]) s' term x := by
  obtain ⟨before, first, after, rfl, hleft, hle, -⟩ := h
  refine ⟨before, first, after ++ [event], by simp, hleft, by omega, ?_⟩
  refine iff_of_false (by omega) fun hquiet ↦ ?_
  rw [hquiet event (List.mem_append_right _ List.mem_cons_self)] at hstarted
  cases hstarted

end LeftAt

theorem Stray.append {id : Int} (h : Stray events s id) (hterms : s'.terms = s.terms)
    (event : Event) : Stray (events ++ [event]) s' id := by
  obtain ⟨term, place, found, hreturned, hearlier, hfound⟩ := h
  exact ⟨term, place, found, List.mem_append_left _ hreturned, hearlier, hterms ▸ hfound⟩

/-- Where nothing is under way, nothing but the tables is to be known. -/
theorem tracked_start {bound : Option Bound} {terms : Nat}
    (hhome : ∀ here, bound = some here → here.AtHome fun _ ↦ False) :
    Tracked [] { bound, terms } where
  left := by simp
  own := by simp
  latest := by simp
  tables here hhere := (hhome here hhere).mono fun _ ↦ False.elim

namespace Tracked

variable (h : Tracked events s)
include h

theorem start {identifier place : String} {object : ObjectRef} {showing : Showing} {bound : Bound}
    (hstub : bound = (showing.stub (.plugin place) place (.start identifier place object)).2) :
    Tracked (events ++ [.started (bound.term (s.terms + 1)) s.away.length])
      { bound := some bound, terms := s.terms + 1,
        away := s.away ++ [(bound.term (s.terms + 1), .install)] } where
  left term x hx := by
    rcases List.mem_append.mp hx with hx | hx
    · exact (h.left term x hx).started rfl rfl
    · cases List.mem_singleton.mp hx
      exact .last rfl rfl
  own term x hx := by
    rcases List.mem_append.mp hx with hx | hx
    · exact h.own term x hx
    · cases List.mem_singleton.mp hx
      trivial
  latest term x hx hterm := by
    rcases List.mem_append.mp hx with hx | hx
    · obtain ⟨_, _, _, -, -, hle, -⟩ := h.left term x hx
      change term.number = s.terms + 1 at hterm
      omega
    · cases List.mem_singleton.mp hx
      rintro _ ⟨⟩
      rfl
  tables := by
    rintro _ ⟨⟩
    rw [hstub, Showing.stub, Bound.stubFor_state]
    exact (Bound.atHome_start _ _ _ _).referAll _

/-- Something happens while no binding starts, and nobody leaves. -/
theorem keep (hstep : Step s event s') (hquiet : event.started? = none)
    (haway : ∀ entry ∈ s'.away, entry ∈ s.away)
    (htables : ∀ bound, s'.bound = some bound → bound.AtHome (Stray (events ++ [event]) s')) :
    Tracked (events ++ [event]) s' := by
  obtain ⟨hterms, hsame⟩ := hstep.stays hquiet
  exact {
    left := fun term x hx ↦ (h.left term x (haway _ hx)).append hquiet hterms
    own := fun term x hx ↦ h.own term x (haway _ hx)
    latest := fun term x hx hnumber bound hbound ↦ by
      obtain ⟨here, hhere, hterm⟩ := Option.map_eq_some_iff.mp (hsame bound hbound)
      rw [hterms] at hnumber ⊢
      exact hterm.symm.trans (h.latest term x (haway _ hx) hnumber here hhere)
    tables := htables }

theorem leave {bound bound' : Bound} {x : Excursion} (hbound : s.bound = some bound)
    (hlets : bound.Lets x bound') :
    Tracked (events ++ [.left (bound.term s.terms) x])
      { s with bound := some bound', away := s.away ++ [(bound.term s.terms, x)] } := by
  obtain ⟨htables, hof⟩ := (h.tables bound hbound).lets hlets s.terms
  have hterm := hlets.term s.terms
  refine ⟨fun term y hy ↦ ?_, fun term y hy ↦ ?_, fun term y hy hnumber ↦ ?_, ?_⟩
  · rcases List.mem_append.mp hy with hy | hy
    · exact (h.left term y hy).append rfl rfl
    · cases List.mem_singleton.mp hy
      exact .last rfl rfl
  · rcases List.mem_append.mp hy with hy | hy
    · exact h.own term y hy
    · cases List.mem_singleton.mp hy
      exact hof
  · rintro _ ⟨⟩
    rcases List.mem_append.mp hy with hy | hy
    · exact hterm.trans (h.latest term y hy hnumber bound hbound)
    · cases List.mem_singleton.mp hy
      exact hterm
  · rintro _ ⟨⟩
    exact htables.mono fun id hid ↦ hid.append rfl _

theorem back {term : Term} {x : Excursion} (haway : (term, x) ∈ s.away) (result : Return x) :
    Tracked (events ++ [.returned term x s.term?])
      { s with bound := s.bound.bind result.act, away := s.away.erase (term, x) } := by
  refine h.keep (.back haway result) rfl (fun _ ↦ List.mem_of_mem_erase) fun bound' hbound' ↦ ?_
  obtain ⟨bound, hbound, hact⟩ := Option.bind_eq_some_iff.mp hbound'
  have htables : bound.AtHome (Stray (events ++ [.returned term x s.term?])
      { s with bound := s.bound.bind result.act, away := s.away.erase (term, x) }) :=
    (h.tables bound hbound).mono fun id hid ↦ hid.append rfl _
  refine result.act_atHome (h.own term x haway) htables s.terms ?_ hact
  obtain ⟨_, _, _, -, -, hle, -⟩ := h.left term x haway
  rcases Nat.eq_or_lt_of_le hle with hlatest | hearlier
  · exact .inl (h.latest term x haway hlatest bound hbound)
  · -- what comes back from an earlier term is a stray:
    right
    rintro target place rfl
    refine ⟨term, place, bound.term s.terms, List.mem_append_right _ ?_, hearlier, rfl⟩
    rw [term?, hbound]
    exact List.mem_cons_self

theorem step (hstep : Step s event s') : Tracked (events ++ [event]) s' := by
  cases hstep with
  | start _ hstub => exact h.start hstub
  | finish hbound => exact h.keep (.finish hbound) rfl (fun _ hx ↦ hx) (by rintro _ ⟨⟩)
  | leave hbound hlets => exact h.leave hbound hlets
  | back haway result => exact h.back haway result
  | forgo haway =>
    refine h.keep (.forgo haway) rfl (fun _ ↦ List.mem_of_mem_erase) fun bound hbound ↦ ?_
    exact (h.tables bound hbound).mono fun id hid ↦ hid.append rfl _

theorem history (hhistory : History s events' s') : Tracked (events ++ events') s' := by
  induction hhistory with
  | refl =>
    rw [List.append_nil]
    exact h
  | next _ hstep ih =>
    rw [← List.append_assoc]
    exact ih.step hstep

end Tracked

/-! ## Bindings that start while nothing is under way -/

/-- No binding has started while an excursion was under way. -/
def Calm (events : List Event) : Prop := ∀ term underway, .started term underway ∈ events →
  underway = 0

/-- Then all excursions are from the latest term, and none has come back to another one. -/
structure Current (events : List Event) (s : Tenancy) : Prop where
  away : ∀ term x, (term, x) ∈ s.away → term.number = s.terms
  returned : ∀ term x found, .returned term x (some found) ∈ events →
    term.number = found.number

theorem Current.step (h : Current events s) (hstep : Step s event s')
    (hcalm : ∀ term underway, event = .started term underway → underway = 0) :
    Current (events ++ [event]) s' := by
  refine ⟨fun term x hx ↦ ?_, fun term x found hreturned ↦ ?_⟩
  · cases hstep with
    | start =>
      have hnone : s.away = [] := List.length_eq_zero_iff.mp (hcalm _ _ rfl)
      rw [hnone, List.nil_append] at hx
      cases List.mem_singleton.mp hx
      rfl
    | finish => exact h.away term x hx
    | leave =>
      rcases List.mem_append.mp hx with hx | hx
      · exact h.away term x hx
      · cases List.mem_singleton.mp hx
        rfl
    | back | forgo => exact h.away term x (List.mem_of_mem_erase hx)
  · rcases List.mem_append.mp hreturned with hreturned | hreturned
    · exact h.returned term x found hreturned
    · have hevent := List.mem_singleton.mp hreturned
      generalize hfound : some found = found? at hevent
      cases hstep with
      | back haway =>
        cases hevent
        obtain ⟨bound, -, hterm⟩ := Option.map_eq_some_iff.mp hfound.symm
        rw [h.away _ _ haway, ← hterm]
        rfl
      | _ => cases hevent

theorem Current.history (h : Current events s) (hhistory : History s events' s')
    (hcalm : Calm events') : Current (events ++ events') s' := by
  induction hhistory with
  | refl =>
    rw [List.append_nil]
    exact h
  | next _ hstep ih =>
    rw [← List.append_assoc]
    have hbefore := ih fun term underway hmem ↦ hcalm term underway (List.mem_append_left _ hmem)
    refine hbefore.step hstep ?_
    rintro term underway rfl
    exact hcalm term underway (List.mem_append_right _ List.mem_cons_self)

theorem current_start (bound : Option Bound) (terms : Nat) : Current [] { bound, terms } :=
  ⟨by simp, by simp⟩

/-- What is put in is put in where it belongs. -/
theorem Current.not_stray (h : Current events s) (id : Int) : ¬ Stray events s id := by
  rintro ⟨term, place, found, hreturned, hearlier, -⟩
  exact Nat.ne_of_lt hearlier (h.returned _ _ _ hreturned)

/-- **While no binding starts, the tables stay at home**, in the binding that there was. -/
theorem History.at_home {bound : Option Bound} {terms : Nat} (h : History { bound, terms } events s)
    (hquiet : Quiet events) (hhome : ∀ here, bound = some here → here.AtHome fun _ ↦ False)
    {here : Bound} (hhere : s.bound = some here) : here.AtHome fun _ ↦ False := by
  have hcalm : Calm events := fun term underway hmem ↦ by cases hquiet _ hmem
  have htracked := (tracked_start hhome).history h
  exact (htracked.tables here hhere).mono
    ((current_start bound terms).history h hcalm).not_stray

/-! ## All together -/

/-- **To which binding operations come back, and what the tables hold.** -/
structure Kept (events : List Event) (s : Tenancy) : Prop where
  /-- An operation that comes back left at some point, bringing along what is from the binding of
  that point. It has no effect without a binding. Otherwise it finds its own binding or a later one,
  and its own exactly if no binding has started since it left. -/
  back : ∀ term x found s', Step s (.returned term x found) s' → x.Of term ∧
    ∃ before event after, events = before ++ event :: after ∧ event.left? = some (term, x) ∧
      match found with
      | none => s'.bound = none
      | some here => (here = term ∨ term.number < here.number) ∧ (here = term ↔ Quiet after)
  /-- What stands in the tables stands at a place of the binding, unless an instance was put in that
  was to be made under an earlier one. -/
  tables : ∀ bound, s.bound = some bound → bound.AtHome (Stray events s)
  /-- If no binding has started while an operation was under way, operations come back to their own
  bindings only, and there are no strays. -/
  calm : Calm events →
    (∀ term x found s', Step s (.returned term x (some found)) s' → found = term) ∧
      ∀ bound, s.bound = some bound → bound.AtHome fun _ ↦ False

/-- **An operation has its effect on a later binding exactly if a binding has started while it was
under way.** -/
theorem History.kept (h : History {} events s) : Kept events s := by
  have htracked : Tracked events s := (tracked_start (by simp)).history h
  have hcurrent := (current_start none 0).history h
  have hback : ∀ term x found s', Step s (.returned term x found) s' →
      (term, x) ∈ s.away ∧ found = s.term? ∧ (s.bound = none → s'.bound = none) := by
    intro term x found s' hstep
    cases hstep with
    | back haway => exact ⟨haway, rfl, fun hnone ↦ by rw [hnone]; rfl⟩
  refine ⟨fun term x found s' hstep ↦ ?_, htracked.tables, fun hcalm ↦ ⟨?_, ?_⟩⟩
  · obtain ⟨haway, rfl, hnothing⟩ := hback term x found s' hstep
    obtain ⟨before, event, after, hevents, hleft, hle, hlatest⟩ := htracked.left term x haway
    refine ⟨htracked.own term x haway, before, event, after, hevents, hleft, ?_⟩
    cases hbound : s.bound with
    | none =>
      rw [term?, hbound]
      exact hnothing hbound
    | some bound =>
      rw [term?, hbound]
      have hsame : bound.term s.terms = term ↔ term.number = s.terms :=
        ⟨fun heq ↦ by rw [← heq]; rfl, fun heq ↦ htracked.latest term x haway heq bound hbound⟩
      refine ⟨?_, hsame.trans hlatest⟩
      rcases Nat.eq_or_lt_of_le hle with heq | hlt
      · exact .inl (hsame.mpr heq)
      · exact .inr hlt
  · intro term x found s' hstep
    obtain ⟨haway, hfound, -⟩ := hback term x (some found) s' hstep
    obtain ⟨bound, hbound, rfl⟩ := Option.map_eq_some_iff.mp hfound.symm
    exact htracked.latest term x haway ((hcurrent hcalm).away term x haway) bound hbound
  · intro bound hbound
    exact (htracked.tables bound hbound).mono (hcurrent hcalm).not_stray

end Tenancy

end ScriptBridge
