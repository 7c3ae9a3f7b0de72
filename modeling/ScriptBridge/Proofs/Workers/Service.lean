import Mathlib.Data.List.Forall2
import ScriptBridge.Proofs.Workers.Workshop

/-!
# What a worker does for those who use it

A worker that is in order serves whoever has a handle of it, and how it does so is seen by looking
at the events alone: tasks begin in the order in which they were accepted, each of them once and
none before the last has ended; a client that waits gets what came of its own task, when everything
accepted before has run; the thread ends when there is nothing left to run. `Workshop.Served` is the
list of these things, and `Workshop.History.served` says that they are so, whatever the parties do
and in whichever order.

## Panics

How a task ends is of no account for anything but the one that waits for it. That is shown by
letting a task end in some other way: the same events can then happen, but for the outcome of that
task (`Workshop.History.alter`). So a panic is no more to the others than a return.

## Getting on

The thread never waits for anyone. Whatever has been accepted can be run by steps of the thread
alone, and so a client that waits is not waiting for another client (`Workshop.Orderly.drain`).
-/

namespace ScriptBridge

namespace Workshop

variable {ρ : Type} {s s' s'' : Workshop ρ} {event : Event ρ} {events events' : List (Event ρ)}

/-! ## What events tell -/

namespace Event

/-- The task that is accepted. -/
def accepted? : Event ρ → Option Nat
  | .submitted _ ticket | .entered _ ticket => some ticket
  | _ => none

/-- The task that begins. -/
def began? : Event ρ → Option Nat
  | .began ticket => some ticket
  | _ => none

/-- The task that ends, and how. -/
def ended? : Event ρ → Option (Nat × Finish ρ)
  | .ended ticket finish => some (ticket, finish)
  | _ => none

/-- Whether it is the thread of the worker that gets on with its tasks, each of which ends as it is
given to. -/
def IsOwn (ends : Nat → Finish ρ) : Event ρ → Prop
  | .began _ => True
  | .ended ticket finish => finish = ends ticket
  | _ => False

/-- **What is to be said of each event**, between the state before and the state after. -/
def Sound (s s' : Workshop ρ) : Event ρ → Prop
  /- A task is put behind all others. -/
  | .submitted _ ticket => ticket = s.accepted ∧ s'.waiting = s.waiting ++ [ticket]
  /- So is the task of a call, and the client waits for it and for nothing else. -/
  | .entered c ticket => ticket = s.accepted ∧ s'.waiting = s.waiting ++ [ticket] ∧
    s'.waits = s.waits ++ [(c, ticket)] ∧ ∀ other, (c, other) ∉ s.waits
  /- A client gets what came of its own task, and all that was accepted before has run. -/
  | .returned c ticket outcome => (c, ticket) ∈ s.waits ∧
    (∃ finish, (ticket, finish) ∈ s.finished ∧ finish.Gives outcome) ∧
    ∀ earlier < ticket, earlier ∈ s.tickets
  /- Nobody is refused but the task that would wait for its own worker. -/
  | .refused party e => party = .worker ∧ e = Worker.reentered s.worker.label ∧ s' = s
  | .flushed => s' = s
  /- Tasks run one at a time, and the next is the first that has not run. -/
  | .began ticket => s.running = none ∧ ticket = s.finished.length
  | .ended ticket _ => s.running = some ticket
  /- When the thread ends, and when one who waited for that goes on, everything has run. -/
  | .stopped | .joined _ => s'.tickets = List.range s'.accepted ∧ s'.handles = []
  | .shared _ | .handed _ | .dropped _ | .closed =>
    s'.tickets = s.tickets ∧ s'.running = s.running ∧ s'.waiting = s.waiting

end Event

/-! ## Numbers -/

/-- What comes behind the first numbers is the next one. -/
theorem eq_of_range_append {k n ticket : Nat} {rest : List Nat}
    (h : List.range k ++ ticket :: rest = List.range n) : ticket = k := by
  have hget : (List.range n)[k]? = some ticket := by
    rw [← h, List.getElem?_append_right (by simp)]
    simp
  have heq : k < n ∧ k = ticket := by simpa [List.getElem?_eq_some_iff] using hget
  exact heq.2.symm

namespace Orderly

/-- The tasks that have finished are the first ones. -/
theorem tickets_eq (h : s.Orderly) : s.tickets = List.range s.finished.length := by
  have hlength : s.tickets.length = s.finished.length := List.length_map _
  have hprefix : s.tickets <+: List.range s.accepted := by
    rw [← h.order, List.append_assoc]
    exact List.prefix_append _ _
  have htake := List.prefix_iff_eq_take.mp hprefix
  rw [List.take_range, hlength, min_eq_left] at htake
  · exact htake
  · simpa [hlength] using hprefix.length_le

/-- If none is running, the next one waits in front. -/
theorem next_eq (h : s.Orderly) (hidle : s.running = none) {ticket : Nat} {rest : List Nat}
    (hwaiting : s.waiting = ticket :: rest) : ticket = s.finished.length := by
  have horder := h.order
  rw [hidle, hwaiting, h.tickets_eq] at horder
  exact eq_of_range_append (by simpa using horder)

/-- What was accepted before a task that has finished has finished, too. -/
theorem earlier_finished (h : s.Orderly) {ticket earlier : Nat} (hticket : ticket ∈ s.tickets)
    (hearlier : earlier < ticket) : earlier ∈ s.tickets := by
  rw [h.tickets_eq, List.mem_range] at hticket ⊢
  exact hearlier.trans hticket

/-- No task is thrown away. -/
theorem mem_tickets (h : s.Orderly) (hthread : s.stopped = true) {c ticket : Nat}
    (hwaits : (c, ticket) ∈ s.waits) : ticket ∈ s.tickets := by
  rw [h.tickets_of_stopped hthread, List.mem_range]
  exact h.awaited _ hwaits

end Orderly

/-! ## Each event -/

theorem waiting_eq_of_next {job : Job} {rest : List Job} (hnext : s.worker.waiting = job :: rest) :
    s.waiting = job.ticket?.toList ++ rest.filterMap Job.ticket? := by
  rw [waiting, hnext]
  cases job <;> rfl

/-- What waits in front is what the thread finds next. -/
theorem Orderly.next_job (h : s.Orderly) {ticket : Nat} {tickets : List Nat}
    (hwaiting : s.waiting = ticket :: tickets) :
    ∃ rest, s.worker.waiting = .run ticket :: rest ∧ rest.filterMap Job.ticket? = tickets := by
  have hqueue := h.queue
  rw [hwaiting, List.map_cons, List.cons_append] at hqueue
  have hrest := waiting_eq_of_next hqueue
  rw [hwaiting] at hrest
  exact ⟨_, hqueue, (List.cons.inj hrest).2.symm⟩

/-- **Each event is as it should be.** -/
theorem Step.sound (h : s.Orderly) (hstep : Step s event s') : event.Sound s s' := by
  have h' := h.step hstep
  cases hstep with
  | submit captured => exact ⟨rfl, s.waiting_accept captured⟩
  | enter captured hactive =>
    refine ⟨rfl, s.waiting_accept captured, rfl, fun other hother ↦ hactive ?_⟩
    exact List.mem_map_of_mem (f := Prod.fst) hother
  | refuse _ hhandle hthread =>
    rw [h.thread_of_handle hhandle] at hthread
    cases hthread
  | reenter => exact ⟨rfl, rfl, rfl⟩
  | flush => rfl
  | begin _ hidle hnext => exact ⟨hidle, h.next_eq hidle (waiting_eq_of_next hnext)⟩
  | finish _ hrunning => exact hrunning
  | reply hwaits hfinished =>
    have hticket := List.mem_map_of_mem (f := Prod.fst) hfinished
    exact ⟨hwaits, ⟨_, hfinished, Finish.gives_outcome _⟩, fun _ ↦ h.earlier_finished hticket⟩
  | lose hwaits hthread hlost => exact absurd (h.mem_tickets hthread hwaits) hlost
  | share | hand | drop => exact ⟨rfl, rfl, rfl⟩
  | close =>
    refine ⟨rfl, rfl, ?_⟩
    exact (s.waiting_enqueue .stop).trans (List.append_nil _)
  | stop hthread =>
    exact ⟨h'.tickets_of_stopped rfl, h'.leaving (.inr (h'.ending rfl).1)⟩
  | join _ hclosed hthread =>
    exact ⟨h.tickets_of_stopped hthread, h.leaving (.inr hclosed)⟩

/-! ## What has been told so far -/

/-- What was accepted, what has begun and what has ended, as the events tell it. -/
structure Told (events : List (Event ρ)) (s : Workshop ρ) : Prop where
  accepted : events.filterMap Event.accepted? = List.range s.accepted
  began : events.filterMap Event.began? = s.tickets ++ s.running.toList
  ended : events.filterMap Event.ended? = s.finished

theorem Told.step (htold : Told events s) (hstep : Step s event s') :
    Told (events ++ [event]) s' := by
  obtain ⟨haccepted, hbegan, hended⟩ := htold
  have hall : ∀ {β : Type} (f : Event ρ → Option β), (events ++ [event]).filterMap f =
      events.filterMap f ++ (f event).toList := by
    intro β f
    rw [List.filterMap_append]
    cases hf : f event <;> simp [hf]
  constructor
  all_goals rw [hall]
  · rw [haccepted]
    cases hstep with
    | submit | enter => exact List.range_succ.symm
    | _ => exact List.append_nil _
  · rw [hbegan]
    cases hstep with
    | begin _ hidle _ => simp [hidle, Event.began?, tickets]
    | finish _ hrunning => simp [hrunning, Event.began?, tickets]
    | _ => exact List.append_nil _
  · rw [hended]
    cases hstep with
    | finish => rfl
    | _ => exact List.append_nil _

theorem History.told {label : String} {kind : WorkerKind}
    (h : History (start label kind) events s) : Told events s := by
  induction h with
  | refl => exact ⟨rfl, rfl, rfl⟩
  | next _ hstep ih => exact ih.step hstep

/-! ## Tasks that end in another way -/

/-- The state with one task ended in another way, if it has ended. -/
def alter (ticket : Nat) (finish : Finish ρ) (s : Workshop ρ) : Workshop ρ :=
  { s with finished := s.finished.map fun run ↦ if run.1 = ticket then (ticket, finish) else run }

/-- Events that are the same but for how a task ends. -/
inductive Event.Alike (ticket : Nat) : Event ρ → Event ρ → Prop where
  | same (event : Event ρ) : Alike ticket event event
  | ended (finish finish' : Finish ρ) : Alike ticket (.ended ticket finish) (.ended ticket finish')
  | returned (c : Nat) (outcome outcome' : Except BridgeError ρ) :
    Alike ticket (.returned c ticket outcome) (.returned c ticket outcome')

theorem tickets_alter (ticket : Nat) (finish : Finish ρ) (s : Workshop ρ) :
    (s.alter ticket finish).tickets = s.tickets := by
  rw [tickets, alter, List.map_map]
  refine List.map_congr_left fun run _ ↦ ?_
  by_cases hrun : run.1 = ticket
  · simp [hrun]
  · simp [hrun]

theorem active_alter (ticket : Nat) (finish : Finish ρ) (s : Workshop ρ) (party : Party) :
    (s.alter ticket finish).Active party ↔ s.Active party := by
  cases party <;> rfl

theorem canKeep_alter (ticket : Nat) (finish : Finish ρ) (s : Workshop ρ) (keeper : Keeper) :
    (s.alter ticket finish).CanKeep keeper ↔ s.CanKeep keeper := by
  cases keeper <;> rfl

/-- What has finished otherwise. -/
theorem mem_finished_alter {ticket other : Nat} {finish ended : Finish ρ} (hother : other ≠ ticket)
    (h : (other, ended) ∈ s.finished) : (other, ended) ∈ (s.alter ticket finish).finished :=
  List.mem_map.mpr ⟨_, h, if_neg hother⟩

theorem mem_finished_alter_self {ticket : Nat} {finish ended : Finish ρ}
    (h : (ticket, ended) ∈ s.finished) : (ticket, finish) ∈ (s.alter ticket finish).finished :=
  List.mem_map.mpr ⟨_, h, if_pos rfl⟩

/-- **How a task ends is of no account** for what can happen, but to the one that waits for it. -/
theorem Step.alter (hstep : Step s event s') (ticket : Nat) (finish : Finish ρ) :
    ∃ event', event.Alike ticket event' ∧
      Step (s.alter ticket finish) event' (s'.alter ticket finish) := by
  have hactive := @active_alter ρ ticket finish s
  have hkeep := @canKeep_alter ρ ticket finish s
  cases hstep with
  | submit captured ha hhandle hthread =>
    exact ⟨_, .same _, .submit captured ((hactive _).mpr ha) hhandle hthread⟩
  | enter captured ha hhandle hthread =>
    exact ⟨_, .same _, .enter captured ((hactive _).mpr ha) hhandle hthread⟩
  | refuse ha hhandle hthread =>
    exact ⟨_, .same _, .refuse ((hactive _).mpr ha) hhandle hthread⟩
  | reenter ha hhandle => exact ⟨_, .same _, .reenter ((hactive _).mpr ha) hhandle⟩
  | flush ha hhandle => exact ⟨_, .same _, .flush ((hactive _).mpr ha) hhandle⟩
  | begin hthread hidle hnext => exact ⟨_, .same _, .begin hthread hidle hnext⟩
  | @finish other ended hrunning =>
    by_cases hother : other = ticket
    · subst hother
      have hstep := Step.finish (s := s.alter other finish) finish hrunning
      refine ⟨_, .ended ended finish, ?_⟩
      have hfinished : (s.alter other finish).finished ++ [(other, finish)] =
          (s.finished ++ [(other, ended)]).map fun run ↦
            if run.1 = other then (other, finish) else run := by
        rw [List.map_append, List.map_singleton, if_pos rfl]
        rfl
      rw [hfinished] at hstep
      exact hstep
    · have hstep := Step.finish (s := s.alter ticket finish) ended hrunning
      refine ⟨_, .same _, ?_⟩
      have hfinished : (s.alter ticket finish).finished ++ [(other, ended)] =
          (s.finished ++ [(other, ended)]).map fun run ↦
            if run.1 = ticket then (ticket, finish) else run := by
        rw [List.map_append, List.map_singleton, if_neg hother]
        rfl
      rw [hfinished] at hstep
      exact hstep
  | @reply c other ended hwaits hfinished =>
    by_cases hother : other = ticket
    · subst hother
      exact ⟨_, .returned c _ _, .reply hwaits (mem_finished_alter_self hfinished)⟩
    · exact ⟨_, .same _, .reply hwaits (mem_finished_alter hother hfinished)⟩
  | lose hwaits hthread hlost =>
    refine ⟨_, .same _, .lose hwaits hthread ?_⟩
    rwa [tickets_alter]
  | share ha hhandle hkeeper =>
    exact ⟨_, .same _, .share ((hactive _).mpr ha) hhandle ((hkeep _).mpr hkeeper)⟩
  | hand ha hhandle hkeeper =>
    exact ⟨_, .same _, .hand ((hactive _).mpr ha) hhandle ((hkeep _).mpr hkeeper)⟩
  | drop ha hhandle => exact ⟨_, .same _, .drop ((hactive _).mpr ha) hhandle⟩
  | close hleaver hopen => exact ⟨_, .same _, .close hleaver hopen⟩
  | stop hthread hidle hnext => exact ⟨_, .same _, .stop hthread hidle hnext⟩
  | join hleaver hclosed hthread => exact ⟨_, .same _, .join hleaver hclosed hthread⟩

theorem History.alter {origin : Workshop ρ} (h : History origin events s) (ticket : Nat)
    (finish : Finish ρ) : ∃ events', List.Forall₂ (Event.Alike ticket) events events' ∧
      History (origin.alter ticket finish) events' (s.alter ticket finish) := by
  induction h with
  | refl => exact ⟨[], .nil, .refl _⟩
  | next _ hstep ih =>
    obtain ⟨events', halike, hhistory⟩ := ih
    obtain ⟨event', hevent, hstep'⟩ := hstep.alter ticket finish
    exact ⟨events' ++ [event'], List.rel_append halike (.cons hevent .nil), hhistory.next hstep'⟩

/-! ## Getting on -/

theorem History.trans (h : History s events s') (h' : History s' events' s'') :
    History s (events ++ events') s'' := by
  induction h' with
  | refl =>
    rw [List.append_nil]
    exact h
  | next _ hstep ih =>
    rw [← List.append_assoc]
    exact ih.next hstep

/-- One state is reached from another by the thread alone, which only runs tasks. -/
structure Advances (ends : Nat → Finish ρ) (s s' : Workshop ρ) : Prop where
  own : ∃ events : List (Event ρ), History s events s' ∧ ∀ event ∈ events, event.IsOwn ends
  accepted : s'.accepted = s.accepted
  waits : s'.waits = s.waits
  closed : s'.closed = s.closed
  stopped : s'.stopped = s.stopped

variable {ends : Nat → Finish ρ}

namespace Advances

theorem refl (ends : Nat → Finish ρ) (s : Workshop ρ) : Advances ends s s where
  own := ⟨[], .refl s, List.forall_mem_nil _⟩
  accepted := rfl
  waits := rfl
  closed := rfl
  stopped := rfl

theorem trans (h : Advances ends s s') (h' : Advances ends s' s'') : Advances ends s s'' where
  own := by
    obtain ⟨events, hhistory, hown⟩ := h.own
    obtain ⟨events', hhistory', hown'⟩ := h'.own
    refine ⟨events ++ events', hhistory.trans hhistory', fun event hevent ↦ ?_⟩
    exact (List.mem_append.mp hevent).elim (hown event) (hown' event)
  accepted := h'.accepted.trans h.accepted
  waits := h'.waits.trans h.waits
  closed := h'.closed.trans h.closed
  stopped := h'.stopped.trans h.stopped

theorem orderly (hadvances : Advances ends s s') (h : s.Orderly) : s'.Orderly := by
  obtain ⟨_, hhistory, -⟩ := hadvances.own
  exact h.history hhistory

/-- A task that waits in front can begin. -/
theorem begin (ends : Nat → Finish ρ) (h : s.Orderly) (hthread : s.stopped = false)
    (hidle : s.running = none) {ticket : Nat} {tickets : List Nat}
    (hwaiting : s.waiting = ticket :: tickets) :
    ∃ s', Advances ends s s' ∧ s'.running = some ticket ∧ s'.waiting = tickets := by
  obtain ⟨rest, hnext, hrest⟩ := h.next_job hwaiting
  have hown := (History.refl s).next (.begin hthread hidle hnext)
  exact ⟨_, ⟨⟨_, hown, List.forall_mem_singleton.mpr trivial⟩, rfl, rfl, rfl, rfl⟩, rfl, hrest⟩

/-- A task that is running can end. -/
theorem finish (ends : Nat → Finish ρ) {ticket : Nat} (hrunning : s.running = some ticket) :
    ∃ s', Advances ends s s' ∧ s'.running = none ∧ s'.waiting = s.waiting := by
  have hown := (History.refl s).next (.finish (ends ticket) hrunning)
  exact ⟨_, ⟨⟨_, hown, List.forall_mem_singleton.mpr rfl⟩, rfl, rfl, rfl, rfl⟩, rfl, rfl⟩

/-- Tasks that wait can run, one after the other. -/
theorem waiting (ends : Nat → Finish ρ) (tickets : List Nat) (h : s.Orderly)
    (hthread : s.stopped = false) (hidle : s.running = none) (hwaiting : s.waiting = tickets) :
    ∃ s', Advances ends s s' ∧ s'.running = none ∧ s'.waiting = [] := by
  induction tickets generalizing s with
  | nil => exact ⟨s, .refl ends s, hidle, hwaiting⟩
  | cons ticket tickets ih =>
    obtain ⟨begun, hbegun, hrunning, hbehind⟩ := begin ends h hthread hidle hwaiting
    obtain ⟨ended, hended, hrest, hsame⟩ := finish ends hrunning
    have hboth := hbegun.trans hended
    obtain ⟨s', hadvances, hdone⟩ := ih (hboth.orderly h) (hboth.stopped.trans hthread) hrest
      (hsame.trans hbehind)
    exact ⟨s', hboth.trans hadvances, hdone⟩

end Advances

/-- **All that has been accepted can run**, whatever the clients do. -/
theorem Orderly.drain (h : s.Orderly) (ends : Nat → Finish ρ) :
    ∃ s', Advances ends s s' ∧ s'.tickets = List.range s.accepted := by
  cases hthread : s.stopped with
  | true => exact ⟨s, .refl ends s, h.tickets_of_stopped hthread⟩
  | false =>
    -- the task that is running comes first:
    obtain ⟨mid, hmid, hidle⟩ : ∃ mid, Advances ends s mid ∧ mid.running = none := by
      cases hrunning : s.running with
      | none => exact ⟨s, .refl ends s, hrunning⟩
      | some ticket =>
        obtain ⟨mid, hmid, hidle, -⟩ := Advances.finish ends hrunning
        exact ⟨mid, hmid, hidle⟩
    obtain ⟨s', hdrained, hrest, hnone⟩ := Advances.waiting ends mid.waiting
      (hmid.orderly h) (hmid.stopped.trans hthread) hidle rfl
    have hadvances := hmid.trans hdrained
    have horder := (hadvances.orderly h).order
    rw [hrest, hnone, hadvances.accepted] at horder
    exact ⟨s', hadvances, by simpa using horder⟩

/-- When all that was accepted has run, nothing runs and nothing waits. -/
theorem Orderly.idle_of_tickets (h : s.Orderly) (htickets : s.tickets = List.range s.accepted) :
    s.running = none ∧ s.waiting = [] := by
  have horder := h.order
  rw [htickets, List.append_assoc, List.append_right_eq_self, List.append_eq_nil_iff] at horder
  exact ⟨by simpa using horder.1, horder.2⟩

/-- **Once the last handle is dropped, the thread can come to its end**, and has then run all that
was accepted. -/
theorem Orderly.wind_up (h : s.Orderly) (hleaving : s.leaver.isSome ∨ s.closed = true) :
    ∃ events s', History s events s' ∧ s'.stopped = true ∧ s'.tickets = List.range s.accepted := by
  obtain ⟨events, mid, hmid, hclosed, haccepted⟩ : ∃ events mid, History s events mid ∧
      mid.closed = true ∧ mid.accepted = s.accepted := by
    cases hclosed : s.closed with
    | true => exact ⟨[], s, .refl s, hclosed, rfl⟩
    | false =>
      have hleaver : s.leaver.isSome := hleaving.resolve_right (by simp [hclosed])
      exact ⟨_, _, (History.refl s).next (.close hleaver hclosed), rfl, rfl⟩
  have horderly := h.history hmid
  obtain ⟨done, hdone, htickets⟩ := horderly.drain fun _ ↦ .panicked none
  obtain ⟨own, hown, -⟩ := hdone.own
  rw [haccepted] at htickets
  have hrun : History s (events ++ own) done := hmid.trans hown
  cases hthread : done.stopped with
  | true => exact ⟨_, done, hrun, hthread, htickets⟩
  | false =>
    -- the sign to stop is all that is left:
    have hsign := hdone.orderly horderly
    obtain ⟨hidle, hwaiting⟩ := hsign.idle_of_tickets (by rw [htickets, hdone.accepted, haccepted])
    have hqueue := hsign.queue
    rw [hwaiting, hdone.closed, hclosed, hthread] at hqueue
    exact ⟨_, _, hrun.next (.stop hthread hidle hqueue), rfl, htickets⟩

/-! ## All together -/

/-- **How a worker serves those who use it**, given what has happened since it was started. -/
structure Served (label : String) (kind : WorkerKind) (events : List (Event ρ)) (s : Workshop ρ) :
    Prop where
  /-- Each task that is accepted begins and ends once, in the order in which it was accepted; the
  events tell so, and the ones that have not begun still wait. -/
  told : Told events s
  order : s.tickets ++ s.running.toList ++ s.waiting = List.range s.accepted
  /-- Whatever happens next is as it should be. -/
  next : ∀ event s', Step s event s' → event.Sound s s'
  /-- Had a task ended otherwise, by panicking for example, all else could have been the same. -/
  otherwise : ∀ ticket finish, ∃ events', List.Forall₂ (Event.Alike ticket) events events' ∧
    History (start label kind) events' (s.alter ticket finish)
  /-- The thread can run all that has been accepted, and needs nobody for it. -/
  drain : ∀ ends : Nat → Finish ρ, ∃ s', Advances ends s s' ∧ s'.tickets = List.range s.accepted
  /-- A client whose task has run can go on. -/
  answered : ∀ c ticket, (c, ticket) ∈ s.waits → ticket ∈ s.tickets →
    ∃ finish outcome s', (ticket, finish) ∈ s.finished ∧ finish.Gives outcome ∧
      Step s (.returned c ticket outcome) s'
  /-- When the last handle has been dropped the thread can run to its end. -/
  winds_up : s.leaver.isSome ∨ s.closed = true →
    ∃ events' s', History s events' s' ∧ s'.stopped = true ∧ s'.tickets = List.range s.accepted
  /-- When it has ended, nothing is left, and no client waits in vain. -/
  stopped : s.stopped = true → s.tickets = List.range s.accepted ∧
    ∀ wait ∈ s.waits, wait.2 ∈ s.tickets

/-- **A worker serves those who use it.** -/
theorem History.served {label : String} {kind : WorkerKind}
    (h : History (start label kind) events s) : Served label kind events s := by
  have horderly := (orderly_start label kind).history h
  exact {
    told := h.told
    order := horderly.order
    next := fun _ _ hstep ↦ hstep.sound horderly
    otherwise := fun ticket finish ↦ h.alter ticket finish
    drain := fun ends ↦ horderly.drain ends
    answered := fun c ticket hwaits hticket ↦ by
      obtain ⟨⟨_, finish⟩, hfinished, rfl⟩ := List.mem_map.mp hticket
      exact ⟨finish, _, _, hfinished, finish.gives_outcome, .reply hwaits hfinished⟩
    winds_up := fun hleaving ↦ horderly.wind_up hleaving
    stopped := fun hthread ↦
      ⟨horderly.tickets_of_stopped hthread, fun _ hwait ↦ horderly.mem_tickets hthread hwait⟩ }

/-- What happens when one client leaves its handle to a task, and another one waits. The task leaves
a handle to a task that it hands in, tries to wait for its own worker, and panics; the task of the
client that waits panics too, and the client is told so in the words of its own task and drops its
handle; so the last one goes with the task that was handed in, and the thread gives itself the sign
to stop. -/
def partingEvents : List (Event Nat) :=
  [.shared (.client 0), .submitted (.client 0) 0, .dropped (.client 0), .entered 1 1, .began 0,
    .submitted .worker 2, .refused .worker (Worker.reentered "queue"),
    .ended 0 (.panicked (some "boom")), .began 1, .ended 1 (.panicked (some "no luck")),
    .returned 1 1 (.error (.nativeFailure "no luck")), .dropped (.client 1), .began 2,
    .ended 2 (.returned 0), .closed, .stopped]

theorem history_partingEvents : ∃ s : Workshop Nat,
    History (start "queue" .queue) partingEvents s ∧ s.stopped = true := by
  have h₁ := (History.refl (start "queue" .queue : Workshop Nat)).next
    (@Step.share _ _ (.client 0) .outside (by decide) (by decide) trivial)
  have h₂ := h₁.next (@Step.submit _ _ (.client 0) 1 (by decide) (by decide) rfl)
  have h₃ := h₂.next (@Step.drop _ _ (.client 0) .outside (by decide) (by decide))
  have h₄ := h₃.next (@Step.enter _ _ 1 0 (by decide) (by decide) rfl)
  have h₅ := h₄.next (.begin rfl rfl rfl)
  have h₆ := h₅.next (@Step.submit _ _ .worker 1 (by decide) (by decide) rfl)
  have h₇ := h₆.next (.reenter (by decide) (by decide))
  have h₈ := h₇.next (.finish (.panicked (some "boom")) rfl)
  have h₉ := h₈.next (.begin rfl rfl rfl)
  have h₁₀ := h₉.next (.finish (.panicked (some "no luck")) rfl)
  have h₁₁ := h₁₀.next (@Step.reply _ _ 1 1 (.panicked (some "no luck")) List.mem_cons_self
    (List.mem_cons_of_mem _ List.mem_cons_self))
  have h₁₂ := h₁₁.next (@Step.drop _ _ (.client 1) .outside (by decide) (by decide))
  have h₁₃ := h₁₂.next (.begin rfl rfl rfl)
  have h₁₄ := h₁₃.next (.finish (.returned 0) rfl)
  have h₁₅ := h₁₄.next (.close (by decide) rfl)
  exact ⟨_, h₁₅.next (.stop rfl rfl rfl), rfl⟩

/-- What has happened then is as it should be. -/
theorem parting_served :
    ∃ s : Workshop Nat, History (start "queue" .queue) partingEvents s ∧ s.stopped = true ∧
      Served "queue" .queue partingEvents s := by
  obtain ⟨s, hhistory, hstopped⟩ := history_partingEvents
  exact ⟨s, hhistory, hstopped, hhistory.served⟩

end Workshop

end ScriptBridge
