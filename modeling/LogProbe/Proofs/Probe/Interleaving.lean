/-
**Probes that take turns.** Several probes run at once against one service. A schedule says whose
turn it is: to log a line, or to send a request and take in what comes back. If the service keeps a
part of its state for each key and each probe asks about a key of its own, then no probe can tell
that it is not alone.

* `Probe.OnlyAsks` — all that a probe may ever ask for is allowed; kept by sequencing.
* `Service.IsLocal` — a request about a key has to do with the part of that key only.
* `Client`, `Client.turn` — a probe under way, and one turn of it.
* `Client.iterate_turn_start` — enough turns are the course of the probe.
* `Crowd.course` — what becomes of several clients on a schedule.
* `Crowd.clients_course` — each of them is where it would be after as many turns alone.
-/

import LogProbe.Proofs.Probe.Course
import Mathlib.Logic.Function.Iterate

namespace LogProbe

variable {ι κ π σ α β : Type}

/-! ### What a probe may ask for -/

namespace Probe

/-- Whatever comes back, a probe asks for nothing but what is allowed. -/
def OnlyAsks (allowed : Http.Request → Prop) : Probe α → Prop
  | done _ | failed _ | panicked _ => True
  | logged _ rest => rest.OnlyAsks allowed
  | sent request rest => allowed request ∧ ∀ delivery, (rest delivery).OnlyAsks allowed

namespace OnlyAsks

variable {allowed : Http.Request → Prop} {probe : Probe α}

theorem bind (first : probe.OnlyAsks allowed) {next : α → Probe β}
    (after : ∀ value, (next value).OnlyAsks allowed) : (probe.bind next).OnlyAsks allowed := by
  induction probe with
  | done value => exact after value
  | failed | panicked => trivial
  | logged line rest ih => exact ih first
  | sent request rest ih => exact ⟨first.1, fun delivery => ih delivery (first.2 delivery)⟩

/-- **What a sequence asks for** is asked for by its parts. -/
theorem seq (first : probe.OnlyAsks allowed) {next : α → Probe β}
    (after : ∀ value, (next value).OnlyAsks allowed) : (probe >>= next).OnlyAsks allowed :=
  first.bind after

theorem ending (asks : probe.OnlyAsks allowed) : probe.ending.OnlyAsks allowed := by
  induction probe with
  | done | failed | panicked => trivial
  | logged line rest ih => exact ih asks
  | sent request rest ih => exact ⟨asks.1, fun delivery => ih delivery (asks.2 delivery)⟩

theorem attempt (asks : probe.OnlyAsks allowed) : probe.attempt.OnlyAsks allowed := by
  induction probe with
  | done | failed | panicked => trivial
  | logged line rest ih => exact ih asks
  | sent request rest ih => exact ⟨asks.1, fun delivery => ih delivery (asks.2 delivery)⟩

theorem demand (result : Except Http.StatusMismatch Http.Response) :
    (Probe.demand result).OnlyAsks allowed := by
  cases result <;> trivial

/-- Nothing else is asked for in a course. -/
theorem exchanges (asks : probe.OnlyAsks allowed) (service : Service σ) (state : σ) :
    ∀ exchange ∈ (probe.run service state).exchanges, allowed exchange.1 := by
  induction probe generalizing state with
  | done | failed | panicked => exact List.forall_mem_nil _
  | logged line rest ih => exact ih asks state
  | sent request rest ih =>
    exact List.forall_mem_cons.mpr ⟨asks.1, ih _ (asks.2 _) _⟩

end OnlyAsks

end Probe

/-! ### Services with parts -/

/-- **A service that keeps a part of its state for each key.** What it answers to a request about a
key, and what becomes of the part of that key, depend on the request and on that part alone. The
parts of all other keys stay as they are. -/
structure Service.IsLocal (service : Service σ) (about : Http.Request → Option κ)
    (part : σ → κ → π) : Prop where
  answer {request key} (asked : about request = some key) {state other}
    (same : part state key = part other key) : (service state request).1 = (service other request).1
  effect {request key} (asked : about request = some key) {state other}
    (same : part state key = part other key) :
    part (service state request).2 key = part (service other request).2 key
  frame {request key} (asked : about request = some key) {elsewhere} (different : elsewhere ≠ key)
    (state : σ) : part (service state request).2 elsewhere = part state elsewhere

/-! ### Clients -/

/-- A probe under way: what is left of it, and the exchanges and the log so far. -/
structure Client (α : Type) where
  rest : Probe α
  exchanges : List Exchange
  log : List LogLine

namespace Client

/-- A probe that has not begun. -/
def start (probe : Probe α) : Client α := ⟨probe, [], []⟩

/-- A client whose probe has come to the end of a course. -/
def finished (run : Run σ α) : Client α := ⟨.ofEnding run.ending, run.exchanges, run.log⟩

/-- One turn of a client: it logs a line, or sends a request and takes in what comes back. A client
at its end stays as it is. -/
def turn (service : Service σ) : Client α × σ → Client α × σ
  | (⟨.logged line next, exchanges, log⟩, state) => (⟨next, exchanges, log ++ [line]⟩, state)
  | (⟨.sent request next, exchanges, log⟩, state) =>
    let (delivery, state) := service state request
    (⟨next delivery, exchanges ++ [(request, delivery)], log⟩, state)
  | ended => ended

/-- How many turns a course takes. -/
def turnsOf (run : Run σ α) : ℕ := run.exchanges.length + run.log.length

variable (service : Service σ)

theorem turn_ofEnding (ending : Ending α) (exchanges : List Exchange) (log : List LogLine)
    (state : σ) :
    turn service (⟨.ofEnding ending, exchanges, log⟩, state) =
      (⟨.ofEnding ending, exchanges, log⟩, state) := by
  cases ending <;> rfl

/-- A client at its end stays there. -/
theorem iterate_turn_ofEnding (ending : Ending α) (exchanges : List Exchange)
    (log : List LogLine) (state : σ) (count : ℕ) :
    (turn service)^[count] (⟨.ofEnding ending, exchanges, log⟩, state) =
      (⟨.ofEnding ending, exchanges, log⟩, state) :=
  Function.iterate_fixed (turn_ofEnding service ending exchanges log state) count

/-- Turns as many as the course of what is left takes bring a client to the end of that course. -/
theorem iterate_turn_turnsOf (rest : Probe α) (exchanges : List Exchange) (log : List LogLine)
    (state : σ) :
    (turn service)^[turnsOf (rest.run service state)] (⟨rest, exchanges, log⟩, state) =
      (⟨.ofEnding (rest.run service state).ending, exchanges ++ (rest.run service state).exchanges,
          log ++ (rest.run service state).log⟩,
        (rest.run service state).state) := by
  induction rest generalizing exchanges log state with
  | done | failed | panicked => simp [turnsOf, Probe.run, Probe.ofEnding]
  | logged line next ih =>
    have count : turnsOf ((Probe.logged line next).run service state) =
        turnsOf (next.run service state) + 1 := rfl
    rw [count, Function.iterate_succ_apply, turn, ih]
    simp only [Probe.run, List.append_assoc, List.singleton_append]
  | sent request next ih =>
    have count : turnsOf ((Probe.sent request next).run service state) =
        turnsOf ((next (service state request).1).run service (service state request).2) + 1 :=
      Nat.add_right_comm _ 1 _
    rw [count, Function.iterate_succ_apply, turn, ih]
    simp only [Probe.run, List.append_assoc, List.singleton_append]

variable (probe : Probe α) (state : σ)

/-- **Enough turns are the course of the probe.** -/
theorem iterate_turn_start {count : ℕ} (enough : turnsOf (probe.run service state) ≤ count) :
    (turn service)^[count] (start probe, state) =
      (finished (probe.run service state), (probe.run service state).state) := by
  obtain ⟨more, rfl⟩ := Nat.exists_eq_add_of_le' enough
  rw [Function.iterate_add_apply, start, iterate_turn_turnsOf, iterate_turn_ofEnding]
  rfl

/-- A turn adds to the exchanges and to the log. -/
theorem prefix_turn (pair : Client α × σ) :
    pair.1.exchanges <+: (turn service pair).1.exchanges ∧
      pair.1.log <+: (turn service pair).1.log := by
  obtain ⟨⟨rest, exchanges, log⟩, state⟩ := pair
  cases rest with
  | done | failed | panicked => exact ⟨List.prefix_rfl, List.prefix_rfl⟩
  | logged line next => exact ⟨List.prefix_rfl, List.prefix_append _ _⟩
  | sent request next => exact ⟨List.prefix_append _ _, List.prefix_rfl⟩

theorem prefix_iterate_turn (pair : Client α × σ) (count : ℕ) :
    pair.1.exchanges <+: ((turn service)^[count] pair).1.exchanges ∧
      pair.1.log <+: ((turn service)^[count] pair).1.log := by
  induction count with
  | zero => exact ⟨List.prefix_rfl, List.prefix_rfl⟩
  | succ count ih =>
    rw [Function.iterate_succ_apply']
    have grown := prefix_turn service ((turn service)^[count] pair)
    exact ⟨ih.1.trans grown.1, ih.2.trans grown.2⟩

/-- **After any number of turns** a client has come some way along the course of its probe. -/
theorem prefix_course (count : ℕ) :
    ((turn service)^[count] (start probe, state)).1.exchanges <+:
        (probe.run service state).exchanges ∧
      ((turn service)^[count] (start probe, state)).1.log <+: (probe.run service state).log := by
  have grown := prefix_iterate_turn service ((turn service)^[count] (start probe, state))
    (turnsOf (probe.run service state))
  rw [← Function.iterate_add_apply,
    iterate_turn_start service probe state (Nat.le_add_right _ count)] at grown
  exact grown

/-- **A client that has ended** has come to the end of the course of its probe. -/
theorem eq_finished_of_ofEnding {count : ℕ} {ending : Ending α}
    (ended : ((turn service)^[count] (start probe, state)).1.rest = .ofEnding ending) :
    ((turn service)^[count] (start probe, state)).1 = finished (probe.run service state) := by
  have later := iterate_turn_start service probe state
    (Nat.le_add_right (turnsOf (probe.run service state)) count)
  rw [Function.iterate_add_apply] at later
  rcases reached : (turn service)^[count] (start probe, state) with ⟨⟨rest, exchanges, log⟩, last⟩
  rw [reached] at ended later
  have left : rest = .ofEnding ending := ended
  rw [left, iterate_turn_ofEnding] at later
  rw [left]
  exact (Prod.mk.inj later).1

variable {service} {about : Http.Request → Option κ} {part : σ → κ → π} {key : κ}
  {client : Client α}

/-! ### Turns and parts -/

/-- **A turn depends on the part of the own key only**, and leaves what is left asking about it. -/
theorem turn_congr (apart : service.IsLocal about part)
    (asks : client.rest.OnlyAsks (about · = some key)) {first second : σ}
    (same : part first key = part second key) :
    (turn service (client, first)).1 = (turn service (client, second)).1 ∧
      part (turn service (client, first)).2 key = part (turn service (client, second)).2 key ∧
      (turn service (client, first)).1.rest.OnlyAsks (about · = some key) := by
  obtain ⟨rest, exchanges, log⟩ := client
  cases rest with
  | done | failed | panicked => exact ⟨rfl, same, trivial⟩
  | logged line next => exact ⟨rfl, same, asks⟩
  | sent request next =>
    have answer := apart.answer asks.1 same
    refine ⟨?_, apart.effect asks.1 same, asks.2 _⟩
    simp only [turn, answer]

/-- A turn leaves the parts of other keys as they are. -/
theorem part_turn_of_ne (apart : service.IsLocal about part)
    (asks : client.rest.OnlyAsks (about · = some key)) {elsewhere : κ}
    (different : elsewhere ≠ key) (state : σ) :
    part (turn service (client, state)).2 elsewhere = part state elsewhere := by
  obtain ⟨rest, exchanges, log⟩ := client
  cases rest with
  | done | failed | panicked => rfl
  | logged line next => rfl
  | sent request next => exact apart.frame asks.1 different state

end Client

/-! ### Crowds -/

/-- Several clients, and the state of the service that they share. -/
structure Crowd (ι σ α : Type) where
  clients : ι → Client α
  state : σ

namespace Crowd

variable [DecidableEq ι] (service : Service σ)

/-- The turn of one of the clients. -/
def turn (crowd : Crowd ι σ α) (index : ι) : Crowd ι σ α :=
  let moved := Client.turn service (crowd.clients index, crowd.state)
  ⟨Function.update crowd.clients index moved.1, moved.2⟩

/-- What becomes of clients whose turns come in a given order. -/
def course (schedule : List ι) (crowd : Crowd ι σ α) : Crowd ι σ α :=
  schedule.foldl (turn service) crowd

variable {service} {about : Http.Request → Option κ} {part : σ → κ → π} {keys : ι → κ}
  {crowd : Crowd ι σ α}

/-- A turn leaves every client asking about its own key. -/
theorem onlyAsks_turn (apart : service.IsLocal about part)
    (asks : ∀ index, (crowd.clients index).rest.OnlyAsks (about · = some (keys index)))
    (moving index : ι) :
    ((crowd.turn service moving).clients index).rest.OnlyAsks (about · = some (keys index)) := by
  by_cases own : index = moving
  · subst own
    show (Function.update crowd.clients index _ index).rest.OnlyAsks _
    rw [Function.update_self]
    exact (Client.turn_congr apart (asks index) rfl).2.2
  · show (Function.update crowd.clients moving _ index).rest.OnlyAsks _
    rw [Function.update_of_ne own]
    exact asks index

/-- **No client can tell that it is not alone.** If each client asks about a key of its own, then
after any schedule each of them is where it would be after as many turns without the others. -/
theorem clients_course (apart : service.IsLocal about part) (distinct : Function.Injective keys)
    (asks : ∀ index, (crowd.clients index).rest.OnlyAsks (about · = some (keys index)))
    (schedule : List ι) (index : ι) {lone : σ}
    (same : part crowd.state (keys index) = part lone (keys index)) :
    (crowd.course service schedule).clients index =
      ((Client.turn service)^[schedule.count index] (crowd.clients index, lone)).1 := by
  induction schedule generalizing crowd lone with
  | nil => rfl
  | cons moving schedule ih =>
    have later := onlyAsks_turn apart asks moving
    show ((crowd.turn service moving).course service schedule).clients index = _
    by_cases own : moving = index
    · -- Its own turn is the same alone, for the part of its key is the same there.
      subst own
      obtain ⟨moved, kept, -⟩ := Client.turn_congr apart (asks moving) same
      have next : (crowd.turn service moving).clients moving =
          (Client.turn service (crowd.clients moving, lone)).1 :=
        (Function.update_self ..).trans moved
      rw [List.count_cons_self, Function.iterate_succ_apply, ih later kept, next]
    · -- The turn of another one does not touch that part.
      have different : keys index ≠ keys moving := fun equal => own (distinct equal).symm
      have untouched := Client.part_turn_of_ne apart (asks moving) different crowd.state
      have stays : (crowd.turn service moving).clients index = crowd.clients index :=
        Function.update_of_ne (Ne.symm own) ..
      rw [List.count_cons_of_ne own, ih later (untouched.trans same), stays]

end Crowd

end LogProbe
