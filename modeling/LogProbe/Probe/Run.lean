/-
**Runs of probes.** A service answers requests and keeps a state; a run of a probe against it has a
definite course.

* `Service` — what comes back for a request in a state, and the state after it.
* `Probe.run` — the course of a probe: its ending, the requests with what came back for each of
  them and the log lines, both in their order, and the state of the service afterwards.
* `Probe.run_bind`, `Probe.run_ending`, `Probe.run_attempt` — the course of a probe that goes on
  after another one.
* `Script.service` — a service that hands out prepared deliveries and keeps what it received.
* `Service.unreachable` — a service that no request reaches.
-/

import LogProbe.Probe.Basic

namespace LogProbe

/-- What comes back for a request in a state, and the state after it. -/
abbrev Service (σ : Type) := σ → Http.Request → Delivery × σ

/-- A request and what came back for it. -/
abbrev Exchange := Http.Request × Delivery

/-- The course of a probe. -/
structure Run (σ α : Type) where
  ending : Ending α
  exchanges : List Exchange
  log : List LogLine
  state : σ

/-- The requests of a course. -/
def Run.requests {σ α : Type} (run : Run σ α) : List Http.Request := run.exchanges.map Prod.fst

/-- The course of a probe against a service that starts in a given state. -/
def Probe.run {σ α : Type} (service : Service σ) : Probe α → σ → Run σ α
  | done value, state => ⟨.value value, [], [], state⟩
  | failed failure, state => ⟨.failed failure, [], [], state⟩
  | panicked text, state => ⟨.panicked text, [], [], state⟩
  | logged line next, state =>
    let run := next.run service state
    { run with log := line :: run.log }
  | sent request next, state =>
    let (delivery, state) := service state request
    let run := (next delivery).run service state
    { run with exchanges := (request, delivery) :: run.exchanges }

/-- The course of a probe after that of another one, whose requests and log lines come first. -/
def Run.after {σ α β : Type} (first : Run σ α) (second : Run σ β) : Run σ β :=
  { second with exchanges := first.exchanges ++ second.exchanges, log := first.log ++ second.log }

/-- The course of one probe after another: the second one starts where the first one ended with a
value, and not at all where it ended otherwise. -/
def Run.andThen {σ α β : Type} (first : Run σ α) (next : α → σ → Run σ β) : Run σ β :=
  match first.ending with
  | .value value => first.after (next value first.state)
  | .failed failure => ⟨.failed failure, first.exchanges, first.log, first.state⟩
  | .panicked text => ⟨.panicked text, first.exchanges, first.log, first.state⟩

namespace Probe

variable {σ α β : Type} (service : Service σ)

theorem run_bind (probe : Probe α) (next : α → Probe β) (state : σ) :
    (probe.bind next).run service state =
      (probe.run service state).andThen fun value state => (next value).run service state := by
  induction probe generalizing state with
  | done | failed | panicked => rfl
  | logged line rest ih =>
    simp only [bind, run, ih, Run.andThen]
    split <;> rfl
  | sent request rest ih =>
    simp only [bind, run, ih, Run.andThen]
    split <;> rfl

/-- Nothing but the ending of a probe is told apart by going on however it ends. -/
theorem run_ending (probe : Probe α) (state : σ) :
    probe.ending.run service state =
      { probe.run service state with ending := .value (probe.run service state).ending } := by
  induction probe generalizing state with
  | done | failed | panicked => rfl
  | logged line rest ih => simp only [ending, run, ih]
  | sent request rest ih => simp only [ending, run, ih]

/-- What a probe that goes on after a failure makes of an ending. -/
def attempted : Ending α → Ending (Except Failure α)
  | .value value => .value (.ok value)
  | .failed failure => .value (.error failure)
  | .panicked text => .panicked text

theorem run_attempt (probe : Probe α) (state : σ) :
    probe.attempt.run service state =
      { probe.run service state with ending := attempted (probe.run service state).ending } := by
  induction probe generalizing state with
  | done | failed | panicked => rfl
  | logged line rest ih => simp only [attempt, run, ih]
  | sent request rest ih => simp only [attempt, run, ih]

end Probe

/-- The deliveries that are left, and the requests that were received. -/
structure Script where
  deliveries : List Delivery
  received : List Http.Request

/-- The service that hands out deliveries in their order, and nothing when there are none left. -/
def Script.service : Service Script := fun script request =>
  match script.deliveries with
  | [] => (.dropped [], ⟨[], script.received ++ [request]⟩)
  | delivery :: rest => (delivery, ⟨rest, script.received ++ [request]⟩)

/-- A service that no request reaches. -/
def Service.unreachable {σ : Type} : Service σ := fun state _ => (.dropped [], state)

end LogProbe
