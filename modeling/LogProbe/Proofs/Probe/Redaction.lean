/-
**Probes with their sign-ins blacked out.** Nothing that a probe does after a request depends on the
authorization that went with it, unless the service looks at it. So two probes that are the same
once their authorization values are blacked out have the same course against a service that does
not look at them.

* `Http.Request.redacted`, `Probe.redacted` — a request, and a probe, with the authorization values
  blacked out.
* `Probe.redacted_seq_congr` and the other lemmas of its kind — what is blacked out part by part.
* `Probe.run_redacted` — the course of a probe that is blacked out.
* `Probe.run_script_of_redacted_eq` — a script tells no two probes apart that differ in their
  authorization values only.
-/

import LogProbe.Proofs.Probe.Course

namespace LogProbe

/-- A request with its authorization values blacked out. How many there are is still seen. -/
def Http.Request.redacted (request : Http.Request) : Http.Request :=
  { request with authorization := request.authorization.map fun _ => "" }

/-- An exchange with the authorization values of its request blacked out. -/
def Exchange.redacted (exchange : Exchange) : Exchange := (exchange.1.redacted, exchange.2)

/-- A script whose received requests are blacked out. -/
def Script.redacted (script : Script) : Script :=
  { script with received := script.received.map Http.Request.redacted }

/-- A script hands out its deliveries whatever the requests are. -/
theorem Script.service_redacted (script : Script) (request : Http.Request) :
    Script.service script.redacted request.redacted =
      ((Script.service script request).1, (Script.service script request).2.redacted) := by
  unfold Script.service Script.redacted
  cases script.deliveries with
  | nil => simp only [List.map_append, List.map_cons, List.map_nil]
  | cons delivery rest => simp only [List.map_append, List.map_cons, List.map_nil]

namespace Probe

variable {σ τ α β : Type}

/-- A probe with the authorization values of its requests blacked out. -/
def redacted : Probe α → Probe α
  | done value => done value
  | failed failure => failed failure
  | panicked text => panicked text
  | logged line rest => logged line rest.redacted
  | sent request rest => sent request.redacted fun delivery => (rest delivery).redacted

/-! ### Parts of a probe -/

theorem redacted_bind (probe : Probe α) (next : α → Probe β) :
    (probe.bind next).redacted = probe.redacted.bind fun value => (next value).redacted := by
  induction probe with
  | done | failed | panicked => rfl
  | logged line rest ih => exact congrArg (logged line) ih
  | sent request rest ih => exact congrArg (sent request.redacted) (funext ih)

theorem redacted_ending (probe : Probe α) : probe.ending.redacted = probe.redacted.ending := by
  induction probe with
  | done | failed | panicked => rfl
  | logged line rest ih => exact congrArg (logged line) ih
  | sent request rest ih => exact congrArg (sent request.redacted) (funext ih)

theorem redacted_attempt (probe : Probe α) : probe.attempt.redacted = probe.redacted.attempt := by
  induction probe with
  | done | failed | panicked => rfl
  | logged line rest ih => exact congrArg (logged line) ih
  | sent request rest ih => exact congrArg (sent request.redacted) (funext ih)

variable {first second : Probe α}

/-- **Probes that differ in authorization values only stay so** when the same is said of what
follows them. -/
theorem redacted_seq_congr (same : first.redacted = second.redacted) {next other : α → Probe β}
    (after : ∀ value, (next value).redacted = (other value).redacted) :
    (first >>= next).redacted = (second >>= other).redacted := by
  show (first.bind next).redacted = (second.bind other).redacted
  rw [redacted_bind, redacted_bind, same, funext after]

theorem redacted_ending_congr (same : first.redacted = second.redacted) :
    first.ending.redacted = second.ending.redacted := by
  rw [redacted_ending, redacted_ending, same]

theorem redacted_attempt_congr (same : first.redacted = second.redacted) :
    first.attempt.redacted = second.attempt.redacted := by
  rw [redacted_attempt, redacted_attempt, same]

/-! ### Courses -/

/-- **The course of a probe that is blacked out** is that of the probe itself, blacked out, if the
service does not look at authorizations: through `view` of its states, it answers and does the same
when they are blacked out. -/
theorem run_redacted {service : Service σ} {blind : Service τ} {view : σ → τ}
    (ignores : ∀ state request, blind (view state) request.redacted =
      ((service state request).1, view (service state request).2))
    (probe : Probe α) (state : σ) :
    probe.redacted.run blind (view state) =
      { ending := (probe.run service state).ending
        exchanges := (probe.run service state).exchanges.map Exchange.redacted
        log := (probe.run service state).log
        state := view (probe.run service state).state } := by
  induction probe generalizing state with
  | done | failed | panicked => rfl
  | logged line rest ih => simp only [redacted, run, ih]
  | sent request rest ih => simp only [redacted, run, ignores, ih, List.map_cons, Exchange.redacted]

/-- **A script tells no two probes apart that differ in their authorization values only**: they end
alike, log the same lines, leave the same deliveries over, and their exchanges differ in
authorization values only. -/
theorem run_script_of_redacted_eq (same : first.redacted = second.redacted) (script : Script) :
    (first.run Script.service script).ending = (second.run Script.service script).ending ∧
      (first.run Script.service script).log = (second.run Script.service script).log ∧
      (first.run Script.service script).state.deliveries =
        (second.run Script.service script).state.deliveries ∧
      (first.run Script.service script).exchanges.map Exchange.redacted =
        (second.run Script.service script).exchanges.map Exchange.redacted := by
  have course := run_redacted Script.service_redacted first script
  rw [same, run_redacted Script.service_redacted second script] at course
  obtain ⟨ending, exchanges, log, state⟩ := Run.mk.inj course
  exact ⟨ending.symm, log.symm, (Script.mk.inj state).1.symm, exchanges.symm⟩

end Probe

end LogProbe
