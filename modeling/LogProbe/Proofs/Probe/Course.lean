/-
**Courses of small probes.** The course of a composed probe is put together from those of its
parts, by `Probe.run_bind`, `Probe.run_ending` and `Probe.run_attempt`. Here are the smallest parts.

* `Ending.bind`, `Ending.map` — what goes on with the value of an ending.
* `Probe.run_log`, `Probe.run_demand` — a line of the log, and a check of a response.
* `Run.andThen_value` — a course that ends with a value is followed by another one.
* `Service.Answers`, `Probe.answers_run` — what comes back in a course is what the service answers,
  request by request.
-/

import LogProbe.Probe.Run

namespace LogProbe

variable {σ α β : Type}

namespace Ending

/-- What the value of an ending selects; a failure or a panic stays. -/
def bind : Ending α → (α → Ending β) → Ending β
  | .value outcome, next => next outcome
  | .failed failure, _ => .failed failure
  | .panicked text, _ => .panicked text

/-- An ending with another value. -/
def map (f : α → β) (ending : Ending α) : Ending β := ending.bind fun outcome => .value (f outcome)

end Ending

/-! ### Sequences of courses -/

@[simp] theorem Run.andThen_value (value : α) (exchanges : List Exchange) (log : List LogLine)
    (state : σ) (next : α → σ → Run σ β) :
    Run.andThen ⟨.value value, exchanges, log, state⟩ next =
      { next value state with
        exchanges := exchanges ++ (next value state).exchanges
        log := log ++ (next value state).log } := rfl

@[simp] theorem Run.andThen_failed (failure : Failure) (exchanges : List Exchange)
    (log : List LogLine) (state : σ) (next : α → σ → Run σ β) :
    Run.andThen ⟨.failed failure, exchanges, log, state⟩ next =
      ⟨.failed failure, exchanges, log, state⟩ := rfl

@[simp] theorem Run.andThen_panicked (text : String) (exchanges : List Exchange)
    (log : List LogLine) (state : σ) (next : α → σ → Run σ β) :
    Run.andThen ⟨.panicked text, exchanges, log, state⟩ next =
      ⟨.panicked text, exchanges, log, state⟩ := rfl

/-! ### What a service answers -/

/-- The deliveries of exchanges are what a service answers to their requests, one after the other,
on its way from one state to another. -/
def Service.Answers (service : Service σ) : σ → List Exchange → σ → Prop
  | state, [], final => state = final
  | state, exchange :: rest, final =>
    (service state exchange.1).1 = exchange.2 ∧
      Service.Answers service (service state exchange.1).2 rest final

/-- **Nothing comes back in a course but what the service answers**, in the order of the
requests. -/
theorem Probe.answers_run (service : Service σ) (probe : Probe α) (state : σ) :
    Service.Answers service state (probe.run service state).exchanges
      (probe.run service state).state := by
  induction probe generalizing state with
  | done | failed | panicked => rfl
  | logged line rest ih => exact ih state
  | sent request rest ih => exact ⟨rfl, ih _ _⟩

/-! ### Checks of a response -/

/-- A response with status 200 passes the check for it. -/
theorem expectOk_ok (method : Http.Method) (url : Url) (body : Bytes) :
    Http.Response.expectOk ⟨method, url, .ok, body⟩ = .ok ⟨method, url, .ok, body⟩ := by
  unfold Http.Response.expectOk Http.Response.expectStatus
  exact if_pos rfl

/-- A response with any other status does not. -/
theorem expectOk_of_ne {method : Http.Method} {url : Url} {status : Http.Status} {body : Bytes}
    (other : status ≠ .ok) :
    Http.Response.expectOk ⟨method, url, status, body⟩ =
      .error (Http.Response.mismatch ⟨method, url, status, body⟩ (.status .ok)) := by
  unfold Http.Response.expectOk Http.Response.expectStatus
  exact if_neg other

namespace Probe

variable (service : Service σ) (state : σ)

/-! ### The smallest probes -/

@[simp] theorem run_pure (value : α) :
    (pure value : Probe α).run service state = ⟨.value value, [], [], state⟩ := rfl

@[simp] theorem run_failed (failure : Failure) :
    (failed failure : Probe α).run service state = ⟨.failed failure, [], [], state⟩ := rfl

@[simp] theorem run_panicked (text : String) :
    (panicked text : Probe α).run service state = ⟨.panicked text, [], [], state⟩ := rfl

@[simp] theorem run_log (level : LogLevel) (text : String) :
    (log level text).run service state = ⟨.value (), [], [⟨level, text⟩], state⟩ := rfl

/-- The course of a sequence in the notation of monads. -/
@[simp] theorem run_seq (probe : Probe α) (next : α → Probe β) :
    (probe >>= next).run service state =
      (probe.run service state).andThen fun value state => (next value).run service state :=
  run_bind service probe next state

/-- How a check of a response ends. -/
def demanded : Except Http.StatusMismatch Http.Response → Ending Http.Response
  | .ok response => .value response
  | .error mismatch => .failed (.mismatch mismatch)

/-- A check of a response neither asks nor logs anything. -/
@[simp] theorem run_demand (result : Except Http.StatusMismatch Http.Response) :
    (demand result).run service state = ⟨demanded result, [], [], state⟩ := by
  cases result <;> rfl

end Probe

end LogProbe
