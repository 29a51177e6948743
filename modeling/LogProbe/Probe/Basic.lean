/-
**Probes.** A probe sends requests one after the other, logs what it does, and ends with a value,
with a failure or with a panic. It is kept as a tree: what it does next depends on what came back
for the requests so far, and on nothing else.

* `Probe` — the trees, with their sequencing `Probe.bind`.
* `Probe.ending` — a probe that goes on however another one ends.
* `Probe.attempt` — a probe that goes on when another one fails; a panic still ends both.
-/

import LogProbe.Probe.Failure

namespace LogProbe

/-- How much a log line matters. -/
inductive LogLevel where
  | debug
  | info
  | warn
deriving DecidableEq

/-- The name of a level. -/
def LogLevel.name : LogLevel → String
  | debug => "DEBUG"
  | info => "INFO"
  | warn => "WARN"

/-- A line of the log. -/
structure LogLine where
  level : LogLevel
  text : String
deriving DecidableEq

/-- A line as it is shown. -/
def LogLine.shown (line : LogLine) : String := s!"{line.level.name} {line.text}"

/-- What comes back for a request: a whole response, a response that ends before its body does, or
nothing. The causes are what the client library says of a response that is not whole. -/
inductive Delivery where
  | replied (status : Http.Status) (body : Bytes)
  | cutShort (status : Http.Status) (causes : List String := [])
  | dropped (causes : List String := [])
deriving DecidableEq

/-- How a probe ends. -/
inductive Ending (α : Type) where
  | value (value : α)
  | failed (failure : Failure)
  | panicked (text : String)

/-- A probe. -/
inductive Probe (α : Type) where
  | done (value : α)
  | failed (failure : Failure)
  | panicked (text : String)
  | logged (line : LogLine) (next : Probe α)
  | sent (request : Http.Request) (next : Delivery → Probe α)

namespace Probe

variable {α β : Type}

/-- A probe, and then the one that its value selects. -/
def bind : Probe α → (α → Probe β) → Probe β
  | done value, next => next value
  | failed failure, _ => failed failure
  | panicked text, _ => panicked text
  | logged line rest, next => logged line (rest.bind next)
  | sent request rest, next => sent request fun delivery => (rest delivery).bind next

instance : Monad Probe where
  pure := done
  bind := bind

/-- A probe that only logs. -/
def log (level : LogLevel) (text : String) : Probe Unit := logged ⟨level, text⟩ (done ())

/-- The value of a result; its error is the failure of the probe. -/
def orFail {ε : Type} (failure : ε → Failure) : Except ε α → Probe α
  | .ok value => done value
  | .error error => failed (failure error)

/-- A response that was checked. -/
def demand (result : Except Http.StatusMismatch Http.Response) : Probe Http.Response :=
  orFail .mismatch result

/-- How a probe ends, as the value of a probe that does the same until then. -/
def ending : Probe α → Probe (Ending α)
  | done value => done (.value value)
  | failed failure => done (.failed failure)
  | panicked text => done (.panicked text)
  | logged line rest => logged line rest.ending
  | sent request rest => sent request fun delivery => (rest delivery).ending

/-- The value or failure of a probe, as the value of a probe that does the same until then. -/
def attempt : Probe α → Probe (Except Failure α)
  | done value => done (.ok value)
  | failed failure => done (.error failure)
  | panicked text => panicked text
  | logged line rest => logged line rest.attempt
  | sent request rest => sent request fun delivery => (rest delivery).attempt

/-- A probe that ends in a given way. -/
def ofEnding : Ending α → Probe α
  | .value value => done value
  | .failed failure => failed failure
  | .panicked text => panicked text

theorem bind_assoc {γ : Type} (probe : Probe α) (f : α → Probe β) (g : β → Probe γ) :
    (probe.bind f).bind g = probe.bind fun value => (f value).bind g := by
  induction probe with
  | done | failed | panicked => rfl
  | logged line rest ih => simp [bind, ih]
  | sent request rest ih => simp [bind, ih]

end Probe

end LogProbe
