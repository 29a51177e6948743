/-
**Roles for the length of a probe.**

* `Roles.Body` — what calling the body of a scope gives: a probe, or a panic of the call.
* `Roles.withRole` — creates a role, does something with it, and removes it again however that ends.
  A role that was not created is not removed. If both what was done and the removal fail, the first
  failure counts and the second is logged. A body that panics when it is called leaves its role
  behind.
* `Roles.release` — removes a role, unless it reads back as absent.
-/

import LogProbe.Roles.Client

namespace LogProbe.Roles

/-- What calling the body of a scope gives: a probe that is then to run, or a panic of the call
itself. A call can log before it panics; it is not asynchronous and sends nothing. -/
inductive Body (α : Type) where
  | runs (probe : Probe α)
  | panics (log : List LogLine) (text : String)

instance {α : Type} : Coe (Probe α) (Body α) := ⟨Body.runs⟩

/-- The call of a body. -/
def Body.call {α : Type} : Body α → Probe (Probe α)
  | runs probe => pure probe
  | panics log text => log.foldr Probe.logged (.panicked text)

/-- Removes a role, unless it is gone. -/
def release (session : Session) (name : RoleName) : Probe Unit := do
  let current ← get session name
  if current.isAbsent then
    Probe.log .debug s!"Role {name.text} already gone ({current.status.shown})"
  else
    let deleted ← delete session name
    if deleted.status = .notFound then
      Probe.log .debug s!"Role {name.text} was deleted before cleanup"
    else
      let _ ← Probe.demand deleted.expectOk
      Probe.log .info s!"Deleted role {name.text}"

/-- Logs a removal that failed, after something else did. -/
def warnOrphaned (name : RoleName) (circumstance : String) : Except Failure Unit → Probe Unit
  | .ok _ => pure ()
  | .error failure =>
    Probe.log .warn s!"Role {name.text} may be orphaned{circumstance}: {failure.line}"

/-- The ending of a probe after which its role was removed. -/
def conclude {α : Type} (name : RoleName) (removal : Except Failure Unit) :
    Ending α → Probe α
  | .panicked text => do
    warnOrphaned name " after a panic" removal
    .panicked text
  | .failed failure => do
    warnOrphaned name "" removal
    .failed failure
  | .value value => do
    Probe.orFail id removal
    pure value

/-- Creates a role, does something, and removes the role again. Only the probe of the body is kept
from ending the scope: its call comes first, and a panic of the call ends the scope at once. -/
def withRole {α : Type} (session : Session) (name : RoleName) (body : Body α) : Probe α := do
  let created ← create session name
  let _ ← Probe.demand created.expectOk
  Probe.log .info s!"Created role {name.text}"
  let started ← body.call
  let ending ← started.ending
  let removal ← (release session name).attempt
  conclude name removal ending

end LogProbe.Roles
