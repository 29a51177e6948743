/-
**Scenarios about roles.** Each is a sequence of requests that ends with the first response that is
not as expected.

* `Roles.listRoles`, `Roles.rejectInvalidEmail` — single requests.
* `Roles.createDelete`, `Roles.createPermissionsDelete`, `Roles.createPermissionsUpdateDelete`,
  `Roles.createGetRotateDelete`, `Roles.fullLifecycle` — the lives of a role.
* `Json.Value.namesRole` — whether some object in a value has a given name.
-/

import LogProbe.Roles.Scope

namespace LogProbe

namespace Json

mutual

/-- Whether some object in a value has the name `name`. -/
def Value.namesRole (name : String) : Value → Bool
  | .object fields =>
    (match fields.lookup "name" with
      | some (.string text) => text == name
      | _ => false) || fieldsNameRole name fields
  | .array items => itemsNameRole name items
  | _ => false

/-- Whether some object in one of the items has the name `name`. -/
def itemsNameRole (name : String) : List Value → Bool
  | [] => false
  | item :: rest => item.namesRole name || itemsNameRole name rest

/-- Whether some object in one of the fields has the name `name`. -/
def fieldsNameRole (name : String) : List (String × Value) → Bool
  | [] => false
  | (_, value) :: rest => value.namesRole name || fieldsNameRole name rest

end

end Json

namespace Roles

/-- The response to a request, which has to be 200. -/
def checked (request : Probe Http.Response) : Probe Http.Response := do
  let response ← request
  Probe.demand response.expectOk

/-- Reads all roles. -/
def listRoles (session : Session) : Probe Http.Response := do
  let response ← checked (list session)
  Probe.log .info s!"Listed roles in org {session.org}"
  pure response

/-- Creates a role and deletes it. -/
def createDelete (session : Session) (name : RoleName) : Probe Unit :=
  withRole session name <| .runs do
    let _ ← checked (delete session name)
    pure ()

/-- Creates a role, reads its permissions and deletes it. -/
def createPermissionsDelete (session : Session) (name : RoleName) (category : String) :
    Probe Unit :=
  withRole session name <| .runs do
    let _ ← checked (permissions session name category)
    let _ ← checked (delete session name)
    pure ()

/-- Creates a role, reads its permissions, updates it and deletes it. -/
def createPermissionsUpdateDelete (session : Session) (name : RoleName) (category : String) :
    Probe Unit :=
  withRole session name <| .runs do
    let _ ← checked (permissions session name category)
    let _ ← checked (update session name)
    let _ ← checked (delete session name)
    pure ()

/-- Creates a role, reads it, gives it a new token and deletes it. -/
def createGetRotateDelete (session : Session) (name : RoleName) : Probe Unit :=
  withRole session name <| .runs do
    let _ ← checked (get session name)
    let _ ← checked (rotateToken session name)
    let _ ← checked (delete session name)
    pure ()

/-- A response whose body is JSON that names a role. -/
def demandNamed (name : RoleName) (response : Http.Response) : Probe Unit :=
  match response.json? with
  | none => .failed .notJson
  | some value =>
    if value.namesRole name.text then pure ()
    else .failed (.unnamedRole name.text response.text)

/-- Creates a role, reads it back by its name, updates it, deletes it and sees that it is gone. -/
def fullLifecycle (session : Session) (name : RoleName) : Probe Unit :=
  withRole session name <| .runs do
    let role ← checked (get session name)
    demandNamed name role
    let _ ← checked (update session name)
    let _ ← checked (delete session name)
    let gone ← get session name
    let _ ← Probe.demand gone.expectAbsent
    pure ()

/-- What describes a user, without naming a role. -/
def userPayload (email organization : String) : Json.Value :=
  .object [("email", .string email), ("organization", .string organization),
    ("first_name", .string ""), ("last_name", .string "")]

/-- Posts a user with a malformed email, which has to be rejected with 400. -/
def rejectInvalidEmail (session : Session) (email : String) : Probe Http.Response := do
  let response ← createWith session (userPayload email session.org)
  Probe.demand (response.expectStatus .badRequest)

end Roles

end LogProbe
