/-
**Requests about roles.** The roles of an organisation are a place in it, and each role is a place
under its name there. Every request gives the response as it is.
-/

import LogProbe.Roles.Name
import LogProbe.Session

namespace LogProbe.Roles

/-- The place of the roles. -/
def place : String := "roles"

/-- The place of a role. -/
def placeOf (name : RoleName) : List String := [place, name.text]

/-- What is sent to add or change a role. -/
def payload (name : RoleName) : Json.Value := .object [("name", .string name.text)]

/-- Reads all roles. -/
def list (session : Session) : Probe Http.Response := session.get [place]

/-- Adds what a value describes. -/
def createWith (session : Session) (value : Json.Value) : Probe Http.Response :=
  session.post [place] value

/-- Adds a role. -/
def create (session : Session) (name : RoleName) : Probe Http.Response :=
  createWith session (payload name)

/-- Reads a role. -/
def get (session : Session) (name : RoleName) : Probe Http.Response :=
  session.get (placeOf name)

/-- Reads what a role may do in a category. -/
def permissions (session : Session) (name : RoleName) (category : String) :
    Probe Http.Response :=
  session.get (placeOf name ++ ["permissions", category])

/-- Changes a role. -/
def update (session : Session) (name : RoleName) : Probe Http.Response :=
  session.put (placeOf name) [] (payload name)

/-- Gives a role a new token. -/
def rotateToken (session : Session) (name : RoleName) : Probe Http.Response :=
  session.put (placeOf name) [("rotateToken", "true")] (payload name)

/-- Removes a role. -/
def delete (session : Session) (name : RoleName) : Probe Http.Response :=
  session.delete (placeOf name)

end LogProbe.Roles
