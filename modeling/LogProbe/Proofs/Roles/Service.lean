/-
**Role services.** What a request asks of the roles of an organisation is read from its method, its
path and its body, and a service that conforms answers by the names that it holds.

* `RoleCall`, `RoleCall.ofRequest?` — what can be asked, and how it is read from a request.
* `RoleService.Conforms` — the services that do what they are asked. What they answer to a reading
  of a role that is missing is left open, as long as it is a whole response.
* `Roles.ofRequest?_create`, `Roles.ofRequest?_read`, … — what the requests about a role ask.
* `RoleService.sample` — a service that conforms, whatever it answers to such a reading.
-/

import LogProbe.Proofs.Json.RoundTrip
import LogProbe.Proofs.Roles.Course
import LogProbe.Proofs.Session.Place
import Mathlib.Data.Set.Insert

namespace LogProbe

/-- What can be asked of the roles of an organisation. -/
inductive RoleCall where
  | create (name : String)
  | read (name : String)
  | permissions (name category : String)
  | change (name : String)
  | remove (name : String)
deriving DecidableEq

namespace RoleCall

/-- The name in what describes a role. -/
def nameIn? (content : Http.Content) : Option String :=
  match (Json.Value.ofText? content.text).bind (Json.Value.field? "name") with
  | some (.string name) => some name
  | _ => none

/-- What a request asks of the roles of the organisation of a session. -/
def ofRequest? (session : Session) (request : Http.Request) : Option RoleCall :=
  match session.placeOf? request with
  | some ["roles"] =>
    if request.method = .post then (request.content.bind nameIn?).map create else none
  | some ["roles", name] =>
    if request.method = .get then some (read name)
    else if request.method = .put then some (change name)
    else if request.method = .delete then some (remove name)
    else none
  | some ["roles", name, "permissions", category] =>
    if request.method = .get then some (permissions name category) else none
  | _ => none

end RoleCall

/-! ### What the requests about a role ask -/

namespace Roles

variable {session : Session} {name : RoleName} {request : Http.Request}

/-- The request that reads what a role may do. -/
def permissionsRequest? (session : Session) (name : RoleName) (category : String) :
    Option Http.Request :=
  session.requestFor? .get (placeOf name ++ ["permissions", category]) [] none

/-- The request that changes a role, with pairs in its query. -/
def changeRequest? (session : Session) (name : RoleName) (query : List (String × String)) :
    Option Http.Request :=
  session.requestFor? .put (placeOf name) query (some (payload name))

theorem isPlainSegment_place : Url.IsPlainSegment place :=
  Url.isPlainSegment_of_all (by decide) (by decide) (by decide)

theorem isPlainSegment_permissions : Url.IsPlainSegment "permissions" :=
  Url.isPlainSegment_of_all (by decide) (by decide) (by decide)

theorem isPlainSegment_placeOf (plain : Url.IsPlainSegment name.text) :
    ∀ segment ∈ placeOf name, Url.IsPlainSegment segment := by
  simp [placeOf, isPlainSegment_place, plain]

/-- The name in what is sent to add a role is read back. -/
theorem nameIn?_payload (name : RoleName) :
    RoleCall.nameIn? (Http.Content.json (payload name)) = some name.text := by
  unfold RoleCall.nameIn? Http.Content.json payload
  rw [Json.Value.ofText?_field]
  rfl

variable (org : Url.IsPlainSegment session.org)

include org

/-- A request that adds a role asks for the role of that name. -/
theorem ofRequest?_create (creates : createRequest? session name = some request) :
    RoleCall.ofRequest? session request = some (.create name.text) := by
  obtain ⟨method, content, -⟩ := Session.parts_of_requestFor? creates
  have found := Session.placeOf?_of_requestFor? creates org (by simp [isPlainSegment_place])
  unfold RoleCall.ofRequest?
  rw [found, place]
  simp only [method, content, if_true, Option.map_some, Option.bind_some, nameIn?_payload]

theorem ofRequest?_read (plain : Url.IsPlainSegment name.text)
    (reads : readRequest? session name = some request) :
    RoleCall.ofRequest? session request = some (.read name.text) := by
  have method := (Session.parts_of_requestFor? reads).1
  have found := Session.placeOf?_of_requestFor? reads org (isPlainSegment_placeOf plain)
  unfold RoleCall.ofRequest?
  rw [found, placeOf, place]
  simp only [method, if_true]

theorem ofRequest?_change (plain : Url.IsPlainSegment name.text) {query : List (String × String)}
    (changes : changeRequest? session name query = some request) :
    RoleCall.ofRequest? session request = some (.change name.text) := by
  have method := (Session.parts_of_requestFor? changes).1
  have found := Session.placeOf?_of_requestFor? changes org (isPlainSegment_placeOf plain)
  have notGet : Http.Method.put ≠ .get := by decide
  unfold RoleCall.ofRequest?
  rw [found, placeOf, place]
  simp only [method, if_neg notGet, if_true]

theorem ofRequest?_removal (plain : Url.IsPlainSegment name.text)
    (removes : removalRequest? session name = some request) :
    RoleCall.ofRequest? session request = some (.remove name.text) := by
  have method := (Session.parts_of_requestFor? removes).1
  have found := Session.placeOf?_of_requestFor? removes org (isPlainSegment_placeOf plain)
  have notGet : Http.Method.delete ≠ .get := by decide
  have notPut : Http.Method.delete ≠ .put := by decide
  unfold RoleCall.ofRequest?
  rw [found, placeOf, place]
  simp only [method, if_neg notGet, if_neg notPut, if_true]

theorem ofRequest?_permissions (plain : Url.IsPlainSegment name.text) {category : String}
    (plainCategory : Url.IsPlainSegment category)
    (asks : permissionsRequest? session name category = some request) :
    RoleCall.ofRequest? session request = some (.permissions name.text category) := by
  have method := (Session.parts_of_requestFor? asks).1
  have found := Session.placeOf?_of_requestFor? asks org (by
    simp [placeOf, isPlainSegment_place, plain, isPlainSegment_permissions, plainCategory])
  unfold RoleCall.ofRequest?
  rw [found, placeOf, place]
  simp only [method, if_true, List.cons_append, List.nil_append]

end Roles

/-! ### Services that conform -/

/-- A delivery that is a whole response with status 200. -/
def Delivery.IsOk (delivery : Delivery) : Prop := ∃ body, delivery = .replied .ok body

/-- A delivery that is a whole response. -/
def Delivery.IsWhole (delivery : Delivery) : Prop := ∃ status body, delivery = .replied status body

/-- A whole response with status 200 whose body is an object of a given name. -/
def Delivery.Names (name : String) (delivery : Delivery) : Prop :=
  ∃ body fields, delivery = .replied .ok body ∧
    Json.Value.ofBytes? body = some (.object fields) ∧
    fields.lookup "name" = some (.string name)

namespace RoleService

variable {σ : Type}

/-- **A service that conforms** to what is asked of the roles of the organisation of a session. The
roles are the names that its state holds, whatever else is in there. -/
structure Conforms (session : Session) (service : Service σ) (roles : σ → Set String) : Prop where
  create_missing {request name} (asked : RoleCall.ofRequest? session request = some (.create name))
    {state} (missing : name ∉ roles state) :
    (service state request).1.IsOk ∧ roles (service state request).2 = insert name (roles state)
  create_present {request name} (asked : RoleCall.ofRequest? session request = some (.create name))
    {state} (present : name ∈ roles state) :
    ¬ (service state request).1.IsOk ∧ roles (service state request).2 = roles state
  read_present {request name} (asked : RoleCall.ofRequest? session request = some (.read name))
    {state} (present : name ∈ roles state) :
    (service state request).1.Names name ∧ roles (service state request).2 = roles state
  read_missing {request name} (asked : RoleCall.ofRequest? session request = some (.read name))
    {state} (missing : name ∉ roles state) :
    (service state request).1.IsWhole ∧ roles (service state request).2 = roles state
  permissions_present {request name category}
    (asked : RoleCall.ofRequest? session request = some (.permissions name category))
    {state} (present : name ∈ roles state) :
    (service state request).1.IsOk ∧ roles (service state request).2 = roles state
  change_present {request name} (asked : RoleCall.ofRequest? session request = some (.change name))
    {state} (present : name ∈ roles state) :
    (service state request).1.IsOk ∧ roles (service state request).2 = roles state
  remove_present {request name} (asked : RoleCall.ofRequest? session request = some (.remove name))
    {state} (present : name ∈ roles state) :
    (service state request).1.IsOk ∧ roles (service state request).2 = roles state \ {name}
  remove_missing {request name} (asked : RoleCall.ofRequest? session request = some (.remove name))
    {state} (missing : name ∉ roles state) :
    (∃ body, (service state request).1 = .replied .notFound body) ∧
      roles (service state request).2 = roles state

/-- What a service that keeps a list of names answers, with a given response to the reading of a
role that is missing, and the names afterwards. -/
def answer (status : Http.Status) (body : Bytes) (names : List String) :
    Option RoleCall → Delivery × List String
  | some (.create name) =>
    if name ∈ names then (.replied .badRequest [], names) else (.replied .ok [], name :: names)
  | some (.read name) =>
    if name ∈ names then (.replied .ok (Utf8.bytesOf (Roles.payload ⟨name⟩).text), names)
    else (.replied status body, names)
  | some (.permissions name _) | some (.change name) =>
    if name ∈ names then (.replied .ok [], names) else (.replied .notFound [], names)
  | some (.remove name) =>
    if name ∈ names then (.replied .ok [], names.filter (· ≠ name))
    else (.replied .notFound [], names)
  | none => (.replied .notFound [], names)

/-- The service that answers so. -/
def sample (session : Session) (status : Http.Status) (body : Bytes) : Service (List String) :=
  fun names request => answer status body names (RoleCall.ofRequest? session request)

/-- The roles in a list of names. -/
def listed (names : List String) : Set String := {name | name ∈ names}

@[simp] theorem mem_listed {name : String} {names : List String} :
    name ∈ listed names ↔ name ∈ names := Iff.rfl

/-- The service that keeps a list of names conforms, whatever it answers to a reading of a role that
is missing. -/
theorem conforms_sample (session : Session) (status : Http.Status) (body : Bytes) :
    Conforms session (sample session status body) listed where
  create_missing asked names missing := by
    rw [mem_listed] at missing
    simp only [sample, asked, answer, if_neg missing]
    exact ⟨⟨[], rfl⟩, by ext other; simp⟩
  create_present asked names present := by
    rw [mem_listed] at present
    simp only [sample, asked, answer, if_pos present, and_true]
    rintro ⟨body, same⟩
    exact absurd (Delivery.replied.inj same).1 (by decide)
  read_present {request name} asked names present := by
    rw [mem_listed] at present
    simp only [sample, asked, answer, if_pos present, and_true]
    exact ⟨_, _, rfl, Json.Value.ofText?_field "name" name, rfl⟩
  read_missing asked names missing := by
    rw [mem_listed] at missing
    simp only [sample, asked, answer, if_neg missing, and_true]
    exact ⟨status, body, rfl⟩
  permissions_present asked names present := by
    rw [mem_listed] at present
    simp only [sample, asked, answer, if_pos present, and_true]
    exact ⟨[], rfl⟩
  change_present asked names present := by
    rw [mem_listed] at present
    simp only [sample, asked, answer, if_pos present, and_true]
    exact ⟨[], rfl⟩
  remove_present asked names present := by
    rw [mem_listed] at present
    simp only [sample, asked, answer, if_pos present]
    exact ⟨⟨[], rfl⟩, by ext other; simp⟩
  remove_missing asked names missing := by
    rw [mem_listed] at missing
    simp only [sample, asked, answer, if_neg missing, and_true]
    exact ⟨[], rfl⟩

end RoleService

end LogProbe
