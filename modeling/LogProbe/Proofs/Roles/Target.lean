/-
**Which role a request is about.** A role is created under the name in the body of a request, and
read, changed and removed under a component of the path. The two are the same role exactly for the
names that stand for themselves in a path: other names lead the later requests elsewhere, to the
place of all roles or out of it.

* `Roles.Targets` — a request goes to the role that another one creates.
* `Roles.targets_iff` — it does exactly if the name stands for itself in a path.
* `Roles.requests_target_created_role_iff` — the requests of the scenarios and of any scope.
* `Roles.removal_outside_roles` — a removal that goes elsewhere.
-/

import LogProbe.Proofs.Roles.Sequence

namespace LogProbe.Roles

variable {σ α : Type} {session : Session} {name : RoleName}

/-! ### Targets -/

/-- A request goes to the role that another one creates: its path is that of the creation and one
component more, which is decoded to the name in the body of the creation. -/
def Targets (creation request : Http.Request) : Prop :=
  ∃ items component role, creation.url.path = .components items ∧
    request.url.path = .components (items ++ [component]) ∧
    creation.content.bind RoleCall.nameIn? = some role ∧ Percent.textOf? component = some role

/-- The place of the roles ends with a component of its own, whatever the organisation is. -/
theorem itemsOf_place_ne (online : session.IsOnline) : session.itemsOf [place] ≠ [[]] := by
  have last : session.itemsOf [place] = Url.Path.push session.baseUrl.scheme
      ([("api" : String), session.org].foldl (Url.Path.push session.baseUrl.scheme)
        (Url.Path.popIfEmpty session.baseItems)) place := rfl
  rw [last, Url.push_of_plain (Session.scheme_ne_file online) isPlainSegment_place]
  intro lone
  have ends := congrArg List.getLast? lone
  rw [List.getLast?_concat] at ends
  have read := Url.textOf?_componentOf session.baseUrl.scheme place
  rw [Option.some.inj ends] at read
  exact absurd (Option.some.inj read) (by decide)

/-- **A request about a role goes to the role that was created exactly if the name of the role
stands for itself in a path.** -/
theorem targets_iff {creation request : Http.Request}
    (creates : createRequest? session name = some creation) {method : Http.Method}
    {query : List (String × String)} {value : Option Json.Value}
    (sends : session.requestFor? method (placeOf name) query value = some request) :
    Targets creation request ↔ Url.IsPlainSegment name.text := by
  have online := Session.isOnline_of_requestFor? creates
  obtain ⟨-, content, created⟩ := Session.parts_of_requestFor? creates
  obtain ⟨-, -, asked⟩ := Session.parts_of_requestFor? sends
  have named : creation.content.bind RoleCall.nameIn? = some name.text := by
    rw [content, Option.map_some, Option.bind_some, nameIn?_payload]
  have pushed : session.itemsOf (placeOf name) =
      Url.Path.push session.baseUrl.scheme (session.itemsOf [place]) name.text := rfl
  rw [← Url.push_eq_append_iff (Session.scheme_ne_file online) (itemsOf_place_ne online),
    ← pushed]
  constructor
  · rintro ⟨items, component, role, path, longer, inBody, inPath⟩
    rw [created] at path
    cases path
    rw [asked] at longer
    rw [named] at inBody
    cases inBody
    exact ⟨component, Url.Path.components.inj longer, inPath⟩
  · rintro ⟨component, longer, inPath⟩
    exact ⟨_, component, name.text, created, by rw [asked, longer], named, inPath⟩

/-! ### The requests of scenarios and scopes -/

/-- A request of a step is the creation, a reading of permissions, or about the role itself. -/
theorem targets_iff_of_step {creation request : Http.Request}
    (creates : createRequest? session name = some creation) {step : Step}
    (sends : step.request? session name = some request) :
    request = creation ∨ (∃ category, permissionsRequest? session name category = some request) ∨
      (Targets creation request ↔ Url.IsPlainSegment name.text) := by
  rw [Step.request?_eq (Session.isOnline_of_requestFor? creates)] at sends
  cases step with
  | creation => exact .inl (Option.some.inj (sends.symm.trans creates))
  | permissions category => exact .inr (.inl ⟨category, sends⟩)
  | reading | naming | absence | update | rotation | removal =>
    exact .inr (.inr (targets_iff creates sends))

/-- The requests of a cleanup, at least one, are about the role itself. -/
theorem targets_iff_of_cleaned {creation : Http.Request}
    (creates : createRequest? session name = some creation) {cleanup : List Exchange}
    {fault : Option Failure} (cleaned : Cleaned session name cleanup fault) :
    cleanup ≠ [] ∧ ∀ exchange ∈ cleanup,
      (Targets creation exchange.1 ↔ Url.IsPlainSegment name.text) := by
  have goes {step : Step} (about : step = .reading ∨ step = .removal) {request : Http.Request}
      (sends : step.request? session name = some request) :
      Targets creation request ↔ Url.IsPlainSegment name.text := by
    rw [Step.request?_eq (Session.isOnline_of_requestFor? creates)] at sends
    rcases about with rfl | rfl
    · exact targets_iff creates sends
    · exact targets_iff creates sends
  cases cleaned with
  | unread reads _ =>
    exact ⟨List.cons_ne_nil _ _, List.forall_mem_singleton.mpr (goes (.inl rfl) reads)⟩
  | gone reads _ =>
    exact ⟨List.cons_ne_nil _ _, List.forall_mem_singleton.mpr (goes (.inl rfl) reads)⟩
  | removed reads _ removes =>
    exact ⟨List.cons_ne_nil _ _, List.forall_mem_cons.mpr
      ⟨goes (.inl rfl) reads, List.forall_mem_singleton.mpr (goes (.inr rfl) removes)⟩⟩

/-- **When requests are about the role that was created.** The body of a creation names its role,
whatever the name is. All other requests of a scenario, but for readings of permissions, and all
requests of the cleanup of any scope whose body starts go to that role exactly if its name stands
for itself in a path: it is neither `.` nor `..` and holds no tab and no line break. -/
theorem requests_target_created_role_iff {text : String}
    (accepted : Config.baseUrlOf text = .ok session.baseUrl) (name : RoleName) :
    ∃ creation, createRequest? session name = some creation ∧
      creation.content.bind RoleCall.nameIn? = some name.text ∧
      (∀ (life : Life) (σ : Type) (service : Service σ) (state : σ),
        ∀ request ∈ ((life.probe session name).run service state).requests,
          request = creation ∨
          (∃ category, permissionsRequest? session name category = some request) ∨
          (Targets creation request ↔ Url.IsPlainSegment name.text)) ∧
      ∀ (α σ : Type) (body : Probe α) (service : Service σ) (state : σ) (reply : Bytes),
        (service state creation).1 = .replied .ok reply →
        ∃ cleanup, cleanup ≠ [] ∧
          ((withRole session name (.runs body)).run service state).requests =
            creation :: ((body.run service (service state creation).2).requests ++ cleanup) ∧
          ∀ request ∈ cleanup, (Targets creation request ↔ Url.IsPlainSegment name.text) := by
  have online := Config.isOnline_of_baseUrlOf accepted
  obtain ⟨creation, read, removal, creates, reads, removes⟩ := exists_requests online name
  refine ⟨creation, creates, ?_, ?_, ?_⟩
  · rw [(Session.parts_of_requestFor? creates).2.1, Option.map_some, Option.bind_some,
      nameIn?_payload]
  · intro life σ service state request member
    obtain ⟨exchange, inside, rfl⟩ := List.mem_map.mp member
    obtain ⟨tried, fault, cleanup, left, asked, went, cleaned, nothing, -⟩ :=
      exists_run_scope online name life.steps service state
    rw [life.probe_eq, asked] at inside
    rcases List.mem_append.mp inside with inTried | inCleanup
    · obtain ⟨step, -, sends⟩ := exists_step_of_mem_tried went exchange inTried
      exact targets_iff_of_step creates sends
    · by_cases begun : BeginsCreated tried
      · exact .inr (.inr ((targets_iff_of_cleaned creates (cleaned begun)).2 exchange inCleanup))
      · rw [(nothing begun).1] at inCleanup
        cases inCleanup
  · intro α σ body service state reply created
    have answered : service state creation = (.replied .ok reply, (service state creation).2) :=
      Prod.ext created rfl
    obtain ⟨left, cleaned, -⟩ := exists_run_release online name service
      (body.run service (service state creation).2).state
    obtain ⟨some, targets⟩ := targets_iff_of_cleaned creates cleaned
    refine ⟨((release session name).run service
      (body.run service (service state creation).2).state).requests, ?_, ?_, ?_⟩
    · exact fun nothing => some (List.map_eq_nil_iff.mp nothing)
    · rw [run_withRole_of_created creates reads removes answered rfl rfl]
      simp only [Run.requests, List.map_cons, List.map_append]
    · intro request member
      obtain ⟨exchange, inside, rfl⟩ := List.mem_map.mp member
      exact targets exchange inside

/-- The requests of a scenario of the sample session, and of a scope with no body of its own, for a
role whose name holds a slash and percent signs. -/
theorem requests_target_created_role_iff_sample :
    let name : RoleName := ⟨"a/b%2e%"⟩
    let service : Service Script := Script.service
    let script : Script := ⟨[.replied .ok [], .replied .notFound []], []⟩
    ∃ creation, createRequest? sampleSession name = some creation ∧
      (∀ request ∈ ((createDelete sampleSession name).run service script).requests,
        request = creation ∨ Targets creation request ∨
          ∃ category, permissionsRequest? sampleSession name category = some request) ∧
      ∃ cleanup, cleanup ≠ [] ∧
        ((withRole sampleSession name (.runs (pure ()))).run service script).requests =
          creation :: ([] ++ cleanup) ∧
        ∀ request ∈ cleanup, Targets creation request := by
  intro name service script
  have plain : Url.IsPlainSegment name.text :=
    Url.isPlainSegment_of_all (by decide) (by decide) (by decide)
  obtain ⟨creation, creates, -, scenarios, scopes⟩ :=
    requests_target_created_role_iff baseUrlOf_sampleSession name
  obtain ⟨cleanup, some, asked, targets⟩ := scopes Unit Script (pure ()) service script [] rfl
  refine ⟨creation, creates, fun request member => ?_, cleanup, some, asked,
    fun request member => (targets request member).mpr plain⟩
  rcases scenarios .createDelete Script service script request member with same | reads | target
  · exact .inl same
  · exact .inr (.inr reads)
  · exact .inr (.inl (target.mpr plain))

/-- **A removal that goes elsewhere.** The role of this name is created among the roles, and its
removal, before and in the cleanup, goes to the place of the whole organisation. -/
theorem removal_outside_roles :
    let name : RoleName := ⟨".\t."⟩
    let run := (createDelete sampleSession name).run Script.service
      ⟨[.replied .ok [], .replied .ok [], .replied .notFound []], []⟩
    ∃ creation, createRequest? sampleSession name = some creation ∧
      creation.url.path = .components ["api".toList, "default".toList, "roles".toList] ∧
      ∃ removal ∈ run.requests, removal.method = .delete ∧
        removal.url.path = .components ["api".toList, "default".toList, []] ∧
        ¬ Targets creation removal := by
  intro name run
  obtain ⟨creation, -, -, creates, -, -⟩ := exists_requests isOnline_sampleSession name
  have created : creation.url.path =
      .components ["api".toList, "default".toList, "roles".toList] :=
    (Session.parts_of_requestFor? creates).2.2.trans (by decide +kernel)
  have asked : run.requests.map (fun request => (request.method, request.url.path)) =
      [(.post, .components ["api".toList, "default".toList, "roles".toList]),
        (.delete, .components ["api".toList, "default".toList, []]),
        (.get, .components ["api".toList, "default".toList, []])] := by
    decide +kernel
  obtain ⟨removal, member, parts⟩ : ∃ removal ∈ run.requests,
      (removal.method, removal.url.path) =
        (.delete, .components ["api".toList, "default".toList, []]) := by
    apply List.mem_map.mp
    rw [asked]
    exact List.mem_cons_of_mem _ List.mem_cons_self
  obtain ⟨deletes, path⟩ := Prod.mk.inj parts
  refine ⟨creation, creates, created, removal, member, deletes, path, ?_⟩
  rintro ⟨items, component, role, place, longer, -⟩
  rw [created] at place
  rw [path] at longer
  -- The removal would have to go one component deeper than the creation, and goes as deep.
  have lengths := congrArg List.length (Url.Path.components.inj longer)
  rw [← Url.Path.components.inj place, List.length_append] at lengths
  cases lengths

end LogProbe.Roles
