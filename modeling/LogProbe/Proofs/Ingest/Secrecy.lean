/-
**Only ciphertext is sent, and at most once.** Ingestion of the configured fixture sends nothing
unless the encryptor, the fixture and the encryption of every record work out. Then it sends one
request, which carries the records of the fixture with every text of the encrypted field replaced by
its encrypted form; whoever has the keyset gets the records back from it.

* `Ingest.Posts` — a request posts a batch to a stream.
* `Ingest.encrypted_logs_send_only_ciphertext` — the law, for all configurations, contents of the
  fixture and services.
-/

import LogProbe.Proofs.Ingest.Course
import LogProbe.Proofs.Ingest.Sealing

namespace LogProbe.Ingest

open Json

/-- A request posts a batch to a stream: its records are the content, as one array of JSON, and
that is the only content. A user in the URL leaves it for a header of its own. -/
structure Posts (session : Session) (stream : String) (batch : Batch) (request : Http.Request) :
    Prop where
  method : request.method = .post
  url : ∃ url, session.orgUrl? [stream, "_json"] = some url ∧
    request.url = if url.signIn?.isSome then url.withoutUserinfo else url
  content : request.content = some ⟨"application/json", batch.text⟩

/-- A session that is online has a request for every batch. -/
theorem exists_posts {session : Session} (online : session.IsOnline) (stream : String)
    (batch : Batch) :
    ∃ request, session.requestFor? .post [stream, "_json"] [] (some batch.toValue) =
      some request ∧ Posts session stream batch request := by
  obtain ⟨request, sends, method, content, -⟩ := Session.exists_requestFor? online .post
    [stream, "_json"] [] (some batch.toValue)
  exact ⟨request, sends, method, Session.exists_orgUrl?_of_requestFor? sends, content⟩

/-- With an encryptor and a fixture it is the batch of the fixture that is encrypted and sent. -/
theorem encryptedLogs_of_loaded (session : Session) {config : Config} {content : Option Bytes}
    {encryptor : FieldEncryptor} {batch : Batch}
    (made : FieldEncryptor.ofKeyset config.keyset config.variant = .ok encryptor)
    (loaded : config.fixture.load content = .ok batch) :
    encryptedLogs session config content = encrypted session config.stream batch encryptor := by
  unfold encryptedLogs
  rw [made, loaded]
  rfl

/-! ### A sample fixture -/

/-- A fixture with a text, with null and without the field. -/
def sampleFixture : Batch :=
  ⟨[[(encryptedField, .string "hello world"), ("n", .number (.integer 1))],
    [(encryptedField, .null)], []]⟩

theorem isNormal_sampleFixture : sampleFixture.toValue.IsNormal depthLimit := by
  have one : Fits 1 := by unfold Fits; decide
  have first : Ascends [(encryptedField, .string "hello world"), ("n", .number (.integer 1))] :=
    List.pairwise_pair.mpr (by decide)
  refine Batch.isNormal_toValue_iff.mpr fun record member => ?_
  rcases List.mem_cons.mp member with rfl | member
  · refine .object first fun field inside => ?_
    rcases List.mem_cons.mp inside with rfl | inside
    · exact .string "hello world"
    · rw [List.mem_singleton.mp inside]
      exact .number one
  rcases List.mem_cons.mp member with rfl | member
  · refine .object (List.pairwise_singleton _ _) fun field inside => ?_
    rw [List.mem_singleton.mp inside]
    exact .null
  · rw [List.mem_singleton.mp member]
    exact .object List.Pairwise.nil fun field inside => nomatch inside

theorem isWhole_sampleFixture : sampleFixture.toValue.IsWhole := by
  refine Batch.isWhole_toValue_iff.mpr fun record member field inside => ?_
  rcases List.mem_cons.mp member with rfl | member
  · rcases List.mem_cons.mp inside with rfl | inside
    · exact .string "hello world"
    · rw [List.mem_singleton.mp inside]
      exact .integer 1
  rcases List.mem_cons.mp member with rfl | member
  · rw [List.mem_singleton.mp inside]
    exact .null
  · rw [List.mem_singleton.mp member] at inside
    exact nomatch inside

theorem load_sampleFixture (fixture : Fixture) :
    fixture.load (some (Utf8.bytesOf sampleFixture.text)) = .ok sampleFixture := by
  have read : Utf8.decode? (Utf8.bytesOf sampleFixture.text) = some sampleFixture.text.toList :=
    Utf8.decode?_encode _
  unfold Fixture.load
  simp only [Option.bind_some, read, String.ofList_toList,
    Batch.ofText_text isNormal_sampleFixture isWhole_sampleFixture]

/-- What the shared keyset makes of the text in the sample. -/
def sampleCiphertext : String := "Aa80IPwyLcKELuTBgHsH3bJ7Qv5K7ZzpglsIwdcjhTg="

/-- The embedded keyset encrypts with the shared key. -/
theorem primary_shared :
    (FieldEncryptor.ofKeyset .shared .tink).toOption.map (fun encryptor =>
        (encryptor.cipher.primary.header, encryptor.cipher.primary.key.bytes)) =
      some ([0x01, 0xAF, 0x34, 0x20, 0xFC], Siv.sharedKey.bytes) := by
  decide +kernel

theorem encrypt_shared {encryptor : FieldEncryptor}
    (made : FieldEncryptor.ofKeyset .shared .tink = .ok encryptor) :
    encryptor.encrypt "hello world" = sampleCiphertext := by
  have primary := primary_shared
  rw [made] at primary
  obtain ⟨header, bytes⟩ := Prod.mk.inj (Option.some.inj primary)
  rw [FieldEncryptor.encrypt_tink made rfl]
  unfold Cipher.encrypt
  rw [header, Siv.Key.eq_of_bytes_eq bytes, Siv.encrypt_sharedKey]
  decide +kernel

/-- The embedded keyset has an encryptor, its primary key has a header, and what it makes of the
text in the sample is known. -/
theorem exists_localEncryptor :
    ∃ config encryptor primary, Config.ofLookup Config.localLookup = .ok config ∧
      FieldEncryptor.ofKeyset config.keyset config.variant = .ok encryptor ∧
      config.keyset.primary = .ok primary ∧ primary.header ≠ [] ∧
      encryptor.encrypt "hello world" = sampleCiphertext := by
  obtain ⟨config, accepted, variant, keyset⟩ := Config.exists_ofLookup_local
  have ready : (match FieldEncryptor.ofKeyset .shared .tink, Keyset.shared.primary with
      | .ok _, .ok primary => !primary.header.isEmpty
      | _, _ => false) = true := by decide +kernel
  split at ready
  · rename_i encryptor primary made found
    refine ⟨config, encryptor, primary, accepted, ?_⟩
    rw [variant, keyset]
    refine ⟨made, found, fun empty => ?_, encrypt_shared made⟩
    rw [empty] at ready
    exact nomatch ready
  · exact nomatch ready

/-- The text of the sample under an encryptor that is known on its one text. -/
theorem text_mapText_sampleFixture {f : String → String}
    (known : f "hello world" = sampleCiphertext) :
    (sampleFixture.mapText encryptedField f).text =
      "[\x7b\"log\":\"Aa80IPwyLcKELuTBgHsH3bJ7Qv5K7ZzpglsIwdcjhTg=\",\"n\":1\x7d," ++
        "\x7b\"log\":null\x7d,\x7b\x7d]" := by
  have same : sampleFixture.mapText encryptedField f =
      ⟨[[(encryptedField, .string sampleCiphertext), ("n", .number (.integer 1))],
        [(encryptedField, .null)], []]⟩ := by
    rw [← known]
    rfl
  rw [same]
  decide +kernel

/-! ### The law -/

/-- **Encrypted ingestion sends only ciphertext, and at most once.** If there is no encryptor for
the keyset, no batch in the fixture, or a record that cannot be encrypted, nothing is sent and that
is the failure. Otherwise there is one request whatever the service answers: it posts the batch of
the fixture with every text of the encrypted field replaced by its encrypted form, which is another
text; a field that is missing or holds null stays so, and so does every other field. If the numbers
of the batch are integers and its texts come back from their encrypted form, the content of the
request is read as a batch that is decrypted to that of the fixture. -/
theorem encrypted_logs_send_only_ciphertext {lookup : Config.Lookup} {config : Config}
    (accepted : Config.ofLookup lookup = .ok config) (content : Option Bytes) {σ : Type}
    (service : Service σ) (state : σ) :
    let session := Session.ofConfig config
    let run := (encryptedLogs session config content).run service state
    (∀ error, FieldEncryptor.ofKeyset config.keyset config.variant = .error error →
      run = ⟨.failed (.cipher error), [], [], state⟩) ∧
    ∀ encryptor, FieldEncryptor.ofKeyset config.keyset config.variant = .ok encryptor →
      (∀ error, config.fixture.load content = .error error →
        run = ⟨.failed (.fixture error), [], [], state⟩) ∧
      ∀ batch, config.fixture.load content = .ok batch →
        (∀ error, (batch.encryptField encryptor encryptedField).1 = .error error →
          run = ⟨.failed (.batch error), [], [], state⟩) ∧
        ∀ count, (batch.encryptField encryptor encryptedField).1 = .ok count →
          let sent := batch.mapText encryptedField encryptor.encrypt
          (∃ request, run.exchanges = [(request, (service state request).1)] ∧
            Posts session config.stream sent request) ∧
          (∀ record ∈ batch.records, ∀ name : String,
            (LogRecord.mapText encryptedField encryptor.encrypt record).lookup name =
              if name = encryptedField then
                (record.lookup name).map (Value.mapText encryptor.encrypt)
              else record.lookup name) ∧
          (∀ text, encryptor.encrypt text ≠ text) ∧
          ∃ primary, config.keyset.primary = .ok primary ∧
            (batch.toValue.IsWhole →
              config.variant = .simple ∨ primary.header ≠ [] ∨ config.keyset.enabled = [primary] ∨
                (∀ record ∈ batch.records, ∀ text, (encryptedField, .string text) ∈ record →
                  FieldEncryptor.IsUndisputed config.keyset encryptor text) →
              ∃ received, Batch.ofText sent.text = .ok received ∧
                received.decryptField encryptor encryptedField = .ok batch) := by
  intro session run
  refine ⟨fun error failed => ?_, fun encryptor made => ⟨fun error failed => ?_,
    fun batch loaded => ⟨fun error failed => ?_, fun count done => ?_⟩⟩⟩
  · show (encryptedLogs session config content).run service state = _
    unfold encryptedLogs
    rw [failed]
    rfl
  · show (encryptedLogs session config content).run service state = _
    unfold encryptedLogs
    rw [made, failed]
    rfl
  · show (encryptedLogs session config content).run service state = _
    rw [encryptedLogs_of_loaded session made loaded]
    exact run_encrypted_of_error service state failed
  · have normal := Batch.isNormal_of_load loaded
    obtain ⟨sent, encrypts⟩ : ∃ sent,
        batch.encryptField encryptor encryptedField = (.ok count, sent) := ⟨_, Prod.ext done rfl⟩
    have sealed := Batch.encryptField_eq_ok normal encrypts
    subst sealed
    obtain ⟨primary, -, -, found, -⟩ :=
      Cipher.exists_primary (FieldEncryptor.ofKeyset_eq_ok made).1
    refine ⟨?_, fun record _ name => LogRecord.lookup_mapText record name, encryptor.encrypt_ne,
      primary, found, fun whole safe => ?_⟩
    · obtain ⟨request, sends, posts⟩ := exists_posts (Config.isOnline_of_ofLookup accepted)
        config.stream (batch.mapText encryptedField encryptor.encrypt)
      obtain ⟨lines, course⟩ := exists_run_encrypted service state sends encrypts
      refine ⟨request, ?_, posts⟩
      show ((encryptedLogs session config content).run service state).exchanges = _
      rw [encryptedLogs_of_loaded session made loaded, course]
    · refine ⟨_, Batch.ofText_text (Batch.isNormal_mapText normal) (Batch.isWhole_mapText whole),
        Batch.decryptField_mapText fun record inside text member => ?_⟩
      exact FieldEncryptor.decrypt_encrypt_of_or made found
        (safe.imp_right (Or.imp_right (Or.imp_right fun all => all record inside text member)))

/-- The sample is sent once, with the known ciphertext in place of its text, and comes back, even if
nobody answers. -/
theorem local_logs_send_only_ciphertext :
    ∃ config encryptor request received,
      Config.ofLookup Config.localLookup = .ok config ∧
      FieldEncryptor.ofKeyset config.keyset config.variant = .ok encryptor ∧
      ((encryptedLogs (Session.ofConfig config) config
        (some (Utf8.bytesOf sampleFixture.text))).run Service.unreachable ()).exchanges =
          [(request, .dropped)] ∧
      request.content = some ⟨"application/json",
        "[\x7b\"log\":\"Aa80IPwyLcKELuTBgHsH3bJ7Qv5K7ZzpglsIwdcjhTg=\",\"n\":1\x7d," ++
          "\x7b\"log\":null\x7d,\x7b\x7d]"⟩ ∧
      Posts (Session.ofConfig config) config.stream
        (sampleFixture.mapText encryptedField encryptor.encrypt) request ∧
      Batch.ofText (sampleFixture.mapText encryptedField encryptor.encrypt).text = .ok received ∧
      received.decryptField encryptor encryptedField = .ok sampleFixture := by
  obtain ⟨config, encryptor, primary, accepted, made, found, headed, known⟩ := exists_localEncryptor
  obtain ⟨⟨request, once, posts⟩, -, -, same, foundSame, comesBack⟩ :=
    ((encrypted_logs_send_only_ciphertext accepted (some (Utf8.bytesOf sampleFixture.text))
      Service.unreachable ()).2 encryptor made).2 sampleFixture
        (load_sampleFixture config.fixture) |>.2 1 rfl
  cases found.symm.trans foundSame
  have content := posts.content
  rw [text_mapText_sampleFixture known] at content
  obtain ⟨received, read, opened⟩ := comesBack isWhole_sampleFixture (.inr (.inl headed))
  exact ⟨config, encryptor, request, received, accepted, made, once, content, posts, read, opened⟩

end LogProbe.Ingest
