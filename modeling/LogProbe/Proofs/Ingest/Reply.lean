/-
**Replies come back from JSON.** What a report is read from is a grammar of documents; a body with
such a document gives the report, and any other body gives one with nothing but the status of the
response. What is written of a report is in the grammar, also with other fields in it.

* `StreamStatus.IsDescribedBy`, `IngestReport.IsDescribedBy` — the grammar, and
  `IngestReport.ofDocument?_eq_some_iff`, which says that it is what is read.
* `IngestReport.IsWidenedTo` — the value of a report with other fields besides its own.
* `IngestReport.isDescribedBy_of_spells`, `ServiceStatus.ofDocument?_of_spells` — what is written
  comes back.
* `IngestReport.ofResponse_of_replies` — the law of replies.
-/

import LogProbe.Ingest.Report
import LogProbe.Proofs.Json.Record
import LogProbe.Proofs.Json.RoundTrip

namespace LogProbe

open Json

/-! ### Numbers of a width -/

theorem statusCode?_eq_some_iff {document : Document} {code : UInt16} :
    statusCode? document = some code ↔ document.IsNatural code.toNat := by
  unfold statusCode?
  simp only [Option.bind_eq_bind, Option.bind_eq_some_iff, Option.some.injEq,
    Document.natural?_eq_some_iff (show UInt16.size ≤ UInt64.size by decide)]
  constructor
  · rintro ⟨value, ⟨natural, below⟩, rfl⟩
    rwa [UInt16.toNat_ofNat_of_lt' below]
  · exact fun natural => ⟨code.toNat, ⟨natural, code.toNat_lt⟩, UInt16.ofNat_toNat⟩

namespace StreamStatus

theorem count?_eq_some_iff {document : Document} {count : UInt64} :
    count? document = some count ↔ document.IsNatural count.toNat := by
  unfold count?
  simp only [Option.bind_eq_bind, Option.bind_eq_some_iff, Option.some.injEq,
    Document.natural?_eq_some_iff (le_refl UInt64.size)]
  constructor
  · rintro ⟨value, ⟨natural, below⟩, rfl⟩
    rwa [UInt64.toNat_ofNat_of_lt' below]
  · exact fun natural => ⟨count.toNat, ⟨natural, count.toNat_lt⟩, UInt64.ofNat_toNat⟩

/-! ### The grammar -/

/-- The fields of a stream. -/
def fieldNames : List String := ["name", "successful", "failed", "error"]

/-- A field that holds a count, or is missing for the count zero. -/
def IsCount (given : Option Document) (count : UInt64) : Prop :=
  (given = none ∧ count = 0) ∨
    ∃ document, given = some document ∧ document.IsNatural count.toNat

/-- **A document describes a stream**: it gives its name, perhaps its counts and perhaps an error
text. -/
def IsDescribedBy (status : StreamStatus) (document : Document) : Prop :=
  ∃ name successful failed error,
    document.Gives fieldNames [some name, successful, failed, error] ∧
      name.IsText status.name ∧ IsCount successful status.successful ∧
      IsCount failed status.failed ∧ Document.IsTextOrNone error status.error

theorem isCount_iff {given : Option Document} {count : UInt64} :
    Document.defaulted? 0 count? given = some count ↔ IsCount given count := by
  simp only [Document.defaulted?_eq_some_iff, count?_eq_some_iff, IsCount]

/-- What is read of a stream is what the document describes. -/
theorem ofDocument?_eq_some_iff {document : Document} {status : StreamStatus} :
    ofDocument? document = some status ↔ status.IsDescribedBy document := by
  constructor
  · intro read
    obtain ⟨given, record, read⟩ := Option.bind_eq_some_iff.mp read
    split at read
    · rename_i name successful failed error
      obtain ⟨name, readName, read⟩ := Option.bind_eq_some_iff.mp read
      obtain ⟨successful, readSuccessful, read⟩ := Option.bind_eq_some_iff.mp read
      obtain ⟨failed, readFailed, read⟩ := Option.bind_eq_some_iff.mp read
      obtain ⟨error, readError, built⟩ := Option.bind_eq_some_iff.mp read
      cases built
      obtain ⟨text, rfl, readText⟩ := Document.required?_eq_some_iff.mp readName
      exact ⟨text, _, _, _, Document.record?_eq_some_iff.mp record,
        Document.text?_eq_some_iff.mp readText, isCount_iff.mp readSuccessful,
        isCount_iff.mp readFailed, Document.optional?_eq_some_iff.mp readError⟩
    · cases read
  · rintro ⟨name, successful, failed, error, gives, isText, isSuccessful, isFailed, isError⟩
    unfold ofDocument?
    rw [show ["name", "successful", "failed", "error"] = fieldNames from rfl,
      Document.record?_eq_some_iff.mpr gives]
    simp only [Option.bind_eq_bind, Option.bind_some, Document.required?,
      Document.text?_eq_some_iff.mpr isText, isCount_iff.mpr isSuccessful,
      isCount_iff.mpr isFailed, Document.optional?_eq_some_iff.mpr isError]

end StreamStatus

namespace IngestReport

/-- The fields of a report. -/
def fieldNames : List String := ["code", "status"]

/-- **A document describes a report**: it gives its code, and perhaps an array with a document for
each of its streams. -/
def IsDescribedBy (report : IngestReport) (document : Document) : Prop :=
  ∃ code streams, document.Gives fieldNames [some code, streams] ∧
    code.IsNatural report.code.toNat ∧
    ((streams = none ∧ report.streams = []) ∨
      ∃ documents, streams = some (.array documents) ∧
        List.Forall₂ StreamStatus.IsDescribedBy report.streams documents)

theorem streams?_eq_some_iff {document : Document} {streams : List StreamStatus} :
    streams? document = some streams ↔ ∃ documents, document = .array documents ∧
      List.Forall₂ StreamStatus.IsDescribedBy streams documents := by
  have each (documents : List Document) :
      documents.mapM StreamStatus.ofDocument? = some streams ↔
        List.Forall₂ StreamStatus.IsDescribedBy streams documents := by
    rw [mapM_eq_some_iff]
    simp only [StreamStatus.ofDocument?_eq_some_iff]
    exact ⟨.flip, .flip⟩
  constructor
  · intro read
    cases document with
    | array documents => exact ⟨documents, rfl, (each documents).mp read⟩
    | null | boolean | number | string | object => cases read
  · rintro ⟨documents, rfl, described⟩
    exact (each documents).mpr described

/-- **What is read of a report is what the document describes.** -/
theorem ofDocument?_eq_some_iff {document : Document} {report : IngestReport} :
    ofDocument? document = some report ↔ report.IsDescribedBy document := by
  constructor
  · intro read
    obtain ⟨given, record, read⟩ := Option.bind_eq_some_iff.mp read
    split at read
    · obtain ⟨code, readCode, read⟩ := Option.bind_eq_some_iff.mp read
      obtain ⟨streams, readStreams, built⟩ := Option.bind_eq_some_iff.mp read
      cases built
      obtain ⟨number, rfl, readNumber⟩ := Document.required?_eq_some_iff.mp readCode
      refine ⟨number, _, Document.record?_eq_some_iff.mp record,
        statusCode?_eq_some_iff.mp readNumber, ?_⟩
      refine (Document.defaulted?_eq_some_iff.mp readStreams).imp_right ?_
      rintro ⟨_, rfl, readItems⟩
      obtain ⟨documents, rfl, described⟩ := streams?_eq_some_iff.mp readItems
      exact ⟨documents, rfl, described⟩
    · cases read
  · rintro ⟨code, streams, gives, isCode, described⟩
    have readStreams : Document.defaulted? [] streams? streams = some report.streams := by
      refine Document.defaulted?_eq_some_iff.mpr (described.imp_right ?_)
      rintro ⟨documents, rfl, each⟩
      exact ⟨_, rfl, streams?_eq_some_iff.mpr ⟨documents, rfl, each⟩⟩
    unfold ofDocument?
    rw [show ["code", "status"] = fieldNames from rfl, Document.record?_eq_some_iff.mpr gives]
    simp only [Option.bind_eq_bind, Option.bind_some, Document.required?,
      statusCode?_eq_some_iff.mpr isCode, readStreams]

end IngestReport

/-! ### What is written -/

namespace StreamStatus

/-- The value of a stream with other fields besides its own. They hold anything, and stand
anywhere. -/
def IsWidenedTo (status : StreamStatus) (wide : Value) : Prop :=
  wide.Extends fieldNames status.toValue

/-- A document that spells a widened stream describes it. -/
theorem isDescribedBy_of_spells {status : StreamStatus} {wide : Value}
    (wider : status.IsWidenedTo wide) {document : Document} (spells : document.Spells wide) :
    status.IsDescribedBy document := by
  obtain ⟨given, gives, each⟩ : ∃ given, document.Gives fieldNames given ∧
      List.Forall₂ (Option.Rel Document.Spells) given [some (.string status.name),
        some (.natural status.successful.toNat), some (.natural status.failed.toNat),
        status.error.map .string] := by
    refine Document.exists_gives_of_spells spells wider ?_
    cases status.error <;> simp [fieldNames, OnlyOf, optionalField]
  rcases each with _ | ⟨⟨name⟩, _ | ⟨⟨successful⟩, _ | ⟨⟨failed⟩, _ | ⟨error, ⟨⟩⟩⟩⟩⟩
  refine ⟨_, _, _, _, gives, Document.isText_of_spells name,
    .inr ⟨_, rfl, Document.isNatural_of_spells successful⟩,
    .inr ⟨_, rfl, Document.isNatural_of_spells failed⟩, ?_⟩
  exact Document.isTextOrNone_of_spells error

/-- Documents that spell widened streams describe them, one by one. -/
theorem forall₂_isDescribedBy_of_spells {documents : List Document} {wides : List Value}
    (spell : List.Forall₂ Document.Spells documents wides) {statuses : List StreamStatus}
    (wider : List.Forall₂ IsWidenedTo statuses wides) :
    List.Forall₂ IsDescribedBy statuses documents := by
  induction spell generalizing statuses with
  | nil =>
    cases wider
    exact .nil
  | cons spells _ ih =>
    cases wider with
    | cons first others => exact .cons (isDescribedBy_of_spells first spells) (ih others)

end StreamStatus

namespace IngestReport

/-- The value of a report with other fields besides its own, and besides those of its streams. -/
def IsWidenedTo (report : IngestReport) (wide : Value) : Prop :=
  ∃ streams, List.Forall₂ StreamStatus.IsWidenedTo report.streams streams ∧
    wide.Extends fieldNames
      (.object [("code", .natural report.code.toNat), ("status", .array streams)])

/-- The value of a report is widened to itself. -/
theorem isWidenedTo_toValue (report : IngestReport) : report.IsWidenedTo report.toValue := by
  refine ⟨report.streams.map StreamStatus.toValue, ?_, Value.extends_refl _ _⟩
  refine List.forall₂_map_right_iff.mpr (List.forall₂_same.mpr fun status _ => ?_)
  exact Value.extends_refl _ _

/-- **A document that spells a widened report describes it.** -/
theorem isDescribedBy_of_spells {report : IngestReport} {wide : Value}
    (widened : report.IsWidenedTo wide) {document : Document} (spells : document.Spells wide) :
    report.IsDescribedBy document := by
  obtain ⟨streams, wider, whole⟩ := widened
  obtain ⟨given, gives, each⟩ : ∃ given, document.Gives fieldNames given ∧
      List.Forall₂ (Option.Rel Document.Spells) given
        [some (.natural report.code.toNat), some (.array streams)] :=
    Document.exists_gives_of_spells spells whole (by simp [fieldNames, OnlyOf])
  rcases each with _ | ⟨⟨code⟩, _ | ⟨⟨items⟩, ⟨⟩⟩⟩
  obtain ⟨documents, rfl, spelled⟩ := Document.exists_items_of_spells items
  exact ⟨_, _, gives, Document.isNatural_of_spells code,
    .inr ⟨documents, rfl, StreamStatus.forall₂_isDescribedBy_of_spells spelled wider⟩⟩

/-- What a response stands for, by the document in its body. -/
theorem ofResponse_of_isDescribedBy {response : Http.Response} {document : Document}
    (read : Document.read? response.body = some document) {report : IngestReport}
    (described : report.IsDescribedBy document) : ofResponse response = report := by
  unfold ofResponse ofBytes?
  simp only [read, Option.bind_eq_bind, Option.bind_some, ofDocument?_eq_some_iff.mpr described,
    Option.getD_some]

/-- A response whose body describes no report stands for its status. -/
theorem ofResponse_of_not {response : Http.Response}
    (none : ∀ document report, Document.read? response.body = some document →
      ¬ IsDescribedBy report document) : ofResponse response = ⟨response.status.code, []⟩ := by
  have missing : ofBytes? response.body = Option.none := by
    refine Option.eq_none_iff_forall_ne_some.mpr fun report found => ?_
    obtain ⟨document, read, described⟩ := Option.bind_eq_some_iff.mp found
    exact none document report read (ofDocument?_eq_some_iff.mp described)
  unfold ofResponse
  rw [missing, Option.getD_none]

end IngestReport

/-- A document that spells a status envelope is read as that. -/
theorem ServiceStatus.ofDocument?_of_spells {status : ServiceStatus} {document : Document}
    (spells : document.Spells status.toValue) : ofDocument? document = some status := by
  obtain ⟨given, gives, each⟩ : ∃ given, document.Gives ["code", "message", "error"] given ∧
      List.Forall₂ (Option.Rel Document.Spells) given [some (.natural status.code.toNat),
        status.message.map .string, status.error.map .string] := by
    refine Document.exists_gives_of_spells spells (Value.extends_refl _ _) ?_
    cases status.message <;> cases status.error <;> simp [OnlyOf, optionalField]
  rcases each with _ | ⟨⟨code⟩, _ | ⟨message, _ | ⟨error, ⟨⟩⟩⟩⟩
  unfold ofDocument?
  rw [Document.record?_eq_some_iff.mpr gives]
  simp only [Option.bind_eq_bind, Option.bind_some, Document.required?,
    statusCode?_eq_some_iff.mpr (Document.isNatural_of_spells code),
    Document.optional?_eq_some_iff.mpr (Document.isTextOrNone_of_spells message),
    Document.optional?_eq_some_iff.mpr (Document.isTextOrNone_of_spells error)]

/-! ### The law of replies -/

namespace IngestReport

/-- **Replies come back from JSON**, whatever the status of the response is. A body that is the text
of a report gives that report, also with other fields in the report and in its streams; so does any
other body with a document that describes the report. A body that is the text of a status envelope
gives that envelope. A body without a document that describes a report gives one with the status of
the response and no streams. -/
theorem ofResponse_of_replies (response : Http.Response) :
    (∀ report : IngestReport, report.IsWidenedTo report.toValue ∧
      ∀ wide, report.IsWidenedTo wide → response.body = Utf8.bytesOf wide.text →
        ofResponse response = report) ∧
    (∀ (report : IngestReport) (document : Document),
      Document.read? response.body = some document → report.IsDescribedBy document →
        ofResponse response = report) ∧
    (∀ status : ServiceStatus, response.body = Utf8.bytesOf status.toValue.text →
      ServiceStatus.ofResponse? response = some status) ∧
    ((∀ document report, Document.read? response.body = some document →
        ¬ IsDescribedBy report document) →
      ofResponse response = ⟨response.status.code, []⟩) := by
  refine ⟨fun report => ⟨isWidenedTo_toValue report, fun wide widened body => ?_⟩,
    fun report document read described => ofResponse_of_isDescribedBy read described,
    fun status body => ?_, ofResponse_of_not⟩
  · obtain ⟨document, read, spells⟩ := Value.exists_read?_text wide
    rw [← body] at read
    exact ofResponse_of_isDescribedBy read (isDescribedBy_of_spells widened spells)
  · obtain ⟨document, read, spells⟩ := Value.exists_read?_text status.toValue
    rw [← body] at read
    unfold ServiceStatus.ofResponse?
    rw [read]
    exact ServiceStatus.ofDocument?_of_spells spells

/-- A report with one stream. -/
def sampleReport : IngestReport := ⟨200, [⟨"default", 3, 1, some "no \"log\""⟩]⟩

/-- The value of its stream, in another order and with a field that has no name. -/
def widenedStream : Value :=
  .object [("error", .string "no \"log\""), ("", .null), ("name", .string "default"),
    ("failed", .natural 1), ("successful", .natural 3)]

/-- The value of the report, with a field that holds a binary64 number. -/
def widenedSample : Value :=
  .object [("took", .array [.number (.real ⟨true, ⟨1, -1⟩⟩), .object []]),
    ("status", .array [widenedStream]), ("code", .natural 200)]

theorem isWidenedTo_widenedSample : sampleReport.IsWidenedTo widenedSample := by
  refine ⟨[widenedStream], .cons ⟨_, _, rfl, rfl, ?_⟩ .nil, ⟨_, _, rfl, rfl, ?_⟩⟩
  · simp [StreamStatus.fieldNames, optionalField]
  · simp [fieldNames, sampleReport]

/-- A response to a request that posted a batch. -/
def sampleReply (status : Http.Status) (body : Bytes) : Http.Response :=
  ⟨.post, ⟨"http", none, .components [], none, none⟩, status, body⟩

/-- The widened report, a report given as an array, a status envelope and no document at all. -/
theorem ofResponse_of_replies_sample :
    ofResponse (sampleReply .ok (Utf8.bytesOf widenedSample.text)) = sampleReport ∧
      ofResponse (sampleReply .ok (Utf8.bytesOf (Value.array [.natural 200]).text)) = ⟨200, []⟩ ∧
      ServiceStatus.ofResponse? (sampleReply .notFound
        (Utf8.bytesOf (ServiceStatus.toValue ⟨404, none, some "gone"⟩).text)) =
          some ⟨404, none, some "gone"⟩ ∧
      ofResponse (sampleReply .notFound [0x7B]) = ⟨404, []⟩ := by
  have law (status : Http.Status) (body : Bytes) := ofResponse_of_replies (sampleReply status body)
  have whole (status : Http.Status) (body : Bytes) : (sampleReply status body).body = body := rfl
  refine ⟨?_, ?_, ?_, ?_⟩
  · have widened := (law .ok (Utf8.bytesOf widenedSample.text)).1 sampleReport
    exact widened.2 widenedSample isWidenedTo_widenedSample (whole _ _)
  · obtain ⟨document, read, spells⟩ := Value.exists_read?_text (.array [.natural 200])
    obtain ⟨documents, rfl, each⟩ := Document.exists_items_of_spells spells
    rcases each with _ | ⟨number, ⟨⟩⟩
    refine (law .ok _).2.1 ⟨200, []⟩ _ read ?_
    exact ⟨_, none, Document.record?_eq_some_iff.mp rfl, Document.isNatural_of_spells number,
      .inl ⟨rfl, rfl⟩⟩
  · exact (law .notFound _).2.2.1 ⟨404, none, some "gone"⟩ (whole _ _)
  · refine (law .notFound [0x7B]).2.2.2 fun document report read => ?_
    cases read

end IngestReport

end LogProbe
