/-
**Ingest reports.** The service reports, stream by stream, how many records it took and how many it
rejected.

* `IngestReport.toValue`, `IngestReport.ofDocument?` — the report in JSON.
* `IngestReport.ofResponse` — the report in a response; a body that is none stands for a report
  without streams.
* `IngestReport.successful?`, `IngestReport.failed?` — the totals, as long as they fit into 64 bits.
* `IngestReport.logFailures` — logs every stream that rejected records.
-/

import LogProbe.Probe.Basic
import LogProbe.Service.Status

namespace LogProbe

open Json

/-- What became of the records of one stream. -/
structure StreamStatus where
  name : String
  successful : UInt64
  failed : UInt64
  error : Option String
deriving DecidableEq

/-- What became of a batch. -/
structure IngestReport where
  code : UInt16
  streams : List StreamStatus
deriving DecidableEq

/-- The sum of two counts, if it is a count. -/
def checkedAdd (left right : UInt64) : Option UInt64 :=
  if left.toNat + right.toNat < UInt64.size then some (left + right) else none

/-- The sum of counts, if all the sums on the way are counts. -/
def checkedSum (counts : List UInt64) : Option UInt64 := counts.foldlM checkedAdd 0

/-- How a sum that is no count ends a probe. -/
def overflowText : String := "attempt to add with overflow"

/-- A sum, or the panic where there is none. -/
def Probe.ofSum : Option UInt64 → Probe UInt64
  | some sum => .done sum
  | none => .panicked overflowText

namespace StreamStatus

/-- A stream as a value. -/
def toValue (status : StreamStatus) : Value :=
  .object <| [("name", .string status.name),
    ("successful", .natural status.successful.toNat),
    ("failed", .natural status.failed.toNat)] ++ optionalField "error" status.error

/-- A count from a document. -/
def count? (document : Document) : Option UInt64 := do
  let value ← document.natural? UInt64.size
  some (UInt64.ofNat value)

/-- A stream from a document. -/
def ofDocument? (document : Document) : Option StreamStatus := do
  match ← document.record? ["name", "successful", "failed", "error"] with
  | [name, successful, failed, error] =>
    let name ← Document.required? Document.text? name
    let successful ← Document.defaulted? 0 count? successful
    let failed ← Document.defaulted? 0 count? failed
    let error ← Document.optional? Document.text? error
    some ⟨name, successful, failed, error⟩
  | _ => none

/-- What is logged of a stream that rejected records. -/
def failureText (status : StreamStatus) (records : UInt64) : String :=
  s!"Stream {status.name} rejected {status.failed} of {records} records: " ++
    status.error.getD "no reason given"

end StreamStatus

namespace IngestReport

/-- A report as a value. -/
def toValue (report : IngestReport) : Value :=
  .object [("code", .natural report.code.toNat),
    ("status", .array (report.streams.map StreamStatus.toValue))]

/-- The streams of a document. -/
def streams? (document : Document) : Option (List StreamStatus) := do
  let items ← document.items?
  items.mapM StreamStatus.ofDocument?

/-- A report from a document. -/
def ofDocument? (document : Document) : Option IngestReport := do
  match ← document.record? ["code", "status"] with
  | [code, streams] =>
    let code ← Document.required? statusCode? code
    let streams ← Document.defaulted? [] streams? streams
    some ⟨code, streams⟩
  | _ => none

/-- The report in a byte string. -/
def ofBytes? (bytes : Bytes) : Option IngestReport := do
  let document ← Document.read? bytes
  ofDocument? document

/-- The report in a response, or one that has nothing but the status of the response. -/
def ofResponse (response : Http.Response) : IngestReport :=
  (ofBytes? response.body).getD ⟨response.status.code, []⟩

/-- How many records were taken. -/
def successful? (report : IngestReport) : Option UInt64 :=
  checkedSum (report.streams.map (·.successful))

/-- How many records were rejected. -/
def failed? (report : IngestReport) : Option UInt64 :=
  checkedSum (report.streams.map (·.failed))

/-- Logs those of the streams that rejected records. -/
def logStreams : List StreamStatus → Probe Unit
  | [] => pure ()
  | status :: rest =>
    if 0 < status.failed then do
      let records ← Probe.ofSum (checkedAdd status.failed status.successful)
      Probe.log .warn (status.failureText records)
      logStreams rest
    else logStreams rest

/-- Logs every stream that rejected records. -/
def logFailures (report : IngestReport) : Probe Unit := logStreams report.streams

end IngestReport

end LogProbe
