/-
**Ingestion of encrypted logs.**

* `Ingest.send` — posts a batch to a stream.
* `Ingest.encrypted` — encrypts the log texts of a batch and posts it; any answer but 200 is a
  failure.
* `Ingest.encryptedLogs` — does so with the configured fixture.
-/

import LogProbe.Ingest.Report
import LogProbe.Session

namespace LogProbe.Ingest

/-- The field that is encrypted. -/
def encryptedField : String := "log"

/-- Posts a batch to a stream, whatever the answer. -/
def send (session : Session) (stream : String) (batch : Batch) : Probe Http.Response := do
  Probe.log .info s!"Ingesting {batch.size} records into stream {stream}"
  session.post [stream, "_json"] batch.toValue

/-- Logs what became of a batch. -/
def summarize (stream : String) (report : IngestReport) : Probe Unit := do
  report.logFailures
  let successful ← Probe.ofSum report.successful?
  let failed ← Probe.ofSum report.failed?
  Probe.log .info s!"Ingested into {stream}: {successful} successful, {failed} failed"

/-- Encrypts the log texts of a batch and posts it. -/
def encrypted (session : Session) (stream : String) (batch : Batch)
    (encryptor : FieldEncryptor) : Probe IngestReport :=
  match batch.encryptField encryptor encryptedField with
  | (.error error, _) => .failed (.batch error)
  | (.ok count, batch) => do
    Probe.log .info
      s!"Encrypted {count} of {batch.size} records ({encryptor.variant.name} variant)"
    let response ← send session stream batch
    let response ← Probe.demand response.expectOk
    let report := IngestReport.ofResponse response
    summarize stream report
    pure report

/-- Encrypts the log texts of the configured fixture, whose file has the given content, and posts
them to the configured stream. -/
def encryptedLogs (session : Session) (config : Config) (content : Option Bytes) :
    Probe IngestReport := do
  let encryptor ← Probe.orFail .cipher (FieldEncryptor.ofKeyset config.keyset config.variant)
  let batch ← Probe.orFail .fixture (config.fixture.load content)
  encrypted session config.stream batch encryptor

end LogProbe.Ingest
