import LogProbe.Base64
import LogProbe.Bytes
import LogProbe.Cipher.Deterministic
import LogProbe.Cipher.FieldEncryptor
import LogProbe.Cipher.Variant
import LogProbe.Config
import LogProbe.Decimal.Binary64
import LogProbe.Decimal.Shortest
import LogProbe.Http.Request
import LogProbe.Http.Response
import LogProbe.Http.Status
import LogProbe.Ingest.Batch
import LogProbe.Ingest.Fixture
import LogProbe.Ingest.Report
import LogProbe.Ingest.Scenario
import LogProbe.Json.Document
import LogProbe.Json.Number
import LogProbe.Json.Record
import LogProbe.Json.Value
import LogProbe.Keyset.Basic
import LogProbe.Keyset.Json
import LogProbe.Probe.Basic
import LogProbe.Probe.Failure
import LogProbe.Probe.Run
import LogProbe.Proofs.Base64.Canonical
import LogProbe.Proofs.Base64.Grouping
import LogProbe.Proofs.Cipher.Acceptance
import LogProbe.Proofs.Cipher.Field
import LogProbe.Proofs.Cipher.Layout
import LogProbe.Proofs.Cipher.Loading
import LogProbe.Proofs.Cipher.Primary
import LogProbe.Proofs.Cipher.Rotation
import LogProbe.Proofs.Cipher.Uniqueness
import LogProbe.Proofs.Config.Acceptance
import LogProbe.Proofs.Config.BaseUrl
import LogProbe.Proofs.Http.Absence
import LogProbe.Proofs.Ingest.Batch
import LogProbe.Proofs.Ingest.Counts
import LogProbe.Proofs.Ingest.Course
import LogProbe.Proofs.Ingest.Effect
import LogProbe.Proofs.Ingest.Equality
import LogProbe.Proofs.Ingest.Reply
import LogProbe.Proofs.Ingest.Report
import LogProbe.Proofs.Ingest.Sealing
import LogProbe.Proofs.Ingest.Secrecy
import LogProbe.Proofs.Json.Empty
import LogProbe.Proofs.Json.Integer
import LogProbe.Proofs.Json.Normal
import LogProbe.Proofs.Json.Path
import LogProbe.Proofs.Json.Quoted
import LogProbe.Proofs.Json.Real
import LogProbe.Proofs.Json.Record
import LogProbe.Proofs.Json.RoundTrip
import LogProbe.Proofs.Json.Spelling
import LogProbe.Proofs.Keyset.Material
import LogProbe.Proofs.Keyset.RoundTrip
import LogProbe.Proofs.Probe.Course
import LogProbe.Proofs.Probe.Interleaving
import LogProbe.Proofs.Probe.Redaction
import LogProbe.Proofs.Roles.Acquisition
import LogProbe.Proofs.Roles.Course
import LogProbe.Proofs.Roles.Isolation
import LogProbe.Proofs.Roles.Lifetime
import LogProbe.Proofs.Roles.Naming
import LogProbe.Proofs.Roles.Orphan
import LogProbe.Proofs.Roles.Reporting
import LogProbe.Proofs.Roles.Restoration
import LogProbe.Proofs.Roles.Sequence
import LogProbe.Proofs.Roles.Service
import LogProbe.Proofs.Roles.Target
import LogProbe.Proofs.Session.Call
import LogProbe.Proofs.Session.Location
import LogProbe.Proofs.Session.Password
import LogProbe.Proofs.Session.Place
import LogProbe.Proofs.Siv.Inverse
import LogProbe.Proofs.Text.Blank
import LogProbe.Proofs.Text.Spelling
import LogProbe.Proofs.Text.Utf8
import LogProbe.Proofs.Url.Authority
import LogProbe.Proofs.Url.Path
import LogProbe.Proofs.Url.Percent
import LogProbe.Proofs.Url.Segment
import LogProbe.Proofs.Wire.Message
import LogProbe.Proofs.Wire.Varint
import LogProbe.Roles.Client
import LogProbe.Roles.Name
import LogProbe.Roles.Scenario
import LogProbe.Roles.Scope
import LogProbe.Service.Status
import LogProbe.Session
import LogProbe.Siv.Aes
import LogProbe.Siv.Block
import LogProbe.Siv.Cmac
import LogProbe.Siv.Mode
import LogProbe.Text.Blank
import LogProbe.Text.CombiningClass
import LogProbe.Text.Composition
import LogProbe.Text.Direction
import LogProbe.Text.Folded
import LogProbe.Text.Hidden
import LogProbe.Text.Joining
import LogProbe.Text.Mark
import LogProbe.Text.Quoted
import LogProbe.Text.Range
import LogProbe.Text.Utf8
import LogProbe.Url.Basic
import LogProbe.Url.Host
import LogProbe.Url.Label
import LogProbe.Url.Parse
import LogProbe.Url.Percent
import LogProbe.Url.Punycode
import LogProbe.Wire.Field
import LogProbe.Wire.KeyMaterial
import LogProbe.Wire.Varint
import LogProbe.Proofs.Session.SignIn
import LogProbe.Proofs.Url.Address
import LogProbe.Proofs.Url.Host
import LogProbe.Proofs.Url.Canonical
import LogProbe.Proofs.Url.Ending
import LogProbe.Proofs.Url.Punycode
import LogProbe.Proofs.Config.Stability
import LogProbe.Proofs.Session.Directory
import LogProbe.Proofs.Json.Token
import LogProbe.Proofs.Json.Grammar
import LogProbe.Proofs.Decimal.Range
import LogProbe.Proofs.Json.Meaning
import LogProbe.Proofs.Ingest.Wire
import LogProbe.Proofs.Ingest.Commutation
import LogProbe.Proofs.Siv.Substitution
