/-
**The configuration of a probe.** It is looked up under eight names; a value of nothing but white
space counts as not set.

* `Setting` — the eight names.
* `Config` — what a probe has to know about the service.
* `Config.baseUrl` — the base URL of a text, which is made to end with a slash first.
* `Config.ofLookup` — the configuration, or the error of the first setting that is wrong.
-/

import LogProbe.Ingest.Fixture
import LogProbe.Url.Parse

namespace LogProbe

/-- What can be set. -/
inductive Setting where
  | baseUrl
  | user
  | password
  | org
  | stream
  | variant
  | keyset
  | fixture
deriving DecidableEq

/-- The name under which a setting is looked up. -/
def Setting.name : Setting → String
  | baseUrl => "ZO_BASE_URL"
  | user => "ZO_ROOT_USER_EMAIL"
  | password => "ZO_ROOT_USER_PASSWORD"
  | org => "ZO_ORG"
  | stream => "ZO_STREAM"
  | variant => "ZO_CIPHER_KEY_TYPE"
  | keyset => "ZO_CIPHER_KEYSET"
  | fixture => "ZO_LOGS_FIXTURE"

/-- Who signs in. -/
structure Credentials where
  user : String
  password : String
deriving DecidableEq

/-- Credentials as they are shown, without the password. -/
def Credentials.shown (credentials : Credentials) : String :=
  "Credentials \x7b user: " ++ Text.quoted credentials.user ++
    ", password: \"<redacted>\" \x7d"

/-- What a probe has to know about the service. -/
structure Config where
  baseUrl : Url
  org : String
  stream : String
  credentials : Option Credentials
  variant : Variant
  keyset : Keyset
  fixture : Fixture

namespace Config

/-- Why a text is no base URL. -/
inductive UrlFault where
  | unparsable (error : Url.ParseError)
  | notHttp (url : Url)
deriving DecidableEq

/-- A fault in words. -/
def UrlFault.message : UrlFault → String
  | unparsable error => error.message
  | notHttp url => s!"{url.text} is not an http(s) base URL"

/-- What can be wrong with a configuration. -/
inductive Error where
  | missing (setting : Setting)
  | invalidUrl (setting : Setting) (fault : UrlFault)
  | partialCredentials
  | variant (folded : String)
  | keyset (error : Keyset.Error)
deriving DecidableEq

/-- An error in words. -/
def Error.message : Error → String
  | missing setting => s!"{setting.name} must be set"
  | invalidUrl setting fault => s!"{setting.name} is not a valid URL: {fault.message}"
  | partialCredentials =>
    s!"{Setting.user.name} and {Setting.password.name} must be set together"
  | variant folded => Variant.unknown folded
  | keyset error => error.message

/-- A text that ends with a slash. -/
def closedBySlash (text : List Char) : List Char :=
  if text.getLast? = some '/' then text else text ++ ['/']

/-- The base URL of a text. -/
def baseUrlOf (text : String) : Except UrlFault Url :=
  match Url.parse (closedBySlash (Text.trim text).toList) with
  | .error error => .error (.unparsable error)
  | .ok url => if url.isBase && url.isHttp then .ok url else .error (.notHttp url)

/-- How settings are looked up by their names. -/
abbrev Lookup := String → Option String

/-- The value of a setting, if it is set and not blank. -/
def value? (lookup : Lookup) (setting : Setting) : Option String :=
  (lookup setting.name).filter fun value => !Text.isAllBlank value

/-- The credentials, which are set together or not at all. -/
def credentialsOf : Option String → Option String → Except Error (Option Credentials)
  | some user, some password => .ok (some ⟨user, password⟩)
  | none, none => .ok none
  | _, _ => .error .partialCredentials

/-- The configured base URL, which must be set. -/
def requiredBaseUrl : Option String → Except Error Url
  | none => .error (.missing .baseUrl)
  | some text =>
    match baseUrlOf text with
    | .error fault => .error (.invalidUrl .baseUrl fault)
    | .ok url => .ok url

/-- The configured variant. -/
def variantOf : Option String → Except Error Variant
  | none => .ok .tink
  | some text =>
    match Variant.ofText? text with
    | none => .error (.variant (Variant.folded text))
    | some variant => .ok variant

/-- The configured keyset. -/
def keysetOf (text : Option String) : Except Error Keyset :=
  match (match text with
    | none => Keyset.embedded
    | some text => Keyset.ofText text) with
  | .error error => .error (.keyset error)
  | .ok keyset => .ok keyset

/-- The configuration that is looked up. -/
def ofLookup (lookup : Lookup) : Except Error Config := do
  let value := value? lookup
  let baseUrl ← requiredBaseUrl (value .baseUrl)
  let credentials ← credentialsOf (value .user) (value .password)
  let variant ← variantOf (value .variant)
  let keyset ← keysetOf (value .keyset)
  .ok {
    baseUrl, credentials, variant, keyset
    org := (value .org).getD "default"
    stream := (value .stream).getD "default"
    fixture := ((value .fixture).map Fixture.file).getD .bundled }

end Config

end LogProbe
