/-
**URLs.** A URL has a scheme, perhaps an authority, a path, perhaps a query and a fragment. Its
parts are kept in encoded form, so that its text is their concatenation.

* `Url` and `Url.text` — the type and the text.
* `Url.Path` — a path that is a list of components, or a text without inner structure.
* `Url.Path.descend`, `Url.Path.push` — a path with one more component; `..` leads back up and `.`
  leads nowhere.
* `Url.Path.enterDrive?` — the drive at the beginning of a path in the scheme `file`.
* `Url.withSegments?` — a URL with further components at the end of its path.
* `Url.withQuery` — a URL with further pairs in its query.
* `Url.signIn?`, `Url.withoutUserinfo` — who is signed in by a URL, and the URL without that.
-/

import LogProbe.Url.Host

namespace LogProbe

namespace Url

/-- The path of a URL: the components after its slashes, or a text. -/
inductive Path where
  | components (items : List (List Char))
  | plain (text : List Char)
deriving DecidableEq

/-- Who is addressed: in encoded form the user and password, if they are not empty, the host, if it
is not empty, and the port, if it is not the usual one of the scheme. -/
structure Authority where
  user : List Char
  password : Option (List Char)
  host : Option Host
  port : Option Nat
deriving DecidableEq

end Url

/-- A URL. -/
structure Url where
  scheme : String
  authority : Option Url.Authority
  path : Url.Path
  query : Option (List Char)
  fragment : Option (List Char)
deriving DecidableEq

namespace Url

/-- The schemes in which a backslash divides like a slash and a host has a form. -/
def isSpecial (scheme : String) : Bool :=
  ["http", "https", "ws", "wss", "ftp", "file"].contains scheme

/-- The usual port of a scheme. -/
def defaultPort? (scheme : String) : Option Nat :=
  [("http", 80), ("https", 443), ("ws", 80), ("wss", 443), ("ftp", 21)].lookup scheme

/-- Tabs and line breaks do not count in a URL. -/
def isIgnored (c : Char) : Bool := c == '\t' || c == '\n' || c == '\r'

/-- The characters of a text that count in a URL. -/
def significant (text : List Char) : List Char := text.filter fun c => !isIgnored c

namespace Path

/-- A letter and a colon or bar. -/
def isDrive (component : List Char) : Bool :=
  match component with
  | [letter, mark] => letter.isAlpha && (mark == ':' || mark == '|')
  | _ => false

/-- A drive, alone or in front of a backslash. No step up leads out of it. -/
def beginsWithDrive (component : List Char) : Bool :=
  match component with
  | letter :: mark :: rest =>
    isDrive [letter, mark] && (rest == [] || rest.head? == some '\\')
  | _ => false

/-- The ways to write one dot. -/
def isDot (component : List Char) : Bool :=
  [['.'], ['%', '2', 'e']].contains (component.map Char.toLower)

/-- The ways to write two dots. -/
def isDotDot (component : List Char) : Bool :=
  [['.', '.'], ['.', '%', '2', 'e'], ['%', '2', 'e', '.'],
    ['%', '2', 'e', '%', '2', 'e']].contains (component.map Char.toLower)

/-- The components without the last one, unless that begins with a drive. -/
def ascend (items : List (List Char)) : List (List Char) :=
  match items.getLast? with
  | some last => if beginsWithDrive last then items else items.dropLast
  | none => []

/-- The components after a component that a slash follows. -/
def descend (items : List (List Char)) (component : List Char) : List (List Char) :=
  if isDotDot component then ascend items
  else if isDot component then items
  else items ++ [component]

/-- The components after a last component; where dots lead is closed by an empty one. -/
def finish (items : List (List Char)) (component : List Char) : List (List Char) :=
  if isDotDot component then ascend items ++ [[]]
  else if isDot component then items ++ [[]]
  else items ++ [component]

/-- The components of a path given component by component. -/
def resolve : List (List Char) → List (List Char) → List (List Char)
  | items, [] => items
  | items, [last] => finish items last
  | items, component :: next :: rest => resolve (descend items component) (next :: rest)

/-- The letter of a drive and the characters after it, in a text that does not end there: a tab or
line break directly behind the colon cuts the drive off. -/
def cutDrive? (text : List Char) : Option (Char × List Char) :=
  match text.dropWhile isIgnored with
  | [] => none
  | letter :: rest =>
    match rest.dropWhile isIgnored with
    | ':' :: c :: rest =>
      if letter.isAlpha ∧ isIgnored c ∧ significant rest ≠ [] then some (letter, significant rest)
      else none
    | _ => none

/-- The components of a text that is a drive, or that begins with one that is cut off. A drive is
written with a colon. -/
def driveItems? (set : Percent.Set) (text : List Char) : Option (List (List Char)) :=
  match significant text with
  | [letter, mark] => if isDrive [letter, mark] then some [[letter, ':']] else none
  | _ => (cutDrive? text).map fun (letter, rest) => [[letter, ':'], Percent.encode set rest]

/-- The components in the scheme `file` after a text that brings in a drive, which only the first
one of a path does. -/
def enterDrive? (set : Percent.Set) (items : List (List Char)) (text : List Char) :
    Option (List (List Char)) :=
  if items = [] then driveItems? set text else none

/-- The components without empty ones at the beginning; a lone slash is left of nothing else. -/
def dropLeadingEmpty (items : List (List Char)) : List (List Char) :=
  match items.dropWhile (· = []) with
  | [] => [[]]
  | items => items

/-- The text of a path. -/
def text : Path → List Char
  | components items => items.flatMap fun item => '/' :: item
  | plain text => text

end Path

/-- The user and password in front of a host. -/
def Authority.userinfo (authority : Authority) : List Char :=
  match authority.user, authority.password with
  | [], none => []
  | user, none => user ++ ['@']
  | user, some password => user ++ ':' :: password ++ ['@']

/-- The text of an authority. -/
def Authority.text (authority : Authority) : List Char :=
  let host := match authority.host with
    | some host => host.text.toList
    | none => []
  let port := match authority.port with
    | some port => ':' :: Nat.toDigits 10 port
    | none => []
  authority.userinfo ++ host ++ port

/-- What stands between the scheme and the path. Without an authority, a path that begins with two
slashes is kept apart from one by a dot. -/
def origin (url : Url) : List Char :=
  match url.authority, url.path with
  | some authority, _ => '/' :: '/' :: authority.text
  | none, .components ([] :: _ :: _) => ['/', '.']
  | none, _ => []

/-- The query and fragment with their marks. -/
def suffix (url : Url) : List Char :=
  let query := match url.query with
    | some query => '?' :: query
    | none => []
  let fragment := match url.fragment with
    | some fragment => '#' :: fragment
    | none => []
  query ++ fragment

/-- The text of a URL, character by character. -/
def chars (url : Url) : List Char :=
  url.scheme.toList ++ ':' :: url.origin ++ url.path.text ++ url.suffix

/-- The text of a URL. -/
def text (url : Url) : String := String.ofList url.chars

/-- Whether components can be added to the path: whether the text has a slash after the scheme. -/
def isBase (url : Url) : Bool :=
  match url.authority, url.path with
  | some _, _ => true
  | none, .components _ => true
  | none, .plain _ => false

/-- The host of a URL. -/
def host? (url : Url) : Option Host := url.authority.bind Authority.host

/-- The set of characters that a component of a path encodes. -/
def componentSet (scheme : String) : Percent.Set :=
  if isSpecial scheme then Percent.specialComponent else Percent.component

/-- A path with one more component. The components `.` and `..` are left out; what only becomes one
of them without tabs and line breaks is followed. An empty path or a lone slash gives way. In the
scheme `file` the first component may bring in a drive, and empty ones before it are dropped. -/
def Path.push (scheme : String) (items : List (List Char)) (segment : String) :
    List (List Char) :=
  if segment = "." ∨ segment = ".." then items
  else
    let set := componentSet scheme
    let items := if items = [[]] then [] else items
    let finished := Path.finish items (Percent.encode set (significant segment.toList))
    if scheme = "file" then
      Path.dropLeadingEmpty ((Path.enterDrive? set items segment.toList).getD finished)
    else finished

/-- A path without an empty component at its end, unless it is a lone slash. -/
def Path.popIfEmpty (items : List (List Char)) : List (List Char) :=
  match items with
  | _ :: _ :: _ => if items.getLast? = some [] then items.dropLast else items
  | _ => items

/-- The URL with further components at the end of its path, in place of an empty last one. -/
def withSegments? (url : Url) (segments : List String) : Option Url :=
  if url.isBase then
    match url.path with
    | .components items =>
      some { url with
        path := .components (segments.foldl (Path.push url.scheme) (Path.popIfEmpty items)) }
    | .plain _ => none
  else none

/-- Pairs of a name and a value as they stand in a query. -/
def formPairs (pairs : List (String × String)) : List Char :=
  List.intercalate ['&'] <| pairs.map fun pair =>
    Percent.formEncode pair.1.toList ++ '=' :: Percent.formEncode pair.2.toList

/-- The URL with further pairs at the end of its query; without pairs it is unchanged. -/
def withQuery (url : Url) (pairs : List (String × String)) : Url :=
  if pairs = [] then url
  else
    match url.query with
    | none | some [] => { url with query := some (formPairs pairs) }
    | some query => { url with query := some (query ++ '&' :: formPairs pairs) }

/-- Whether the scheme is one of the two of HTTP. -/
def isHttp (url : Url) : Bool := url.scheme == "http" || url.scheme == "https"

/-- Who is signed in by a URL: a user that is text, and a password if it is text. There is nobody
where both are missing. -/
def signIn? (url : Url) : Option (String × Option String) := do
  let authority ← url.authority
  let user ← Utf8.decode? (Percent.decode authority.user)
  let password := authority.password.bind fun password => Utf8.decode? (Percent.decode password)
  if user = [] ∧ password = none then none
  else some (String.ofList user, password.map String.ofList)

/-- The URL without user and password. -/
def withoutUserinfo (url : Url) : Url :=
  { url with
    authority := url.authority.map fun authority =>
      { authority with user := [], password := none } }

end Url

end LogProbe
