/-
**Reading URLs.** A text is read on its own, without a URL that it would be relative to: controls
and spaces at both ends and all tabs and line breaks are dropped, and each part is brought into its
encoded form.

* `Url.parse` — the URL of a text, or why it is none.
* `Url.readFile` — the authority and path of a URL in the scheme `file`, which may have a drive.
-/

import LogProbe.Url.Basic

namespace LogProbe.Url

/-- A control or a space. -/
def isControlOrSpace (c : Char) : Bool := c.toNat ≤ 0x20

/-- A text without controls and spaces at both ends. -/
def trimmed (text : List Char) : List Char :=
  ((text.dropWhile isControlOrSpace).reverse.dropWhile isControlOrSpace).reverse

/-- The characters of a scheme after its first letter. -/
def isSchemeChar (c : Char) : Bool := c.isAlphanum || c == '+' || c == '-' || c == '.'

/-- The scheme in front of the first colon, in lower case. -/
def readScheme? (text : List Char) : Option String :=
  match text with
  | [] => none
  | first :: _ =>
    let name := text.takeWhile isSchemeChar
    match first.isAlpha, text.dropWhile isSchemeChar with
    | true, ':' :: _ => some (String.ofList (name.map Char.toLower))
    | _, _ => none

/-- A slash, or what stands for one in a special scheme. -/
def isSlash (special : Bool) (c : Char) : Bool := c == '/' || (special && c == '\\')

/-- The marks that end an authority. -/
def endsAuthority (special : Bool) (c : Char) : Bool := isSlash special c || c == '?' || c == '#'

/-- A text up to the last occurrence of a character, if it holds one. -/
def splitAtLast? (mark : Char) (text : List Char) : Option (List Char) :=
  match text.reverse.dropWhile (· != mark) with
  | [] => none
  | _ :: front => some front.reverse

/-- The user and password in front of a host. An empty password is none. -/
def readUserinfo (text : List Char) : List Char × Option (List Char) :=
  let encode := Percent.encode Percent.userinfo
  let user := text.takeWhile (· != ':')
  match text.dropWhile (· != ':') with
  | _ :: c :: rest => (encode user, some (encode (c :: rest)))
  | _ => (encode user, none)

/-- The text of a host, and what follows it. A colon between brackets does not end it. -/
def readHostText (special : Bool) : Bool → List Char → List Char × List Char
  | _, [] => ([], [])
  | bracketed, c :: rest =>
    if endsAuthority special c || (c == ':' && !bracketed) then ([], c :: rest)
    else
      let bracketed := if c = '[' then true else if c = ']' then false else bracketed
      let (host, rest) := readHostText special bracketed rest
      (c :: host, rest)

/-- The port after a colon: nothing, or a number of sixteen bits that is not the usual one. -/
def readPort (scheme : String) (digits rest : List Char) : Except ParseError (Option Nat) :=
  match rest with
  | c :: _ =>
    if ['/', '\\', '?', '#'].contains c then number else .error .invalidPort
  | [] => number
where
  number : Except ParseError (Option Nat) :=
    match numberIn? 10 digits with
    | none => .error .invalidPort
    | some value =>
      if 65535 < value then .error .invalidPort
      else if digits = [] ∨ some value = defaultPort? scheme then .ok none
      else .ok (some value)

/-- The user and password in front of a host, if there are any, and what follows them. A lone `@`
needs a host after it, unless the text ends there. -/
def splitUserinfo (special : Bool) (text : List Char) :
    Except ParseError ((List Char × Option (List Char)) × List Char) :=
  match splitAtLast? '@' (text.takeWhile fun c => !endsAuthority special c) with
  | none => .ok (([], none), text)
  | some userinfo =>
    match userinfo, text.drop (userinfo.length + 1) with
    | [], c :: rest =>
      if endsAuthority special c then .error .emptyHost else .ok (([], none), c :: rest)
    | userinfo, rest => .ok (readUserinfo userinfo, rest)

/-- The authority after two slashes, and what follows it. -/
def readAuthority (scheme : String) (text : List Char) :
    Except ParseError (Authority × List Char) := do
  let special := isSpecial scheme
  let ((user, password), rest) ← splitUserinfo special text
  let (hostText, rest) := readHostText special false rest
  if hostText = [] ∧ special then .error .emptyHost
  else
    let host ← if special then (Host.ofText hostText).map some else Host.opaqueHost hostText
    match rest with
    | ':' :: rest =>
      if host = none then .error .emptyHost
      else
        let port ← readPort scheme (rest.takeWhile isDecimal) (rest.dropWhile isDecimal)
        .ok (⟨user, password, host, port⟩, rest.dropWhile isDecimal)
    | rest =>
      if host = none ∧ (user ≠ [] ∨ password ≠ none) then .error .emptyHost
      else .ok (⟨user, password, host, none⟩, rest)

/-- The components between the slashes of a text, in encoded form. -/
def splitComponents (special : Bool) (text : List Char) : List (List Char) :=
  (text.splitOnP (isSlash special)).map (Percent.encode Percent.path)

/-- The path after an authority. A special scheme always has one. -/
def readPath (scheme : String) (text : List Char) : Path :=
  let special := isSpecial scheme
  match text with
  | [] => .components (if special then [[]] else [])
  | c :: rest =>
    .components (Path.resolve []
      (splitComponents special (if isSlash special c then rest else c :: rest)))

/-- What follows the slash that a text begins with. -/
def afterSlash? (text : List Char) : Option (List Char) :=
  match text.dropWhile isIgnored with
  | c :: rest => if isSlash true c then some rest else none
  | [] => none

/-- The components of a path in the scheme `file`, given text by text, and whether one of the texts
is a drive at its beginning. -/
def resolveFile (drive : Bool) (items : List (List Char)) :
    List (List Char) → List (List Char) × Bool
  | [] => (items, drive)
  | text :: rest =>
    match Path.enterDrive? Percent.path items text with
    | some items => resolveFile (drive || Path.isDrive (significant text)) items rest
    | none =>
      let component := Percent.encode Percent.path (significant text)
      if rest = [] then (Path.finish items component, drive)
      else resolveFile drive (Path.descend items component) rest

/-- The path in the scheme `file`, and whether a drive was entered at its beginning. Slashes at its
beginning count as one. -/
def readFilePath (text : List Char) : Path × Bool :=
  let (items, drive) := resolveFile false [] (text.splitOnP (isSlash true))
  (.components (Path.dropLeadingEmpty items), drive)

/-- An authority without a host. -/
def noHost : Authority := ⟨[], none, none, none⟩

/-- The authority and path in the scheme `file`. A host that is empty or `localhost` is left out,
and so is a host in front of a drive. Where there is no host, the path keeps the slash that it
begins with, so that a drive behind that slash is a component like any other. -/
def readFile (text : List Char) : Except ParseError (Authority × Path) := do
  match afterSlash? text with
  | none => .ok (noHost, (readFilePath text).1)
  | some rest =>
    match afterSlash? rest with
    | none => .ok (noHost, (readFilePath rest).1)
    | some text =>
      let hostText := significant (text.takeWhile fun c => !endsAuthority true c)
      let front := text.dropWhile fun c => !endsAuthority true c
      if Path.isDrive hostText then .ok (noHost, (readFilePath text).1)
      else if hostText = [] then .ok (noHost, (readFilePath front).1)
      else
        let host ← Host.ofText hostText
        if host = .domain "localhost" then .ok (noHost, (readFilePath front).1)
        else
          let (path, drive) := readFilePath ((afterSlash? front).getD front)
          .ok (if drive then noHost else ⟨[], none, some host, none⟩, path)

/-- A text up to its query or fragment, and those with their marks. -/
def splitFront (text : List Char) : List Char × List Char :=
  (text.takeWhile fun c => c != '?' && c != '#', text.dropWhile fun c => c != '?' && c != '#')

/-- The query and the fragment of a text that begins with the mark of one of them or is empty. -/
def splitSuffix (text : List Char) : Option (List Char) × Option (List Char) :=
  match text with
  | '?' :: rest =>
    match rest.dropWhile (· != '#') with
    | _ :: fragment => (some (rest.takeWhile (· != '#')), some fragment)
    | [] => (some rest, none)
  | _ :: fragment => (none, some fragment)
  | [] => (none, none)

/-- The authority and path of a URL in a scheme other than `file`, and what follows them. -/
def readOrigin (scheme : String) (text : List Char) :
    Except ParseError (Option Authority × Path × List Char) := do
  let slashed :=
    if isSpecial scheme then some (text.dropWhile (isSlash true))
    else
      match text with
      | '/' :: '/' :: rest => some rest
      | _ => none
  match slashed with
  | some text =>
    let (authority, rest) ← readAuthority scheme text
    let (front, suffix) := splitFront rest
    .ok (some authority, readPath scheme front, suffix)
  | none =>
    match splitFront text with
    | ('/' :: front, suffix) =>
      .ok (none, .components (Path.resolve [] (splitComponents false front)), suffix)
    | (front, suffix) => .ok (none, .plain (Percent.encode Percent.controls front), suffix)

/-- What a URL is made of after its scheme, from the text after the colon. Only in the scheme `file`
do tabs and line breaks count, for what they cut off a drive. -/
def readRest (scheme : String) (text : List Char) :
    Except ParseError (Option Authority × Path × List Char) := do
  if scheme = "file" then
    let (front, suffix) := splitFront text
    let (authority, path) ← readFile front
    .ok (some authority, path, significant suffix)
  else readOrigin scheme (significant text)

/-- The URL of a text. -/
def parse (text : List Char) : Except ParseError Url := do
  let text := trimmed text
  match readScheme? (significant text) with
  | none => .error .relative
  | some scheme =>
    let (authority, path, suffix) ← readRest scheme ((text.dropWhile (· != ':')).drop 1)
    let (query, fragment) := splitSuffix suffix
    let querySet := if isSpecial scheme then Percent.specialQuery else Percent.query
    .ok ⟨scheme, authority, path, query.map (Percent.encode querySet),
      fragment.map (Percent.encode Percent.fragment)⟩

end LogProbe.Url
