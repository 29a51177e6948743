/-
**URLs in a scheme of HTTP come back from their texts.** Whatever is encoded in the parts of a URL
that was read is encoded already, its host and its path are written as they are read, and a port or
password that would be left out is missing. So the text of the URL is read as that URL.

* `Url.IsCanonical`, `Url.isCanonical_of_isReadFrom` — the URLs that are read.
* `Url.isReadFrom_chars`, `Url.exists_isReadFrom_iff` — they, and no others, come back from their
  texts.
* `Url.isVisible_chars` — what their texts are made of, so that nothing in them is trimmed off.
-/

import LogProbe.Proofs.Text.Blank
import LogProbe.Proofs.Url.Authority
import LogProbe.Proofs.Url.Host

namespace LogProbe.Url

/-! ### URLs that were read -/

/-- An authority with a host whose user, password and port are written in one way: none of them is
left out. -/
structure Authority.IsCanonical (scheme : String) (authority : Authority) : Prop where
  user : Percent.IsClean Percent.userinfo authority.user
  password : ∀ password ∈ authority.password,
    password ≠ [] ∧ Percent.IsClean Percent.userinfo password
  host : ∃ host, authority.host = some host ∧ host.IsCanonical
  port : ∀ port ∈ authority.port, port ≤ 65535 ∧ some port ≠ defaultPort? scheme

/-- A URL in a scheme of HTTP whose parts are all in encoded form. -/
structure IsCanonical (url : Url) : Prop where
  http : url.scheme = "http" ∨ url.scheme = "https"
  authority : ∃ authority, url.authority = some authority ∧ authority.IsCanonical url.scheme
  path : ∃ items, url.path = .components items ∧ items ≠ [] ∧ ∀ item ∈ items, IsSettled item
  query : ∀ query ∈ url.query, Percent.IsClean Percent.specialQuery query
  fragment : ∀ fragment ∈ url.fragment, Percent.IsClean Percent.fragment fragment

/-- A user and a password that were read are in encoded form, and the password is not empty. -/
theorem isClean_of_readUserinfo {text user : List Char} {password : Option (List Char)}
    (read : readUserinfo text = (user, password)) :
    Percent.IsClean Percent.userinfo user ∧
      ∀ other ∈ password, other ≠ [] ∧ Percent.IsClean Percent.userinfo other := by
  unfold readUserinfo at read
  dsimp only at read
  split at read
  · cases read
    refine ⟨Percent.isClean_encode (by simp) _, ?_⟩
    rintro other ⟨⟩
    exact ⟨Percent.encode_ne_nil _ (List.cons_ne_nil _ _), Percent.isClean_encode (by simp) _⟩
  · cases read
    exact ⟨Percent.isClean_encode (by simp) _, fun other missing => nomatch missing⟩

theorem isClean_of_splitUserinfo {text rest user : List Char} {password : Option (List Char)}
    (read : splitUserinfo true text = .ok ((user, password), rest)) :
    Percent.IsClean Percent.userinfo user ∧
      ∀ other ∈ password, other ≠ [] ∧ Percent.IsClean Percent.userinfo other := by
  unfold splitUserinfo at read
  split at read
  · cases read
    exact ⟨List.forall_mem_nil _, fun other missing => nomatch missing⟩
  · split at read
    · split at read
      · cases read
      · cases read
        exact ⟨List.forall_mem_nil _, fun other missing => nomatch missing⟩
    · obtain ⟨same, -⟩ := Prod.mk.inj (Except.ok.inj read)
      exact isClean_of_readUserinfo same

theorem isProper_of_readPort {scheme : String} {digits rest : List Char} {port : Option Nat}
    (read : readPort scheme digits rest = .ok port) :
    ∀ number ∈ port, number ≤ 65535 ∧ some number ≠ defaultPort? scheme := by
  have numeral : readPort.number scheme digits = .ok port := by
    unfold readPort at read
    split at read
    · split at read
      · exact read
      · cases read
    · exact read
  unfold readPort.number at numeral
  split at numeral
  · cases numeral
  split at numeral
  · cases numeral
  rename_i small
  split at numeral
  · cases numeral
    exact fun number missing => nomatch missing
  · rename_i unusual
    cases numeral
    rintro number ⟨⟩
    exact ⟨Nat.le_of_not_lt small, (not_or.mp unusual).2⟩

theorem isProper_of_isPortOf {scheme : String} {text rest : List Char} {port : Option Nat}
    (ported : IsPortOf scheme text port rest) :
    ∀ number ∈ port, number ≤ 65535 ∧ some number ≠ defaultPort? scheme := by
  cases ported with
  | given read => exact isProper_of_readPort read
  | absent => exact fun number missing => nomatch missing

theorem isCanonical_of_isAuthorityOf {scheme : String} {text rest : List Char}
    {authority : Authority} (addressed : IsAuthorityOf scheme text authority rest) :
    authority.IsCanonical scheme := by
  cases addressed with
  | intro userinfo bounded given hosted ported =>
    obtain ⟨user, password⟩ := isClean_of_splitUserinfo userinfo
    exact ⟨user, password, ⟨_, rfl, Host.isCanonical_of_ofText hosted⟩, isProper_of_isPortOf ported⟩

/-- **A URL that was read is one whose parts are all in encoded form.** -/
theorem isCanonical_of_isReadFrom {text : List Char} {url : Url} (read : IsReadFrom text url) :
    url.IsCanonical := by
  cases read with
  | intro http named addressed =>
    refine ⟨http, ⟨_, rfl, isCanonical_of_isAuthorityOf addressed⟩,
      isSettled_readPath (isSpecial_of_isHttp http).1 _, ?_, ?_⟩
    · intro query found
      obtain ⟨source, -, rfl⟩ := Option.map_eq_some_iff.mp found
      exact Percent.isClean_encode (by simp) source
    · intro fragment found
      obtain ⟨source, -, rfl⟩ := Option.map_eq_some_iff.mp found
      exact Percent.isClean_encode (by simp) source

theorem IsCanonical.exists_host {url : Url} (canonical : url.IsCanonical) :
    ∃ host, url.host? = some host ∧ host.IsCanonical := by
  obtain ⟨authority, found, written⟩ := canonical.authority
  obtain ⟨host, hosted, readable⟩ := written.host
  refine ⟨host, ?_, readable⟩
  unfold host?
  rw [found]
  exact hosted

/-! ### Authorities that are written -/

/-- The port behind a host with its mark. -/
def portChars : Option Nat → List Char
  | some port => ':' :: Nat.toDigits 10 port
  | none => []

theorem Authority.text_eq {authority : Authority} {host : Host}
    (hosted : authority.host = some host) :
    authority.text = authority.userinfo ++ host.text.toList ++ portChars authority.port := by
  unfold Authority.text
  rw [hosted]
  rfl

theorem isHostChar_of_mem_portChars (port : Option Nat) :
    ∀ c ∈ portChars port, Host.IsHostChar c := by
  cases port with
  | none => exact List.forall_mem_nil _
  | some port =>
    refine List.forall_mem_cons.mpr ⟨by decide, fun c member => ?_⟩
    exact forall_isDecimal (by decide) (isDecimal_of_mem_toDigits c member)

/-- **A port is read from its text.** -/
theorem isPortOf_portChars {scheme : String} {port : Option Nat}
    (proper : ∀ number ∈ port, number ≤ 65535 ∧ some number ≠ defaultPort? scheme)
    (rest : List Char) : IsPortOf scheme (portChars port ++ '/' :: rest) port ('/' :: rest) := by
  cases port with
  | none => exact .absent (by simp [portChars])
  | some port =>
    obtain ⟨small, unusual⟩ := proper port rfl
    obtain ⟨digits, behind⟩ : (Nat.toDigits 10 port ++ '/' :: rest).takeWhile isDecimal =
        Nat.toDigits 10 port ∧
          (Nat.toDigits 10 port ++ '/' :: rest).dropWhile isDecimal = '/' :: rest :=
      span_append isDecimal_of_mem_toDigits rfl rest
    have some : Nat.toDigits 10 port ≠ [] := List.ne_nil_of_length_pos Nat.length_toDigits_pos
    have read : readPort scheme ((Nat.toDigits 10 port ++ '/' :: rest).takeWhile isDecimal)
        ((Nat.toDigits 10 port ++ '/' :: rest).dropWhile isDecimal) = .ok (Option.some port) := by
      rw [digits, behind]
      show readPort.number scheme _ = _
      unfold readPort.number
      rw [numberIn?_toDigits (by omega) (by omega)]
      dsimp only
      rw [if_neg (Nat.not_lt.mpr small), if_neg (not_or.mpr ⟨some, unusual⟩)]
    have ported := IsPortOf.given read
    rwa [behind] at ported

/-- What stands in front of a host: nothing, or a text and `@`, and the text is read as the user and
the password. -/
theorem userinfo_eq {scheme : String} {authority : Authority}
    (canonical : authority.IsCanonical scheme) :
    (authority.userinfo = [] ∧ authority.user = [] ∧ authority.password = none) ∨
      ∃ front, authority.userinfo = front ++ ['@'] ∧ front ≠ [] ∧
        readUserinfo front = (authority.user, authority.password) ∧
        ∀ c ∈ front, Host.IsHostChar c := by
  have hostChars {text : List Char} (clean : Percent.IsClean Percent.userinfo text) :
      ∀ c ∈ text, Host.IsHostChar c := fun c member =>
    Percent.forall_plain (by simp) (by decide) (clean c member)
  have colonFree {text : List Char} (clean : Percent.IsClean Percent.userinfo text) :
      ∀ c ∈ text, (c != ':') = true := fun c member =>
    Percent.forall_plain (by simp) (P := fun c => (c != ':') = true) (by decide) (clean c member)
  have user := canonical.user
  have password := canonical.password
  unfold Authority.userinfo
  split
  · rename_i noUser noPassword
    exact .inl ⟨rfl, noUser, noPassword⟩
  · rename_i noPassword given
    refine .inr ⟨authority.user, rfl, given, ?_, hostChars user⟩
    unfold readUserinfo
    simp only [List.takeWhile_eq_self_iff.mpr (colonFree user),
      List.dropWhile_eq_nil_iff.mpr (colonFree user), Percent.encode_of_isClean user, noPassword]
  · rename_i secret found
    obtain ⟨given, clean⟩ := password secret found
    refine .inr ⟨authority.user ++ ':' :: secret, rfl, by simp, ?_, ?_⟩
    · obtain ⟨first, others⟩ := span_append (colonFree user) (c := ':') rfl secret
      obtain ⟨c, rest, rfl⟩ := List.exists_cons_of_ne_nil given
      unfold readUserinfo
      simp only [first, others, Percent.encode_of_isClean user, Percent.encode_of_isClean clean,
        found]
    · exact List.forall_mem_append.mpr ⟨hostChars user,
        List.forall_mem_cons.mpr ⟨by decide, hostChars clean⟩⟩

/-- The characters of an authority. -/
theorem endsAuthority_of_mem_text {scheme : String} {authority : Authority}
    (canonical : authority.IsCanonical scheme) :
    ∀ c ∈ authority.text, endsAuthority true c = false ∧ Percent.IsVisible c := by
  obtain ⟨host, hosted, written⟩ := canonical.host
  have plain {text : List Char} (inside : ∀ c ∈ text, Host.IsHostChar c) :
      ∀ c ∈ text, endsAuthority true c = false ∧ Percent.IsVisible c := fun c member =>
    ⟨(inside c member).1, (inside c member).2.2⟩
  rw [Authority.text_eq hosted]
  refine List.forall_mem_append.mpr ⟨List.forall_mem_append.mpr
    ⟨?_, plain (Host.isHostChar_of_mem_text written)⟩, plain (isHostChar_of_mem_portChars _)⟩
  rcases userinfo_eq canonical with ⟨nothing, -, -⟩ | ⟨front, signed, -, -, inside⟩
  · rw [nothing]
    exact List.forall_mem_nil _
  · rw [signed]
    exact List.forall_mem_append.mpr ⟨plain inside, List.forall_mem_singleton.mpr (by decide)⟩

/-- **The user and the password are read from the text of their authority.** -/
theorem splitUserinfo_text {scheme : String} {authority : Authority}
    (canonical : authority.IsCanonical scheme) {host : Host} (hosted : authority.host = some host)
    (rest : List Char) :
    splitUserinfo true (authority.text ++ '/' :: rest) =
      .ok ((authority.user, authority.password),
        host.text.toList ++ (portChars authority.port ++ '/' :: rest)) := by
  obtain ⟨other, found, written⟩ := canonical.host
  cases hosted.symm.trans found
  -- The last `@` is the one behind the user, since neither a host nor a port holds one.
  have free : '@' ∉ host.text.toList ++ portChars authority.port := by
    intro member
    rcases List.mem_append.mp member with inside | inside
    · exact (Host.isHostChar_of_mem_text written _ inside).2.1 rfl
    · exact (isHostChar_of_mem_portChars _ _ inside).2.1 rfl
  have whole : (authority.text ++ '/' :: rest).takeWhile (fun c => !endsAuthority true c) =
      authority.text := by
    refine (span_append (fun c member => ?_) rfl rest).1
    rw [(endsAuthority_of_mem_text canonical c member).1]
    rfl
  have text := Authority.text_eq hosted
  rw [List.append_assoc] at text
  unfold splitUserinfo
  rw [whole, text]
  rcases userinfo_eq canonical with ⟨nothing, user, password⟩ | ⟨front, signed, given, read, -⟩
  · rw [nothing, List.nil_append, splitAtLast?_eq_none free, user, password, List.append_assoc]
  · rw [signed, List.append_assoc, List.singleton_append, splitAtLast?_append free, ← read]
    obtain ⟨c, more, rfl⟩ := List.exists_cons_of_ne_nil given
    have behind : ((c :: more) ++ '@' :: (host.text.toList ++ portChars authority.port) ++
        '/' :: rest).drop ((c :: more).length + 1) =
          host.text.toList ++ (portChars authority.port ++ '/' :: rest) := by
      simp
    simp only [behind]

/-- **An authority is read from its text.** -/
theorem isAuthorityOf_text {scheme : String} {authority : Authority}
    (canonical : authority.IsCanonical scheme) (rest : List Char) :
    IsAuthorityOf scheme (authority.text ++ '/' :: rest) authority ('/' :: rest) := by
  obtain ⟨host, hosted, written⟩ := canonical.host
  have split := splitUserinfo_text canonical hosted rest
  have bounded : readHostText true false
      (host.text.toList ++ (portChars authority.port ++ '/' :: rest)) =
        (host.text.toList, portChars authority.port ++ '/' :: rest) := by
    cases authority.port with
    | none => exact Host.readHostText_text written (.inr rfl) rest
    | some port => exact Host.readHostText_text written (.inl rfl) _
  have addressed := IsAuthorityOf.intro split bounded (Host.text_ne_nil written)
    (Host.ofText_text written) (isPortOf_portChars canonical.port rest)
  obtain ⟨user, password, other, port⟩ := authority
  cases hosted
  exact addressed

/-! ### URLs that are written -/

/-- The characters of a path. -/
theorem plain_of_mem_text {items : List (List Char)} (settled : ∀ item ∈ items, IsSettled item) :
    ∀ c ∈ (Path.components items).text, Percent.path c = false := by
  intro c member
  obtain ⟨item, among, member⟩ := List.mem_flatMap.mp member
  rcases List.mem_cons.mp member with rfl | inside
  · decide
  · exact (settled item among).clean c inside

/-- The query and the fragment are read from their text. -/
theorem splitSuffix_suffix {url : Url} (canonical : url.IsCanonical) :
    splitSuffix url.suffix = (url.query, url.fragment) := by
  have hashFree {query : List Char} (found : url.query = some query) :
      ∀ c ∈ query, (c != '#') = true := fun c member =>
    Percent.forall_plain (P := fun c => (c != '#') = true) (by simp) (by decide)
      (canonical.query query found c member)
  unfold suffix
  cases query : url.query with
  | none =>
    cases fragment : url.fragment with
    | none => rfl
    | some fragment => rfl
  | some query =>
    cases fragment : url.fragment with
    | none =>
      rw [List.append_nil]
      unfold splitSuffix
      simp only [List.dropWhile_eq_nil_iff.mpr (hashFree query)]
    | some text =>
      obtain ⟨front, behind⟩ := span_append (hashFree query) (c := '#') rfl text
      rw [List.cons_append]
      unfold splitSuffix
      simp only [front, behind]

/-- A query or fragment begins with its mark. -/
theorem splitFront_append_suffix {front : List Char} (plain : ∀ c ∈ front, Percent.path c = false)
    (url : Url) : splitFront (front ++ url.suffix) = (front, url.suffix) := by
  have inside : ∀ c ∈ front, (c != '?' && c != '#') = true := fun c member =>
    Percent.forall_plain (P := fun c => (c != '?' && c != '#') = true) (by simp) (by decide)
      (plain c member)
  have marked : url.suffix = [] ∨ ∃ mark rest, url.suffix = mark :: rest ∧
      (mark != '?' && mark != '#') = false := by
    unfold suffix
    cases url.query with
    | some query => exact .inr ⟨'?', _, rfl, rfl⟩
    | none =>
      cases url.fragment with
      | some fragment => exact .inr ⟨'#', _, rfl, rfl⟩
      | none => exact .inl rfl
  unfold splitFront
  rcases marked with nothing | ⟨mark, rest, begins, ends⟩
  · rw [nothing, List.append_nil, List.takeWhile_eq_self_iff.mpr inside,
      List.dropWhile_eq_nil_iff.mpr inside]
  · rw [begins, (span_append inside ends rest).1, (span_append inside ends rest).2]

theorem forall_mem_scheme {scheme : String} (http : scheme = "http" ∨ scheme = "https") :
    ∀ c ∈ scheme.toList, (c != ':') = true ∧ Percent.IsVisible c := by
  have all : scheme.toList.all (fun c => c != ':' && decide (Percent.IsVisible c)) = true := by
    rcases http with rfl | rfl <;> decide
  intro c member
  simpa using List.all_eq_true.mp all c member

/-- **Nothing in the text of a URL is ignored or trimmed off.** -/
theorem isVisible_chars {url : Url} (canonical : url.IsCanonical) :
    ∀ c ∈ url.chars, Percent.IsVisible c := by
  obtain ⟨authority, found, written⟩ := canonical.authority
  obtain ⟨items, path, -, settled⟩ := canonical.path
  have scheme : ∀ c ∈ url.scheme.toList, Percent.IsVisible c := fun c member =>
    (forall_mem_scheme canonical.http c member).2
  have suffixed : ∀ c ∈ url.suffix, Percent.IsVisible c := by
    unfold suffix
    refine List.forall_mem_append.mpr ⟨?_, ?_⟩
    · cases given : url.query with
      | none => exact List.forall_mem_nil _
      | some query =>
        refine List.forall_mem_cons.mpr ⟨by decide, fun c member => ?_⟩
        exact Percent.isVisible_of_plain (by simp) (canonical.query query given c member)
    · cases given : url.fragment with
      | none => exact List.forall_mem_nil _
      | some fragment =>
        refine List.forall_mem_cons.mpr ⟨by decide, fun c member => ?_⟩
        exact Percent.isVisible_of_plain (by simp) (canonical.fragment fragment given c member)
  have pathed : ∀ c ∈ (Path.components items).text, Percent.IsVisible c := fun c member =>
    Percent.isVisible_of_plain (by simp) (plain_of_mem_text settled c member)
  have addressed : ∀ c ∈ authority.text, Percent.IsVisible c := fun c member =>
    (endsAuthority_of_mem_text written c member).2
  unfold chars origin
  rw [found, path]
  refine List.forall_mem_append.mpr ⟨List.forall_mem_append.mpr ⟨List.forall_mem_append.mpr
    ⟨scheme, ?_⟩, pathed⟩, suffixed⟩
  exact List.forall_mem_cons.mpr ⟨by decide, List.forall_mem_cons.mpr
    ⟨by decide, List.forall_mem_cons.mpr ⟨by decide, addressed⟩⟩⟩

theorem trimmed_of_isVisible {text : List Char} (visible : ∀ c ∈ text, Percent.IsVisible c) :
    trimmed text = text :=
  Text.strip_eq_self fun c member => decide_eq_false (Nat.not_le.mpr (visible c member).1)

theorem significant_of_isVisible {text : List Char} (visible : ∀ c ∈ text, Percent.IsVisible c) :
    significant text = text := by
  refine List.filter_eq_self.mpr fun c member => ?_
  rw [Bool.not_eq_true', ← Bool.not_eq_true]
  intro ignored
  have high := (visible c member).1
  simp only [isIgnored, Bool.or_eq_true, beq_iff_eq] at ignored
  rcases ignored with (rfl | rfl) | rfl <;> exact absurd high (by decide)

theorem readScheme?_of_isHttp {scheme : String} (http : scheme = "http" ∨ scheme = "https")
    (rest : List Char) : readScheme? (scheme.toList ++ ':' :: rest) = some scheme := by
  rcases http with rfl | rfl
  · rfl
  · rfl

/-- Slashes in front of an authority are passed over. -/
theorem dropWhile_isSlash {scheme : String} {authority : Authority}
    (canonical : authority.IsCanonical scheme) (rest : List Char) :
    ('/' :: '/' :: (authority.text ++ rest)).dropWhile (isSlash true) = authority.text ++ rest := by
  obtain ⟨host, hosted, written⟩ := canonical.host
  have some : authority.text ≠ [] := by
    rw [Authority.text_eq hosted]
    simp [Host.text_ne_nil written]
  obtain ⟨c, more, begins⟩ := List.exists_cons_of_ne_nil some
  have solid : isSlash true c = false := by
    have inside := (endsAuthority_of_mem_text canonical c (begins ▸ List.mem_cons_self)).1
    simp only [endsAuthority, Bool.or_eq_false_iff] at inside
    exact inside.1.1
  rw [begins, List.dropWhile_cons_of_pos rfl, List.dropWhile_cons_of_pos rfl, List.cons_append,
    List.dropWhile_cons_of_neg (Bool.eq_false_iff.mp solid)]

theorem map_encode_of_isClean {set : Percent.Set} {part : Option (List Char)}
    (clean : ∀ text ∈ part, Percent.IsClean set text) : part.map (Percent.encode set) = part := by
  cases part with
  | none => rfl
  | some text => exact congrArg some (Percent.encode_of_isClean (clean text rfl))

/-- **A URL in a scheme of HTTP is read from its text.** -/
theorem isReadFrom_chars {url : Url} (canonical : url.IsCanonical) : IsReadFrom url.chars url := by
  obtain ⟨authority, found, written⟩ := canonical.authority
  obtain ⟨items, path, some, settled⟩ := canonical.path
  obtain ⟨first, more, begins⟩ := List.exists_cons_of_ne_nil some
  let tail := first ++ (Path.components more).text ++ url.suffix
  have rest : (Path.components items).text ++ url.suffix = '/' :: tail := by
    rw [begins, Path.text_cons, List.cons_append]
  have whole : url.chars =
      url.scheme.toList ++ ':' :: '/' :: '/' :: (authority.text ++ '/' :: tail) := by
    unfold chars origin
    rw [found, path, ← rest]
    simp
  have visible := isVisible_chars canonical
  have named : readScheme? (significant (trimmed url.chars)) = Option.some url.scheme := by
    rw [trimmed_of_isVisible visible, significant_of_isVisible visible, whole,
      readScheme?_of_isHttp canonical.http]
  have behind : behindScheme url.chars = '/' :: '/' :: (authority.text ++ '/' :: tail) := by
    have noColon : ∀ c ∈ url.scheme.toList, (c != ':') = true := fun c member =>
      (forall_mem_scheme canonical.http c member).1
    unfold behindScheme
    rw [trimmed_of_isVisible visible, whole, (span_append noColon rfl _).2]
    rfl
  have counts : significant (behindScheme url.chars) = behindScheme url.chars := by
    refine significant_of_isVisible fun c member => visible c ?_
    rw [behind] at member
    rw [whole]
    exact List.mem_append_right _ (List.mem_cons_of_mem ':' member)
  have addressed : IsAuthorityOf url.scheme
      ((significant (behindScheme url.chars)).dropWhile (isSlash true)) authority
        ('/' :: tail) := by
    rw [counts, behind, dropWhile_isSlash written]
    exact isAuthorityOf_text written tail
  -- Each part of what was read is what it is read from, as nothing in it is encoded again.
  have read := IsReadFrom.intro canonical.http named addressed
  rw [← rest, splitFront_append_suffix (plain_of_mem_text settled), splitSuffix_suffix canonical,
    readPath_text (isSpecial_of_isHttp canonical.http).1 some settled,
    map_encode_of_isClean canonical.query, map_encode_of_isClean canonical.fragment, ← path,
    ← found] at read
  exact read

/-- **The URLs in a scheme of HTTP that texts are read as.** -/
theorem exists_isReadFrom_iff {url : Url} : (∃ text, IsReadFrom text url) ↔ url.IsCanonical :=
  ⟨fun ⟨_, read⟩ => isCanonical_of_isReadFrom read,
    fun canonical => ⟨url.chars, isReadFrom_chars canonical⟩⟩

end LogProbe.Url
