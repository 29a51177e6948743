/-
**Rotation of keys.** A keyset keeps its old keys enabled so that what they encrypted can still be
read, whichever key is the primary now.

* `Cipher.rivals` — the keys that a ciphertext of an enabled key is tried with before that key, and
  what each of them is shown. A key with a header only has rivals with the same header in front of
  it; a key without one also has all those whose header the ciphertext happens to begin with.
* `Cipher.candidates_eq` — these are the first candidates of the ciphertext, and the key itself
  comes next.
* `Cipher.decrypt_finds_enabled_key` — if none of the rivals takes the ciphertext for its own, the
  plaintext comes back. The primary key plays no part in it.
-/

import LogProbe.Cipher.Deterministic
import LogProbe.Proofs.Siv.Inverse

namespace LogProbe

/-! ### Headers -/

/-- A header is empty or has the length of all others. -/
theorem HeaderKind.bytes_eq_nil_or_length (kind : HeaderKind) (id : UInt32) :
    kind.bytes id = [] ∨ (kind.bytes id).length = headerLength := by
  cases kind with
  | raw => exact Or.inl rfl
  | tink | legacy | crunchy => exact Or.inr rfl

theorem Keyset.Key.length_header {key : Keyset.Key} (headed : key.header ≠ []) :
    key.header.length = headerLength :=
  (HeaderKind.bytes_eq_nil_or_length key.headerKind key.id).resolve_left headed

namespace Cipher

/-! ### Loaded keys -/

/-- A loaded key has the header and the material of the key it was made from. -/
theorem load_eq_ok {key : Keyset.Key} {ready : LoadedKey} (loaded : load key = .ok ready) :
    ready.header = key.header ∧ key.material = .ok ready.key.bytes := by
  unfold load at loaded
  split at loaded
  · cases loaded
  · rename_i material found
    split at loaded
    · cases loaded
    · rename_i siv fits
      cases loaded
      refine ⟨rfl, ?_⟩
      unfold Siv.Key.ofBytes? at fits
      split at fits
      · cases fits
        exact found
      · cases fits

theorem loadAll_cons_eq_ok {key : Keyset.Key} {rest : List Keyset.Key} {keys : List LoadedKey}
    (loaded : loadAll (key :: rest) = .ok keys) :
    ∃ ready others, keys = ready :: others ∧ load key = .ok ready ∧ loadAll rest = .ok others := by
  unfold loadAll at loaded
  cases first : load key with
  | error error =>
    rw [first] at loaded
    cases loaded
  | ok ready =>
    cases remaining : loadAll rest with
    | error error =>
      rw [first, remaining] at loaded
      cases loaded
    | ok others =>
      rw [first, remaining] at loaded
      cases loaded
      exact ⟨ready, others, rfl, rfl, rfl⟩

/-- Loading keeps the place of a key. -/
theorem loadAll_append_eq_ok {before after : List Keyset.Key} {key : Keyset.Key}
    {keys : List LoadedKey} (loaded : loadAll (before ++ key :: after) = .ok keys) :
    ∃ front ready back, keys = front ++ ready :: back ∧ loadAll before = .ok front ∧
      load key = .ok ready ∧ loadAll after = .ok back := by
  induction before generalizing keys with
  | nil =>
    obtain ⟨ready, back, rfl, first, rest⟩ := loadAll_cons_eq_ok loaded
    exact ⟨[], ready, back, rfl, rfl, first, rest⟩
  | cons other before ih =>
    obtain ⟨leading, others, rfl, first, rest⟩ := loadAll_cons_eq_ok loaded
    obtain ⟨front, ready, back, rfl, loadedFront, loadedKey, loadedBack⟩ := ih rest
    refine ⟨leading :: front, ready, back, rfl, ?_, loadedKey, loadedBack⟩
    rw [loadAll, first, loadedFront]
    rfl

/-- Loading the keys with a given header is loading all and keeping those with the header. -/
theorem loadAll_filter {keys : List Keyset.Key} {loaded : List LoadedKey} (header : Bytes)
    (all : loadAll keys = .ok loaded) :
    loadAll (keys.filter fun key => key.header = header) =
      .ok (loaded.filter fun ready => ready.header = header) := by
  induction keys generalizing loaded with
  | nil =>
    cases all
    rfl
  | cons key rest ih =>
    obtain ⟨ready, others, rfl, first, remaining⟩ := loadAll_cons_eq_ok all
    have same := (load_eq_ok first).1
    by_cases fits : key.header = header
    · rw [List.filter_cons_of_pos (by simpa using fits),
        List.filter_cons_of_pos (by simpa [same] using fits), loadAll, first, ih remaining]
      rfl
    · rw [List.filter_cons_of_neg (by simpa using fits),
        List.filter_cons_of_neg (by simpa [same] using fits), ih remaining]

theorem exists_of_mem_loadAll {keys : List Keyset.Key} {loaded : List LoadedKey}
    (all : loadAll keys = .ok loaded) {ready : LoadedKey} (member : ready ∈ loaded) :
    ∃ key ∈ keys, load key = .ok ready := by
  induction keys generalizing loaded with
  | nil =>
    cases all
    cases member
  | cons key rest ih =>
    obtain ⟨leading, others, rfl, first, remaining⟩ := loadAll_cons_eq_ok all
    rcases List.mem_cons.mp member with rfl | member
    · exact ⟨key, List.mem_cons_self, first⟩
    · obtain ⟨other, inside, loadedOther⟩ := ih remaining member
      exact ⟨other, List.mem_cons_of_mem _ inside, loadedOther⟩

/-- The keys of a cipher are the enabled keys of its keyset. -/
theorem loadAll_enabled {keyset : Keyset} {cipher : Cipher}
    (accepted : ofKeyset keyset = .ok cipher) : loadAll keyset.enabled = .ok cipher.keys := by
  unfold ofKeyset at accepted
  split at accepted
  · cases accepted
  · cases all : loadAll keyset.enabled with
    | error error =>
      rw [all] at accepted
      cases accepted
    | ok keys =>
      rw [all] at accepted
      simp only [bind, Except.bind] at accepted
      split at accepted
      · cases accepted
      · cases accepted
        rfl

/-! ### The keys tried before a key -/

/-- The enabled keys that a ciphertext of `key` is tried with before `key`, and what each of them is
shown; `before` and `after` are the enabled keys around it. -/
def rivals (before : List Keyset.Key) (key : Keyset.Key) (after : List Keyset.Key)
    (ciphertext : Bytes) : List (Keyset.Key × Bytes) :=
  if key.header = [] then
    ((before ++ key :: after).filter fun other =>
        other.header = ciphertext.take headerLength).map
        (fun other => (other, ciphertext.drop headerLength)) ++
      (before.filter fun other => other.header = []).map fun other => (other, ciphertext)
  else
    (before.filter fun other => other.header = key.header).map
      fun other => (other, ciphertext.drop headerLength)

/-- A loaded key with a given header was made from a key with that header. -/
theorem origin_of_mem_filter {keys : List Keyset.Key} {loaded : List LoadedKey} {header : Bytes}
    (all : loadAll keys = .ok loaded) {ready : LoadedKey}
    (member : ready ∈ loaded.filter fun ready => ready.header = header) :
    ∃ key ∈ keys.filter fun key => key.header = header, key.material = .ok ready.key.bytes := by
  obtain ⟨key, inside, loadedKey⟩ := exists_of_mem_loadAll (loadAll_filter header all) member
  exact ⟨key, inside, (load_eq_ok loadedKey).2⟩

/-- A key stays in its place among those with its header. -/
theorem filter_header_append (front back : List LoadedKey) (ready : LoadedKey) :
    (front ++ ready :: back).filter (fun other => other.header = ready.header) =
      front.filter (fun other => other.header = ready.header) ++
        ready :: back.filter (fun other => other.header = ready.header) := by
  rw [List.filter_append, List.filter_cons_of_pos (by simp)]

/-- **The rivals of a key are the first candidates of its ciphertext**, each with its own material,
and the key itself comes next. -/
theorem candidates_eq {cipher : Cipher} {before after : List Keyset.Key} {key : Keyset.Key}
    (all : loadAll (before ++ key :: after) = .ok cipher.keys) :
    ∃ ready, load key = .ok ready ∧ ∀ rest : Bytes, headerLength < rest.length →
      ∃ tried untried,
        cipher.candidates (key.header ++ rest) = tried ++ (ready.key, rest) :: untried ∧
        ∀ attempt ∈ tried, ∃ rival ∈ rivals before key after (key.header ++ rest),
          rival.1.material = .ok attempt.1.bytes ∧ rival.2 = attempt.2 := by
  obtain ⟨front, ready, back, keys, loadedFront, loadedKey, -⟩ := loadAll_append_eq_ok all
  have header : ready.header = key.header := (load_eq_ok loadedKey).1
  have sameHeader := filter_header_append front back ready
  rw [header] at sameHeader
  refine ⟨ready, loadedKey, fun rest long => ?_⟩
  by_cases bare : key.header = []
  · rw [bare] at sameHeader
    refine ⟨(cipher.keys.filter fun other => other.header = rest.take headerLength).map
          (fun other => (other.key, rest.drop headerLength)) ++
        (front.filter fun other => other.header = []).map (fun other => (other.key, rest)),
      (back.filter fun other => other.header = []).map (fun other => (other.key, rest)), ?_, ?_⟩
    · rw [bare, List.nil_append, candidates, if_pos long]
      simp only [keys, sameHeader, List.map_append, List.map_cons, List.append_assoc]
    · intro attempt member
      rw [bare, List.nil_append, rivals, if_pos bare]
      rcases List.mem_append.mp member with member | member
      · obtain ⟨found, inside, rfl⟩ := List.mem_map.mp member
        obtain ⟨other, source, material⟩ := origin_of_mem_filter all inside
        exact ⟨_, List.mem_append_left _ (List.mem_map_of_mem source), material, rfl⟩
      · obtain ⟨found, inside, rfl⟩ := List.mem_map.mp member
        obtain ⟨other, source, material⟩ := origin_of_mem_filter loadedFront inside
        exact ⟨_, List.mem_append_right _ (List.mem_map_of_mem source), material, rfl⟩
  · have size := Keyset.Key.length_header bare
    have head : (key.header ++ rest).take headerLength = key.header := List.take_left' size
    have tail : (key.header ++ rest).drop headerLength = rest := List.drop_left' size
    refine ⟨(front.filter fun other => other.header = key.header).map
        fun other => (other.key, rest),
      (back.filter fun other => other.header = key.header).map (fun other => (other.key, rest)) ++
        (cipher.keys.filter fun other => other.header = []).map
          fun other => (other.key, key.header ++ rest), ?_, ?_⟩
    · have longer : headerLength < (key.header ++ rest).length := by
        rw [List.length_append]
        omega
      rw [candidates, if_pos longer, head, tail]
      simp only [keys, sameHeader, List.map_append, List.map_cons, List.append_assoc,
        List.cons_append]
    · intro attempt member
      rw [rivals, if_neg bare, tail]
      obtain ⟨found, inside, rfl⟩ := List.mem_map.mp member
      obtain ⟨other, source, material⟩ := origin_of_mem_filter loadedFront inside
      exact ⟨_, List.mem_map_of_mem source, material, rfl⟩

/-- A key without rivals has its header alone in front of it. -/
theorem rivals_eq_nil {before after : List Keyset.Key} {key : Keyset.Key} (headed : key.header ≠ [])
    (alone : ∀ other ∈ before, other.header ≠ key.header) (ciphertext : Bytes) :
    rivals before key after ciphertext = [] := by
  have none : before.filter (fun other => other.header = key.header) = [] :=
    List.filter_eq_nil_iff.mpr fun other member => by simpa using alone other member
  rw [rivals, if_neg headed, none, List.map_nil]

/-! ### Decryption -/

/-- The first candidate that takes a ciphertext for its own gives the plaintext. -/
theorem decrypt_of_candidates {cipher : Cipher} {ciphertext associated plaintext : Bytes}
    {tried untried : List (Siv.Key × Bytes)} {key : Siv.Key} {rest : Bytes}
    (candidates : cipher.candidates ciphertext = tried ++ (key, rest) :: untried)
    (refused : ∀ attempt ∈ tried, Siv.decrypt? attempt.1 associated attempt.2 = none)
    (accepted : Siv.decrypt? key associated rest = some plaintext) :
    cipher.decrypt ciphertext associated = .ok plaintext := by
  have none : tried.findSome? (fun attempt => Siv.decrypt? attempt.1 associated attempt.2) = none :=
    List.findSome?_eq_none_iff.mpr refused
  have found : (cipher.candidates ciphertext).findSome?
      (fun attempt => Siv.decrypt? attempt.1 associated attempt.2) = some plaintext := by
    rw [candidates, List.findSome?_append, none, Option.none_or, List.findSome?_cons, accepted]
  simp only [decrypt, found]

/-- A ciphertext of an enabled key comes back if its rivals refuse what they are shown. -/
theorem decrypt_eq_of_rivals {keyset : Keyset} {cipher : Cipher}
    (accepted : ofKeyset keyset = .ok cipher) {before after : List Keyset.Key} {key : Keyset.Key}
    (enabled : keyset.enabled = before ++ key :: after) :
    ∃ siv : Siv.Key, key.material = .ok siv.bytes ∧ ∀ associated plaintext : Bytes,
      (∀ rival ∈ rivals before key after (key.header ++ Siv.encrypt siv associated plaintext),
        ∀ other : Siv.Key, rival.1.material = .ok other.bytes →
          Siv.decrypt? other associated rival.2 = none) →
      cipher.decrypt (key.header ++ Siv.encrypt siv associated plaintext) associated =
        .ok plaintext := by
  have all := loadAll_enabled accepted
  rw [enabled] at all
  obtain ⟨ready, loadedKey, split⟩ := candidates_eq all
  refine ⟨ready.key, (load_eq_ok loadedKey).2, fun associated plaintext refused => ?_⟩
  have long : headerLength < (Siv.encrypt ready.key associated plaintext).length := by
    rw [Siv.length_encrypt, headerLength]
    omega
  obtain ⟨tried, untried, candidates, rivalOf⟩ := split _ long
  refine decrypt_of_candidates candidates (fun attempt member => ?_)
    (Siv.decrypt?_encrypt ready.key associated plaintext)
  obtain ⟨rival, inside, material, view⟩ := rivalOf attempt member
  rw [← view]
  exact refused rival inside attempt.1 material

/-- Two ciphers with the same keys decrypt alike, whichever of them is the primary one. -/
theorem decrypt_congr {first second : Cipher} (keys : first.keys = second.keys)
    (ciphertext associated : Bytes) :
    first.decrypt ciphertext associated = second.decrypt ciphertext associated := by
  unfold decrypt candidates
  rw [keys]

/-- **Every enabled key decrypts what it encrypted**, primary or not: a ciphertext of the key comes
back if no rival takes what it is shown for its own. A key with a header of its own among the keys
in front of it has no rivals. With the same keys, all primaries decrypt alike. -/
theorem decrypt_finds_enabled_key {keyset : Keyset} {cipher : Cipher}
    (accepted : ofKeyset keyset = .ok cipher) :
    (∀ before key after, keyset.enabled = before ++ key :: after →
      ∃ siv : Siv.Key, key.material = .ok siv.bytes ∧ ∀ associated plaintext : Bytes,
        let ciphertext := key.header ++ Siv.encrypt siv associated plaintext
        ((∀ rival ∈ rivals before key after ciphertext, ∀ other : Siv.Key,
            rival.1.material = .ok other.bytes → Siv.decrypt? other associated rival.2 = none) →
          cipher.decrypt ciphertext associated = .ok plaintext) ∧
        (key.header ≠ [] → (∀ other ∈ before, other.header ≠ key.header) →
          cipher.decrypt ciphertext associated = .ok plaintext)) ∧
    ∀ (primaryId : UInt32) (other : Cipher), ofKeyset ⟨primaryId, keyset.keys⟩ = .ok other →
      ∀ ciphertext associated,
        other.decrypt ciphertext associated = cipher.decrypt ciphertext associated := by
  refine ⟨fun before key after enabled => ?_, fun primaryId other acceptedOther => ?_⟩
  · obtain ⟨siv, material, comesBack⟩ := decrypt_eq_of_rivals accepted enabled
    refine ⟨siv, material, fun associated plaintext => ⟨comesBack associated plaintext, ?_⟩⟩
    intro headed alone
    refine comesBack associated plaintext fun rival member => ?_
    rw [rivals_eq_nil headed alone] at member
    cases member
  · have first := loadAll_enabled accepted
    have second := loadAll_enabled acceptedOther
    have keys : other.keys = cipher.keys := Except.ok.inj (second.symm.trans first)
    exact decrypt_congr keys

/-- Stored material of sixty-four bytes. -/
def sampleData : KeyData :=
  ⟨Keyset.sivTypeUrl,
    "EkDqH9D86ii0QPF8EBhcZI1PkBKKdDGMPDS2wFITqqfjQ77RQbDROhhAXI8m5qUcYNbflns8Xo//BORbgtX0msbf",
    "SYMMETRIC"⟩

/-- An old key in front of the primary one. -/
def rotatedKeyset : Keyset :=
  ⟨2, [⟨sampleData, .enabled, 1, .tink⟩, ⟨sampleData, .enabled, 2, .crunchy⟩]⟩

/-- What the old key encrypted is still read after the rotation. -/
theorem rotatedKeyset_decrypts_old :
    ∃ cipher siv, ofKeyset rotatedKeyset = .ok cipher ∧
      Keyset.Key.material ⟨sampleData, .enabled, 1, .tink⟩ = .ok siv.bytes ∧
      ∀ associated plaintext : Bytes,
        cipher.decrypt ([1, 0, 0, 0, 1] ++ Siv.encrypt siv associated plaintext) associated =
          .ok plaintext := by
  have loads : (ofKeyset rotatedKeyset).isOk = true := by decide +kernel
  cases accepted : ofKeyset rotatedKeyset with
  | error error =>
    rw [accepted] at loads
    cases loads
  | ok cipher =>
    obtain ⟨siv, material, comesBack⟩ := (decrypt_finds_enabled_key accepted).1 [] _ _ rfl
    refine ⟨cipher, siv, rfl, material, fun associated plaintext => ?_⟩
    exact (comesBack associated plaintext).2 (by decide) fun other member => by cases member

end Cipher

end LogProbe
