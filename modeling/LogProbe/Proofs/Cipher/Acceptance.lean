/-
**What decryption accepts.** A cipher decrypts the byte strings that an enabled key of its keyset
produces under the same associated data, header included, and nothing else. Where it gives a
plaintext, the ciphertext is one of that very plaintext.

* `Cipher.IsCiphertext` — what the enabled keys produce.
* `Cipher.mem_candidates_iff` — a ciphertext is tried with a loaded key exactly if it begins with
  the header of that key, and the key is shown the rest.
* `Cipher.decrypt_accepts_iff` — the law, for both ways of decryption.
-/

import LogProbe.Proofs.Cipher.Primary

namespace LogProbe.Cipher

/-- A byte string that an enabled key of a keyset produces for a plaintext. -/
def IsCiphertext (keyset : Keyset) (associated plaintext ciphertext : Bytes) : Prop :=
  ∃ key ∈ keyset.enabled, ∃ siv : Siv.Key, key.material = .ok siv.bytes ∧
    ciphertext = key.header ++ Siv.encrypt siv associated plaintext

/-! ### Loaded and enabled keys -/

theorem exists_load_of_mem {keys : List Keyset.Key} {loaded : List LoadedKey}
    (all : loadAll keys = .ok loaded) {key : Keyset.Key} (member : key ∈ keys) :
    ∃ ready ∈ loaded, load key = .ok ready := by
  obtain ⟨before, after, rfl⟩ := List.append_of_mem member
  obtain ⟨front, ready, back, rfl, -, loadedKey, -⟩ := loadAll_append_eq_ok all
  exact ⟨ready, List.mem_append_right front List.mem_cons_self, loadedKey⟩

/-- The material of a loaded key has no other reading. -/
theorem key_eq_of_load {key : Keyset.Key} {ready : LoadedKey} {siv : Siv.Key}
    (loaded : load key = .ok ready) (material : key.material = .ok siv.bytes) :
    ready.key = siv := by
  have own := (load_eq_ok loaded).2
  rw [material] at own
  exact Siv.Key.eq_of_bytes_eq (Except.ok.inj own).symm

/-- The header of a loaded key is empty or has the length of all others. -/
theorem header_of_mem {keys : List Keyset.Key} {loaded : List LoadedKey}
    (all : loadAll keys = .ok loaded) {ready : LoadedKey} (member : ready ∈ loaded) :
    ready.header = [] ∨ ready.header.length = headerLength := by
  obtain ⟨key, -, source⟩ := exists_of_mem_loadAll all member
  rw [(load_eq_ok source).1]
  exact HeaderKind.bytes_eq_nil_or_length key.headerKind key.id

/-! ### Candidates -/

/-- **A loaded key is shown what follows its header**, provided that anything does. -/
theorem mem_candidates_iff {keyset : Keyset} {cipher : Cipher}
    (accepted : ofKeyset keyset = .ok cipher) {ciphertext rest : Bytes} {siv : Siv.Key} :
    (siv, rest) ∈ cipher.candidates ciphertext ↔
      ∃ ready ∈ cipher.keys, ready.key = siv ∧ ciphertext = ready.header ++ rest ∧
        (ready.header = [] ∨ rest ≠ []) := by
  have sizes {ready : LoadedKey} (member : ready ∈ cipher.keys) :=
    header_of_mem (loadAll_enabled accepted) member
  unfold candidates
  constructor
  · intro member
    rcases List.mem_append.mp member with member | member
    · obtain ⟨ready, inside, pair⟩ := List.mem_map.mp member
      cases pair
      split at inside
      · rename_i long
        obtain ⟨inside, header⟩ := List.mem_filter.mp inside
        have header : ready.header = ciphertext.take headerLength := by simpa using header
        refine ⟨ready, inside, rfl, ?_, Or.inr ?_⟩
        · rw [header, List.take_append_drop]
        · intro nothing
          have := List.drop_eq_nil_iff.mp nothing
          omega
      · cases inside
    · obtain ⟨ready, inside, pair⟩ := List.mem_map.mp member
      cases pair
      obtain ⟨inside, bare⟩ := List.mem_filter.mp inside
      have bare : ready.header = [] := by simpa using bare
      refine ⟨ready, inside, rfl, ?_, Or.inl bare⟩
      rw [bare, List.nil_append]
  · rintro ⟨ready, inside, rfl, rfl, some⟩
    by_cases bare : ready.header = []
    · refine List.mem_append_right _ (List.mem_map.mpr ⟨ready, ?_, ?_⟩)
      · exact List.mem_filter.mpr ⟨inside, by simpa using bare⟩
      · rw [bare, List.nil_append]
    · have size := (sizes inside).resolve_left bare
      have long : headerLength < (ready.header ++ rest).length := by
        have := List.length_pos_iff.mpr (some.resolve_left bare)
        rw [List.length_append]
        omega
      refine List.mem_append_left _ (List.mem_map.mpr ⟨ready, ?_, ?_⟩)
      · rw [if_pos long, List.take_left' size]
        exact List.mem_filter.mpr ⟨inside, by simp⟩
      · rw [List.drop_left' size]

/-! ### Decryption -/

theorem decrypt_eq_ok_iff {cipher : Cipher} {ciphertext associated plaintext : Bytes} :
    cipher.decrypt ciphertext associated = .ok plaintext ↔
      (cipher.candidates ciphertext).findSome?
        (fun attempt => Siv.decrypt? attempt.1 associated attempt.2) = some plaintext := by
  simp only [decrypt]
  split
  · rename_i found
    rw [found, Except.ok.injEq, Option.some.injEq]
  · rename_i missing
    rw [missing]
    simp

/-- A plaintext comes from a ciphertext of it. -/
theorem isCiphertext_of_decrypt {keyset : Keyset} {cipher : Cipher}
    (accepted : ofKeyset keyset = .ok cipher) {ciphertext associated plaintext : Bytes}
    (decrypted : cipher.decrypt ciphertext associated = .ok plaintext) :
    IsCiphertext keyset associated plaintext ciphertext := by
  obtain ⟨⟨siv, rest⟩, candidate, opened⟩ :=
    List.exists_of_findSome?_eq_some (decrypt_eq_ok_iff.mp decrypted)
  obtain ⟨ready, inside, rfl, rfl, -⟩ := (mem_candidates_iff accepted).mp candidate
  obtain ⟨key, enabled, source⟩ := exists_of_mem_loadAll (loadAll_enabled accepted) inside
  obtain ⟨header, material⟩ := load_eq_ok source
  have produced : rest = Siv.encrypt ready.key associated plaintext :=
    Siv.eq_encrypt_of_decrypt? opened
  exact ⟨key, enabled, ready.key, material, by rw [header, produced]⟩

/-- A ciphertext gives a plaintext, which is that of the first key that takes it for its own. -/
theorem decrypts_of_isCiphertext {keyset : Keyset} {cipher : Cipher}
    (accepted : ofKeyset keyset = .ok cipher) {ciphertext associated plaintext : Bytes}
    (sealed : IsCiphertext keyset associated plaintext ciphertext) :
    ∃ other, cipher.decrypt ciphertext associated = .ok other := by
  obtain ⟨key, enabled, siv, material, rfl⟩ := sealed
  obtain ⟨ready, inside, source⟩ := exists_load_of_mem (loadAll_enabled accepted) enabled
  have same := key_eq_of_load source material
  have some : Siv.encrypt siv associated plaintext ≠ [] := by
    intro nothing
    have size := Siv.length_encrypt siv associated plaintext
    rw [nothing, List.length_nil] at size
    omega
  have candidate : (siv, Siv.encrypt siv associated plaintext) ∈
      cipher.candidates (key.header ++ Siv.encrypt siv associated plaintext) :=
    (mem_candidates_iff accepted).mpr
      ⟨ready, inside, same, by rw [(load_eq_ok source).1], Or.inr some⟩
  have found : ((cipher.candidates (key.header ++ Siv.encrypt siv associated plaintext)).findSome?
      fun attempt => Siv.decrypt? attempt.1 associated attempt.2).isSome = true := by
    refine List.findSome?_isSome_iff.mpr ⟨_, candidate, ?_⟩
    rw [Siv.decrypt?_encrypt]
    rfl
  obtain ⟨other, first⟩ := Option.isSome_iff_exists.mp found
  exact ⟨other, decrypt_eq_ok_iff.mpr first⟩

/-- There is one way to refuse a byte string. -/
theorem decrypt_eq_error_iff {cipher : Cipher} {ciphertext associated : Bytes} :
    cipher.decrypt ciphertext associated = .error .undecryptable ↔
      ∀ plaintext, cipher.decrypt ciphertext associated ≠ .ok plaintext := by
  simp only [decrypt]
  split
  · simp
  · simp

/-- A ciphertext holds the sixteen bytes of a vector at least. -/
theorem length_of_isCiphertext {keyset : Keyset} {associated plaintext ciphertext : Bytes}
    (sealed : IsCiphertext keyset associated plaintext ciphertext) : 16 ≤ ciphertext.length := by
  obtain ⟨key, -, siv, -, rfl⟩ := sealed
  rw [List.length_append, Siv.length_encrypt]
  omega

theorem decryptBare_eq_ok_iff {cipher : Cipher} {ciphertext associated plaintext : Bytes} :
    cipher.decryptBare ciphertext associated = .ok plaintext ↔
      ciphertext = Siv.encrypt cipher.primary.key associated plaintext := by
  rw [← Siv.decrypt?_eq_some_iff]
  unfold decryptBare
  split
  · rename_i found
    rw [found, Except.ok.injEq, Option.some.injEq]
  · rename_i missing
    rw [missing]
    simp

/-- **Decryption accepts the ciphertexts of the enabled keys and nothing else**, and gives no
plaintext but one that the ciphertext was produced for; a byte string too short for a vector is
refused. Without a header the same holds for the primary key alone. -/
theorem decrypt_accepts_iff {keyset : Keyset} {cipher : Cipher}
    (accepted : ofKeyset keyset = .ok cipher) :
    (∀ ciphertext associated : Bytes,
      ((∃ plaintext, cipher.decrypt ciphertext associated = .ok plaintext) ↔
        ∃ plaintext, IsCiphertext keyset associated plaintext ciphertext) ∧
      (∀ plaintext, cipher.decrypt ciphertext associated = .ok plaintext →
        IsCiphertext keyset associated plaintext ciphertext) ∧
      (ciphertext.length < 16 →
        cipher.decrypt ciphertext associated = .error .undecryptable)) ∧
    ∃ primary siv, keyset.primary = .ok primary ∧ primary.material = .ok siv.bytes ∧
      ∀ ciphertext associated plaintext : Bytes,
        cipher.decryptBare ciphertext associated = .ok plaintext ↔
          ciphertext = Siv.encrypt siv associated plaintext := by
  constructor
  · intro ciphertext associated
    refine ⟨⟨?_, ?_⟩, fun plaintext => isCiphertext_of_decrypt accepted, ?_⟩
    · rintro ⟨plaintext, decrypted⟩
      exact ⟨plaintext, isCiphertext_of_decrypt accepted decrypted⟩
    · rintro ⟨plaintext, sealed⟩
      exact decrypts_of_isCiphertext accepted sealed
    · intro short
      refine decrypt_eq_error_iff.mpr fun plaintext decrypted => ?_
      have long := length_of_isCiphertext (isCiphertext_of_decrypt accepted decrypted)
      omega
  · obtain ⟨primary, -, -, found, -, -, source⟩ := exists_primary accepted
    exact ⟨primary, cipher.primary.key, found, (load_eq_ok source).2,
      fun _ _ _ => decryptBare_eq_ok_iff⟩

/-- A disabled key in front of the primary one. -/
def retiredKeyset : Keyset :=
  ⟨2, [⟨sampleData, .disabled, 1, .tink⟩, ⟨sampleData, .enabled, 2, .crunchy⟩]⟩

/-- What begins with the header of the disabled key is refused, whatever follows. -/
theorem retiredKeyset_refuses_old :
    ∃ cipher, ofKeyset retiredKeyset = .ok cipher ∧ ∀ rest associated : Bytes,
      cipher.decrypt ([1, 0, 0, 0, 1] ++ rest) associated = .error .undecryptable := by
  have loads : (ofKeyset retiredKeyset).isOk = true := by decide +kernel
  cases accepted : ofKeyset retiredKeyset with
  | error error =>
    rw [accepted] at loads
    cases loads
  | ok cipher =>
    refine ⟨cipher, rfl, fun rest associated => decrypt_eq_error_iff.mpr fun plaintext opened => ?_⟩
    obtain ⟨key, enabled, siv, -, produced⟩ :=
      ((decrypt_accepts_iff accepted).1 _ _).2.1 plaintext opened
    have only : retiredKeyset.enabled = [⟨sampleData, .enabled, 2, .crunchy⟩] := rfl
    rw [only, List.mem_singleton] at enabled
    subst enabled
    simp [Keyset.Key.header, HeaderKind.bytes] at produced

end LogProbe.Cipher
