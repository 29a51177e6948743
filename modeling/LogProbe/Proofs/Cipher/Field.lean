/-
**Encrypted fields come back.** Every text has an encrypted form, which is base64 in canonical form,
and the text comes back from it unless a key in front of a primary key without a header takes the
ciphertext for its own.

* `Keyset.primaryRivals` — the keys that a ciphertext of the primary key is tried with before that
  key, and what each of them is shown.
* `FieldEncryptor.IsUndisputed` — none of them takes the encrypted form of a text for its own. It
  holds of every text if the form has no header, or if the primary key has one or is alone.
* `FieldEncryptor.encrypted_field_comes_back` — the law, for all keysets, both variants and all
  texts.
-/

import LogProbe.Cipher.FieldEncryptor
import LogProbe.Proofs.Base64.Canonical
import LogProbe.Proofs.Cipher.Loading
import LogProbe.Proofs.Text.Utf8

namespace LogProbe

/-! ### The rivals of the primary key -/

/-- The enabled keys that a ciphertext of the primary key is tried with before that key, and what
each of them is shown. -/
def Keyset.primaryRivals (keyset : Keyset) (ciphertext : Bytes) : List (Keyset.Key × Bytes) :=
  match keyset.enabled.dropWhile fun key => key.id ≠ keyset.primaryId with
  | [] => []
  | primary :: after =>
    Cipher.rivals (keyset.enabled.takeWhile fun key => key.id ≠ keyset.primaryId) primary after
      ciphertext

theorem Keyset.id_of_primary {keyset : Keyset} {primary : Key}
    (found : keyset.primary = .ok primary) : primary.id = keyset.primaryId := by
  unfold Keyset.primary at found
  split at found
  · cases found
  · rename_i key first
    split at found
    · cases found
      simpa using List.find?_some first
    · cases found

theorem Keyset.primaryRivals_eq {keyset : Keyset} {primary : Key} {before after : List Key}
    (found : keyset.primary = .ok primary) (enabled : keyset.enabled = before ++ primary :: after)
    (others : ∀ other ∈ before, other.id ≠ primary.id) (ciphertext : Bytes) :
    keyset.primaryRivals ciphertext = Cipher.rivals before primary after ciphertext := by
  have id := id_of_primary found
  have different : ∀ other ∈ before, decide (other.id ≠ keyset.primaryId) = true := by
    intro other member
    simpa [id] using others other member
  have same : decide (primary.id ≠ keyset.primaryId) = false := by simpa using id
  unfold primaryRivals
  rw [enabled, List.dropWhile_append_of_pos different, List.takeWhile_append_of_pos different,
    List.dropWhile_cons, List.takeWhile_cons, same]
  simp

namespace FieldEncryptor

/-- A ciphertext is long enough for a header to be cut off, whether it has one or not. -/
theorem headerLength_le_length_encrypt (encryptor : FieldEncryptor) (plaintext : Bytes) :
    headerLength ≤ (encryptor.cipher.encrypt plaintext []).length := by
  unfold Cipher.encrypt
  rw [List.length_append, Siv.length_encrypt, headerLength]
  omega

/-- No key that the encrypted form of a text is tried with before the primary key takes it for its
own. Without a header the primary key is the only one it is tried with. -/
def IsUndisputed (keyset : Keyset) (encryptor : FieldEncryptor) (text : String) : Prop :=
  encryptor.variant = .tink →
    ∀ rival ∈ keyset.primaryRivals (encryptor.cipher.encrypt (Utf8.bytesOf text) []),
      ∀ siv : Siv.Key, rival.1.material = .ok siv.bytes → Siv.decrypt? siv [] rival.2 = none

/-! ### Accepted keysets -/

/-- An encryptor has the cipher of its keyset and the variant asked for, and without headers the
header of its primary key is one that can be left out. -/
theorem ofKeyset_eq_ok {keyset : Keyset} {variant : Variant} {encryptor : FieldEncryptor}
    (accepted : ofKeyset keyset variant = .ok encryptor) :
    Cipher.ofKeyset keyset = .ok encryptor.cipher ∧ encryptor.variant = variant ∧
      (variant = .simple → encryptor.cipher.primary.header.length = headerLength) := by
  unfold ofKeyset at accepted
  cases made : Cipher.ofKeyset keyset with
  | error error =>
    rw [made] at accepted
    cases accepted
  | ok cipher =>
    rw [made] at accepted
    simp only [bind, Except.bind] at accepted
    split at accepted
    · cases accepted
    · rename_i fits
      cases accepted
      exact ⟨rfl, rfl, fun simple => Decidable.not_not.mp fun wrong => fits ⟨simple, wrong⟩⟩

theorem ofKeyset_ne_unusableKey (keyset : Keyset) (variant : Variant) (id : UInt32) :
    ofKeyset keyset variant ≠ .error (.unusableKey id) := by
  intro failed
  unfold ofKeyset at failed
  cases made : Cipher.ofKeyset keyset with
  | error error =>
    rw [made] at failed
    cases failed
    exact Cipher.ofKeyset_ne_unusableKey keyset id made
  | ok cipher =>
    rw [made] at failed
    simp only [bind, Except.bind] at failed
    split at failed
    · cases failed
    · cases failed

variable {keyset : Keyset} {variant : Variant} {encryptor : FieldEncryptor}

/-! ### Texts that are undisputed -/

/-- **A primary key with a header has no rivals**: no enabled key in front of it has its identifier,
and so none has its header. -/
theorem isUndisputed_of_header {primary : Keyset.Key} (found : keyset.primary = .ok primary)
    (headed : primary.header ≠ []) (text : String) : IsUndisputed keyset encryptor text := by
  intro tink rival member
  obtain ⟨before, after, enabled, others⟩ := Keyset.exists_of_primary found
  have alone : ∀ other ∈ before, other.header ≠ primary.header := by
    intro other inside same
    exact others other inside (Keyset.Key.id_eq_of_header_eq same headed)
  rw [Keyset.primaryRivals_eq found enabled others, Cipher.rivals_eq_nil headed alone] at member
  cases member

/-- The only enabled key has no rivals: if it has no header, its ciphertexts begin with none. -/
theorem isUndisputed_of_only {primary : Keyset.Key} (found : keyset.primary = .ok primary)
    (only : keyset.enabled = [primary]) (text : String) : IsUndisputed keyset encryptor text := by
  by_cases headed : primary.header = []
  · intro tink rival member
    have long := headerLength_le_length_encrypt encryptor (Utf8.bytesOf text)
    have different : (encryptor.cipher.encrypt (Utf8.bytesOf text) []).take headerLength ≠ [] := by
      intro nothing
      have size := congrArg List.length nothing
      rw [List.length_take, Nat.min_eq_left long] at size
      cases size
    have enabled : keyset.enabled = [] ++ primary :: [] := only
    rw [Keyset.primaryRivals_eq found enabled (fun _ inside => by cases inside), Cipher.rivals,
      if_pos headed] at member
    simp [headed, different.symm] at member
  · exact isUndisputed_of_header found headed text

/-! ### Decryption -/

/-- What is decrypted to the bytes of a text is decrypted to the text. -/
theorem decrypt_of_plaintext {encrypted text : String} {ciphertext : Bytes}
    (decoded : Base64.decode? encrypted = some ciphertext)
    (opened : (match encryptor.variant with
      | .tink => encryptor.cipher.decrypt ciphertext []
      | .simple => encryptor.cipher.decryptBare ciphertext []) = .ok (Utf8.bytesOf text)) :
    encryptor.decrypt encrypted = .ok text := by
  have read : Utf8.decode? (Utf8.bytesOf text) = some text.toList := Utf8.decode?_encode text.toList
  unfold decrypt
  rw [decoded]
  cases kind : encryptor.variant with
  | tink =>
    rw [kind] at opened
    simp only at opened
    simp only [opened, bind, Except.bind, read, String.ofList_toList]
  | simple =>
    rw [kind] at opened
    simp only at opened
    simp only [opened, bind, Except.bind, read, String.ofList_toList]

section Accepted

variable (accepted : ofKeyset keyset variant = .ok encryptor)

include accepted

theorem isUndisputed_of_simple (simple : variant = .simple) (text : String) :
    IsUndisputed keyset encryptor text := by
  intro tink
  rw [(ofKeyset_eq_ok accepted).2.1, simple] at tink
  cases tink

theorem encrypt_simple (simple : variant = .simple) (text : String) :
    encryptor.encrypt text =
      Base64.encode (Siv.encrypt encryptor.cipher.primary.key [] (Utf8.bytesOf text)) := by
  obtain ⟨-, same, size⟩ := ofKeyset_eq_ok accepted
  unfold encrypt Cipher.encrypt
  rw [same, simple]
  simp only [List.drop_left' (size simple)]

theorem encrypt_tink (tink : variant = .tink) (text : String) :
    encryptor.encrypt text = Base64.encode (encryptor.cipher.encrypt (Utf8.bytesOf text) []) := by
  obtain ⟨-, same, -⟩ := ofKeyset_eq_ok accepted
  unfold encrypt
  rw [same, tink]

/-- **A text comes back from its encrypted form**, if that is undisputed. -/
theorem decrypt_encrypt {text : String} (undisputed : IsUndisputed keyset encryptor text) :
    encryptor.decrypt (encryptor.encrypt text) = .ok text := by
  obtain ⟨made, same, -⟩ := ofKeyset_eq_ok accepted
  cases variant with
  | simple =>
    have decoded : Base64.decode? (encryptor.encrypt text) =
        some (Siv.encrypt encryptor.cipher.primary.key [] (Utf8.bytesOf text)) := by
      rw [encrypt_simple accepted rfl, Base64.decode?_encode]
    refine decrypt_of_plaintext decoded ?_
    simp only [same]
    exact Cipher.decryptBare_eq_ok_iff.mpr rfl
  | tink =>
    obtain ⟨primary, before, after, found, enabled, others, source⟩ := Cipher.exists_primary made
    obtain ⟨siv, material, comesBack⟩ := Cipher.decrypt_eq_of_rivals made enabled
    have key := Cipher.key_eq_of_load source material
    have ciphertext : encryptor.cipher.encrypt (Utf8.bytesOf text) [] =
        primary.header ++ Siv.encrypt siv [] (Utf8.bytesOf text) := by
      unfold Cipher.encrypt
      rw [(Cipher.load_eq_ok source).1, key]
    have decoded : Base64.decode? (encryptor.encrypt text) =
        some (primary.header ++ Siv.encrypt siv [] (Utf8.bytesOf text)) := by
      rw [encrypt_tink accepted rfl, Base64.decode?_encode, ciphertext]
    have refused := undisputed same
    rw [Keyset.primaryRivals_eq found enabled others, ciphertext] at refused
    refine decrypt_of_plaintext decoded ?_
    simp only [same]
    exact comesBack [] (Utf8.bytesOf text) refused

/-- **When a text comes back**: always without headers, with a primary key that has one, or with no
other enabled key, and else if it is undisputed. -/
theorem decrypt_encrypt_of_or {primary : Keyset.Key} (found : keyset.primary = .ok primary)
    {text : String} (safe : variant = .simple ∨ primary.header ≠ [] ∨ keyset.enabled = [primary] ∨
      IsUndisputed keyset encryptor text) :
    encryptor.decrypt (encryptor.encrypt text) = .ok text := by
  rcases safe with simple | headed | only | undisputed
  · exact decrypt_encrypt accepted (isUndisputed_of_simple accepted simple text)
  · exact decrypt_encrypt accepted (isUndisputed_of_header found headed text)
  · exact decrypt_encrypt accepted (isUndisputed_of_only found only text)
  · exact decrypt_encrypt accepted undisputed

end Accepted

/-- **Every text has an encrypted form, and comes back from it.** Material that was accepted always
makes a key, and a ciphertext always has a header's length to leave out, so that encryption cannot
fail; its outcome is base64 in canonical form. Without headers, with a primary key that has one, or
with no other enabled key, every text comes back; otherwise it does if none of the keys that are
tried before the primary one takes the ciphertext for its own. -/
theorem encrypted_field_comes_back (keyset : Keyset) (variant : Variant) :
    (∀ id, ofKeyset keyset variant ≠ .error (.unusableKey id)) ∧
    ∀ encryptor, ofKeyset keyset variant = .ok encryptor →
      ∃ primary, keyset.primary = .ok primary ∧ ∀ text : String,
        headerLength ≤ (encryptor.cipher.encrypt (Utf8.bytesOf text) []).length ∧
        Base64.IsCanonical (encryptor.encrypt text).toList ∧
        (variant = .simple ∨ primary.header ≠ [] ∨ keyset.enabled = [primary] ∨
            IsUndisputed keyset encryptor text →
          encryptor.decrypt (encryptor.encrypt text) = .ok text) := by
  refine ⟨ofKeyset_ne_unusableKey keyset variant, fun encryptor accepted => ?_⟩
  obtain ⟨primary, -, -, found, -⟩ := Cipher.exists_primary (ofKeyset_eq_ok accepted).1
  refine ⟨primary, found, fun text => ⟨headerLength_le_length_encrypt encryptor _, ?_,
    decrypt_encrypt_of_or accepted found⟩⟩
  unfold encrypt
  split
  · exact Base64.isCanonical_encode _
  · exact Base64.isCanonical_encode _

/-- Stored material of sixty-four ones. -/
def plainData : KeyData :=
  ⟨Keyset.sivTypeUrl,
    "EkABAQEBAQEBAQEBAQEBAQEBAQEBAQEBAQEBAQEBAQEBAQEBAQEBAQEBAQEBAQEBAQEBAQEBAQEBAQEBAQEBAQEB",
    "SYMMETRIC"⟩

/-- Two enabled keys with one identifier and one header; the first of them is the primary one. -/
def sharedHeaderKeyset : Keyset :=
  ⟨7, [⟨plainData, .enabled, 7, .legacy⟩, ⟨Cipher.sampleData, .enabled, 7, .crunchy⟩]⟩

/-- A keyset that loads has an encryptor. -/
theorem exists_ofKeyset_of_isOk (loads : (ofKeyset keyset variant).isOk = true) :
    ∃ encryptor, ofKeyset keyset variant = .ok encryptor := by
  cases accepted : ofKeyset keyset variant with
  | error error =>
    rw [accepted] at loads
    cases loads
  | ok encryptor => exact ⟨encryptor, rfl⟩

theorem exists_ofKeyset_sharedHeader :
    ∃ encryptor, ofKeyset sharedHeaderKeyset .tink = .ok encryptor :=
  exists_ofKeyset_of_isOk (by decide +kernel)

/-- All texts come back, although a later key has the header of the primary one. -/
theorem sharedHeaderKeyset_field_comes_back :
    ∃ encryptor, ofKeyset sharedHeaderKeyset .tink = .ok encryptor ∧
      ∀ text, encryptor.decrypt (encryptor.encrypt text) = .ok text := by
  obtain ⟨encryptor, accepted⟩ := exists_ofKeyset_sharedHeader
  obtain ⟨primary, found, comesBack⟩ :=
    (encrypted_field_comes_back sharedHeaderKeyset .tink).2 encryptor accepted
  have first : sharedHeaderKeyset.primary = .ok ⟨plainData, .enabled, 7, .legacy⟩ := rfl
  cases found.symm.trans first
  exact ⟨encryptor, accepted, fun text => (comesBack text).2.2 (Or.inr (Or.inl (by decide)))⟩

end FieldEncryptor

end LogProbe
