/-
**How many texts are an encrypted form.** With a single enabled key, the bytes of an encrypted form
are settled by the text that comes out of it: there is one header, one vector and one key stream.
What is left open is how these bytes are spelled. They may be cut into pieces, each of which is
base64 for itself, and this is the only freedom that there is.

* `FieldEncryptor.decrypt_eq_ok_iff` — what is decrypted to a text is decrypted to its bytes first.
* `FieldEncryptor.encrypt_of_decrypt` — the bytes of an encrypted form.
* `FieldEncryptor.encrypted_field_is_unique` — the law.
-/

import LogProbe.Proofs.Base64.Grouping
import LogProbe.Proofs.Cipher.Acceptance
import LogProbe.Proofs.Cipher.Field
import LogProbe.Proofs.Keyset.RoundTrip
import LogProbe.Proofs.Text.Spelling

namespace LogProbe.FieldEncryptor

variable {keyset : Keyset} {variant : Variant} {encryptor : FieldEncryptor}

/-! ### Decryption -/

/-- A text is read from its bytes and no others. -/
theorem plaintext_of_read {opened : Except Cipher.Error Bytes} {text : String}
    (read : (opened >>= fun plaintext =>
      match Utf8.decode? plaintext with
      | none => .error .notText
      | some text => .ok (String.ofList text)) = .ok text) :
    opened = .ok (Utf8.bytesOf text) := by
  cases opened with
  | error error => cases read
  | ok plaintext =>
    simp only [bind, Except.bind] at read
    split at read
    · cases read
    · rename_i characters decoded
      cases read
      rw [Utf8.decode?_eq_some_iff.mp decoded, Utf8.bytesOf, String.toList_ofList]

/-- **What is decrypted to a text is base64, and is decrypted to the bytes of the text.** -/
theorem decrypt_eq_ok_iff {encrypted text : String} :
    encryptor.decrypt encrypted = .ok text ↔
      ∃ ciphertext, Base64.decode? encrypted = some ciphertext ∧
        (match encryptor.variant with
          | .tink => encryptor.cipher.decrypt ciphertext []
          | .simple => encryptor.cipher.decryptBare ciphertext []) = .ok (Utf8.bytesOf text) := by
  constructor
  · intro decrypted
    unfold decrypt at decrypted
    split at decrypted
    · cases decrypted
    · rename_i ciphertext decoded
      refine ⟨ciphertext, decoded, ?_⟩
      cases kind : encryptor.variant with
      | tink =>
        rw [kind] at decrypted
        exact plaintext_of_read decrypted
      | simple =>
        rw [kind] at decrypted
        exact plaintext_of_read decrypted
  · rintro ⟨ciphertext, decoded, opened⟩
    exact decrypt_of_plaintext decoded opened

/-- Only the bytes of an encrypted form matter. -/
theorem decrypt_congr {first second : String}
    (same : Base64.decode? first = Base64.decode? second) :
    encryptor.decrypt first = encryptor.decrypt second := by
  unfold decrypt
  rw [same]

/-! ### Keysets with one enabled key -/

/-- A single enabled key is the primary one. -/
theorem exists_only_primary {cipher : Cipher} (made : Cipher.ofKeyset keyset = .ok cipher)
    (only : keyset.enabled.length = 1) :
    ∃ primary, keyset.primary = .ok primary ∧ keyset.enabled = [primary] ∧
      Cipher.load primary = .ok cipher.primary := by
  obtain ⟨primary, before, after, found, enabled, -, source⟩ := Cipher.exists_primary made
  obtain ⟨single, alone⟩ := List.length_eq_one_iff.mp only
  have member : primary ∈ keyset.enabled := by simp [enabled]
  rw [alone, List.mem_singleton] at member
  exact ⟨primary, found, member ▸ alone, source⟩

section Accepted

variable (accepted : ofKeyset keyset variant = .ok encryptor)

include accepted

/-- **The bytes that are decrypted to a text are those that the text is encrypted to**: the only
enabled key is the primary one, with its header or without. -/
theorem encrypt_of_decrypt (only : keyset.enabled.length = 1) {encrypted text : String}
    {ciphertext : Bytes} (decoded : Base64.decode? encrypted = some ciphertext)
    (decrypted : encryptor.decrypt encrypted = .ok text) :
    encryptor.encrypt text = Base64.encode ciphertext := by
  obtain ⟨made, same, -⟩ := ofKeyset_eq_ok accepted
  obtain ⟨other, again, opened⟩ := decrypt_eq_ok_iff.mp decrypted
  cases decoded.symm.trans again
  rw [same] at opened
  cases variant with
  | simple => rw [encrypt_simple accepted rfl, Cipher.decryptBare_eq_ok_iff.mp opened]
  | tink =>
    obtain ⟨primary, -, alone, source⟩ := exists_only_primary made only
    obtain ⟨key, member, siv, material, sealed⟩ := Cipher.isCiphertext_of_decrypt made opened
    rw [alone, List.mem_singleton] at member
    subst member
    rw [encrypt_tink accepted rfl, Cipher.encrypt, (Cipher.load_eq_ok source).1,
      Cipher.key_eq_of_load source material, sealed]

theorem decrypt_encrypt_of_only (only : keyset.enabled.length = 1) (text : String) :
    encryptor.decrypt (encryptor.encrypt text) = .ok text := by
  obtain ⟨primary, found, alone, -⟩ := exists_only_primary (ofKeyset_eq_ok accepted).1 only
  exact decrypt_encrypt accepted (isUndisputed_of_only found alone text)

end Accepted

/-- **An encrypted form is unique but for how its bytes are grouped.** With a single enabled key,
what is decrypted to a text are the rows of base64 that its encrypted form makes when its bytes are
cut into pieces, and nothing else; and of these the encrypted form itself is the one in which
nothing but padding follows padding. -/
theorem encrypted_field_is_unique (accepted : ofKeyset keyset variant = .ok encryptor)
    (only : keyset.enabled.length = 1) (encrypted text : String) :
    (encryptor.decrypt encrypted = .ok text ↔
      ∃ ciphertext, encryptor.encrypt text = Base64.encode ciphertext ∧
        Base64.IsRowOf ciphertext encrypted) ∧
    (encryptor.decrypt encrypted = .ok text →
      (encryptor.encrypt text = encrypted ↔ Base64.PadsLast encrypted.toList)) := by
  refine ⟨⟨fun decrypted => ?_, ?_⟩, fun decrypted => ?_⟩
  · obtain ⟨ciphertext, decoded, -⟩ := decrypt_eq_ok_iff.mp decrypted
    exact ⟨ciphertext, encrypt_of_decrypt accepted only decoded decrypted,
      Base64.decode?_eq_some_iff.mp decoded⟩
  · rintro ⟨ciphertext, form, row⟩
    have same : Base64.decode? encrypted = Base64.decode? (encryptor.encrypt text) := by
      rw [form, Base64.decode?_encode, Base64.decode?_eq_some_iff.mpr row]
    rw [decrypt_congr same]
    exact decrypt_encrypt_of_only accepted only text
  · obtain ⟨ciphertext, decoded, -⟩ := decrypt_eq_ok_iff.mp decrypted
    rw [encrypt_of_decrypt accepted only decoded decrypted]
    exact Base64.encode_eq_iff_padsLast decoded

theorem exists_ofKeyset_shared :
    ∃ encryptor, ofKeyset Keyset.shared .tink = .ok encryptor :=
  exists_ofKeyset_of_isOk (by decide +kernel)

/-- Under the shared keyset, a text without padding is decrypted to nothing but the text whose
encrypted form it is. -/
theorem encrypted_field_is_unique_shared :
    ∃ encryptor, ofKeyset Keyset.shared .tink = .ok encryptor ∧
      ∀ encrypted text : String, '=' ∉ encrypted.toList →
        encryptor.decrypt encrypted = .ok text → encryptor.encrypt text = encrypted := by
  obtain ⟨encryptor, accepted⟩ := exists_ofKeyset_shared
  refine ⟨encryptor, accepted, fun encrypted text unpadded decrypted => ?_⟩
  have unique := encrypted_field_is_unique accepted rfl encrypted text
  refine (unique.2 decrypted).mpr (List.pairwise_of_forall_mem_list fun c member _ _ padding => ?_)
  exact absurd (padding ▸ member) unpadded

/-- The empty text comes back from a text that is not its encrypted form, under a keyset with a
single enabled key: the first byte of the ciphertext stands in a padded block of its own. -/
theorem regrouped_is_decrypted :
    ∃ encryptor, ofKeyset Keyset.shared .tink = .ok encryptor ∧ Keyset.shared.enabled.length = 1 ∧
      encryptor.decrypt (Base64.regrouped (encryptor.cipher.encrypt (Utf8.bytesOf "") [])) =
        .ok "" ∧
      encryptor.encrypt "" ≠
        Base64.regrouped (encryptor.cipher.encrypt (Utf8.bytesOf "") []) := by
  obtain ⟨encryptor, accepted⟩ := exists_ofKeyset_shared
  have long := headerLength_le_length_encrypt encryptor (Utf8.bytesOf "")
  have decoded := Base64.decode?_eq_some_iff.mpr
    (Base64.isRowOf_regrouped (encryptor.cipher.encrypt (Utf8.bytesOf "") []))
  have form := encrypt_tink accepted rfl ""
  refine ⟨encryptor, accepted, rfl, ?_, ?_⟩
  · have same := decoded.trans (Base64.decode?_encode _).symm
    rw [← form] at same
    rw [decrypt_congr same]
    exact decrypt_encrypt_of_only accepted rfl ""
  · rw [form]
    intro same
    refine Base64.not_padsLast_regrouped ?_ ((Base64.encode_eq_iff_padsLast decoded).mp same)
    exact le_trans (by decide) long

end LogProbe.FieldEncryptor
