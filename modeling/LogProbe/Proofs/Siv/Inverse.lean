/-
**AES-SIV undoes itself.** An encrypted byte string is a vector and the plaintext under the key
stream of that vector. Decryption finds the vector in front, restores the plaintext with the same
key stream, and arrives at the same vector again.

* `Siv.streamed_streamed` — a key stream is taken off by putting it on once more, whatever the
  length of the byte string: `Siv.length_le_length_keyStream` says that it is long enough.
* `Siv.decrypt?_encrypt` — under the same key and associated data every plaintext comes back.
* `Siv.encrypt_sharedKey` — a known answer.
* `Siv.decrypt?_eq_some_iff` — and nothing but the encryption of a plaintext is decrypted to it.
-/

import LogProbe.Siv.Mode
import LogProbe.Text.Utf8

namespace LogProbe

/-! ### Byte strings and blocks -/

/-- **Exclusive or with the same bytes twice changes nothing**, if there are enough of them. -/
theorem Bytes.xor_xor_cancel {bytes mask : Bytes} (enough : bytes.length ≤ mask.length) :
    Bytes.xor (Bytes.xor bytes mask) mask = bytes := by
  induction bytes generalizing mask with
  | nil => rfl
  | cons byte bytes ih =>
    cases mask with
    | nil => cases enough
    | cons first mask =>
      have restored := ih (Nat.le_of_succ_le_succ enough)
      simp only [Bytes.xor, List.zipWith_cons_cons, UInt8.xor_assoc, UInt8.xor_self,
        UInt8.xor_zero] at restored ⊢
      rw [restored]

/-- A block is read back from a byte string that begins with it. -/
theorem Block.ofBytes_toList_append (block : Block) (rest : Bytes) :
    Block.ofBytes (block.toList ++ rest) = block := by
  have front : (block.toList ++ rest).take 16 = block.toList := by simp
  unfold Block.ofBytes
  rw [front]
  apply Vector.ext
  intro i bound
  simp only [Vector.getElem_ofFn, Array.getD_eq_getD_getElem?, List.getElem?_toArray]
  rw [List.getElem?_append_left (by simpa using bound)]
  simp [bound]

/-- A block is the first sixteen bytes of what it was made from, if there are that many. -/
theorem Block.toList_ofBytes {bytes : Bytes} (enough : 16 ≤ bytes.length) :
    (Block.ofBytes bytes).toList = bytes.take 16 := by
  have size : (bytes.take 16).length = 16 := by simp [enough]
  apply List.ext_getElem
  · rw [size, Vector.length_toList]
  · intro i left right
    rw [Vector.getElem_toList]
    unfold Block.ofBytes
    simp only [Vector.getElem_ofFn, Array.getD_eq_getD_getElem?, List.getElem?_toArray]
    rw [List.getElem?_append_left right, List.getElem?_eq_getElem right, Option.getD_some]

namespace Siv

/-- The bytes of a key determine it. -/
theorem Key.eq_of_bytes_eq {first second : Key} (same : first.bytes = second.bytes) :
    first = second := by
  cases first
  cases second
  cases same
  rfl

/-! ### The key stream -/

theorem length_keyStream (cipher : Block → Block) (vector : Block) (size : Nat) :
    (keyStream cipher vector size).length = 16 * ((size + 15) / 16) := by
  simp [keyStream, List.length_flatMap, List.map_const', Nat.mul_comm]

/-- The last block of a key stream may reach beyond the byte string, but none is missing. -/
theorem length_le_length_keyStream (cipher : Block → Block) (vector : Block) (size : Nat) :
    size ≤ (keyStream cipher vector size).length := by
  rw [length_keyStream]
  omega

theorem length_streamed (cipher : Block → Block) (vector : Block) (bytes : Bytes) :
    (streamed cipher vector bytes).length = bytes.length := by
  rw [streamed, Bytes.length_xor]
  exact Nat.min_eq_left (length_le_length_keyStream cipher vector bytes.length)

/-- **A key stream is taken off by putting it on once more.** -/
theorem streamed_streamed (cipher : Block → Block) (vector : Block) (bytes : Bytes) :
    streamed cipher vector (streamed cipher vector bytes) = bytes := by
  have same : streamed cipher vector (streamed cipher vector bytes) =
      Bytes.xor (streamed cipher vector bytes) (keyStream cipher vector bytes.length) := by
    rw [streamed, length_streamed]
  rw [same]
  exact Bytes.xor_xor_cancel (length_le_length_keyStream cipher vector bytes.length)

/-! ### Encryption and decryption -/

theorem length_encrypt (key : Key) (associated plaintext : Bytes) :
    (encrypt key associated plaintext).length = 16 + plaintext.length := by
  simp [encrypt, length_streamed]

/-- **Every plaintext comes back under the key and associated data it was encrypted with.** -/
theorem decrypt?_encrypt (key : Key) (associated plaintext : Bytes) :
    decrypt? key associated (encrypt key associated plaintext) = some plaintext := by
  have long : ¬ (encrypt key associated plaintext).length < 16 := by
    rw [length_encrypt]
    omega
  have vector : Block.ofBytes (encrypt key associated plaintext) =
      synthetic key.authenticator associated plaintext :=
    Block.ofBytes_toList_append _ _
  have rest : (encrypt key associated plaintext).drop 16 =
      streamed key.encryptor (synthetic key.authenticator associated plaintext) plaintext := by
    simp [encrypt]
  unfold decrypt?
  rw [if_neg long]
  simp only [vector, rest, streamed_streamed, if_true]

/-- The key that is shared with the service. -/
def sharedKey : Key where
  bytes := [
    0xEA, 0x1F, 0xD0, 0xFC, 0xEA, 0x28, 0xB4, 0x40, 0xF1, 0x7C, 0x10, 0x18,
    0x5C, 0x64, 0x8D, 0x4F, 0x90, 0x12, 0x8A, 0x74, 0x31, 0x8C, 0x3C, 0x34,
    0xB6, 0xC0, 0x52, 0x13, 0xAA, 0xA7, 0xE3, 0x43, 0xBE, 0xD1, 0x41, 0xB0,
    0xD1, 0x3A, 0x18, 0x40, 0x5C, 0x8F, 0x26, 0xE6, 0xA5, 0x1C, 0x60, 0xD6,
    0xDF, 0x96, 0x7B, 0x3C, 0x5E, 0x8F, 0xFF, 0x04, 0xE4, 0x5B, 0x82, 0xD5,
    0xF4, 0x9A, 0xC6, 0xDF]
  length_eq := rfl

/-- **A known answer**: what the shared key makes of the text "hello world". -/
theorem encrypt_sharedKey :
    encrypt sharedKey [] (Utf8.bytesOf "hello world") = [
      0x32, 0x2D, 0xC2, 0x84, 0x2E, 0xE4, 0xC1, 0x80, 0x7B, 0x07, 0xDD, 0xB2,
      0x7B, 0x42, 0xFE, 0x4A, 0xED, 0x9C, 0xE9, 0x82, 0x5B, 0x08, 0xC1, 0xD7,
      0x23, 0x85, 0x38] := by
  decide +kernel

/-- Under one key and the same associated data, two plaintexts are not encrypted alike. -/
theorem encrypt_injective {key : Key} {associated first second : Bytes}
    (same : encrypt key associated first = encrypt key associated second) : first = second := by
  have opened := decrypt?_encrypt key associated first
  rw [same, decrypt?_encrypt] at opened
  exact (Option.some.inj opened).symm

/-- What is decrypted to a plaintext is the encryption of that plaintext: its first sixteen bytes
are the vector, and the key stream that they start leads back to the others. -/
theorem eq_encrypt_of_decrypt? {key : Key} {associated ciphertext plaintext : Bytes}
    (found : decrypt? key associated ciphertext = some plaintext) :
    ciphertext = encrypt key associated plaintext := by
  unfold decrypt? at found
  split at found
  · cases found
  · rename_i long
    simp only at found
    split at found
    · rename_i vector
      cases found
      unfold encrypt
      simp only [vector, streamed_streamed]
      rw [Block.toList_ofBytes (by omega), List.take_append_drop]
    · cases found

/-- **Decryption accepts the encryptions under its key and nothing else.** -/
theorem decrypt?_eq_some_iff {key : Key} {associated ciphertext plaintext : Bytes} :
    decrypt? key associated ciphertext = some plaintext ↔
      ciphertext = encrypt key associated plaintext := by
  constructor
  · exact eq_encrypt_of_decrypt?
  · rintro rfl
    exact decrypt?_encrypt key associated plaintext

end Siv

end LogProbe
