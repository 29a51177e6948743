/-
**AES-SIV.** Deterministic authenticated encryption with a key of sixty-four bytes and exactly one
string of associated data.

* `Siv.Key` — a byte string of sixty-four bytes: one half authenticates, the other encrypts.
* `Siv.synthetic` — the initial vector made from the associated data and the plaintext.
* `Siv.encrypt` — the vector, then the plaintext under the key stream that the vector starts.
* `Siv.decrypt?` — the plaintext of a byte string whose vector is the right one.
-/

import LogProbe.Siv.Cmac

namespace LogProbe.Siv

/-- How many bytes a key has. -/
def keyLength : Nat := 64

/-- Sixty-four bytes. -/
structure Key where
  bytes : Bytes
  length_eq : bytes.length = keyLength

/-- A key from a byte string of the right length. -/
def Key.ofBytes? (bytes : Bytes) : Option Key :=
  if fits : bytes.length = keyLength then some ⟨bytes, fits⟩ else none

/-- The block cipher of the authenticating half. -/
def Key.authenticator (key : Key) : Block → Block :=
  let schedule := Aes.Schedule.ofKey (key.bytes.take 32)
  fun block => Aes.encrypt schedule block

/-- The block cipher of the encrypting half. -/
def Key.encryptor (key : Key) : Block → Block :=
  let schedule := Aes.Schedule.ofKey (key.bytes.drop 32)
  fun block => Aes.encrypt schedule block

/-- Adds a block to the last sixteen bytes of a byte string that has that many. -/
def addToEnd (bytes : Bytes) (block : Block) : Bytes :=
  let front := bytes.length - 16
  bytes.take front ++ Bytes.xor (bytes.drop front) block.toList

/-- The synthetic initial vector: the codes of a zero block and of the associated data are folded
into the plaintext, and the code of the outcome is taken. -/
def synthetic (cipher : Block → Block) (associated plaintext : Bytes) : Block :=
  let start := Cmac.tag cipher Block.zero.toList
  let folded := start.double.xor (Cmac.tag cipher associated)
  let outcome :=
    if 16 ≤ plaintext.length then addToEnd plaintext folded
    else (folded.double.xor (Block.padded plaintext)).toList
  Cmac.tag cipher outcome

/-- The counter that a vector starts: two of its bits are cleared. -/
def counterStart (vector : Block) : Block :=
  Vector.ofFn fun i : Fin 16 =>
    if i.val = 8 ∨ i.val = 12 then vector[i] &&& 0x7F else vector[i]

/-- At least `size` bytes of key stream. -/
def keyStream (cipher : Block → Block) (vector : Block) (size : Nat) : Bytes :=
  let start := counterStart vector
  (List.range ((size + 15) / 16)).flatMap fun steps => (cipher (start.counted steps)).toList

/-- A byte string under the key stream that a vector starts; twice is the identity. -/
def streamed (cipher : Block → Block) (vector : Block) (bytes : Bytes) : Bytes :=
  Bytes.xor bytes (keyStream cipher vector bytes.length)

/-- The synthetic vector, then the plaintext under its key stream. -/
def encrypt (key : Key) (associated plaintext : Bytes) : Bytes :=
  let vector := synthetic key.authenticator associated plaintext
  vector.toList ++ streamed key.encryptor vector plaintext

/-- The plaintext of an encrypted byte string, if its vector is the synthetic one. -/
def decrypt? (key : Key) (associated ciphertext : Bytes) : Option Bytes :=
  if ciphertext.length < 16 then none
  else
    let vector := Block.ofBytes ciphertext
    let plaintext := streamed key.encryptor vector (ciphertext.drop 16)
    if synthetic key.authenticator associated plaintext = vector then some plaintext else none

end LogProbe.Siv
