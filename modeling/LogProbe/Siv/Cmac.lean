/-
**CMAC.** A message authentication code: the message is chained block by block through a cipher,
and its last block is masked by a subkey that tells a full last block from a padded one.

* `Cmac.blocks` — a byte string cut into full blocks and a last block of one to sixteen bytes.
* `Cmac.tag` — the code of a byte string.
-/

import LogProbe.Siv.Aes

namespace LogProbe.Cmac

/-- At most `count` full blocks in front, and the rest. A full block is split off as long as bytes
follow it. -/
def cut : Nat → Bytes → List Block × Bytes
  | 0, bytes => ([], bytes)
  | count + 1, bytes =>
    let rest := bytes.drop 16
    match rest with
    | [] => ([], bytes)
    | _ :: _ =>
      let (blocks, last) := cut count rest
      (Block.ofBytes bytes :: blocks, last)

/-- The full blocks that other bytes follow, and the last block, which is empty only if the byte
string is. -/
def blocks (bytes : Bytes) : List Block × Bytes := cut (bytes.length / 16) bytes

/-- The last block under its mask. -/
def masked (key : Block) (last : Bytes) : Block :=
  let subkey := key.double
  if last.length = 16 then (Block.ofBytes last).xor subkey
  else (Block.padded last).xor subkey.double

/-- The code of a byte string under a block cipher. -/
def tag (cipher : Block → Block) (bytes : Bytes) : Block :=
  let (full, last) := blocks bytes
  let chained := full.foldl (fun state block => cipher (state.xor block)) Block.zero
  cipher (chained.xor (masked (cipher Block.zero) last))

end LogProbe.Cmac
