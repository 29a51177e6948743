/-
**Hosts come back from their texts.** A host that was read is written in a way that is read as that
host: a domain is in lower case and no address, and the numbers of an address are those it has.

* `Url.Host.IsCanonical`, `Url.Host.isCanonical_of_ofText` — the hosts that are read.
* `Url.Host.ofText_text` — they come back from their texts.
* `Url.Host.isHostChar_of_mem_text`, `Url.Host.readHostText_text` — where the text of a host ends.
-/

import LogProbe.Proofs.Url.Address
import LogProbe.Proofs.Url.Segment
import LogProbe.Url.Parse

namespace LogProbe.Url

theorem toLower_toLower (c : Char) : c.toLower.toLower = c.toLower := by
  rcases eq_or_of_toLower (c := c) rfl with same | ⟨-, low, -⟩
  · exact congrArg Char.toLower same.symm
  · rcases eq_or_of_toLower (c := c.toLower) rfl with same | ⟨number, -, high⟩
    · exact same.symm
    · omega

namespace Host

/-- A host that its own text stands for. -/
inductive IsCanonical : Host → Prop
  | domain {name : List Char} (lower : name.map Char.toLower = name)
      (permitted : ∀ c ∈ name, isForbidden c = false)
      (labelled : Label.areNames (name.splitOn '.') = true) (given : name ≠ [])
      (noNumber : endsInNumber name = false) : IsCanonical (.domain (String.ofList name))
  | ipv4 {address : Nat} (small : address < 4294967296) : IsCanonical (.ipv4 address)
  | ipv6 {pieces : List Nat} (all : pieces.length = 8) (small : ArePieces pieces) :
      IsCanonical (.ipv6 pieces)

/-! ### Hosts that were read -/

theorem isCanonical_of_bracketed {inner : List Char} {host : Host}
    (read : bracketed inner = .ok host) : IsCanonical host := by
  unfold bracketed at read
  split at read
  · split at read
    · rename_i pieces found
      cases read
      obtain ⟨all, small⟩ := isAddress_of_ipv6? found
      exact .ipv6 all small
    · cases read
  · cases read

theorem isCanonical_of_ofDomain {decoded : List Char} {host : Host}
    (read : ofDomain decoded = .ok host) : IsCanonical host := by
  unfold ofDomain at read
  dsimp only at read
  split at read
  · cases read
  rename_i proper
  split at read
  · cases read
  rename_i given
  split at read
  · split at read
    · rename_i address found
      cases read
      exact .ipv4 (ipv4?_lt found)
    · cases read
  · rename_i noNumber
    cases read
    simp only [Bool.or_eq_true, List.any_eq_true, Bool.not_eq_true', not_or, not_exists, not_and,
      Bool.not_eq_true, Bool.not_eq_false] at proper noNumber
    refine .domain ?_ proper.1 proper.2 given noNumber
    rw [List.map_map]
    exact List.map_congr_left fun c _ => toLower_toLower c

/-- **A host that was read is one that its text stands for.** -/
theorem isCanonical_of_ofText {text : List Char} {host : Host} (read : ofText text = .ok host) :
    IsCanonical host := by
  unfold ofText at read
  split at read
  · exact isCanonical_of_bracketed read
  · split at read
    · cases read
    · exact isCanonical_of_ofDomain read

/-! ### Texts of hosts -/

/-- A text that a domain may hold is read as it stands. -/
theorem ofText_of_permitted {name : List Char} (permitted : ∀ c ∈ name, isForbidden c = false) :
    ofText name = ofDomain name := by
  have plain : '%' ∉ name := fun member => Bool.noConfusion (permitted '%' member)
  unfold ofText
  split
  · rename_i inner
    exact Bool.noConfusion (permitted '[' List.mem_cons_self)
  · rw [Percent.decode_of_not_mem plain, Utf8.decode?_encode]

theorem toNat_lt_of_permitted {c : Char} (permitted : isForbidden c = false) : c.toNat < 128 := by
  by_contra high
  have forbidden : isForbidden c = true := by
    unfold isForbidden
    rw [decide_eq_true (show 0x7F ≤ c.toNat by omega), Bool.or_true, Bool.true_or]
  rw [permitted] at forbidden
  cases forbidden

/-- A text that a domain may hold stands in ASCII. -/
theorem inAscii_of_permitted {name : List Char} (permitted : ∀ c ∈ name, isForbidden c = false) :
    inAscii name = name :=
  if_pos (List.all_eq_true.mpr fun c member =>
    decide_eq_true (toNat_lt_of_permitted (permitted c member)))

/-- A domain in lower case whose characters and labels are permitted is an address or itself. -/
theorem ofDomain_of_permitted {name : List Char} (lower : name.map Char.toLower = name)
    (permitted : ∀ c ∈ name, isForbidden c = false)
    (labelled : Label.areNames (name.splitOn '.') = true) (given : name ≠ []) :
    ofDomain name =
      if endsInNumber name then
        match ipv4? name with
        | some address => .ok (.ipv4 address)
        | none => .error .invalidIpv4
      else .ok (.domain (String.ofList name)) := by
  have passes : name.any isForbidden = false :=
    List.any_eq_false.mpr fun c member => by rw [permitted c member]; exact Bool.false_ne_true
  unfold ofDomain
  simp only [inAscii_of_permitted permitted, lower, passes, labelled, if_neg given]
  rfl

/-- The characters of an address of four bytes. -/
theorem mem_octets {c : Char} {address : Nat} (member : c ∈ ['.'].intercalate (octets address)) :
    c = '.' ∨ isDecimal c = true := by
  rcases mem_intercalate member with dot | ⟨octet, among, inside⟩
  · exact .inl dot
  · obtain ⟨byte, -, rfl⟩ := List.mem_map.mp among
    exact .inr (isDecimal_of_mem_toDigits c inside)

/-- What holds of the dot and of the decimal digits holds of an address of four bytes. -/
theorem forall_mem_octets {P : Char → Prop} (dot : P '.')
    (digits : ∀ code : Fin 128, isDecimal (Char.ofNat code) = true → P (Char.ofNat code))
    (address : Nat) : ∀ c ∈ ['.'].intercalate (octets address), P c := by
  intro c member
  rcases mem_octets member with rfl | decimal
  · exact dot
  · exact forall_isDecimal digits decimal

/-- Labels of digits stand for themselves, and nothing in them goes from right to left. -/
theorem areNames_octets (address : Nat) : Label.areNames (octets address) = true := by
  have digits {octet : List Char} (among : octet ∈ octets address) :
      ∀ c ∈ octet, isDecimal c = true := by
    obtain ⟨byte, -, rfl⟩ := List.mem_map.mp among
    exact isDecimal_of_mem_toDigits
  have texts : (octets address).mapM Label.text? = some (octets address) := by
    refine Json.mapM_eq_some_iff.mpr (List.forall₂_same.mpr fun octet among => ?_)
    refine if_neg fun marked => ?_
    have letter : 'x' ∈ octet := (List.isPrefixOf_iff_prefix.mp marked).subset List.mem_cons_self
    exact Bool.noConfusion (digits among 'x' letter)
  have leftToRight : (octets address).any Label.isRightToLeft = false := by
    refine List.any_eq_false.mpr fun octet among => ?_
    refine Bool.not_eq_true _ ▸ List.any_eq_false.mpr fun c inside => ?_
    exact forall_isDecimal (P := fun c => ¬ (Text.direction c == .right ||
      Text.direction c == .arabic) = true) (by decide) (digits among c inside)
  unfold Label.areNames
  rw [texts]
  dsimp only
  rw [leftToRight]
  rfl

/-- **A host comes back from its text.** -/
theorem ofText_text {host : Host} (canonical : IsCanonical host) :
    ofText host.text.toList = .ok host := by
  cases canonical with
  | domain lower permitted labelled given noNumber =>
    rw [text, String.toList_ofList, ofText_of_permitted permitted,
      ofDomain_of_permitted lower permitted labelled given, if_neg (by simp [noNumber])]
  | ipv4 small =>
    rename_i address
    have lower : (['.'].intercalate (octets address)).map Char.toLower =
        ['.'].intercalate (octets address) :=
      (List.map_congr_left (forall_mem_octets (P := fun c => c.toLower = id c) (by decide)
        (by decide) address)).trans (List.map_id _)
    have permitted : ∀ c ∈ ['.'].intercalate (octets address), isForbidden c = false :=
      forall_mem_octets (by decide) (by decide) address
    have labelled : Label.areNames ((['.'].intercalate (octets address)).splitOn '.') = true := by
      rw [splitOn_octets]
      exact areNames_octets address
    have given : ['.'].intercalate (octets address) ≠ [] := by
      intro nothing
      have number := endsInNumber_octets address
      rw [nothing] at number
      cases number
    rw [text_ipv4, ofText_of_permitted permitted,
      ofDomain_of_permitted lower permitted labelled given, if_pos (endsInNumber_octets address),
      ipv4?_octets small]
  | ipv6 all small =>
    rename_i pieces
    rw [text_ipv6]
    show bracketed (addressText pieces ++ [']']) = _
    unfold bracketed
    simp only [List.getLast?_concat, List.dropLast_concat, ipv6?_addressText all small]

/-! ### Where the text of a host ends -/

/-- A visible character that ends neither an authority nor the user in front of it. -/
def IsHostChar (c : Char) : Prop :=
  endsAuthority true c = false ∧ c ≠ '@' ∧ Percent.IsVisible c

instance : DecidablePred IsHostChar := fun c =>
  inferInstanceAs (Decidable (endsAuthority true c = false ∧ c ≠ '@' ∧ Percent.IsVisible c))

/-- What holds of the characters that a domain may hold among the ASCII ones holds of each. -/
theorem forall_permitted {P : Char → Prop}
    (each : ∀ code : Fin 128, isForbidden (Char.ofNat code) = false → P (Char.ofNat code))
    {c : Char} (permitted : isForbidden c = false) : P c :=
  Percent.forall_ascii (P := fun c => isForbidden c = false → P c) each
    (toNat_lt_of_permitted permitted) permitted

/-- What holds of the colon and of the digits holds of an address of eight pieces. -/
theorem forall_mem_addressText {P : Char → Prop} (colon : P ':')
    (digits : ∀ code : Fin 128, (Percent.digit? (Char.ofNat code)).isSome = true →
      P (Char.ofNat code)) (pieces : List Nat) : ∀ c ∈ addressText pieces, P c := by
  intro c member
  rcases mem_addressText member with rfl | isDigit
  · exact colon
  · exact Percent.forall_isDigit digits isDigit

/-- **The characters of a host.** -/
theorem isHostChar_of_mem_text {host : Host} (canonical : IsCanonical host) :
    ∀ c ∈ host.text.toList, IsHostChar c := by
  cases canonical with
  | domain lower permitted labelled given noNumber =>
    rw [text, String.toList_ofList]
    exact fun c member => forall_permitted (by decide) (permitted c member)
  | ipv4 small =>
    rw [text_ipv4]
    exact forall_mem_octets (by decide) (by decide) _
  | ipv6 all small =>
    rw [text_ipv6]
    refine List.forall_mem_cons.mpr ⟨by decide, List.forall_mem_append.mpr
      ⟨?_, List.forall_mem_singleton.mpr (by decide)⟩⟩
    exact forall_mem_addressText (by decide) (by decide) _

theorem text_ne_nil {host : Host} (canonical : IsCanonical host) : host.text.toList ≠ [] := by
  intro nothing
  have read := ofText_text canonical
  rw [nothing] at read
  cases read

/-- A character that a host goes on with, in brackets or not, and that opens or closes none. -/
def StaysInHost (inBrackets : Bool) (c : Char) : Prop :=
  endsAuthority true c = false ∧ (c ≠ ':' ∨ inBrackets = true) ∧ c ≠ '[' ∧ c ≠ ']'

instance (inBrackets : Bool) : DecidablePred (StaysInHost inBrackets) := fun c =>
  inferInstanceAs (Decidable (endsAuthority true c = false ∧ (c ≠ ':' ∨ inBrackets = true) ∧
    c ≠ '[' ∧ c ≠ ']'))

theorem readHostText_append {inBrackets : Bool} {front : List Char}
    (inside : ∀ c ∈ front, StaysInHost inBrackets c) (rest : List Char) :
    readHostText true inBrackets (front ++ rest) =
      Prod.map (front ++ ·) id (readHostText true inBrackets rest) := by
  induction front with
  | nil => rfl
  | cons c front ih =>
    obtain ⟨⟨authority, colon, opening, closing⟩, others⟩ := List.forall_mem_cons.mp inside
    have goesOn : ¬ (endsAuthority true c || (c == ':' && !inBrackets)) = true := by
      rcases colon with other | bracketed
      · simp [authority, other]
      · simp [authority, bracketed]
    rw [List.cons_append, readHostText, if_neg goesOn]
    simp only [if_neg opening, if_neg closing, ih others]
    rfl

theorem readHostText_of_ends {c : Char} (ends : c = ':' ∨ c = '/') (rest : List Char) :
    readHostText true false (c :: rest) = ([], c :: rest) := by
  rcases ends with rfl | rfl
  · rfl
  · rfl

/-- A host without brackets ends at a colon or slash. -/
theorem readHostText_of_staysInHost {name : List Char} (inside : ∀ c ∈ name, StaysInHost false c)
    {c : Char} (ends : c = ':' ∨ c = '/') (rest : List Char) :
    readHostText true false (name ++ c :: rest) = (name, c :: rest) := by
  rw [readHostText_append inside, readHostText_of_ends ends, Prod.map_apply, List.append_nil]
  rfl

/-- Colons between brackets do not end a host. -/
theorem readHostText_bracketed {inner : List Char} (inside : ∀ c ∈ inner, StaysInHost true c)
    {c : Char} (ends : c = ':' ∨ c = '/') (rest : List Char) :
    readHostText true false ('[' :: (inner ++ [']']) ++ c :: rest) =
      ('[' :: (inner ++ [']']), c :: rest) := by
  have closing : readHostText true true (']' :: c :: rest) = ([']'], c :: rest) := by
    rw [readHostText, if_neg (by decide)]
    simp only [Char.reduceEq, if_false, if_true, readHostText_of_ends ends]
  have opened : readHostText true true (inner ++ ']' :: c :: rest) =
      (inner ++ [']'], c :: rest) := by
    rw [readHostText_append inside, closing]
    rfl
  rw [List.cons_append, List.append_assoc, List.singleton_append, readHostText, if_neg (by decide)]
  simp only [if_true, opened]

/-- **A host ends** at a colon or slash behind its text. -/
theorem readHostText_text {host : Host} (canonical : IsCanonical host) {c : Char}
    (ends : c = ':' ∨ c = '/') (rest : List Char) :
    readHostText true false (host.text.toList ++ c :: rest) = (host.text.toList, c :: rest) := by
  cases canonical with
  | domain lower permitted labelled given noNumber =>
    rw [text, String.toList_ofList]
    exact readHostText_of_staysInHost (fun c member =>
      forall_permitted (P := StaysInHost false) (by decide) (permitted c member)) ends rest
  | ipv4 small =>
    rw [text_ipv4]
    exact readHostText_of_staysInHost (forall_mem_octets (by decide) (by decide) _) ends rest
  | ipv6 all small =>
    rw [text_ipv6]
    exact readHostText_bracketed (forall_mem_addressText (by decide) (by decide) _) ends rest

end Host

end LogProbe.Url
