import RfidLink.Proofs.CheckedStores

/-!
# The text of an EPC

An EPC leaves the library as text: two digits for each byte, and a space between groups of bytes.
This file says what somebody who has nothing but the text can tell.

* **The digits.**  `Hexadecimal.read` reads pairs of capital digits.  `read_flatMap_upper` says that
  it gives the bytes back, and `filter_epcDigitsFrom` that without its spaces a text consists of
  nothing but their digits.
* **The spaces.**  `IsGrouping` says, without mentioning a text, how bytes fall into groups.
  `epcDigitsFrom_flatten` is one induction over the groups: a text is the digits of each group, with
  single spaces between them, and there is no space inside a group.

**`epcText_faithful`** puts both together, and adds that the text has room in what a consumer has to
provide, at every step of the writing.
-/

namespace RfidLink

namespace Hexadecimal

/-! ## Reading digits -/

/-- The value of a capital digit. -/
def value? (c : Char) : Option Nat :=
  if '0' ≤ c ∧ c ≤ '9' then some (c.toNat - '0'.toNat)
  else if 'A' ≤ c ∧ c ≤ 'F' then some (c.toNat - 'A'.toNat + 10)
  else none

/-- The bytes that pairs of capital digits stand for. -/
def read : List Char → Option (List UInt8)
  | [] => some []
  | [_] => none
  | high :: low :: rest => do
    some (UInt8.ofNat (16 * (← value? high) + (← value? low)) :: (← read rest))

lemma value?_digitChar {n : Nat} (h : n < 16) : value? (Nat.digitChar n).toUpper = some n := by
  have hall : ∀ n : Fin 16, value? (Nat.digitChar n).toUpper = some n.val := by decide
  exact hall ⟨n, h⟩

lemma read_upper (b : UInt8) (rest : List Char) :
    read (upper b ++ rest) = (read rest).map (b :: ·) := by
  have hbyte := b.toNat_lt
  have hhigh := value?_digitChar (show b.toNat / 16 < 16 by omega)
  have hlow := value?_digitChar (show b.toNat % 16 < 16 by omega)
  have hsame : UInt8.ofNat (16 * (b.toNat / 16) + b.toNat % 16) = b := by
    rw [Nat.div_add_mod, UInt8.ofNat_toNat]
  rw [upper, lower, List.map_cons, List.map_cons, List.map_nil, List.cons_append, List.cons_append,
    List.nil_append, read, hhigh, hlow, Option.bind_eq_bind, Option.bind_some, Option.bind_eq_bind,
    Option.bind_some, hsame]
  cases read rest <;> rfl

/-- **Digits are read back** as the bytes they were written for. -/
theorem read_flatMap_upper (bytes : List UInt8) : read (bytes.flatMap upper) = some bytes := by
  induction bytes with
  | nil => rfl
  | cons b rest ih => rw [List.flatMap_cons, read_upper, ih, Option.map_some]

/-- What has a value is no space. -/
lemma space_notMem_upper (b : UInt8) : ' ' ∉ upper b := by
  have hbyte := b.toNat_lt
  have hvalued : ∀ n < 16, (Nat.digitChar n).toUpper ≠ ' ' := by
    intro n hn hspace
    have hvalue := value?_digitChar hn
    rw [hspace] at hvalue
    cases hvalue
  rw [upper, lower, List.map_cons, List.map_cons, List.map_nil, List.mem_cons, List.mem_singleton]
  rintro (hspace | hspace)
  · exact hvalued _ (by omega) hspace.symm
  · exact hvalued _ (by omega) hspace.symm

lemma space_notMem_flatMap_upper (bytes : List UInt8) : ' ' ∉ bytes.flatMap upper := by
  rw [List.mem_flatMap]
  rintro ⟨b, -, hspace⟩
  exact space_notMem_upper b hspace

end Hexadecimal

open Hexadecimal (upper)

/-! ## Digits and spaces -/

variable {group : Nat}

/-- A byte takes two digits and at most one space. -/
lemma length_epcDigitsFrom_le (group i : Nat) (bytes : List UInt8) :
    (epcDigitsFrom group i bytes).length ≤ 3 * bytes.length := by
  induction bytes generalizing i with
  | nil => exact Nat.zero_le _
  | cons b rest ih =>
      have hdigits : (upper b).length = 2 := rfl
      have hrest := ih (i + 1)
      rw [epcDigitsFrom, List.length_append, List.length_append, List.length_cons, hdigits]
      split
      · rw [List.length_singleton]
        omega
      · rw [List.length_nil]
        omega

/-- Without its spaces a text is the digits of the bytes. -/
lemma filter_epcDigitsFrom (group i : Nat) (bytes : List UInt8) :
    (epcDigitsFrom group i bytes).filter (· ≠ ' ') = bytes.flatMap upper := by
  induction bytes generalizing i with
  | nil => rfl
  | cons b rest ih =>
      have hspace : (if 0 < group ∧ 0 < i ∧ i % group = 0 then [' '] else []).filter (· ≠ ' ') =
          [] := by
        split <;> rfl
      have hdigits : (upper b).filter (· ≠ ' ') = upper b := by
        rw [List.filter_eq_self]
        intro c hc
        have hother : c ≠ ' ' := fun h => Hexadecimal.space_notMem_upper b (h ▸ hc)
        exact decide_eq_true hother
      rw [epcDigitsFrom, List.filter_append, List.filter_append, hspace, hdigits, ih (i + 1),
        List.nil_append, List.flatMap_cons]

lemma epcDigitsFrom_append (group i : Nat) (front back : List UInt8) :
    epcDigitsFrom group i (front ++ back) =
      epcDigitsFrom group i front ++ epcDigitsFrom group (i + front.length) back := by
  induction front generalizing i with
  | nil => rfl
  | cons b front ih =>
      have hbehind : i + 1 + front.length = i + (front.length + 1) := by omega
      rw [List.cons_append, epcDigitsFrom, epcDigitsFrom, ih, List.length_cons, hbehind,
        List.append_assoc (_ ++ _)]

/-- Where no group begins there is no space. -/
lemma epcDigitsFrom_inside {i : Nat} {bytes : List UInt8}
    (h : ∀ k < bytes.length, ¬ (0 < group ∧ 0 < i + k ∧ (i + k) % group = 0)) :
    epcDigitsFrom group i bytes = bytes.flatMap upper := by
  induction bytes generalizing i with
  | nil => rfl
  | cons b rest ih =>
      have hrest : epcDigitsFrom group (i + 1) rest = rest.flatMap upper := by
        refine ih fun k hk => ?_
        rw [Nat.add_right_comm, Nat.add_assoc]
        exact h (k + 1) (Nat.succ_lt_succ hk)
      have hfirst : ¬ (0 < group ∧ 0 < i ∧ i % group = 0) := h 0 (Nat.succ_pos _)
      rw [epcDigitsFrom, if_neg hfirst, hrest, List.nil_append, List.flatMap_cons]

/-- A group that is not the first one has a space in front, and none of them has one inside. -/
lemma epcDigitsFrom_block {block : List UInt8} (hblock : block ≠ [])
    (hlength : block.length ≤ group) (n : Nat) :
    epcDigitsFrom group (group * n) block =
      (if n = 0 then [] else [' ']) ++ block.flatMap upper := by
  obtain ⟨b, rest, rfl⟩ := List.exists_cons_of_ne_nil hblock
  rw [List.length_cons] at hlength
  have hgroup : 0 < group := by omega
  have hbegins : (0 < group ∧ 0 < group * n ∧ group * n % group = 0) ↔ n ≠ 0 := by
    rw [Nat.mul_mod_right, Nat.pos_iff_ne_zero (n := group * n), Nat.mul_ne_zero_iff]
    omega
  have hinside : epcDigitsFrom group (group * n + 1) rest = rest.flatMap upper := by
    refine epcDigitsFrom_inside fun k hk => ?_
    rw [Nat.add_assoc, Nat.mul_add_mod, Nat.mod_eq_of_lt (by omega)]
    omega
  rw [epcDigitsFrom, hinside, List.append_assoc, ← List.flatMap_cons]
  by_cases hfirst : n = 0
  · rw [if_neg (by rw [hbegins]; exact not_not.mpr hfirst), if_pos hfirst]
  · rw [if_pos (hbegins.mpr hfirst), if_neg hfirst]

/-! ## Groups -/

/-- Bytes in groups of one size.  The last group may be smaller, but there is something in it. -/
structure IsGrouping (group : Nat) (blocks : List (List UInt8)) (bytes : List UInt8) : Prop where
  flatten : blocks.flatten = bytes
  full : ∀ block ∈ blocks.dropLast, block.length = group
  last : ∀ block ∈ blocks.getLast?, block ≠ [] ∧ block.length ≤ group

lemma IsGrouping.nil (group : Nat) : IsGrouping group [] [] where
  flatten := rfl
  full _ h := nomatch h
  last _ h := nomatch h

lemma IsGrouping.single {block : List UInt8} (hblock : block ≠ [])
    (hlength : block.length ≤ group) : IsGrouping group [block] block where
  flatten := by rw [List.flatten_cons, List.flatten_nil, List.append_nil]
  full _ h := nomatch h
  last _ h := by
    obtain rfl := Option.some.inj h
    exact ⟨hblock, hlength⟩

/-- A whole group goes in front of others. -/
lemma IsGrouping.cons {block bytes : List UInt8} {blocks : List (List UInt8)}
    (hblock : block.length = group) (hblocks : blocks ≠ []) (h : IsGrouping group blocks bytes) :
    IsGrouping group (block :: blocks) (block ++ bytes) where
  flatten := by rw [List.flatten_cons, h.flatten]
  full other hother := by
    rw [List.dropLast_cons_of_ne_nil hblocks] at hother
    rcases List.mem_cons.mp hother with rfl | hother
    · exact hblock
    · exact h.full other hother
  last other hother := by
    obtain ⟨first, rest, rfl⟩ := List.exists_cons_of_ne_nil hblocks
    rw [List.getLast?_cons_cons] at hother
    exact h.last other hother

/-- There are groups only where there are bytes. -/
lemma IsGrouping.ne_nil {bytes : List UInt8} {blocks : List (List UInt8)}
    (h : IsGrouping group blocks bytes) (hblocks : blocks ≠ []) : bytes ≠ [] := by
  intro hnone
  have hall := List.flatten_eq_nil_iff.mp (h.flatten.trans hnone)
  have hlast := (h.last _ (List.getLast?_eq_some_getLast hblocks)).1
  exact hlast (hall _ (List.getLast_mem hblocks))

/-- All bytes fall into groups. -/
lemma exists_isGrouping (hgroup : 0 < group) (bytes : List UInt8) :
    ∃ blocks, IsGrouping group blocks bytes := by
  induction hlength : bytes.length using Nat.strong_induction_on generalizing bytes with
  | _ length ih =>
      by_cases hnone : bytes = []
      · exact ⟨[], hnone ▸ .nil group⟩
      by_cases hshort : bytes.length ≤ group
      · exact ⟨[bytes], .single hnone hshort⟩
      obtain ⟨blocks, hblocks⟩ := ih (bytes.drop group).length
        (by rw [List.length_drop]; omega) (bytes.drop group) rfl
      have hmore : blocks ≠ [] := by
        rintro rfl
        have hempty := congrArg List.length hblocks.flatten
        rw [List.flatten_nil, List.length_nil, List.length_drop] at hempty
        omega
      have hfull : (bytes.take group).length = group := by
        rw [List.length_take]
        omega
      have hcons := IsGrouping.cons hfull hmore hblocks
      rw [List.take_append_drop] at hcons
      exact ⟨_, hcons⟩

/--
  **A text is the digits of its groups, with single spaces between them.**  The induction is on the
  groups, and `n` counts those that stand in front.
-/
theorem epcDigitsFrom_flatten (hgroup : 0 < group) {blocks : List (List UInt8)}
    {bytes : List UInt8} (h : IsGrouping group blocks bytes) (hblocks : blocks ≠ []) (n : Nat) :
    epcDigitsFrom group (group * n) bytes =
      (if n = 0 then [] else [' ']) ++ [' '].intercalate (blocks.map (·.flatMap upper)) := by
  induction blocks generalizing bytes n with
  | nil => exact absurd rfl hblocks
  | cons block rest ih =>
      cases rest with
      | nil =>
          obtain ⟨hblock, hlength⟩ := h.last block rfl
          rw [← h.flatten, List.flatten_cons, List.flatten_nil, List.append_nil, List.map_cons,
            List.map_nil, List.intercalate_singleton]
          exact epcDigitsFrom_block hblock hlength n
      | cons next rest =>
          have hfull : block.length = group := h.full block List.mem_cons_self
          have hblock : block ≠ [] := List.ne_nil_of_length_pos (hfull ▸ hgroup)
          have hrest : IsGrouping group (next :: rest) (next :: rest).flatten :=
            ⟨rfl, fun other hother => h.full other (List.mem_cons_of_mem _ hother), h.last⟩
          have hlater := ih hrest (List.cons_ne_nil _ _) (n + 1)
          rw [if_neg (Nat.succ_ne_zero n)] at hlater
          rw [← h.flatten, List.flatten_cons, epcDigitsFrom_append, hfull, ← Nat.mul_succ, hlater,
            epcDigitsFrom_block hblock (Nat.le_of_eq hfull)]
          simp only [List.map_cons, List.intercalate_cons_cons, List.append_assoc]

/-- The parts of a text that stand between its spaces; an empty text has none. -/
def textParts (text : List Char) : List (List Char) :=
  if text = [] then [] else text.splitOn ' '

/-- What stands between the spaces of a text are the digits of its groups. -/
lemma textParts_epcDigitsFrom (hgroup : 0 < group) {blocks : List (List UInt8)}
    {bytes : List UInt8} (h : IsGrouping group blocks bytes) :
    textParts (epcDigitsFrom group 0 bytes) = blocks.map (·.flatMap upper) := by
  by_cases hblocks : blocks = []
  · subst hblocks
    rw [← h.flatten]
    rfl
  · have htext := epcDigitsFrom_flatten hgroup h hblocks 0
    rw [Nat.mul_zero, if_pos rfl, List.nil_append] at htext
    have hparts : blocks.map (·.flatMap upper) ≠ [] := fun hnone =>
      hblocks (List.map_eq_nil_iff.mp hnone)
    have hspaces : ∀ part ∈ blocks.map (·.flatMap upper), ' ' ∉ part := by
      intro part hpart
      obtain ⟨block, -, rfl⟩ := List.mem_map.mp hpart
      exact Hexadecimal.space_notMem_flatMap_upper block
    have hsplit := List.splitOn_intercalate ' ' hspaces hparts
    rw [← htext] at hsplit
    have hsome : epcDigitsFrom group 0 bytes ≠ [] := by
      intro hnone
      have hread := Hexadecimal.read_flatMap_upper bytes
      rw [← filter_epcDigitsFrom group 0 bytes, hnone] at hread
      exact h.ne_nil hblocks (Option.some.inj hread).symm
    rw [textParts, if_neg hsome, hsplit]

/-- Without its spaces a text is read back as the bytes that were kept. -/
lemma read_epcText (bytes : List UInt8) (group : Nat) :
    Hexadecimal.read ((epcText bytes group).toList.filter (· ≠ ' ')) =
      some (bytes.take maxEpcLength) := by
  rw [epcText, String.toList_ofList, filter_epcDigitsFrom, Hexadecimal.read_flatMap_upper]

/--
  **The text of an EPC is faithful.**  Take any bytes and any size of the groups.

  * Writing the text never meets the end of the room that a consumer has to provide.
  * Without its spaces the text is pairs of capital digits, and they are read back as the bytes, up
    to the longest EPC.
  * If the size of the groups is zero, there is no space.  Otherwise the parts between the spaces are
    the digits of the groups: all have that size but the last one, which may be smaller and is not
    empty.
  * Two EPCs that are no longer than an EPC may be have the same text only if they are the same.
-/
theorem epcText_faithful (bytes : List UInt8) (group : Nat) :
    Checked.epcText bytes group = some (epcText bytes group) ∧
    (epcText bytes group).length ≤ epcTextCapacity ∧
    Hexadecimal.read ((epcText bytes group).toList.filter (· ≠ ' ')) =
      some (bytes.take maxEpcLength) ∧
    (group = 0 → ' ' ∉ (epcText bytes group).toList) ∧
    (0 < group → ∃ blocks, IsGrouping group blocks (bytes.take maxEpcLength) ∧
      textParts (epcText bytes group).toList = blocks.map (·.flatMap upper)) ∧
    ∀ other, bytes.length ≤ maxEpcLength → other.length ≤ maxEpcLength →
      epcText bytes group = epcText other group → bytes = other := by
  refine ⟨Checked.epcText_eq bytes group, ?_, read_epcText bytes group, ?_, ?_, ?_⟩
  · have hdigits := length_epcDigitsFrom_le group 0 (bytes.take maxEpcLength)
    have hkept := List.length_take_le maxEpcLength bytes
    rw [epcText, String.length_ofList]
    simp only [maxEpcLength, epcTextCapacity] at hdigits hkept ⊢
    omega
  · rintro rfl
    rw [epcText, String.toList_ofList, epcDigitsFrom_inside fun _ _ h => Nat.lt_irrefl 0 h.1]
    exact Hexadecimal.space_notMem_flatMap_upper _
  · intro hgroup
    obtain ⟨blocks, hblocks⟩ := exists_isGrouping hgroup (bytes.take maxEpcLength)
    refine ⟨blocks, hblocks, ?_⟩
    rw [epcText, String.toList_ofList]
    exact textParts_epcDigitsFrom hgroup hblocks
  · intro other hbytes hother hsame
    have hread := read_epcText bytes group
    rw [hsame, read_epcText, List.take_of_length_le hbytes, List.take_of_length_le hother] at hread
    exact (Option.some.inj hread).symm

/-- Ten bytes in groups of four. -/
example : epcText [0xE2, 0x00, 0x00, 0x17, 0x22, 0x0A, 0x01, 0x23, 0x5C, 0xAB] 4 =
    "E2000017 220A0123 5CAB" := by decide

end RfidLink
