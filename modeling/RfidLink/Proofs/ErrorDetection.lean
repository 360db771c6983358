import Mathlib.Tactic.Lemma
import Mathlib.Tactic.IntervalCases
import Mathlib.Algebra.Group.Nat.Even
import Mathlib.Data.Finset.Card
import Mathlib.Data.Finset.Range
import RfidLink.Checksum

/-!
# Which errors the checksum finds

An error turns over some bits of a frame.  A `mask` of the length of the frame says which ones,
and `damaged frame mask` is what arrives.  The places of the bits are numbered from the lowest
bit of the first byte on, the order in which the register takes them in, and `flips mask` is the
set of the places that are turned over.

**The register.**  `bit_bitStep` says what one step does to each bit of the register.  Everything
else is read off it: a step is linear (`bitStep_xor`), it takes no other register to zero than
zero (`eq_zero_of_bitStep_eq_zero`), and it keeps the parity of the register (`parity_bitStep`).

**One bit at a time.**  `sweep` takes the bits in singly, and `register_eq_sweep` says that the
register does nothing else.  Up to sixteen bits in a row act as one word that is added to the
register before the steps are made (`sweep_eq_repeat`).

**The code word.**  `isValid_iff_residue`: a frame with its checksum at the end is valid exactly
when the register that takes in *all* its bytes is left at zero.  So the bytes of a frame are one
code word, data and checksum alike, and a damaged frame is valid just when the mask alone takes
the register from zero to zero (`sweep_mask`).

* Flips that lie within sixteen places are one word that is not zero, and no step makes it zero.
* An odd number of flips leaves an odd register.
* Two flips cancel only if the one bit comes back to itself on the way from the first to the
  second, and `repeat_bitStep_one_ne` says that it does not do so within 2048 places.

**`isValid_damaged`** puts the three together.
-/

namespace RfidLink

namespace Checksum

/-! ## The bits of the register -/

def bit (r : UInt16) (i : Nat) : Bool := r.toNat.testBit i

lemma bit_of_le (r : UInt16) {i : Nat} (h : 16 ≤ i) : bit r i = false :=
  Nat.testBit_lt_two_pow (r.toNat_lt.trans_le (Nat.pow_le_pow_right (by decide) h))

lemma ext_bits {r s : UInt16} (h : ∀ i, bit r i = bit s i) : r = s :=
  UInt16.toNat_inj.mp (Nat.eq_of_testBit_eq h)

@[simp]
lemma bit_zero (i : Nat) : bit 0 i = false := Nat.zero_testBit i

@[simp]
lemma bit_xor (r s : UInt16) (i : Nat) : bit (r ^^^ s) i = (bit r i ^^ bit s i) := by
  simp only [bit, UInt16.toNat_xor, Nat.testBit_xor]

lemma bit_shiftRight_one (r : UInt16) (i : Nat) : bit (r >>> 1) i = bit r (i + 1) := by
  simp only [bit, UInt16.toNat_shiftRight, UInt16.toNat_one, Nat.reduceMod,
    Nat.testBit_shiftRight, Nat.add_comm 1]

lemma and_one_eq_zero_iff (r : UInt16) : r &&& 1 = 0 ↔ bit r 0 = false := by
  rw [← UInt16.toNat_inj]
  simp [bit, Nat.and_one_is_mod, Nat.testBit_zero]

/-- The bits move down by one, and the polynomial is added when the lowest bit was set. -/
lemma bit_bitStep (r : UInt16) (i : Nat) :
    bit (bitStep r) i = (bit r (i + 1) ^^ (bit r 0 && bit polynomial i)) := by
  unfold bitStep
  split
  case isTrue low => simp [(and_one_eq_zero_iff r).mp low, bit_shiftRight_one]
  case isFalse low =>
    have set : bit r 0 = true := by simpa [and_one_eq_zero_iff] using low
    simp [set, bit_shiftRight_one]

lemma bitStep_xor (r s : UInt16) : bitStep (r ^^^ s) = bitStep r ^^^ bitStep s := by
  refine ext_bits fun i => ?_
  simp only [bit_bitStep, bit_xor]
  cases bit r 0 <;> cases bit s 0 <;> cases bit polynomial i <;> simp [Bool.xor_comm]

@[simp]
lemma bitStep_zero : bitStep 0 = 0 := rfl

/-- The polynomial has its highest bit set, so a step that leaves zero did not add it. -/
lemma eq_zero_of_bitStep_eq_zero {r : UInt16} (h : bitStep r = 0) : r = 0 := by
  have after : ∀ i, (bit r (i + 1) ^^ (bit r 0 && bit polynomial i)) = false := fun i => by
    rw [← bit_bitStep, h, bit_zero]
  have low : bit r 0 = false := by
    have high : bit polynomial 15 = true := by decide
    simpa [bit_of_le r (Nat.le_refl 16), high] using after 15
  refine ext_bits fun i => ?_
  cases i with
  | zero => simp [low]
  | succ i => simpa [low] using after i

/-! ### Several steps -/

@[simp]
lemma repeat_bitStep_zero (n : Nat) : Nat.repeat bitStep n 0 = 0 := by
  induction n with
  | zero => rfl
  | succ n ih => rw [Nat.repeat, ih, bitStep_zero]

lemma repeat_bitStep_xor (n : Nat) (r s : UInt16) :
    Nat.repeat bitStep n (r ^^^ s) = Nat.repeat bitStep n r ^^^ Nat.repeat bitStep n s := by
  induction n with
  | zero => rfl
  | succ n ih => simp only [Nat.repeat, ih, bitStep_xor]

lemma repeat_bitStep_eq_zero_iff (n : Nat) (r : UInt16) : Nat.repeat bitStep n r = 0 ↔ r = 0 := by
  refine ⟨fun h => ?_, fun h => h ▸ repeat_bitStep_zero n⟩
  induction n with
  | zero => exact h
  | succ n ih => exact ih (eq_zero_of_bitStep_eq_zero h)

/-! ### Parity -/

/-- Whether an odd number of the first bits is set. -/
def isOdd (bits : Nat → Bool) : Nat → Bool
  | 0 => false
  | n + 1 => isOdd bits n ^^ bits n

lemma isOdd_xor (f g : Nat → Bool) (n : Nat) :
    isOdd (fun i => f i ^^ g i) n = (isOdd f n ^^ isOdd g n) := by
  induction n with
  | zero => rfl
  | succ n ih =>
    simp only [isOdd, ih]
    rw [Bool.xor_assoc, Bool.xor_left_comm (isOdd g n), Bool.xor_assoc]

lemma isOdd_and (b : Bool) (f : Nat → Bool) (n : Nat) :
    isOdd (fun i => b && f i) n = (b && isOdd f n) := by
  induction n with
  | zero => simp [isOdd]
  | succ n ih => simp only [isOdd, ih, Bool.and_xor_distrib_left]

lemma isOdd_shift (f : Nat → Bool) (n : Nat) :
    isOdd (fun i => f (i + 1)) n = (isOdd f (n + 1) ^^ f 0) := by
  induction n with
  | zero => simp [isOdd]
  | succ n ih =>
    rw [isOdd, ih, isOdd.eq_2 f (n + 1), Bool.xor_assoc, Bool.xor_assoc, Bool.xor_comm (f 0)]

lemma isOdd_eq_decide (f : Nat → Bool) (n : Nat) :
    isOdd f n = decide (Odd ((Finset.range n).filter (f · = true)).card) := by
  induction n with
  | zero => simp [isOdd]
  | succ n ih =>
    rw [isOdd, ih, Finset.range_add_one, Finset.filter_insert]
    cases h : f n
    · simp
    · simp [Nat.odd_add_one, -Nat.not_odd_iff_even]

def parity (r : UInt16) : Bool := isOdd (bit r) 16

lemma parity_xor (r s : UInt16) : parity (r ^^^ s) = (parity r ^^ parity s) := by
  rw [parity, funext (bit_xor r s), isOdd_xor, parity, parity]

/-- The polynomial has three bits: when it is added, the bit that was shifted out makes four. -/
lemma parity_bitStep (r : UInt16) : parity (bitStep r) = parity r := by
  have three : isOdd (bit polynomial) 16 = true := by decide
  have all : isOdd (bit r) 17 = parity r := by simp [isOdd, parity, bit_of_le r]
  rw [parity, funext (bit_bitStep r), isOdd_xor, isOdd_and, isOdd_shift, all, three]
  simp

/-! ## One bit at a time -/

/-- The register that has taken in the first bits, one after the other. -/
def sweep (r : UInt16) (bits : Nat → Bool) : Nat → UInt16
  | 0 => r
  | n + 1 => bitStep (sweep r bits n ^^^ (bits n).toUInt16)

lemma sweep_congr {r : UInt16} {f g : Nat → Bool} {n : Nat} (h : ∀ i < n, f i = g i) :
    sweep r f n = sweep r g n := by
  induction n with
  | zero => rfl
  | succ n ih => rw [sweep, sweep, ih fun i hi => h i (by omega), h n (by omega)]

lemma sweep_add (r : UInt16) (f : Nat → Bool) (m n : Nat) :
    sweep r f (m + n) = sweep (sweep r f m) (fun i => f (m + i)) n := by
  induction n with
  | zero => rfl
  | succ n ih => rw [← Nat.add_assoc, sweep, ih, sweep]

lemma toUInt16_xor (a b : Bool) : (a ^^ b).toUInt16 = a.toUInt16 ^^^ b.toUInt16 := by
  cases a <;> cases b <;> rfl

lemma sweep_xor (r s : UInt16) (f g : Nat → Bool) (n : Nat) :
    sweep (r ^^^ s) (fun i => f i ^^ g i) n = sweep r f n ^^^ sweep s g n := by
  induction n with
  | zero => rfl
  | succ n ih =>
    rw [sweep, sweep, sweep, ih, toUInt16_xor, ← bitStep_xor]
    congr 1
    ac_rfl

/-- Bits that are not set leave a register to its steps. -/
lemma sweep_of_clear {r : UInt16} {f : Nat → Bool} {n : Nat} (h : ∀ i < n, f i = false) :
    sweep r f n = Nat.repeat bitStep n r := by
  induction n with
  | zero => rfl
  | succ n ih =>
    rw [sweep, ih fun i hi => h i (by omega), h n (by omega)]
    exact congrArg bitStep (UInt16.xor_zero)

lemma parity_sweep (r : UInt16) (f : Nat → Bool) (n : Nat) :
    parity (sweep r f n) = (parity r ^^ isOdd f n) := by
  induction n with
  | zero => simp [sweep, isOdd]
  | succ n ih =>
    have one : parity (f n).toUInt16 = f n := by cases f n <;> decide
    rw [sweep, parity_bitStep, parity_xor, ih, one, isOdd, Bool.xor_assoc]

/-! ### Sixteen bits are one word -/

/-- The register with the bit of one place set. -/
def place (n : Nat) : UInt16 := UInt16.ofNat (2 ^ n)

lemma bit_place {n : Nat} (h : n < 16) (i : Nat) : bit (place n) i = decide (n = i) := by
  have small : 2 ^ n < 2 ^ 16 := Nat.pow_lt_pow_right (by decide) h
  rw [bit, place, UInt16.toNat_ofNat', Nat.mod_eq_of_lt small, Nat.testBit_two_pow]

/-- A bit comes down to the end of the register before the polynomial has any part in it. -/
lemma repeat_bitStep_place {n : Nat} (h : n < 16) : Nat.repeat bitStep n (place n) = 1 := by
  interval_cases n <;> rfl

/-- The first bits as a word, the first of them lowest. -/
def word (bits : Nat → Bool) : Nat → UInt16
  | 0 => 0
  | n + 1 => word bits n ^^^ if bits n then place n else 0

lemma bit_word (f : Nat → Bool) {n : Nat} (h : n ≤ 16) (i : Nat) :
    bit (word f n) i = (decide (i < n) && f i) := by
  induction n with
  | zero => simp [word]
  | succ n ih =>
    have new : bit (if f n then place n else 0) i = (decide (n = i) && f i) := by
      by_cases hi : n = i
      · subst hi
        cases hf : f n <;> simp [bit_place (show n < 16 by omega)]
      · cases hf : f n <;> simp [bit_place (show n < 16 by omega), hi]
    rw [word, bit_xor, ih (by omega), new]
    rcases Nat.lt_trichotomy i n with hi | hi | hi
    · simp [hi, hi.ne', Nat.lt_succ_of_lt hi]
    · simp [hi]
    · simp [hi.ne, Nat.not_lt_of_gt hi, show ¬ i < n + 1 by omega]

/-- **Up to sixteen bits act as one word**, which is added before the steps are made. -/
lemma sweep_eq_repeat (r : UInt16) (f : Nat → Bool) {n : Nat} (h : n ≤ 16) :
    sweep r f n = Nat.repeat bitStep n (r ^^^ word f n) := by
  induction n with
  | zero => simp [sweep, word, Nat.repeat]
  | succ n ih =>
    have last : (f n).toUInt16 = Nat.repeat bitStep n (if f n then place n else 0) := by
      cases f n
      · exact (repeat_bitStep_zero n).symm
      · exact (repeat_bitStep_place (show n < 16 by omega)).symm
    rw [sweep, ih (by omega), last, ← repeat_bitStep_xor, Nat.repeat, word, UInt16.xor_assoc]

/-! ## The bits of a string -/

/-- The bit at a place of a string, counted from the lowest bit of the first byte on. -/
def bitAt (bytes : List UInt8) (i : Nat) : Bool := (bytes.getD (i / 8) 0).toNat.testBit (i % 8)

lemma bitAt_append_left (xs ys : List UInt8) {i : Nat} (h : i < 8 * xs.length) :
    bitAt (xs ++ ys) i = bitAt xs i := by
  have : i / 8 < xs.length := by omega
  simp [bitAt, List.getElem?_append_left this]

lemma bitAt_append_right (xs ys : List UInt8) (i : Nat) :
    bitAt (xs ++ ys) (8 * xs.length + i) = bitAt ys i := by
  have place : (8 * xs.length + i) / 8 = xs.length + i / 8 := by omega
  have rest : (8 * xs.length + i) % 8 = i % 8 := by omega
  rw [bitAt, place, rest, bitAt]
  simp [List.getElem?_append_right]

lemma word_byte (b : UInt8) : word (bitAt [b]) 8 = b.toUInt16 := by
  refine ext_bits fun i => ?_
  rw [bit_word _ (by decide)]
  by_cases h : i < 8
  · simp [h, bitAt, bit, Nat.div_eq_of_lt h, Nat.mod_eq_of_lt h]
  · have large : b.toNat < 2 ^ i :=
      b.toNat_lt.trans_le (Nat.pow_le_pow_right (by decide) (Nat.le_of_not_lt h))
    simp [h, bit, Nat.testBit_lt_two_pow large]

lemma byteStep_eq_sweep (r : UInt16) (b : UInt8) : byteStep r b = sweep r (bitAt [b]) 8 := by
  rw [sweep_eq_repeat r _ (by decide), word_byte, byteStep]

/-- The register takes the bits of a string in, one by one in their order. -/
theorem register_eq_sweep (r : UInt16) (bytes : List UInt8) :
    register r bytes = sweep r (bitAt bytes) (8 * bytes.length) := by
  induction bytes using List.reverseRecOn with
  | nil => rfl
  | append_singleton bytes b ih =>
    have before : sweep r (bitAt (bytes ++ [b])) (8 * bytes.length) = register r bytes :=
      (sweep_congr fun i hi => bitAt_append_left bytes [b] hi).trans ih.symm
    have last : (fun i => bitAt (bytes ++ [b]) (8 * bytes.length + i)) = bitAt [b] :=
      funext (bitAt_append_right bytes [b])
    rw [register_append, List.length_append, Nat.mul_add, sweep_add, before, last]
    exact byteStep_eq_sweep _ b

/-! ## The code word -/

lemma word_two (low high : UInt8) : word (bitAt [low, high]) 16 = Word.littleEndian low high := by
  refine ext_bits fun i => ?_
  have value : (Word.littleEndian low high).toNat = 2 ^ 8 * high.toNat + low.toNat :=
    Word.toNat_bigEndian high low
  rw [bit_word _ (Nat.le_refl 16), bit, value, Nat.testBit_two_pow_mul_add _ low.toNat_lt]
  split
  case isTrue inLow =>
    simp [show i < 16 by omega, bitAt, Nat.div_eq_of_lt inLow, Nat.mod_eq_of_lt inLow]
  case isFalse beyond =>
    obtain ⟨j, rfl⟩ : ∃ j, i = 8 + j := ⟨i - 8, by omega⟩
    by_cases inHigh : j < 8
    · simp [show 8 + j < 16 by omega, bitAt, Nat.div_eq_of_lt inHigh, Nat.mod_eq_of_lt inHigh]
    · have large : high.toNat < 2 ^ j :=
        high.toNat_lt.trans_le (Nat.pow_le_pow_right (by decide) (Nat.le_of_not_lt inHigh))
      simp [show ¬ 8 + j < 16 by omega, Nat.testBit_lt_two_pow large]

/-- Two bytes clear the register exactly when they are its own two bytes, the low one first. -/
lemma register_two_eq_zero_iff (r : UInt16) (low high : UInt8) :
    register r [low, high] = 0 ↔ [low, high] = Word.bytesLittleEndian r := by
  have taken : register r [low, high] =
      Nat.repeat bitStep 16 (r ^^^ Word.littleEndian low high) := by
    rw [register_eq_sweep, List.length_cons, List.length_singleton, sweep_eq_repeat _ _ (by decide),
      word_two]
  rw [taken, repeat_bitStep_eq_zero_iff, UInt16.xor_eq_zero_iff]
  constructor
  · rintro rfl
    simp [Word.bytesLittleEndian, Word.littleEndian, Word.lowByte_bigEndian,
      Word.highByte_bigEndian]
  · intro same
    simp only [Word.bytesLittleEndian, List.cons.injEq, and_true] at same
    rw [same.1, same.2, Word.littleEndian_lowByte_highByte]

/-- **The code word.**  A frame is valid exactly when all its bytes, checksum and data alike, take
    the register to zero. -/
theorem isValid_iff_residue (frame : List UInt8) :
    isValid frame = true ↔ size < frame.length ∧ register start frame = 0 := by
  by_cases long : size < frame.length
  · have two : (frame.drop (frame.length - size)).length = 2 := by
      rw [List.length_drop]
      change 2 < frame.length at long
      change frame.length - (frame.length - 2) = 2
      omega
    obtain ⟨low, high, rear⟩ := List.length_eq_two.mp two
    have whole : register start frame
        = register (crc16 (frame.take (frame.length - size))) [low, high] := by
      rw [crc16, ← register_append, ← rear, List.take_append_drop]
    rw [isValid, rear, whole, register_two_eq_zero_iff]
    simp [long]
  · simp [isValid, long]

/-! ## Damage -/

/-- What arrives of a frame when the bits of the mask are turned over. -/
def damaged (frame mask : List UInt8) : List UInt8 := List.zipWith (· ^^^ ·) frame mask

/-- The places of the bits that a mask turns over. -/
def flips (mask : List UInt8) : Finset Nat :=
  (Finset.range (8 * mask.length)).filter (bitAt mask · = true)

lemma mem_flips {mask : List UInt8} {i : Nat} :
    i ∈ flips mask ↔ i < 8 * mask.length ∧ bitAt mask i = true := by
  simp [flips]

lemma bitAt_of_notMem {mask : List UInt8} {i : Nat} (h : i < 8 * mask.length)
    (out : i ∉ flips mask) : bitAt mask i = false := by
  simpa [mem_flips, h] using out

/-- A mask that is not all zeros turns some bit over. -/
lemma flips_nonempty {mask : List UInt8} (h : ∃ b ∈ mask, b ≠ 0) : (flips mask).Nonempty := by
  obtain ⟨b, hb, hne⟩ := h
  obtain ⟨k, hk, rfl⟩ := List.getElem_of_mem hb
  obtain ⟨j, hj⟩ := Nat.exists_testBit_of_ne_zero (fun h => hne (UInt8.toNat_inj.mp h))
  have small : j < 8 := by
    by_contra large
    have := Nat.testBit_lt_two_pow
      (mask[k].toNat_lt.trans_le (Nat.pow_le_pow_right (by decide) (Nat.le_of_not_lt large)))
    simp [this] at hj
  refine ⟨8 * k + j, mem_flips.mpr ⟨by omega, ?_⟩⟩
  have place : (8 * k + j) / 8 = k := by omega
  have rest : (8 * k + j) % 8 = j := by omega
  simpa [bitAt, place, rest, List.getElem?_eq_getElem hk] using hj

lemma bitAt_damaged {frame mask : List UInt8} (same : mask.length = frame.length) (i : Nat) :
    bitAt (damaged frame mask) i = (bitAt frame i ^^ bitAt mask i) := by
  simp only [bitAt, damaged, List.getD_eq_getElem?_getD, List.getElem?_zipWith]
  by_cases h : i / 8 < frame.length
  · simp [List.getElem?_eq_getElem h, List.getElem?_eq_getElem (same ▸ h)]
  · simp [List.getElem?_eq_none (Nat.le_of_not_lt h),
      List.getElem?_eq_none (same ▸ Nat.le_of_not_lt h)]

/-- The register of a damaged frame is that of the frame and that of the mask, added. -/
theorem register_damaged {frame mask : List UInt8} (same : mask.length = frame.length) :
    register start (damaged frame mask) = register start frame ^^^ register 0 mask := by
  have length : (damaged frame mask).length = frame.length := by simp [damaged, same]
  rw [register_eq_sweep, register_eq_sweep, register_eq_sweep, length, same,
    funext (bitAt_damaged same), ← sweep_xor, UInt16.xor_zero]

/-! ### What the mask alone leaves in the register -/

/-- Nothing happens before the first flip. -/
lemma sweep_zero_of_clear {f : Nat → Bool} {n : Nat} (h : ∀ i < n, f i = false) :
    sweep 0 f n = 0 := by
  rw [sweep_of_clear h, repeat_bitStep_zero]

/-- Flips within sixteen places act as one word, which is not zero. -/
lemma register_burst {mask : List UInt8} {first : Nat} (some : (flips mask).Nonempty)
    (near : ∀ i ∈ flips mask, first ≤ i ∧ i < first + 16) : register 0 mask ≠ 0 := by
  obtain ⟨k, hk⟩ := some
  obtain ⟨inside, set⟩ := mem_flips.mp hk
  obtain ⟨after, close⟩ := near k hk
  obtain ⟨width, rest, hw, split, full⟩ : ∃ width rest, width ≤ 16 ∧
      8 * mask.length = first + width + rest ∧ (rest = 0 ∨ width = 16) :=
    ⟨min 16 (8 * mask.length - first), 8 * mask.length - first - 16, by omega, by omega, by omega⟩
  have outside : ∀ i < 8 * mask.length, i < first ∨ first + 16 ≤ i → bitAt mask i = false :=
    fun i hi away => bitAt_of_notMem hi fun hin => by
      have := near i hin
      omega
  have before : sweep 0 (bitAt mask) first = 0 :=
    sweep_zero_of_clear fun i hi => outside i (by omega) (.inl hi)
  have behind : ∀ i < rest, bitAt mask (first + width + i) = false :=
    fun i hi => outside _ (by omega) (.inr (by omega))
  rw [register_eq_sweep, split, sweep_add, sweep_add, before, sweep_eq_repeat _ _ hw,
    sweep_of_clear behind, Ne, repeat_bitStep_eq_zero_iff, repeat_bitStep_eq_zero_iff,
    UInt16.zero_xor]
  intro none
  have here : bit (word (fun i => bitAt mask (first + i)) width) (k - first) = true := by
    rw [bit_word _ hw, Nat.add_sub_cancel' after, set]
    simp only [Bool.and_true, decide_eq_true_eq]
    omega
  simp [none] at here

/-- An odd number of flips leaves an odd register. -/
lemma register_odd {mask : List UInt8} (odd : Odd (flips mask).card) : register 0 mask ≠ 0 := by
  intro none
  have left : parity (register 0 mask) = true := by
    rw [register_eq_sweep, parity_sweep, isOdd_eq_decide]
    simpa [parity, isOdd, flips] using odd
  rw [none] at left
  exact absurd left (by decide)

/-! ### The way of a single bit -/

/-- Whether the register holds a lone lowest bit after one of the next steps. -/
def comesBack : Nat → UInt16 → Bool
  | 0, _ => false
  | n + 1, r => bitStep r == 1 || comesBack n (bitStep r)

lemma repeat_bitStep_bitStep (n : Nat) (r : UInt16) :
    Nat.repeat bitStep n (bitStep r) = bitStep (Nat.repeat bitStep n r) := by
  induction n with
  | zero => rfl
  | succ n ih => rw [Nat.repeat, ih, Nat.repeat]

lemma repeat_ne_of_comesBack {n : Nat} {r : UInt16} (h : comesBack n r = false) :
    ∀ d < n, Nat.repeat bitStep d (bitStep r) ≠ 1 := by
  induction n generalizing r with
  | zero => exact fun d hd => absurd hd (Nat.not_lt_zero d)
  | succ n ih =>
    simp only [comesBack, Bool.or_eq_false_iff, beq_eq_false_iff_ne] at h
    intro d hd
    cases d with
    | zero => exact h.1
    | succ d =>
      rw [Nat.repeat, ← repeat_bitStep_bitStep]
      exact ih h.2 d (by omega)

/-- The lone bit is on its way for longer than any frame: it is not back within 2047 steps. -/
lemma repeat_bitStep_one_ne : ∀ d < 2047, Nat.repeat bitStep d (bitStep 1) ≠ 1 :=
  repeat_ne_of_comesBack (by decide +kernel)

/-- Two flips are a lone bit, its way to the second place, and a lone bit added there. -/
lemma register_two_flips {mask : List UInt8} (short : mask.length ≤ 256)
    (two : (flips mask).card = 2) : register 0 mask ≠ 0 := by
  obtain ⟨x, y, apart, both⟩ : ∃ x y, x < y ∧ flips mask = {x, y} := by
    obtain ⟨x, y, hne, both⟩ := Finset.card_eq_two.mp two
    rcases Nat.lt_or_gt_of_ne hne with h | h
    · exact ⟨x, y, h, both⟩
    · exact ⟨y, x, h, both.trans (Finset.pair_comm x y)⟩
  obtain ⟨-, setX⟩ := mem_flips.mp (show x ∈ flips mask by simp [both])
  obtain ⟨inside, setY⟩ := mem_flips.mp (show y ∈ flips mask by simp [both])
  have outside : ∀ i < 8 * mask.length, i ≠ x → i ≠ y → bitAt mask i = false :=
    fun i hi hx hy => bitAt_of_notMem hi (by simp [both, hx, hy])
  obtain ⟨way, rfl⟩ : ∃ way, y = x + 1 + way := ⟨y - (x + 1), by omega⟩
  obtain ⟨rest, split⟩ : ∃ rest, 8 * mask.length = x + 1 + way + 1 + rest :=
    ⟨8 * mask.length - (x + 1 + way + 1), by omega⟩
  have atFirst : sweep 0 (bitAt mask) (x + 1) = bitStep 1 := by
    rw [sweep, sweep_zero_of_clear fun i hi => outside i (by omega) (by omega) (by omega), setX]
    rfl
  have between : ∀ i < way, bitAt mask (x + 1 + i) = false :=
    fun i hi => outside _ (by omega) (by omega) (by omega)
  have behind : ∀ i < rest, bitAt mask (x + 1 + way + 1 + i) = false :=
    fun i hi => outside _ (by omega) (by omega) (by omega)
  rw [register_eq_sweep, split, sweep_add, sweep, sweep_add, atFirst, sweep_of_clear between,
    sweep_of_clear behind, setY, Ne, repeat_bitStep_eq_zero_iff]
  intro none
  exact repeat_bitStep_one_ne way (by omega)
    (UInt16.xor_eq_zero_iff.mp (eq_zero_of_bitStep_eq_zero none))

/-! ## The result -/

/--
  **Errors that are always found.**  Turn some bits of a valid frame over.  If they lie within
  sixteen places in a row, if their number is odd, or if they are two and the frame has at most 256
  bytes, then what arrives is not valid.
-/
theorem isValid_damaged {frame mask : List UInt8} (valid : isValid frame = true)
    (same : mask.length = frame.length) (some : ∃ b ∈ mask, b ≠ 0)
    (kind : (∃ first, ∀ i ∈ flips mask, first ≤ i ∧ i < first + 16) ∨ Odd (flips mask).card ∨
      frame.length ≤ 256 ∧ (flips mask).card = 2) :
    isValid (damaged frame mask) = false := by
  have left : register 0 mask ≠ 0 := by
    rcases kind with ⟨first, near⟩ | odd | ⟨short, two⟩
    · exact register_burst (flips_nonempty some) near
    · exact register_odd odd
    · exact register_two_flips (same ▸ short) two
  rw [Bool.eq_false_iff, Ne, isValid_iff_residue, register_damaged same,
    ((isValid_iff_residue frame).mp valid).2, UInt16.zero_xor]
  exact fun h => left h.2

/-- One bit of the first byte and one of the checksum, thirty-three places apart. -/
theorem isValid_damaged_apart :
    isValid [0x04, 0x00, 0x21, 0xD9, 0x6A] = true ∧
      isValid (damaged [0x04, 0x00, 0x21, 0xD9, 0x6A] [0x01, 0x00, 0x00, 0x00, 0x02]) = false := by
  have valid : isValid [0x04, 0x00, 0x21, 0xD9, 0x6A] = true := by decide +kernel
  have apart : [0x04, 0x00, 0x21, 0xD9, 0x6A].length ≤ 256 ∧
      (flips [0x01, 0x00, 0x00, 0x00, 0x02]).card = 2 := by decide +kernel
  exact ⟨valid, isValid_damaged valid rfl ⟨1, by decide, by decide⟩ (.inr (.inr apart))⟩

end Checksum

end RfidLink
