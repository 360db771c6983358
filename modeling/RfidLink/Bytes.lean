/-!
# Byte strings and words

The link moves bytes.  This file holds what every layer needs to talk about them.

* **Bounded byte strings.**  `BoundedBytes n` is a list of at most `n` bytes.  A field of the
  protocol with a fixed room (an EPC, a TID, a mask, a payload) has such a type, so that its
  length never has to be checked again.  `BoundedBytes.ofList?` refuses a list that does not
  fit and `BoundedBytes.truncate` cuts it.
* **Words.**  The protocol sends some words with the high byte first and some with the low byte
  first.  Both readings are defined through the value of the word as a natural number, and
  `bigEndian_highByte_lowByte` and `littleEndian_lowByte_highByte` say that splitting a word
  into its two bytes loses nothing.
-/

namespace RfidLink

/-- A string of at most `n` bytes. -/
structure BoundedBytes (n : Nat) where
  toList : List UInt8
  length_le : toList.length ≤ n
deriving DecidableEq

namespace BoundedBytes

variable {n : Nat}

/-- The bytes as given, unless there are more than `n`. -/
def ofList? (bytes : List UInt8) : Option (BoundedBytes n) :=
  if h : bytes.length ≤ n then some ⟨bytes, h⟩ else none

def truncate (bytes : List UInt8) : BoundedBytes n :=
  ⟨bytes.take n, List.length_take_le n bytes⟩

def empty : BoundedBytes n := ⟨[], Nat.zero_le n⟩

instance : Inhabited (BoundedBytes n) := ⟨empty⟩

def length (b : BoundedBytes n) : Nat := b.toList.length

def isEmpty (b : BoundedBytes n) : Bool := b.toList.isEmpty

@[ext]
theorem ext {a b : BoundedBytes n} (h : a.toList = b.toList) : a = b := by
  cases a; cases b; cases h; rfl

theorem ofList?_toList (b : BoundedBytes n) : ofList? b.toList = some b := by
  simp [ofList?, b.length_le]

/-- A list fits exactly when it is no longer than the room, and then it is kept as it is. -/
theorem ofList?_eq_some_iff {bytes : List UInt8} {b : BoundedBytes n} :
    ofList? bytes = some b ↔ bytes = b.toList := by
  constructor
  · intro h
    unfold ofList? at h
    split at h
    · cases h; rfl
    · cases h
  · rintro rfl
    exact ofList?_toList b

theorem ofList?_eq_none_iff {bytes : List UInt8} :
    (ofList? bytes : Option (BoundedBytes n)) = none ↔ n < bytes.length := by
  simp [ofList?]

@[simp]
theorem toList_truncate (bytes : List UInt8) :
    (truncate bytes : BoundedBytes n).toList = bytes.take n := rfl

/-- Bytes that fit are not cut. -/
theorem truncate_toList (b : BoundedBytes n) : truncate b.toList = b :=
  ext (List.take_of_length_le b.length_le)

end BoundedBytes

/-!
## Words

All readings below go through natural numbers: the byte of weight `256 ^ k` is multiplied by
that weight.  No sum can leave the range of its word, so nothing wraps.
-/

namespace Word

/-- The 16-bit word whose high byte comes first. -/
def bigEndian (high low : UInt8) : UInt16 := UInt16.ofNat (256 * high.toNat + low.toNat)

/-- The 16-bit word whose low byte comes first. -/
def littleEndian (low high : UInt8) : UInt16 := bigEndian high low

/-- The 32-bit word whose bytes come from the lowest to the highest. -/
def littleEndian32 (b₀ b₁ b₂ b₃ : UInt8) : UInt32 :=
  UInt32.ofNat (b₀.toNat + 256 * (b₁.toNat + 256 * (b₂.toNat + 256 * b₃.toNat)))

/-- The byte of weight 256. -/
def highByte (w : UInt16) : UInt8 := UInt8.ofNat (w.toNat / 256)

/-- The byte of weight 1. -/
def lowByte (w : UInt16) : UInt8 := UInt8.ofNat w.toNat

def bytesBigEndian (w : UInt16) : List UInt8 := [highByte w, lowByte w]

def bytesLittleEndian (w : UInt16) : List UInt8 := [lowByte w, highByte w]

theorem toNat_bigEndian (high low : UInt8) :
    (bigEndian high low).toNat = 256 * high.toNat + low.toNat := by
  have := high.toNat_lt
  have := low.toNat_lt
  simp only [bigEndian, UInt16.toNat_ofNat']
  omega

theorem bigEndian_highByte_lowByte (w : UInt16) : bigEndian (highByte w) (lowByte w) = w := by
  have := w.toNat_lt
  apply UInt16.toNat_inj.mp
  simp only [toNat_bigEndian, highByte, lowByte, UInt8.toNat_ofNat']
  omega

theorem littleEndian_lowByte_highByte (w : UInt16) :
    littleEndian (lowByte w) (highByte w) = w :=
  bigEndian_highByte_lowByte w

theorem highByte_bigEndian (high low : UInt8) : highByte (bigEndian high low) = high := by
  have := high.toNat_lt
  have := low.toNat_lt
  apply UInt8.toNat_inj.mp
  simp only [highByte, toNat_bigEndian, UInt8.toNat_ofNat']
  omega

theorem lowByte_bigEndian (high low : UInt8) : lowByte (bigEndian high low) = low := by
  have := high.toNat_lt
  have := low.toNat_lt
  apply UInt8.toNat_inj.mp
  simp only [lowByte, toNat_bigEndian, UInt8.toNat_ofNat']
  omega

end Word

end RfidLink
