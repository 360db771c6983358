import Mathlib.Algebra.GroupWithZero.Nat
import Mathlib.Tactic.Lemma
import RfidLink.Config.Blob

/-!
# What stored numbers look like

A stored value has a shortest form and often longer ones, and all of them are read.  This file says
which bytes a reader takes for a value, and proves it of the numbers.

* `Blob.Accepts` ties a reader to the forms of its values.  Whatever follows a form is left alone,
  nothing but a form is taken, and a form that breaks off is found to be too short.  `Accepts.bind`
  puts readers together as the forms are put together.
* `Varint.Groups` are the ways to write a number in groups of seven bits.  Here the last groups may
  be zero, and there is no bound on their number.
* `Varint.Form` is what is left of them for a 32-bit number: five groups at most.
* **`Varint.accepts_decode`** and **`Varint.form_encode`** say that exactly the forms are read and
  that a form is written.  It is the shortest one: see `Varint.Form.length_encode_le` and
  `Varint.Form.eq_encode`.
-/

namespace RfidLink

/-! ## Readers and the forms they accept -/

namespace Blob

/-- A reader of stored bytes gives the value at the front and the bytes after it. -/
abbrev Reader := StateT (List UInt8) (Except BlobError)

/-- The reader takes exactly these forms of a value from the front. -/
structure Accepts {α : Type} (reader : Reader α) (form : List UInt8 → α → Prop) : Prop where
  eq_ok_iff (bytes : List UInt8) (a : α) (rest : List UInt8) :
    reader bytes = .ok (a, rest) ↔ ∃ front, form front a ∧ bytes = front ++ rest
  of_cut {front : List UInt8} {a : α} (hform : form front a) {cut : List UInt8}
    (hcut : cut <+: front) (hne : cut ≠ front) : reader cut = .error .unexpectedEnd

/-- A form of one value, and behind it a form of another, which may depend on the first. -/
inductive Then {α β : Type} (form : List UInt8 → α → Prop) (formNext : α → List UInt8 → β → Prop) :
    List UInt8 → β → Prop
  | intro {front back : List UInt8} {a : α} {b : β} (hfront : form front a)
      (hback : formNext a back b) : Then form formNext (front ++ back) b

section Accepts

variable {α β : Type} {reader : Reader α} {next : α → Reader β}
  {form form' : List UInt8 → α → Prop} {formNext : α → List UInt8 → β → Prop}

lemma Accepts.read_append (h : Accepts reader form) {front : List UInt8} {a : α}
    (hform : form front a) (rest : List UInt8) : reader (front ++ rest) = .ok (a, rest) :=
  (h.eq_ok_iff (front ++ rest) a rest).mpr ⟨front, hform, rfl⟩

lemma Accepts.congr (h : Accepts reader form) (hforms : ∀ bytes a, form bytes a ↔ form' bytes a) :
    Accepts reader form' := by
  have hsame : form = form' := by
    funext bytes a
    exact propext (hforms bytes a)
  exact hsame ▸ h

/-- A value that takes no bytes. -/
lemma accepts_pure (a : α) :
    Accepts (pure a : Reader α) fun bytes value => bytes = [] ∧ value = a where
  eq_ok_iff bytes value rest := by
    have hread : (pure a : Reader α) bytes = .ok (a, bytes) := rfl
    rw [hread]
    constructor
    · intro h
      cases h
      exact ⟨[], ⟨rfl, rfl⟩, rfl⟩
    · rintro ⟨front, ⟨rfl, rfl⟩, rfl⟩
      rfl
  of_cut := by
    rintro front value ⟨rfl, rfl⟩ cut hcut hne
    exact absurd (List.prefix_nil.mp hcut) hne

lemma bind_apply (reader : Reader α) (next : α → Reader β) (bytes : List UInt8) :
    (reader >>= next) bytes = reader bytes >>= fun answer => next answer.1 answer.2 := rfl

/-- One value after the other.  A cut is in the first form, or behind it and in the second. -/
lemma Accepts.bind (h : Accepts reader form) (hnext : ∀ a, Accepts (next a) (formNext a)) :
    Accepts (reader >>= next) (Then form formNext) where
  eq_ok_iff bytes b rest := by
    rw [bind_apply]
    constructor
    · intro hread
      rcases hfirst : reader bytes with e | ⟨a, middle⟩
      · rw [hfirst] at hread
        cases hread
      · rw [hfirst] at hread
        obtain ⟨front, hfront, rfl⟩ := (h.eq_ok_iff bytes a middle).mp hfirst
        obtain ⟨back, hback, rfl⟩ := ((hnext a).eq_ok_iff middle b rest).mp hread
        exact ⟨front ++ back, .intro hfront hback, (List.append_assoc ..).symm⟩
    · rintro ⟨-, @⟨front, back, a, _, hfront, hback⟩, rfl⟩
      rw [List.append_assoc, h.read_append hfront]
      exact (hnext a).read_append hback rest
  of_cut := by
    rintro - b @⟨front, back, a, _, hfront, hback⟩ cut hcut hne
    rw [bind_apply]
    rcases List.prefix_or_prefix_of_prefix hcut (List.prefix_append front back) with
      hin | ⟨cutBack, rfl⟩
    · by_cases hwhole : cut = front
      · subst hwhole
        have hempty : [] ≠ back := by
          rintro rfl
          exact hne (List.append_nil _).symm
        rw [← List.append_nil cut, h.read_append hfront]
        exact (hnext a).of_cut hback List.nil_prefix hempty
      · rw [h.of_cut hfront hin hwhole]
        rfl
    · rw [h.read_append hfront]
      refine (hnext a).of_cut hback ((List.prefix_append_right_inj front).mp hcut) ?_
      rintro rfl
      exact hne rfl

end Accepts

lemma eq_nil_of_cut {b : UInt8} {cut : List UInt8} (hcut : cut <+: [b]) (hne : cut ≠ [b]) :
    cut = [] := by
  rcases List.prefix_cons_iff.mp hcut with rfl | ⟨tail, rfl, htail⟩
  · rfl
  · rw [List.prefix_nil.mp htail] at hne
    exact absurd rfl hne

lemma accepts_readByte : Accepts readByte fun bytes b => bytes = [b] where
  eq_ok_iff bytes b rest := by
    cases bytes with
    | nil => exact ⟨nofun, by rintro ⟨front, rfl, h⟩; cases h⟩
    | cons first tail =>
        constructor
        · intro h
          cases h
          exact ⟨[b], rfl, rfl⟩
        · rintro ⟨front, rfl, h⟩
          cases h
          rfl
  of_cut := by
    rintro - b rfl cut hcut hne
    rw [eq_nil_of_cut hcut hne]
    rfl

end Blob

/-! ## Numbers -/

namespace Varint

/-- The bytes are a number in groups of seven bits, the lowest first. -/
inductive Groups : List UInt8 → Nat → Prop
  | last {b : UInt8} (hb : b.toNat < 128) : Groups [b] b.toNat
  | more {b : UInt8} {rest : List UInt8} {high : Nat} (hb : 128 ≤ b.toNat)
      (hrest : Groups rest high) : Groups (b :: rest) (b.toNat - 128 + 128 * high)

/-- The bytes are a 32-bit number in no more than five groups of seven bits. -/
def Form (bytes : List UInt8) (n : UInt32) : Prop := Groups bytes n.toNat ∧ bytes.length ≤ 5

lemma Groups.length_pos {bytes : List UInt8} {n : Nat} (h : Groups bytes n) : 0 < bytes.length := by
  cases h <;> exact Nat.succ_pos _

/-- A number that goes on after its first group has room for the others. -/
lemma Groups.exists_more {b : UInt8} {rest : List UInt8} {high more : Nat} (h : Groups rest high)
    (hlength : (b :: rest).length ≤ more + 1) :
    ∃ fewer, more = fewer + 1 ∧ rest.length ≤ fewer + 1 := by
  have hpos := h.length_pos
  rw [List.length_cons] at hlength
  exact ⟨more - 1, by omega, by omega⟩

/-- Every further group has room for seven bits. -/
lemma room_succ (more : Nat) : 16 * 128 ^ (more + 1) = 128 * (16 * 128 ^ more) := by
  rw [Nat.pow_succ, Nat.mul_comm (128 ^ more), Nat.mul_left_comm]

/-- What has been read is a number in groups, four bits of which were in the last one allowed. -/
lemma groups_of_read {more n : Nat} {bytes rest : List UInt8}
    (h : read more bytes = .ok (n, rest)) :
    ∃ front, Groups front n ∧ front.length ≤ more + 1 ∧ n < 16 * 128 ^ more ∧
      bytes = front ++ rest := by
  induction more generalizing bytes n with
  | zero =>
      cases bytes with
      | nil => cases h
      | cons b tail =>
          rw [read] at h
          split at h
          · next hb =>
            cases h
            exact ⟨[b], .last (by omega), Nat.le_refl 1, by omega, rfl⟩
          · cases h
  | succ more ih =>
      cases bytes with
      | nil => cases h
      | cons b tail =>
          have hbyte := b.toNat_lt
          have hpow : 0 < 128 ^ more := Nat.pow_pos (by decide)
          have hroom := room_succ more
          rw [read] at h
          split at h
          · next hb =>
            cases h
            exact ⟨[b], .last hb, Nat.succ_le_succ (Nat.zero_le _), by omega, rfl⟩
          · next hb =>
            rcases hread : read more tail with e | ⟨high, rest'⟩
            · rw [hread] at h
              cases h
            · rw [hread] at h
              cases h
              obtain ⟨front, hgroups, hlength, hhigh, rfl⟩ := ih hread
              exact ⟨b :: front, .more (by omega) hgroups, Nat.succ_le_succ hlength, by omega, rfl⟩

/-- A number in groups is read if neither its bytes nor its bits are too many. -/
lemma Groups.read_append {front : List UInt8} {n : Nat} (h : Groups front n) {more : Nat}
    (hlength : front.length ≤ more + 1) (hn : n < 16 * 128 ^ more) (rest : List UInt8) :
    read more (front ++ rest) = .ok (n, rest) := by
  induction h generalizing more with
  | @last b hb =>
      cases more with
      | zero => exact if_pos (by omega)
      | succ more => exact if_pos hb
  | @more b groups high hb hrest ih =>
      obtain ⟨more, rfl, hrestLength⟩ := hrest.exists_more hlength
      have hroom := room_succ more
      rw [List.cons_append, read, if_neg (by omega), ih hrestLength (by omega)]

/-- Groups that break off are too short, whatever they would have been worth. -/
lemma Groups.read_cut {front : List UInt8} {n : Nat} (h : Groups front n) {more : Nat}
    (hlength : front.length ≤ more + 1) {cut : List UInt8} (hcut : cut <+: front)
    (hne : cut ≠ front) : read more cut = .error .unexpectedEnd := by
  induction h generalizing more cut with
  | last hb => rw [Blob.eq_nil_of_cut hcut hne, read]
  | @more b groups high hb hrest ih =>
      obtain ⟨more, rfl, hrestLength⟩ := hrest.exists_more hlength
      rcases List.prefix_cons_iff.mp hcut with rfl | ⟨tail, rfl, htail⟩
      · rw [read]
      · have hshort : tail ≠ groups := by
          rintro rfl
          exact hne rfl
        rw [read, if_neg (by omega), ih hrestLength htail hshort]

/-- **Exactly the forms of a number are read.** -/
theorem accepts_decode : Blob.Accepts decode Form where
  eq_ok_iff bytes n rest := by
    constructor
    · intro h
      rw [decode] at h
      rcases hread : read 4 bytes with e | ⟨value, rest'⟩
      · rw [hread] at h
        cases h
      · rw [hread] at h
        cases h
        obtain ⟨front, hgroups, hlength, hvalue, rfl⟩ := groups_of_read hread
        refine ⟨front, ⟨?_, hlength⟩, rfl⟩
        rwa [UInt32.toNat_ofNat_of_lt' hvalue]
    · rintro ⟨front, ⟨hgroups, hlength⟩, rfl⟩
      have hn : n.toNat < 16 * 128 ^ 4 := n.toNat_lt
      rw [decode, hgroups.read_append hlength hn]
      simp only [UInt32.ofNat_toNat]
  of_cut := by
    rintro front n ⟨hgroups, hlength⟩ cut hcut hne
    rw [decode, hgroups.read_cut hlength hcut hne]

/-! ### The shortest form -/

lemma groups_singleton {n : Nat} (hn : n < 128) : Groups [UInt8.ofNat n] n := by
  have hsize : n < UInt8.size := Nat.lt_trans hn (by decide)
  have hbyte : (UInt8.ofNat n).toNat = n := UInt8.toNat_ofNat_of_lt' hsize
  have hgroups := Groups.last (hbyte.symm ▸ hn)
  rwa [hbyte] at hgroups

/-- What is written is the number in groups, if the last of them has room for what is left over. -/
lemma groups_write {more n : Nat} (hn : n < 16 * 128 ^ more) : Groups (write more n) n := by
  induction more generalizing n with
  | zero => exact groups_singleton (by omega)
  | succ more ih =>
      rw [write]
      split
      · next hsmall => exact groups_singleton hsmall
      · have hroom := room_succ more
        have hsize : n % 128 + 128 < UInt8.size :=
          Nat.add_lt_add_right (Nat.mod_lt n (by decide)) 128
        have hbyte : (UInt8.ofNat (n % 128 + 128)).toNat = n % 128 + 128 :=
          UInt8.toNat_ofNat_of_lt' hsize
        have hgroups := Groups.more (by omega) (ih (n := n / 128) (by omega))
          (b := UInt8.ofNat (n % 128 + 128))
        rwa [hbyte, show n % 128 + 128 - 128 + 128 * (n / 128) = n by omega] at hgroups

lemma length_write_le (more n : Nat) : (write more n).length ≤ more + 1 := by
  induction more generalizing n with
  | zero => exact Nat.le_refl 1
  | succ more ih =>
      rw [write]
      split
      · exact Nat.succ_le_succ (Nat.zero_le _)
      · exact Nat.succ_le_succ (ih _)

/-- No other groups of the number are fewer. -/
lemma Groups.length_write_le {bytes : List UInt8} {n : Nat} (h : Groups bytes n) (more : Nat) :
    (write more n).length ≤ bytes.length := by
  induction h generalizing more with
  | @last b hb =>
      cases more with
      | zero => exact Nat.le_refl 1
      | succ more => rw [write, if_pos hb]; exact Nat.le_refl 1
  | @more b groups high hb hrest ih =>
      cases more with
      | zero => exact Nat.succ_le_succ (Nat.zero_le _)
      | succ more =>
          have hbyte := b.toNat_lt
          rw [write]
          split
          · exact Nat.succ_le_succ (Nat.zero_le _)
          · rw [show (b.toNat - 128 + 128 * high) / 128 = high by omega]
            exact Nat.succ_le_succ (ih more)

/-- There is only one way to write a number in a given number of groups. -/
lemma Groups.eq_of_length_eq {bytes bytes' : List UInt8} {n : Nat} (h : Groups bytes n)
    (h' : Groups bytes' n) (hlength : bytes.length = bytes'.length) : bytes = bytes' := by
  induction h generalizing bytes' with
  | @last b hb =>
      generalize hn : b.toNat = n at h'
      cases h' with
      | last hb' => rw [UInt8.toNat_inj.mp hn]
      | more hb' hrest' =>
          have hpos := hrest'.length_pos
          simp only [List.length_cons, List.length_nil] at hlength
          omega
  | @more b groups high hb hrest ih =>
      generalize hn : b.toNat - 128 + 128 * high = n at h'
      cases h' with
      | last hb' =>
          have hpos := hrest.length_pos
          simp only [List.length_cons, List.length_nil] at hlength
          omega
      | @more b' groups' high' hb' hrest' =>
          have hbyte := b.toNat_lt
          have hbyte' := b'.toNat_lt
          have hhigh : high = high' := by omega
          subst hhigh
          rw [UInt8.toNat_inj.mp (by omega : b.toNat = b'.toNat),
            ih hrest' (Nat.succ_inj.mp hlength)]

theorem form_encode (n : UInt32) : Form (encode n) n :=
  ⟨groups_write n.toNat_lt, length_write_le 4 n.toNat⟩

lemma length_encode_le (n : UInt32) : (encode n).length ≤ 5 := length_write_le 4 n.toNat

variable {bytes : List UInt8} {n : UInt32}

/-- **No form is shorter than the one that is written.** -/
theorem Form.length_encode_le (h : Form bytes n) : (encode n).length ≤ bytes.length :=
  h.1.length_write_le 4

/-- **No other form is as short as the one that is written.** -/
theorem Form.eq_encode (h : Form bytes n) (hlength : bytes.length = (encode n).length) :
    bytes = encode n :=
  h.1.eq_of_length_eq (form_encode n).1 hlength

end Varint

end RfidLink
