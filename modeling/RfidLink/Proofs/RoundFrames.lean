import RfidLink.Proofs.CommandFrames

/-!
# What a reader can tell from the frame of a round

A round with explicit parameters is the one command that `ofArguments_of_encode` leaves out: its
arguments are never read back here.  Only the reader reads them, so a round may be told to it in two
ways that it cannot tell apart.

Some of this is meant.  A missing mask is sent as one that matches every tag, and a missing TID
range as an empty one; `RoundParams.spelledOut` puts them in.  Up to this, every field up to the
target can be read off the frame, because the mask says how long it is (`reads_mask`).

Behind the target there are two bytes, and either may be missing.  If there is a single byte, it
may be an antenna or a duration.

* `RoundParams.Blurs` relates two parameter sets of which one sends an antenna and no duration, the
  other the same byte as its duration and no antenna.
* **`frames_eq_iff`**: two valid parameter sets have the same frame if they are spelled out
  alike, if one of them blurs into the other, and in no other case.
* `durationSentAsAntenna` is such a case: a round of 13.3 seconds looks like one on the sixth
  antenna.
-/

namespace RfidLink

/-- A mask tells where it ends, so it can be told apart from what follows it. -/
lemma BitMask.append_inj {m m' : BitMask} {rest rest' : List UInt8} (hm : m.check = .ok ())
    (hm' : m'.check = .ok ()) (h : m.toBytes ++ rest = m'.toBytes ++ rest') :
    m = m' ∧ rest = rest' := by
  have hread := ArgumentScan.reads_mask hm rest
  rw [h, ArgumentScan.reads_mask hm' rest'] at hread
  cases hread
  exact ⟨rfl, rfl⟩

lemma Target.toByte_injective {t t' : Target} (h : t.toByte = t'.toByte) : t = t' := by
  have hread := t.ofByte?_toByte
  rw [h, t'.ofByte?_toByte] at hread
  cases hread
  rfl

namespace RoundParams

variable {p q : RoundParams}

/-- The parameter set with what is sent for a missing mask and a missing TID range. -/
def spelledOut (p : RoundParams) : RoundParams :=
  { p with mask := some (p.mask.getD anyTag), tid := some (p.tid.getD noTid) }

/-- Everything in front of the two optional bytes, spelled out. -/
def trunk (p : RoundParams) : RoundParams :=
  { p.spelledOut with antenna := none, scanTime := none }

/--
  The first parameter set sends an antenna and no duration, the second the same byte as its duration
  and no antenna.  Apart from that they are spelled out alike.
-/
def Blurs (p q : RoundParams) : Prop :=
  ∃ byte, isAntenna byte = true ∧ p.antenna = some byte ∧ p.scanTime = none ∧
    q.spelledOut = { p.spelledOut with antenna := none, scanTime := some byte }

/-- A missing mask passes the check as the one that is sent for it does. -/
lemma check_eq (p : RoundParams) : p.check = (do
    Parameter.session.require (isSession p.session)
    (p.mask.getD anyTag).check
    Parameter.tidLength.require (p.tid.all (·.length ≤ 15))
    Parameter.antenna.require (p.antenna.all isAntenna)
    Parameter.scanTime.require (p.scanTime != some 0)) := by
  rw [check]
  cases p.mask with
  | none => rfl
  | some mask => rfl

lemma of_check (h : p.check = .ok ()) :
    (p.mask.getD anyTag).check = .ok () ∧ p.antenna.all isAntenna = true := by
  rw [check_eq] at h
  obtain ⟨-, h⟩ := checks_eq_ok_iff.mp h
  obtain ⟨hmask, h⟩ := checks_eq_ok_iff.mp h
  obtain ⟨-, h⟩ := checks_eq_ok_iff.mp h
  obtain ⟨hantenna, -⟩ := checks_eq_ok_iff.mp h
  exact ⟨hmask, Parameter.require_eq_ok_iff.mp hantenna⟩

/-- Two optional bytes in a row are known from what is sent unless a single byte is. -/
lemma append_toList_eq_iff {a b a' b' : Option UInt8} :
    a.toList ++ b.toList = a'.toList ++ b'.toList ↔
      (a = a' ∧ b = b') ∨ (∃ byte, a = some byte ∧ b = none ∧ a' = none ∧ b' = some byte) ∨
        ∃ byte, a' = some byte ∧ b' = none ∧ a = none ∧ b = some byte := by
  cases a <;> cases b <;> cases a' <;> cases b' <;> grind

/-- Every field up to the target can be read off the bytes, and then the two optional ones come. -/
lemma toBytes_eq_iff (hp : p.check = .ok ()) (hq : q.check = .ok ()) : p.toBytes = q.toBytes ↔
    p.trunk = q.trunk ∧
      p.antenna.toList ++ p.scanTime.toList = q.antenna.toList ++ q.scanTime.toList := by
  simp only [toBytes, List.cons_append, List.nil_append, List.append_assoc]
  constructor
  · intro h
    obtain ⟨hqValue, h⟩ := List.cons_eq_cons.mp h
    obtain ⟨hsession, h⟩ := List.cons_eq_cons.mp h
    obtain ⟨hmask, h⟩ := BitMask.append_inj (of_check hp).1 (of_check hq).1 h
    obtain ⟨haddress, h⟩ := List.cons_eq_cons.mp h
    obtain ⟨hlength, h⟩ := List.cons_eq_cons.mp h
    obtain ⟨htarget, h⟩ := List.cons_eq_cons.mp h
    have htid : p.tid.getD noTid = q.tid.getD noTid := by
      show TidRange.mk (p.tid.getD noTid).address (p.tid.getD noTid).length = _
      rw [haddress, hlength]
    refine ⟨?_, h⟩
    simp only [trunk, spelledOut, hqValue, hsession, hmask, htid, Target.toByte_injective htarget]
  · rintro ⟨hfields, htail⟩
    simp only [trunk, spelledOut, mk.injEq, Option.some.injEq] at hfields
    obtain ⟨hqValue, hsession, hmask, htid, htarget, -⟩ := hfields
    rw [hqValue, hsession, hmask, htid, htarget, htail]

lemma spelledOut_eq (p : RoundParams) :
    p.spelledOut = { p.trunk with antenna := p.antenna, scanTime := p.scanTime } := rfl

/-- **When two valid parameter sets are sent as the same bytes.** -/
theorem toBytes_eq_iff_blurs (hp : p.check = .ok ()) (hq : q.check = .ok ()) :
    p.toBytes = q.toBytes ↔ p.spelledOut = q.spelledOut ∨ p.Blurs q ∨ q.Blurs p := by
  rw [toBytes_eq_iff hp hq, append_toList_eq_iff]
  constructor
  · rintro ⟨htrunk, ⟨hantenna, hscanTime⟩ | ⟨byte, hantenna, hscanTime, hantenna', hscanTime'⟩ |
      ⟨byte, hantenna', hscanTime', hantenna, hscanTime⟩⟩
    · left
      rw [spelledOut_eq, spelledOut_eq, htrunk, hantenna, hscanTime]
    · right; left
      have hin := (of_check hp).2
      rw [hantenna] at hin
      refine ⟨byte, hin, hantenna, hscanTime, ?_⟩
      rw [spelledOut_eq, spelledOut_eq, htrunk, hantenna', hscanTime']
    · right; right
      have hin := (of_check hq).2
      rw [hantenna'] at hin
      refine ⟨byte, hin, hantenna', hscanTime', ?_⟩
      rw [spelledOut_eq, spelledOut_eq, htrunk, hantenna, hscanTime]
  · rintro (hsame | ⟨byte, -, hantenna, hscanTime, hq⟩ | ⟨byte, -, hantenna, hscanTime, hp⟩)
    · have htrunk : p.trunk = q.trunk := by rw [trunk, trunk, hsame]
      exact ⟨htrunk, .inl ⟨congrArg (·.antenna) hsame, congrArg (·.scanTime) hsame⟩⟩
    · have htrunk : p.trunk = q.trunk := by rw [trunk, trunk, hq]
      exact ⟨htrunk, .inr (.inl ⟨byte, hantenna, hscanTime, congrArg (·.antenna) hq,
        congrArg (·.scanTime) hq⟩)⟩
    · have htrunk : p.trunk = q.trunk := by rw [trunk, trunk, hp]
      exact ⟨htrunk, .inr (.inr ⟨byte, hantenna, hscanTime, congrArg (·.antenna) hp,
        congrArg (·.scanTime) hp⟩)⟩

end RoundParams

/--
  **What the frame of a round tells.**  Two valid parameter sets become the same frame if they are
  spelled out alike, or if one of them sends an antenna alone and the other the same byte as its
  duration alone.  Otherwise the frames differ, so all fields can be told from the frame unless it
  ends in a single byte that names an antenna.
-/
theorem frames_eq_iff {p q : RoundParams} (hp : p.check = .ok ()) (hq : q.check = .ok ())
    (address : UInt8) :
    (∃ frame, (Command.tagInventoryWith p).encode address = .ok frame ∧
        (Command.tagInventoryWith q).encode address = .ok frame) ↔
      p.spelledOut = q.spelledOut ∨ p.Blurs q ∨ q.Blurs p := by
  have hframe (r : RoundParams) (hr : r.check = .ok ()) :
      (Command.tagInventoryWith r).encode address =
        .ok (Frame.ofBody (address :: CommandCode.tagInventory :: r.toBytes)) :=
    Command.encode_of_fits hr id
  rw [← RoundParams.toBytes_eq_iff_blurs hp hq, hframe p hp, hframe q hq]
  constructor
  · rintro ⟨frame, hfirst, hsecond⟩
    have hsame := Except.ok.inj (hfirst.trans hsecond.symm)
    rw [← Command.extract_ofBody address CommandCode.tagInventory p.toBytes, hsame,
      Command.extract_ofBody]
  · intro hsame
    exact ⟨_, rfl, by rw [hsame]⟩

namespace RoundParams

/-- A round on the sixth antenna, whose duration is left to the reader. -/
def onSixthAntenna : RoundParams :=
  { standard with session := 0, antenna := some 0x85, scanTime := none }

/-- The same with mask and TID range spelled out. -/
def onSixthAntennaInFull : RoundParams :=
  { onSixthAntenna with mask := some anyTag, tid := some noTid }

/-- A round of 13.3 seconds, whose antenna is left to the reader. -/
def longRound : RoundParams := { standard with session := 0, scanTime := some 0x85 }

/-- A round of one second on the sixth antenna. -/
def shortOnSixthAntenna : RoundParams := { standard with session := 0, antenna := some 0x85 }

end RoundParams

open RoundParams in
/-- What is spelled out makes no difference, and an antenna with a duration cannot be mistaken. -/
theorem frames_eq_iff_sixthAntenna :
    onSixthAntenna.check = .ok () ∧ onSixthAntennaInFull.check = .ok () ∧
      shortOnSixthAntenna.check = .ok () ∧
      (∃ frame, (Command.tagInventoryWith onSixthAntenna).encode 3 = .ok frame ∧
        (Command.tagInventoryWith onSixthAntennaInFull).encode 3 = .ok frame) ∧
      ¬ ∃ frame, (Command.tagInventoryWith onSixthAntenna).encode 3 = .ok frame ∧
        (Command.tagInventoryWith shortOnSixthAntenna).encode 3 = .ok frame := by
  have hsixth : onSixthAntenna.check = .ok () := by decide
  have hfull : onSixthAntennaInFull.check = .ok () := by decide
  have hshort : shortOnSixthAntenna.check = .ok () := by decide
  refine ⟨hsixth, hfull, hshort, (frames_eq_iff hsixth hfull 3).mpr (.inl rfl), fun hframe => ?_⟩
  rcases (frames_eq_iff hsixth hshort 3).mp hframe with hsame | hblurs | hblurs
  · exact absurd hsame (by decide)
  · obtain ⟨byte, -, -, -, hsame⟩ := hblurs
    cases hsame
  · obtain ⟨byte, -, -, hnone, -⟩ := hblurs
    cases hnone

open RoundParams in
/--
  **A duration that is sent as an antenna.**  Two valid parameter sets differ in antenna and in
  duration, and have the same frame.
-/
theorem durationSentAsAntenna :
    onSixthAntenna.check = .ok () ∧ longRound.check = .ok () ∧
      onSixthAntenna.antenna = some 0x85 ∧ longRound.antenna = none ∧
      onSixthAntenna.scanTime = none ∧ longRound.scanTime = some 0x85 ∧
      ∃ frame, (Command.tagInventoryWith onSixthAntenna).encode 0 = .ok frame ∧
        (Command.tagInventoryWith longRound).encode 0 = .ok frame := by
  refine ⟨by decide, by decide, rfl, rfl, rfl, rfl,
    [14, 0, 1, 4, 0, 1, 0, 0, 0, 0, 0, 0, 0x85, 0x85, 0xB7], ?_, ?_⟩ <;> decide +kernel

end RfidLink
