import RfidLink.Proofs.Contents
import RfidLink.Proofs.TagBlocks

/-!
# Reports that are cut short

A report says how many blocks it has, but not how long they are.  If it is cut short, the cut is
somewhere in a block: behind its first byte, in its body, in front of the signal strength, or among
phase and frequency.  What is left must not pass for a report, neither with fewer tags nor with
others.

* `TagBlock.Takes` says that a reader takes some bytes for a value whatever comes behind them, and
  that it misses something on everything shorter.
* `exists_takes_phaseAndFrequency` and `exists_takes_read` say that wherever something was read,
  some bytes were taken for it.
* `exists_blocks` is the run over the blocks of a report, and `firstError?_of_cut` says that a cut
  in any of them is found.
* **`ofPayload_take`**: of an accepted payload, exactly the pieces that hold all blocks are
  accepted, all of them with the same tags, and every shorter one is refused for its length.
-/

namespace RfidLink

namespace TagBlock

/--
  A reader takes some bytes for a value whatever comes behind them, and on a part of them that lacks
  the end it misses something.
-/
structure Takes {α : Type} (reader : List UInt8 → Except ResponseError (α × List UInt8))
    (used : List UInt8) (a : α) : Prop where
  read_append (rest : List UInt8) : reader (used ++ rest) = .ok (a, rest)
  of_cut {cut : List UInt8} (hcut : cut <+: used) (hne : cut ≠ used) :
    reader cut = .error .truncated

variable {antenna : UInt8} {bytes rest : List UInt8}

/-! ## One block -/

/-- Phase and frequency take seven bytes. -/
lemma phaseAndFrequency_of_short (h : bytes.length < 7) :
    phaseAndFrequency true bytes = .error .truncated := by
  match bytes, h with
  | [], _ | [_], _ | [_, _], _ | [_, _, _], _ | [_, _, _, _], _ | [_, _, _, _, _], _
  | [_, _, _, _, _, _], _ => rfl
  | _ :: _ :: _ :: _ :: _ :: _ :: _ :: more, h =>
      simp only [List.length_cons] at h
      omega

/-- Where phase and frequency could be read, or there are none, the bytes for them were there. -/
lemma exists_takes_phaseAndFrequency {present : Bool} {measured : Option UInt32 × Option UInt32}
    (h : phaseAndFrequency present bytes = .ok (measured, rest)) :
    ∃ used, bytes = used ++ rest ∧ Takes (phaseAndFrequency present) used measured := by
  unfold phaseAndFrequency at h
  split at h
  · cases h
    exact ⟨[], rfl, fun _ => rfl, fun hcut hne => absurd (List.prefix_nil.mp hcut) hne⟩
  · rename_i p₀ p₁ p₂ p₃ f₀ f₁ f₂ more
    cases h
    refine ⟨[p₀, p₁, p₂, p₃, f₀, f₁, f₂], rfl, fun _ => rfl, fun hcut hne => ?_⟩
    exact phaseAndFrequency_of_short (Nat.lt_of_le_of_ne hcut.length_le (mt hcut.eq_of_length hne))
  · cases h

/-- A body of the announced length is followed by the signal strength and what was measured. -/
lemma read_body {flags rssi : UInt8} {body extra : List UInt8} (hpos : bodyLength flags ≠ 0)
    (hbody : body.length = bodyLength flags) :
    read antenna (flags :: (body ++ rssi :: extra)) =
      (phaseAndFrequency (hasPhase flags) extra).map fun answer =>
        ({ epc := (identity (isCombined flags) body).1, tid := (identity (isCombined flags) body).2,
           rssi, antenna, phase := answer.1.1, frequencyKHz := answer.1.2 }, answer.2) := by
  rw [← hbody] at hpos
  simp only [read, ← hbody, hpos, if_false, List.drop_left, List.take_left]
  cases phaseAndFrequency (hasPhase flags) extra with
  | error e => rfl
  | ok answer => rfl

/-- Without the byte behind its body a block is cut short. -/
lemma read_of_short {flags : UInt8} {more : List UInt8} (hpos : bodyLength flags ≠ 0)
    (h : more.length ≤ bodyLength flags) : read antenna (flags :: more) = .error .truncated := by
  simp only [read, hpos, if_false, List.drop_eq_nil_of_le h]

/-- **Where a block was read, some bytes were taken for it.** -/
lemma exists_takes_read {tag : Sighting} (h : read antenna bytes = .ok (tag, rest)) :
    ∃ used, bytes = used ++ rest ∧ Takes (read antenna) used tag := by
  obtain ⟨flags, more, rfl, hpos, hroom, -⟩ := read_eq_ok h
  obtain ⟨body, rssi, extra, rfl, hbody⟩ :
      ∃ body rssi extra, more = body ++ rssi :: extra ∧ body.length = bodyLength flags := by
    have hbehind : 0 < (more.drop (bodyLength flags)).length := by
      rw [List.length_drop]
      omega
    obtain ⟨rssi, extra, hdrop⟩ := List.exists_cons_of_length_pos hbehind
    refine ⟨more.take (bodyLength flags), rssi, extra, ?_, ?_⟩
    · rw [← hdrop, List.take_append_drop]
    · exact List.length_take_of_le (Nat.le_of_lt hroom)
  rw [read_body hpos hbody] at h
  rcases hmeasured : phaseAndFrequency (hasPhase flags) extra with e | ⟨measured, after⟩ <;>
    rw [hmeasured] at h
  · cases h
  · obtain ⟨used, rfl, htakes⟩ := exists_takes_phaseAndFrequency hmeasured
    cases h
    refine ⟨flags :: (body ++ rssi :: used), by simp, fun later => ?_, fun {cut} hcut hne => ?_⟩
    · have hsame : flags :: (body ++ rssi :: used) ++ later =
          flags :: (body ++ rssi :: (used ++ later)) := by simp
      rw [hsame, read_body hpos hbody, htakes.read_append]
      rfl
    · -- the cut is in front of the block, not behind its body, or among what was measured
      rcases List.prefix_cons_iff.mp hcut with rfl | ⟨tail, rfl, htail⟩
      · rfl
      · by_cases hshort : tail.length ≤ bodyLength flags
        · exact read_of_short hpos hshort
        · have hfront : body ++ [rssi] <+: body ++ rssi :: used := ⟨used, by simp⟩
          have hlong : (body ++ [rssi]).length ≤ tail.length := by
            rw [List.length_append, List.length_singleton]
            omega
          obtain ⟨later, rfl⟩ := List.prefix_of_prefix_length_le hfront htail hlong
          have hlater : later <+: used := by
            rw [List.append_assoc, List.singleton_append] at htail
            exact (List.prefix_cons_inj rssi).mp ((List.prefix_append_right_inj body).mp htail)
          have hcutLater : later ≠ used := by
            rintro rfl
            exact hne (by simp)
          rw [List.append_assoc, List.singleton_append, read_body hpos hbody,
            htakes.of_cut hlater hcutLater]
          rfl

/-! ## All blocks of a report -/

variable {blocks : List (List UInt8)} {tags : List Sighting}

/-- Where tags were read, blocks were taken for them, one behind the other. -/
lemma exists_blocks {count : Nat} (h : readAll antenna count bytes = tags.map .ok)
    (hcount : tags.length = count) : ∃ blocks rest, bytes = blocks.flatten ++ rest ∧
      List.Forall₂ (Takes (read antenna)) blocks tags := by
  induction count generalizing bytes tags with
  | zero =>
      obtain rfl := List.eq_nil_of_length_eq_zero hcount
      exact ⟨[], bytes, rfl, .nil⟩
  | succ count ih =>
      obtain ⟨tag, tags, rfl⟩ := List.exists_cons_of_length_eq_add_one hcount
      rcases hread : read antenna bytes with e | ⟨first, rest⟩ <;>
        simp only [readAll, hread, List.map_cons, List.cons.injEq] at h
      · cases h.1
      · obtain ⟨hfirst, hlater⟩ := h
        cases hfirst
        obtain ⟨block, rfl, hblock⟩ := exists_takes_read hread
        obtain ⟨blocks, rest, rfl, hblocks⟩ := ih hlater (Nat.succ.inj hcount)
        exact ⟨block :: blocks, rest, by rw [List.flatten_cons, List.append_assoc],
          .cons hblock hblocks⟩

/-- Blocks are read one behind the other, and what comes behind them is left. -/
lemma readAll_blocks (h : List.Forall₂ (Takes (read antenna)) blocks tags) (rest : List UInt8) :
    readAll antenna tags.length (blocks.flatten ++ rest) = tags.map .ok := by
  induction h with
  | nil => rfl
  | cons hblock _ ih =>
      rw [List.flatten_cons, List.append_assoc, List.length_cons, readAll, hblock.read_append]
      simp only [ih, List.map_cons]

/-- **A cut is found in whatever block it is.** -/
lemma firstError?_of_cut (h : List.Forall₂ (Takes (read antenna)) blocks tags)
    {cut : List UInt8} (hcut : cut <+: blocks.flatten) (hne : cut ≠ blocks.flatten) :
    RoundReport.firstError? (readAll antenna tags.length cut) = some .truncated := by
  induction h generalizing cut with
  | nil => exact absurd (List.prefix_nil.mp hcut) hne
  | @cons block tag blocks tags hblock hblocks ih =>
      rw [List.flatten_cons] at hcut hne
      rw [List.length_cons, readAll]
      by_cases hshort : cut <+: block ∧ cut ≠ block
      · rw [hblock.of_cut hshort.1 hshort.2]
        rfl
      · -- the whole of the first block is there
        have hwhole : block <+: cut := by
          rcases List.prefix_or_prefix_of_prefix hcut (List.prefix_append block _) with hin | hout
          · exact (not_not.mp fun hcutBlock => hshort ⟨hin, hcutBlock⟩) ▸ List.prefix_rfl
          · exact hout
        obtain ⟨later, rfl⟩ := hwhole
        have hlater : later <+: blocks.flatten := (List.prefix_append_right_inj block).mp hcut
        have hcutLater : later ≠ blocks.flatten := fun hsame => hne (by rw [hsame])
        rw [hblock.read_append]
        exact ih hlater hcutLater

end TagBlock

/-! ## Reports -/

namespace RoundReport

/-- A payload is read as a report with this antenna, this count and these tags. -/
def IsReadIn (report : RoundReport) (payload : List UInt8) : Prop :=
  ∃ again, ofPayload payload = .ok again ∧ again.antenna = report.antenna ∧
    again.count = report.count ∧ again.tags = report.tags

variable {payload : List UInt8} {report : RoundReport}

/-- The payload of a report begins with antenna and count. -/
lemma ofPayload_eq_ok (h : ofPayload payload = .ok report) :
    payload = report.antenna :: report.count :: report.blocks := by
  match payload, h with
  | antenna :: count :: blocks, h =>
      simp only [ofPayload] at h
      split at h
      · cases h
      · cases h
        rfl

/--
  **A report is refused for its length exactly if it is cut short.**  A report that is accepted
  gives as many tags as it announces, and no error among them.  Its antenna, its count and the
  blocks of these tags are the first `k` bytes of the payload.  Each piece of the payload that holds
  these bytes is read as the same antenna, count and tags, and so is the payload with anything
  behind it; and each piece that does not is truncated.
-/
theorem ofPayload_take (h : ofPayload payload = .ok report) :
    report.tags = report.sightings.map .ok ∧ report.sightings.length = report.count.toNat ∧
    ∃ k blocks, k ≤ payload.length ∧
      payload.take k = report.antenna :: report.count :: blocks.flatten ∧
      List.Forall₂ (TagBlock.Takes (TagBlock.read report.antenna)) blocks report.sightings ∧
      (∀ m, k ≤ m → report.IsReadIn (payload.take m)) ∧
      (∀ more, report.IsReadIn (payload ++ more)) ∧
      ∀ m < k, ofPayload (payload.take m) = .error .truncated := by
  obtain ⟨htags, hcount⟩ := tags_of_ofPayload h
  obtain ⟨blocks, rest, hrest, hblocks⟩ := TagBlock.exists_blocks htags hcount
  have hpayload := ofPayload_eq_ok h
  rw [hrest] at hpayload
  have hread (later : List UInt8) : report.IsReadIn
      (report.antenna :: report.count :: (blocks.flatten ++ later)) := by
    have hagain := TagBlock.readAll_blocks hblocks later
    rw [hcount] at hagain
    exact ⟨_, ofPayload_of_tags hagain, rfl, rfl, hagain.trans htags.symm⟩
  refine ⟨htags, hcount, blocks.flatten.length + 2, blocks, ?_, ?_, hblocks, ?_, ?_, ?_⟩
  · rw [hpayload, List.length_cons, List.length_cons, List.length_append]
    omega
  · rw [hpayload, List.take_succ_cons, List.take_succ_cons, List.take_left]
  · intro m hm
    obtain ⟨m, rfl⟩ := Nat.exists_eq_add_of_le hm
    rw [hpayload, show blocks.flatten.length + 2 + m = blocks.flatten.length + m + 2 by omega,
      List.take_succ_cons, List.take_succ_cons, List.take_length_add_append]
    exact hread (rest.take m)
  · intro more
    rw [hpayload, List.cons_append, List.cons_append, List.append_assoc]
    exact hread (rest ++ more)
  · intro m hm
    match m, hm with
    | 0, _ => rfl
    | 1, _ =>
        rw [hpayload]
        rfl
    | m + 2, hm =>
        have hshort : m < blocks.flatten.length := Nat.lt_of_add_lt_add_right hm
        have hne : blocks.flatten.take m ≠ blocks.flatten := by
          intro hsame
          have hlength := congrArg List.length hsame
          rw [List.length_take] at hlength
          omega
        have herror := TagBlock.firstError?_of_cut hblocks (List.take_prefix m _) hne
        rw [hcount] at herror
        rw [hpayload, List.take_succ_cons, List.take_succ_cons,
          List.take_append_of_le_length (Nat.le_of_lt hshort)]
        simp only [ofPayload, tags, herror]

/-- A block with phase and frequency, a block with nothing but an EPC, and a byte behind them. -/
def measuredPayload : List UInt8 :=
  [1, 2, 0x42, 0xAA, 0xBB, 60, 4, 3, 2, 1, 7, 6, 5, 0x01, 0xCC, 80, 0xFF]

/-- The report in it.  The byte behind the blocks is kept with them. -/
def measuredReport : RoundReport :=
  { antenna := 1, count := 2
    blocks := [0x42, 0xAA, 0xBB, 60, 4, 3, 2, 1, 7, 6, 5, 0x01, 0xCC, 80, 0xFF] }

/-- All but the last byte are needed, and none of the sixteen shorter pieces is a report. -/
theorem ofPayload_take_measured :
    ofPayload measuredPayload = .ok measuredReport ∧ measuredReport.sightings.length = 2 ∧
      ∃ blocks : List (List UInt8), measuredPayload.take 16 = 1 :: 2 :: blocks.flatten ∧
        measuredReport.IsReadIn (measuredPayload.take 16) ∧
        ∀ m < 16, ofPayload (measuredPayload.take m) = .error .truncated := by
  have hread : ofPayload measuredPayload = .ok measuredReport := by decide +kernel
  obtain ⟨-, hcount, k, blocks, -, htake, -, hlong, -, hshort⟩ := ofPayload_take hread
  have hk : k = 16 := by
    have hcut : ofPayload (measuredPayload.take 15) = .error .truncated := by decide +kernel
    have hwhole : ofPayload (measuredPayload.take 16) ≠ .error .truncated := by decide +kernel
    have hnot : ¬ k ≤ 15 := by
      intro hk
      obtain ⟨again, hagain, -⟩ := hlong 15 hk
      cases hcut.symm.trans hagain
    have hnotMore : ¬ 16 < k := fun hk => hwhole (hshort 16 hk)
    omega
  subst hk
  exact ⟨hread, hcount, blocks, htake, hlong 16 (Nat.le_refl 16), hshort⟩

end RoundReport

end RfidLink
