import RfidLink.Proofs.Framing
import RfidLink.Response.Content

/-!
# What an accepted response says

A response is accepted if everything in it can be read, so a good deal is known about one that has
been.

* `TagBlock.read_eq_ok` and `Sighting.ofUpload_eq_ok` say what there was to be read where a tag was
  read.
* **`RoundReport.tags_of_ofPayload`**: a report that has been accepted gives as many tags as it
  announces, and no error among them.
* `Content.tags_of_ofPayload` is the same for every content, and `Content.error_of_ofPayload` says
  which errors a content that is not accepted can have.
-/

namespace RfidLink

/-! ## Tags -/

/-- Where an uploaded tag could be read, its length was not zero and its EPC was there. -/
lemma Sighting.ofUpload_eq_ok {payload : List UInt8} {tag : Sighting}
    (h : Sighting.ofUpload payload = .ok tag) : ∃ antenna epcLength rest,
      payload = antenna :: epcLength :: rest ∧ epcLength ≠ 0 ∧ epcLength.toNat < rest.length ∧
        tag.epc = .truncate (rest.take epcLength.toNat) := by
  match payload, h with
  | antenna :: epcLength :: rest, h =>
      simp only [ofUpload] at h
      split at h
      · cases h
      · rename_i hpos
        split at h
        · cases h
        · rename_i rssi more hdrop
          cases h
          have hroom : epcLength.toNat < rest.length := by
            have hlength := congrArg List.length hdrop
            simp only [List.length_drop, List.length_cons] at hlength
            omega
          exact ⟨antenna, epcLength, rest, rfl, hpos, hroom, rfl⟩

namespace TagBlock

/-- Where a block could be read, its body is not empty and was there. -/
lemma read_eq_ok {antenna : UInt8} {bytes rest : List UInt8} {tag : Sighting}
    (h : read antenna bytes = .ok (tag, rest)) : ∃ flags more,
      bytes = flags :: more ∧ bodyLength flags ≠ 0 ∧ bodyLength flags < more.length ∧
        tag.epc = (identity (isCombined flags) (more.take (bodyLength flags))).1 := by
  match bytes, h with
  | flags :: more, h =>
      simp only [read] at h
      split at h
      · cases h
      · rename_i hpos
        split at h
        · cases h
        · rename_i rssi extra hdrop
          have hroom : bodyLength flags < more.length := by
            have hlength := congrArg List.length hdrop
            simp only [List.length_drop, List.length_cons] at hlength
            omega
          split at h
          · cases h
          · cases h
            exact ⟨flags, more, rfl, hpos, hroom, rfl⟩

end TagBlock

/-! ## Reports -/

namespace RoundReport

/-- Blocks without an error among them are as many tags as were asked for. -/
lemma readAll_of_firstError? {antenna : UInt8} {count : Nat} {bytes : List UInt8}
    (h : firstError? (TagBlock.readAll antenna count bytes) = none) :
    ∃ tags : List Sighting, TagBlock.readAll antenna count bytes = tags.map .ok ∧
      tags.length = count := by
  induction count generalizing bytes with
  | zero => exact ⟨[], rfl, rfl⟩
  | succ count ih =>
      rcases hread : TagBlock.read antenna bytes with e | ⟨tag, rest⟩
      · simp only [TagBlock.readAll, hread] at h
        cases h
      · simp only [TagBlock.readAll, hread] at h ⊢
        obtain ⟨tags, htags, hlength⟩ := ih h
        exact ⟨tag :: tags, by rw [htags, List.map_cons], by rw [List.length_cons, hlength]⟩

/-- **A report that is accepted gives every tag it announces.** -/
theorem tags_of_ofPayload {payload : List UInt8} {report : RoundReport}
    (h : ofPayload payload = .ok report) :
    report.tags = report.sightings.map .ok ∧ report.sightings.length = report.count.toNat := by
  match payload, h with
  | antenna :: count :: blocks, h =>
      simp only [ofPayload] at h
      split at h
      · cases h
      · rename_i hnone
        cases h
        obtain ⟨tags, htags, hlength⟩ := readAll_of_firstError? hnone
        have hsightings : sightings { antenna, count, blocks } = tags := by
          rw [sightings, RoundReport.tags, htags, List.filterMap_map]
          exact List.filterMap_some
        rw [hsightings]
        exact ⟨htags, hlength⟩

end RoundReport

/-! ## Contents -/

namespace Content

/-- The tags that a content reports, in their order. -/
def sightings : Content → List Sighting
  | .autoUpload tag => [tag]
  | .inventory report => report.sightings
  | _ => []

/-- The number of tags that a content announces. -/
def announced : Content → Nat
  | .autoUpload _ => 1
  | .inventory report => report.count.toNat
  | _ => 0

/-- Whether a content reports tags, be it none. -/
def reportsTags : Content → Bool
  | .autoUpload _ | .inventory _ => true
  | _ => false

lemma sightings_of_reportsTags {content : Content} (h : content.reportsTags = false) :
    content.sightings = [] ∧ content.announced = 0 := by
  cases content with
  | autoUpload | inventory => cases h
  | _ => exact ⟨rfl, rfl⟩

variable {head : ResponseHead} {payload : List UInt8}

lemma roundOf_eq_ok {content : Content} (h : roundOf head payload = .ok content) :
    (∃ report, content = .inventory report ∧ RoundReport.ofPayload payload = .ok report) ∨
      content.reportsTags = false := by
  simp only [roundOf] at h
  split at h
  · rcases hread : RoundStatistics.ofPayload payload with e | statistics <;> rw [hread] at h
    · cases h
    · cases h
      exact .inr rfl
  · split at h
    · rcases hread : RoundReport.ofPayload payload with e | report <;> rw [hread] at h
      · cases h
      · cases h
        exact .inl ⟨report, rfl, rfl⟩
    · cases h
      exact .inr rfl

lemma map_eq_ok {α : Type} {f : α → Content} {read : Except ResponseError α} {content : Content}
    (h : f <$> read = .ok content) : ∃ a, read = .ok a ∧ content = f a := by
  rcases read with e | a
  · cases h
  · cases h
    exact ⟨a, rfl, rfl⟩

lemma tagCountOf_eq_ok {content : Content} (h : tagCountOf payload = .ok content) :
    ∃ count, content = .tagCount count := by
  match payload, h with
  | high :: low :: _, h =>
      cases h
      exact ⟨Word.bigEndian high low, rfl⟩

lemma temperatureOf_eq_ok {content : Content} (h : temperatureOf payload = .ok content) :
    ∃ degrees, content = .temperature degrees := by
  match payload, h with
  | _ :: _ :: _, h =>
      cases h
      exact ⟨_, rfl⟩

lemma gpioStateOf_eq_ok {content : Content} (h : gpioStateOf payload = .ok content) :
    ∃ pins, content = .gpioState pins := by
  match payload, h with
  | pins :: _, h =>
      cases h
      exact ⟨pins, rfl⟩

/-- Tags come in uploads and in reports, and in nothing else. -/
lemma ofPayload_eq_ok {content : Content} (h : ofPayload head payload = .ok content) :
    (∃ tag, content = .autoUpload tag ∧ Sighting.ofUpload payload = .ok tag) ∨
      (∃ report, content = .inventory report ∧ RoundReport.ofPayload payload = .ok report) ∨
        content.reportsTags = false := by
  simp only [ofPayload] at h
  split at h
  · obtain ⟨tag, hread, rfl⟩ := map_eq_ok h
    exact .inl ⟨tag, rfl, hread⟩
  · exact .inr (roundOf_eq_ok h)
  · exact .inr (roundOf_eq_ok h)
  · right
    right
    split at h
    · split at h
      · obtain ⟨_, -, rfl⟩ := map_eq_ok h
        rfl
      · obtain ⟨_, rfl⟩ := tagCountOf_eq_ok h
        rfl
      · obtain ⟨_, rfl⟩ := temperatureOf_eq_ok h
        rfl
      · obtain ⟨_, -, rfl⟩ := map_eq_ok h
        rfl
      · obtain ⟨_, rfl⟩ := gpioStateOf_eq_ok h
        rfl
      · cases h
        rfl
    · cases h
      rfl

/-- **A content that is accepted gives every tag it announces.** -/
theorem length_sightings_of_ofPayload {content : Content}
    (h : ofPayload head payload = .ok content) :
    content.sightings.length = content.announced := by
  obtain ⟨tag, rfl, -⟩ | ⟨report, rfl, hread⟩ | hnone := ofPayload_eq_ok h
  · rfl
  · exact (RoundReport.tags_of_ofPayload hread).2
  · obtain ⟨hsightings, hannounced⟩ := sightings_of_reportsTags hnone
    rw [hsightings, hannounced, List.length_nil]

end Content

/-! ## Errors -/

/-- Whether an error is about the payload alone: a field is missing or out of range. -/
def ResponseError.isAboutPayload : ResponseError → Bool
  | .truncated | .invalidLength _ => true
  | _ => false

lemma Sighting.error_of_ofUpload {payload : List UInt8} {e : ResponseError}
    (h : Sighting.ofUpload payload = .error e) : e.isAboutPayload = true := by
  match payload, h with
  | [], h | [_], h =>
      cases h
      rfl
  | _ :: epcLength :: rest, h =>
      simp only [ofUpload] at h
      split at h
      · cases h
        rfl
      · split at h
        · cases h
          rfl
        · cases h

namespace TagBlock

lemma error_of_phaseAndFrequency {present : Bool} {bytes : List UInt8} {e : ResponseError}
    (h : phaseAndFrequency present bytes = .error e) : e.isAboutPayload = true := by
  unfold phaseAndFrequency at h
  split at h
  · cases h
  · cases h
  · cases h
    rfl

lemma error_of_read {antenna : UInt8} {bytes : List UInt8} {e : ResponseError}
    (h : read antenna bytes = .error e) : e.isAboutPayload = true := by
  match bytes, h with
  | [], h =>
      cases h
      rfl
  | flags :: more, h =>
      simp only [read] at h
      split at h
      · cases h
        rfl
      · split at h
        · cases h
          rfl
        · split at h
          · rename_i hextra
            cases h
            exact error_of_phaseAndFrequency hextra
          · cases h

lemma error_of_readAll {antenna : UInt8} {count : Nat} {bytes : List UInt8} {e : ResponseError}
    (h : RoundReport.firstError? (readAll antenna count bytes) = some e) :
    e.isAboutPayload = true := by
  induction count generalizing bytes with
  | zero => cases h
  | succ count ih =>
      rcases hread : read antenna bytes with e' | ⟨tag, rest⟩ <;>
        simp only [readAll, hread, RoundReport.firstError?] at h
      · cases h
        exact error_of_read hread
      · exact ih h

end TagBlock

lemma RoundReport.error_of_ofPayload {payload : List UInt8} {e : ResponseError}
    (h : ofPayload payload = .error e) : e.isAboutPayload = true := by
  match payload, h with
  | [], h | [_], h =>
      cases h
      rfl
  | antenna :: count :: blocks, h =>
      simp only [ofPayload] at h
      split at h
      · rename_i hfirst
        cases h
        exact TagBlock.error_of_readAll hfirst
      · cases h

namespace Content

variable {head : ResponseHead} {payload : List UInt8} {e : ResponseError}

lemma map_eq_error {α : Type} {f : α → Content} {read : Except ResponseError α}
    (h : f <$> read = .error e) : read = .error e := by
  rcases read with e' | a
  · cases h
    rfl
  · cases h

/-- Readings of a fixed size lack a field if they are not accepted. -/
lemma error_of_statistics (h : RoundStatistics.ofPayload payload = .error e) :
    e.isAboutPayload = true := by
  unfold RoundStatistics.ofPayload at h
  split at h <;> cases h
  rfl

lemma error_of_profile (h : ReaderProfile.ofPayload payload = .error e) :
    e.isAboutPayload = true := by
  unfold ReaderProfile.ofPayload at h
  split at h <;> cases h
  rfl

lemma error_of_tagCountOf (h : tagCountOf payload = .error e) : e.isAboutPayload = true := by
  unfold tagCountOf at h
  split at h <;> cases h
  rfl

lemma error_of_temperatureOf (h : temperatureOf payload = .error e) :
    e.isAboutPayload = true := by
  unfold temperatureOf at h
  split at h <;> cases h
  rfl

lemma error_of_gpioStateOf (h : gpioStateOf payload = .error e) : e.isAboutPayload = true := by
  unfold gpioStateOf at h
  split at h <;> cases h
  rfl

/-- An excerpt is not accepted if it is empty. -/
lemma error_of_excerpt (h : MemoryExcerpt.ofPayload payload = .error e) :
    e.isAboutPayload = true := by
  unfold MemoryExcerpt.ofPayload at h
  split at h <;> cases h
  rfl

lemma error_of_roundOf (h : roundOf head payload = .error e) : e.isAboutPayload = true := by
  simp only [roundOf] at h
  split at h
  · exact error_of_statistics (map_eq_error h)
  · split at h
    · exact RoundReport.error_of_ofPayload (map_eq_error h)
    · cases h

/-- **A payload that is not accepted lacks a field or has one out of range.** -/
theorem error_of_ofPayload (h : ofPayload head payload = .error e) : e.isAboutPayload = true := by
  simp only [ofPayload] at h
  split at h
  · exact Sighting.error_of_ofUpload (map_eq_error h)
  · exact error_of_roundOf h
  · exact error_of_roundOf h
  · split at h
    · split at h
      · exact error_of_profile (map_eq_error h)
      · exact error_of_tagCountOf h
      · exact error_of_temperatureOf h
      · exact error_of_excerpt (map_eq_error h)
      · exact error_of_gpioStateOf h
      · cases h
    · cases h

end Content

/-! ## Responses -/

namespace Response

variable {frame : List UInt8}

/-- An accepted frame has a head and a payload that have been accepted. -/
lemma ofFrame_eq_ok {response : Response} (h : ofFrame frame = .ok response) :
    ResponseHead.ofFrame frame = .ok response.head ∧
      Content.ofPayload response.head (responsePayload frame) = .ok response.content := by
  simp only [ofFrame] at h
  split at h
  · cases h
  · split at h
    · cases h
    · split at h
      · cases h
      · rename_i hhead
        split at h
        · cases h
        · rename_i hcontent
          cases h
          exact ⟨hhead, hcontent⟩

/-- The fixed fields of a frame of the size it declares are its first four bytes. -/
lemma head_eq_of_sized {length address command status : UInt8} {rest : List UInt8}
    (hsized : Frame.Sized (length :: address :: command :: status :: rest)) :
    ResponseHead.ofFrame (length :: address :: command :: status :: rest) =
      .ok { length, address, command, status := .ofByte status } := by
  obtain ⟨_, _, hframe, hdeclared, hmin, -⟩ := hsized
  obtain ⟨rfl, rfl⟩ := List.cons.inj hframe
  have hlong : ¬ rest.length + 4 < Frame.minResponseSize := Nat.not_lt.mpr hmin
  have hactual : Frame.declaredSize length = rest.length + 4 := hdeclared
  simp only [ResponseHead.ofFrame, hlong, if_false, hactual, ne_eq, not_true_eq_false]

/-- What is left to do about such a frame, once its checksum is valid, is to read its payload. -/
lemma ofFrame_of_sized {length address command status : UInt8} {rest : List UInt8}
    (hsized : Frame.Sized (length :: address :: command :: status :: rest))
    (hvalid : Checksum.isValid (length :: address :: command :: status :: rest) = true) :
    ofFrame (length :: address :: command :: status :: rest) =
      (Content.ofPayload { length, address, command, status := .ofByte status }
        (responsePayload (length :: address :: command :: status :: rest))).map
          (Response.mk { length, address, command, status := .ofByte status }) := by
  have hhead := head_eq_of_sized hsized
  obtain ⟨_, _, -, -, hmin, -⟩ := hsized
  simp only [ofFrame, Nat.not_lt.mpr hmin, if_false, hvalid, Bool.not_true, Bool.false_eq_true,
    hhead]
  cases Content.ofPayload { length, address, command, status := .ofByte status }
      (responsePayload (length :: address :: command :: status :: rest)) with
  | error e => rfl
  | ok content => rfl

/-- **A frame of the size it declares is refused for its checksum or for its payload.** -/
theorem error_of_ofFrame {e : ResponseError} (hvalid : Checksum.isValid frame = true)
    (hsized : Frame.Sized frame) (h : ofFrame frame = .error e) : e.isAboutPayload = true := by
  obtain ⟨length, address, command, status, rest, rfl⟩ := hsized.exists_head
  rw [ofFrame_of_sized hsized hvalid] at h
  cases hcontent : Content.ofPayload { length, address, command, status := .ofByte status }
      (responsePayload (length :: address :: command :: status :: rest)) with
  | error cause =>
      rw [hcontent] at h
      cases h
      exact Content.error_of_ofPayload hcontent
  | ok content =>
      rw [hcontent] at h
      cases h

end Response

end RfidLink
