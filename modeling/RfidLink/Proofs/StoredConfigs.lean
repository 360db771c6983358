import RfidLink.Proofs.StoredForms

/-!
# Stored configurations are restored

What is written into the storage is read back later.  By then it may have been cut off, something
may stand behind it, and its numbers may be longer than they need to be.

* `Config.Form` are all the ways to store a configuration: the fields in order, each number in a
  form of its own.
* **`Config.ofBytes_eq_ok_iff`** says that exactly these are read, with anything behind them, and
  `Config.ofBytes_of_cut` that none of them is read if it breaks off.
* `Config.form_toBytes` and `Config.Form.shortest` say that the shortest one is written, and
  `Config.store_eq_fill` that a buffer may just as well be filled field after field.
* **`restored_from_storage`** puts this together.
-/

namespace RfidLink

/-! ## The strategy -/

namespace Blob

/-- What follows the number of an alternative. -/
inductive StrategyTail : UInt32 → List UInt8 → Strategy → Prop
  | fast : StrategyTail 0 [] .fast
  | repeating {bytes : List UInt8} {intervalMs : UInt32} (h : Varint.Form bytes intervalMs) :
      StrategyTail 1 bytes (.repeating intervalMs)
  | singleShot : StrategyTail 2 [] .singleShot

/-- The bytes are the number of an alternative and what follows it. -/
def StrategyForm : List UInt8 → Strategy → Prop := Then Varint.Form StrategyTail

/-- The reader of what follows the number of an alternative. -/
def strategyTail (alternative : UInt32) : Reader Strategy := do
  if alternative = 0 then
    return .fast
  else if alternative = 1 then
    let intervalMs ← (Varint.decode : Reader UInt32)
    return .repeating intervalMs
  else if alternative = 2 then
    return .singleShot
  else
    throw .unknownAlternative

lemma readStrategy_eq : readStrategy = ((Varint.decode : Reader UInt32) >>= strategyTail) := by
  funext bytes
  rw [readStrategy, bind_apply]
  congr 1
  funext ⟨alternative, rest⟩
  simp only [strategyTail]
  split
  · rfl
  · split
    · rfl
    · split <;> rfl

lemma accepts_throw {α : Type} (e : BlobError) :
    Accepts (throw e : Reader α) fun _ _ => False where
  eq_ok_iff _ _ _ := ⟨nofun, by rintro ⟨-, hnone, -⟩; cases hnone⟩
  of_cut := nofun

lemma accepts_strategyTail (alternative : UInt32) :
    Accepts (strategyTail alternative) (StrategyTail alternative) := by
  rw [strategyTail]
  split
  · next h =>
    subst h
    refine (accepts_pure Strategy.fast).congr fun bytes strategy => ⟨?_, ?_⟩
    · rintro ⟨rfl, rfl⟩
      exact .fast
    · rintro ⟨⟩
      exact ⟨rfl, rfl⟩
  · split
    · next h =>
      subst h
      refine (Varint.accepts_decode.bind fun intervalMs =>
        accepts_pure (Strategy.repeating intervalMs)).congr fun bytes strategy => ⟨?_, ?_⟩
      · rintro ⟨hform, rfl, rfl⟩
        rw [List.append_nil]
        exact .repeating hform
      · intro htail
        cases htail with
        | repeating hform =>
            rw [← List.append_nil bytes]
            exact .intro hform ⟨rfl, rfl⟩
    · split
      · next h =>
        subst h
        refine (accepts_pure Strategy.singleShot).congr fun bytes strategy => ⟨?_, ?_⟩
        · rintro ⟨rfl, rfl⟩
          exact .singleShot
        · rintro ⟨⟩
          exact ⟨rfl, rfl⟩
      · refine (accepts_throw BlobError.unknownAlternative).congr fun bytes strategy => ⟨nofun, ?_⟩
        rintro ⟨⟩ <;> contradiction

lemma accepts_readStrategy : Accepts readStrategy StrategyForm := by
  rw [readStrategy_eq]
  exact Varint.accepts_decode.bind accepts_strategyTail

lemma form_ofStrategy (strategy : Strategy) : StrategyForm (ofStrategy strategy) strategy := by
  cases strategy with
  | fast => exact .intro (Varint.form_encode 0) .fast
  | repeating intervalMs =>
      exact .intro (Varint.form_encode 1) (.repeating (Varint.form_encode intervalMs))
  | singleShot => exact .intro (Varint.form_encode 2) .singleShot

lemma length_ofStrategy_le (strategy : Strategy) : (ofStrategy strategy).length ≤ 6 := by
  cases strategy with
  | fast => decide
  | repeating intervalMs =>
      have hinterval := Varint.length_encode_le intervalMs
      have halternative : (Varint.encode 1).length = 1 := rfl
      rw [ofStrategy, List.length_append]
      omega
  | singleShot => decide

variable {bytes : List UInt8} {strategy : Strategy}

lemma StrategyForm.length_ofStrategy_le (h : StrategyForm bytes strategy) :
    (ofStrategy strategy).length ≤ bytes.length := by
  obtain ⟨hfront, hback⟩ := h
  have hfirst := hfront.length_encode_le
  rw [List.length_append]
  cases hback with
  | fast => exact Nat.le_trans hfirst (Nat.le_add_right _ _)
  | repeating hinterval =>
      rw [ofStrategy, List.length_append]
      exact Nat.add_le_add hfirst hinterval.length_encode_le
  | singleShot => exact Nat.le_trans hfirst (Nat.le_add_right _ _)

lemma StrategyForm.eq_ofStrategy (h : StrategyForm bytes strategy)
    (hlength : bytes.length = (ofStrategy strategy).length) : bytes = ofStrategy strategy := by
  obtain ⟨hfront, hback⟩ := h
  have hfirst := hfront.length_encode_le
  cases hback with
  | fast =>
      rw [List.append_nil] at hlength ⊢
      exact hfront.eq_encode hlength
  | repeating hinterval =>
      have hsecond := hinterval.length_encode_le
      rw [ofStrategy, List.length_append, List.length_append] at hlength
      rw [ofStrategy, hfront.eq_encode (by omega), hinterval.eq_encode (by omega)]
  | singleShot =>
      rw [List.append_nil] at hlength ⊢
      exact hfront.eq_encode hlength

end Blob

/-! ## The configuration -/

namespace Config

/-- The bytes are the fields of the configuration in order. -/
inductive Form : List UInt8 → Config → Prop
  | fields {debounceMs responseTimeoutMs pollIntervalMs roundTimeoutMs : UInt32}
      {workMode epcGroupBytes : UInt8} {strategy : Strategy}
      {debounce response poll alternative round : List UInt8}
      (hdebounce : Varint.Form debounce debounceMs)
      (hresponse : Varint.Form response responseTimeoutMs)
      (hpoll : Varint.Form poll pollIntervalMs)
      (hstrategy : Blob.StrategyForm alternative strategy)
      (hround : Varint.Form round roundTimeoutMs) :
      Form (debounce ++ response ++ poll ++ [workMode] ++ alternative ++ [epcGroupBytes] ++ round)
        { debounceMs, responseTimeoutMs, pollIntervalMs, workMode, strategy, epcGroupBytes,
          roundTimeoutMs }

/-- The readers of the fields, one behind the other. -/
def reader : Blob.Reader Config := do
  let debounceMs ← (Varint.decode : Blob.Reader UInt32)
  let responseTimeoutMs ← (Varint.decode : Blob.Reader UInt32)
  let pollIntervalMs ← (Varint.decode : Blob.Reader UInt32)
  let workMode ← (Blob.readByte : Blob.Reader UInt8)
  let strategy ← (Blob.readStrategy : Blob.Reader Strategy)
  let epcGroupBytes ← (Blob.readByte : Blob.Reader UInt8)
  let roundTimeoutMs ← (Varint.decode : Blob.Reader UInt32)
  return { debounceMs, responseTimeoutMs, pollIntervalMs, workMode, strategy, epcGroupBytes,
           roundTimeoutMs }

lemma ofBytes_eq (bytes : List UInt8) : ofBytes bytes = (do return (← reader bytes).1) := by
  simp only [ofBytes, reader, Blob.bind_apply, bind_assoc]
  rfl

lemma accepts_reader : Blob.Accepts reader Form := by
  refine (Varint.accepts_decode.bind fun debounceMs => Varint.accepts_decode.bind fun responseMs =>
    Varint.accepts_decode.bind fun pollMs => Blob.accepts_readByte.bind fun workMode =>
    Blob.accepts_readStrategy.bind fun strategy => Blob.accepts_readByte.bind fun epcGroupBytes =>
    Varint.accepts_decode.bind fun roundMs => Blob.accepts_pure _).congr
    fun bytes config => ⟨?_, ?_⟩
  · rintro ⟨hdebounce, hresponse, hpoll, rfl, hstrategy, rfl, hround, rfl, rfl⟩
    simpa only [List.append_assoc, List.append_nil] using
      Form.fields hdebounce hresponse hpoll hstrategy hround
  · rintro ⟨hdebounce, hresponse, hpoll, hstrategy, hround⟩
    rw [← List.append_nil (_ ++ _)]
    simp only [List.append_assoc]
    exact .intro hdebounce (.intro hresponse (.intro hpoll (.intro rfl (.intro hstrategy
      (.intro rfl (.intro hround ⟨rfl, rfl⟩))))))

/-- **Exactly the forms of a configuration are read**, whatever follows them. -/
theorem ofBytes_eq_ok_iff {bytes : List UInt8} {config : Config} :
    ofBytes bytes = .ok config ↔ ∃ front rest, Form front config ∧ bytes = front ++ rest := by
  rw [ofBytes_eq]
  constructor
  · intro h
    rcases hread : reader bytes with e | ⟨value, rest⟩
    · rw [hread] at h
      cases h
    · rw [hread] at h
      cases h
      obtain ⟨front, hform, hbytes⟩ := (accepts_reader.eq_ok_iff bytes _ rest).mp hread
      exact ⟨front, rest, hform, hbytes⟩
  · rintro ⟨front, rest, hform, rfl⟩
    rw [accepts_reader.read_append hform]
    rfl

/-- A form that breaks off is found to be too short. -/
theorem ofBytes_of_cut {front : List UInt8} {config : Config} (hform : Form front config)
    {cut : List UInt8} (hcut : cut <+: front) (hne : cut ≠ front) :
    ofBytes cut = .error .unexpectedEnd := by
  rw [ofBytes_eq, accepts_reader.of_cut hform hcut hne]
  rfl

theorem form_toBytes (config : Config) : Form config.toBytes config :=
  .fields (Varint.form_encode _) (Varint.form_encode _) (Varint.form_encode _)
    (Blob.form_ofStrategy _) (Varint.form_encode _)

lemma length_toBytes (config : Config) : config.toBytes.length =
    (Varint.encode config.debounceMs).length + (Varint.encode config.responseTimeoutMs).length +
      (Varint.encode config.pollIntervalMs).length + (Blob.ofStrategy config.strategy).length +
      (Varint.encode config.roundTimeoutMs).length + 2 := by
  simp only [toBytes, List.length_append, List.length_singleton]
  omega

lemma length_toBytes_le (config : Config) : config.toBytes.length ≤ 28 := by
  have hdebounce := Varint.length_encode_le config.debounceMs
  have hresponse := Varint.length_encode_le config.responseTimeoutMs
  have hpoll := Varint.length_encode_le config.pollIntervalMs
  have hstrategy := Blob.length_ofStrategy_le config.strategy
  have hround := Varint.length_encode_le config.roundTimeoutMs
  rw [length_toBytes]
  omega

/-- The longest form that is written has 28 bytes. -/
example : (toBytes ⟨0xFFFFFFFF, 0xFFFFFFFF, 0xFFFFFFFF, 0, .repeating 0xFFFFFFFF, 0,
    0xFFFFFFFF⟩).length = 28 := by decide

/-- The form that is written is the shortest one. -/
theorem Form.shortest {bytes : List UInt8} {config : Config} (h : Form bytes config) :
    config.toBytes.length ≤ bytes.length ∧
      (bytes.length = config.toBytes.length → bytes = config.toBytes) := by
  obtain ⟨hdebounce, hresponse, hpoll, hstrategy, hround⟩ := h
  have hdebounce_le := hdebounce.length_encode_le
  have hresponse_le := hresponse.length_encode_le
  have hpoll_le := hpoll.length_encode_le
  have hstrategy_le := hstrategy.length_ofStrategy_le
  have hround_le := hround.length_encode_le
  rw [length_toBytes]
  simp only [List.length_append, List.length_singleton]
  -- No field is shorter than what is written for it, so none is longer if the whole is not.
  refine ⟨by omega, fun hlength => ?_⟩
  rw [toBytes, hdebounce.eq_encode (by omega), hresponse.eq_encode (by omega),
    hpoll.eq_encode (by omega), hstrategy.eq_ofStrategy (by omega), hround.eq_encode (by omega)]

end Config

/-! ## The buffer -/

namespace Blob

/-- Piece after piece is written behind what is there already, as long as there is room. -/
def fill (room : Nat) (written : List UInt8) : List (List UInt8) → Except BlobError (List UInt8)
  | [] => .ok written
  | piece :: pieces =>
    if written.length + piece.length ≤ room then fill room (written ++ piece) pieces
    else .error .bufferFull

/-- Filling a buffer in pieces fails exactly if all of them together are too long for it. -/
lemma fill_eq {room : Nat} {written : List UInt8} (hwritten : written.length ≤ room)
    (pieces : List (List UInt8)) : fill room written pieces =
      if (written ++ pieces.flatten).length ≤ room then .ok (written ++ pieces.flatten)
      else .error .bufferFull := by
  induction pieces generalizing written with
  | nil =>
      rw [List.flatten_nil, List.append_nil, if_pos hwritten]
      rfl
  | cons piece pieces ih =>
      rw [fill]
      split
      · next hfits =>
        rw [ih (by rwa [List.length_append]), List.append_assoc, List.flatten_cons]
      · next hlong =>
        rw [if_neg]
        simp only [List.flatten_cons, List.length_append]
        omega

/-- A strategy in the pieces in which it is written. -/
def piecesOfStrategy : Strategy → List (List UInt8)
  | .fast => [Varint.encode 0]
  | .repeating intervalMs => [Varint.encode 1, Varint.encode intervalMs]
  | .singleShot => [Varint.encode 2]

end Blob

namespace Config

/-- The stored form of a configuration in the pieces in which it is written. -/
def pieces (config : Config) : List (List UInt8) :=
  [Varint.encode config.debounceMs, Varint.encode config.responseTimeoutMs,
    Varint.encode config.pollIntervalMs, [config.workMode]] ++
  Blob.piecesOfStrategy config.strategy ++
  [[config.epcGroupBytes], Varint.encode config.roundTimeoutMs]

lemma flatten_pieces (config : Config) : config.pieces.flatten = config.toBytes := by
  obtain ⟨_, _, _, _, strategy, _, _⟩ := config
  cases strategy <;>
    simp only [pieces, Blob.piecesOfStrategy, toBytes, Blob.ofStrategy, List.flatten_append,
      List.flatten_cons, List.flatten_nil, List.append_nil, List.append_assoc]

/-- The whole fits the buffer exactly if none of its pieces runs out of it. -/
theorem store_eq_fill (config : Config) (room : Nat) :
    config.store room = Blob.fill room [] config.pieces := by
  rw [Blob.fill_eq (Nat.zero_le room), List.nil_append, flatten_pieces, store]

lemma store_eq_ok_iff {config : Config} {room : Nat} :
    config.store room = .ok config.toBytes ↔ config.toBytes.length ≤ room := by
  rw [store]
  split
  · next hfits => exact ⟨fun _ => hfits, fun _ => rfl⟩
  · next hlong => exact ⟨nofun, fun hfits => absurd hfits hlong⟩

lemma store_eq_bufferFull_iff {config : Config} {room : Nat} :
    config.store room = .error .bufferFull ↔ room < config.toBytes.length := by
  rw [store]
  split
  · next hfits => exact ⟨nofun, fun hlong => absurd hfits (Nat.not_le.mpr hlong)⟩
  · next hlong => exact ⟨fun _ => Nat.not_le.mp hlong, fun _ => rfl⟩

/--
  **A stored configuration is restored.**  For every configuration:

  * What is written is the shortest of its forms, and has at most 28 bytes.
  * It is written if the buffer has room for it, and otherwise the buffer is found to be full.
  * It is read again as the same configuration, with anything behind it.
  * Cut off anywhere, it is found to be too short.
  * If any bytes are read as this configuration, then what is written for it has no more bytes, and
    is read as this configuration again.
-/
theorem restored_from_storage (config : Config) :
    (Form config.toBytes config ∧ ∀ bytes, Form bytes config →
      config.toBytes.length ≤ bytes.length ∧
        (bytes.length = config.toBytes.length → bytes = config.toBytes)) ∧
    config.toBytes.length ≤ 28 ∧
    (∀ room, (config.store room = .ok config.toBytes ↔ config.toBytes.length ≤ room) ∧
      (config.store room = .error .bufferFull ↔ room < config.toBytes.length)) ∧
    (∀ trailing, ofBytes (config.toBytes ++ trailing) = .ok config) ∧
    (∀ cut, cut <+: config.toBytes → cut ≠ config.toBytes →
      ofBytes cut = .error .unexpectedEnd) ∧
    ∀ bytes, ofBytes bytes = .ok config →
      config.toBytes.length ≤ bytes.length ∧ ofBytes config.toBytes = .ok config := by
  have hform := config.form_toBytes
  refine ⟨⟨hform, fun bytes h => h.shortest⟩, config.length_toBytes_le,
    fun room => ⟨store_eq_ok_iff, store_eq_bufferFull_iff⟩,
    fun trailing => ofBytes_eq_ok_iff.mpr ⟨_, trailing, hform, rfl⟩,
    fun cut hcut hne => ofBytes_of_cut hform hcut hne, fun bytes hread => ⟨?_, ?_⟩⟩
  · obtain ⟨front, rest, hfront, rfl⟩ := ofBytes_eq_ok_iff.mp hread
    rw [List.length_append]
    exact Nat.le_trans hfront.shortest.1 (Nat.le_add_right _ _)
  · exact ofBytes_eq_ok_iff.mpr ⟨_, [], hform, (List.append_nil _).symm⟩

/-- The standard configuration, with one byte too many for its first number. -/
def wasteful : List UInt8 :=
  [0xE8, 0x87, 0x00, 0xC8, 0x01, 0x05, 0x00, 0x01, 0x64, 0x04, 0xF4, 0x03]

/-- A form that is not the shortest is read, and the shortest one is written in its place. -/
theorem restored_from_storage_wasteful :
    ofBytes wasteful = .ok standard ∧ standard.toBytes.length ≤ wasteful.length ∧
      ofBytes standard.toBytes = .ok standard ∧ standard.store 10 = .error .bufferFull ∧
      ofBytes [0xE8, 0x07, 0xC8] = .error .unexpectedEnd := by
  obtain ⟨-, -, hstore, -, hcut, hread⟩ := standard.restored_from_storage
  have hwasteful : ofBytes wasteful = .ok standard := rfl
  obtain ⟨hlength, hagain⟩ := hread wasteful hwasteful
  exact ⟨hwasteful, hlength, hagain, (hstore 10).2.mpr (by decide),
    hcut [0xE8, 0x07, 0xC8] (by decide) (by decide)⟩

end Config

end RfidLink
