/-
The wire form of a command, and nothing else, is taken for it.

An object is taken for a command if and only if it holds every field that the command is written with; what else it
holds, and how its text orders and repeats the fields, does not matter.
- `toInt32_eq_ok_iff`: a value is taken as a parameter if and only if it is what that parameter is written as.
- `ofJson_eq_ok_iff`: so it is with all fields of a command together.
- `refused_of_ofJson`: the three reasons to refuse a value, each with its own error.
- `ofBytes_accepts_wire_form`: all this of payloads.
-/
import RemoteShutter.Proofs.Json.Values
import RemoteShutter.Proofs.Telecommand.ReadBack

namespace RemoteShutter.Telecommand

open JsonLexeme (PlainText)

/-! ## Parameters -/

theorem toInt32_eq_ok_iff {j : Json} (hj : j.IsProper) (z : Int32) : j.toInt32 = .ok z ↔ j = int32 z := by
  refine ⟨fun h => ?_, fun h => h ▸ toInt32_int32 z⟩
  have hmin : Int32.minValue.toInt = -2147483648 := by decide
  have hmax : Int32.maxValue.toInt = 2147483647 := by decide
  cases hj with
  | null | bool | text | array | object => cases h
  | @number n hn =>
    obtain ⟨x, hx, hxz⟩ := map_eq_ok_iff.1 h
    -- the whole number itself, which is in range
    have hback : ∀ {x : Int}, -2147483648 ≤ x → x ≤ 2147483647 → x.toInt32 = z → z.toInt = x :=
      fun hlow hhigh hz => hz ▸ Int32.toInt_ofInt_of_le hlow (by omega)
    cases n with
    | natural n =>
      simp only [JsonNumber.inRange, hmax] at hx
      split_ifs at hx with hle
      cases hx
      have hz := hback (by omega) hle hxz
      rw [int32, Json.ofInt, hz, if_neg (by omega)]
      simp
    | negative n =>
      have hneg : n.toInt < 0 := hn
      simp only [JsonNumber.inRange, hmin] at hx
      split_ifs at hx with hle
      cases hx
      have hz := hback hle (by omega) hxz
      rw [int32, Json.ofInt, hz, if_pos hneg]
      simp
    | real x => cases hx

theorem toBool_eq_ok_iff (j : Json) (b : Bool) : j.toBool = .ok b ↔ j = .bool b := by
  cases j <;> simp [Json.toBool]

theorem parameter?_eq_ok_some_iff {α : Type} {j : Json} {key : String} {convert : Json → Except Mismatch α} {x : α} :
    parameter? j key convert = .ok (some x) ↔ ∃ v, j.field? key = some v ∧ convert v = .ok x := by
  unfold parameter?
  cases j.field? key with
  | none => simp
  | some v => simp [map_eq_ok_iff]

theorem required_eq_ok_iff {α : Type} {key : String} {x? : Option α} {x : α} : required key x? = .ok x ↔ x? = some x := by
  cases x? <;> simp [required]

theorem parameter_bool_iff (j : Json) (key : String) (b : Bool) :
    parameter? j key Json.toBool = .ok (some b) ↔ j.field? key = some (.bool b) := by
  simp only [parameter?_eq_ok_some_iff, toBool_eq_ok_iff, exists_eq_right]

theorem parameter_int32_iff {j : Json} (hj : j.IsProper) (key : String) (z : Int32) :
    parameter? j key Json.toInt32 = .ok (some z) ↔ j.field? key = some (int32 z) := by
  rw [parameter?_eq_ok_some_iff]
  constructor
  · rintro ⟨v, hv, hz⟩
    rw [hv, (toInt32_eq_ok_iff (JsonReader.isProper_field hj hv) z).1 hz]
  · exact fun h => ⟨_, h, toInt32_int32 z⟩

theorem downloadOfJson_eq_ok_iff (j : Json) (b : Bool) :
    downloadOfJson j = .ok b ↔ j.field? downloadKey = some (.bool b) := by
  simp only [downloadOfJson, bind_eq_ok_iff, required_eq_ok_iff, exists_eq_right, parameter_bool_iff]

theorem sequencerOfJson_eq_ok_iff {j : Json} (hj : j.IsProper) (s : SequencerSetup) :
    sequencerOfJson j = .ok s ↔ j.field? downloadKey = some (.bool s.download) ∧
      j.field? exposureTimeKey = some (int32 s.exposureTime) ∧ j.field? exposuresKey = some (int32 s.exposures) := by
  simp only [sequencerOfJson, bind_eq_ok_iff, required_eq_ok_iff, ← parameter_bool_iff, ← parameter_int32_iff hj]
  constructor
  · rintro ⟨_, hdownload, _, htime, _, hexposures, _, rfl, _, rfl, _, rfl, h⟩
    cases h
    exact ⟨hdownload, htime, hexposures⟩
  · rintro ⟨hdownload, htime, hexposures⟩
    exact ⟨_, hdownload, _, htime, _, hexposures, _, rfl, _, rfl, _, rfl, rfl⟩

theorem intervalometerOfJson_eq_ok_iff {j : Json} (hj : j.IsProper) (s : IntervalometerSetup) :
    intervalometerOfJson j = .ok s ↔ j.field? downloadKey = some (.bool s.download) ∧
      j.field? exposureTimeKey = some (int32 s.exposureTime) ∧ j.field? intervalKey = some (int32 s.interval) ∧
      j.field? exposuresKey = some (int32 s.exposures) := by
  simp only [intervalometerOfJson, bind_eq_ok_iff, required_eq_ok_iff, ← parameter_bool_iff, ← parameter_int32_iff hj]
  constructor
  · rintro ⟨_, hdownload, _, htime, _, hinterval, _, hexposures, _, rfl, _, rfl, _, rfl, _, rfl, h⟩
    cases h
    exact ⟨hdownload, htime, hinterval, hexposures⟩
  · rintro ⟨hdownload, htime, hinterval, hexposures⟩
    exact ⟨_, hdownload, _, htime, _, hinterval, _, hexposures, _, rfl, _, rfl, _, rfl, _, rfl, rfl⟩

/-! ## Objects -/

/-- the value holds every field that the command is written with -/
def Holds (j : Json) (c : Telecommand) : Prop :=
  ∀ p ∈ c.fields, j.field? p.1 = some p.2

theorem holds_iff (j : Json) (c : Telecommand) :
    Holds j c ↔ ∀ k v, c.toJson.field? k = some v → j.field? k = some v := by
  have hlookup : ∀ k v, c.toJson.field? k = some v ↔ (k, v) ∈ c.fields :=
    fun k v => (flat_fields c).lookup_eq_some_iff k v
  simp only [Holds, hlookup, Prod.forall]

theorem ofMismatch_map_eq_ok_iff {α : Type} {r : Except Mismatch α} {f : α → Telecommand} {c : Telecommand} :
    (ofMismatch r).map f = .ok c ↔ ∃ x, r = .ok x ∧ f x = c := by
  cases r <;> simp [ofMismatch, Except.map]

theorem field?_idKey_iff {j : Json} {n : UInt64} :
    (j.field? idKey).bind Json.natural? = some n ↔ j.field? idKey = some (.number (.natural n)) := by
  rw [Option.bind_eq_some_iff]
  constructor
  · rintro ⟨v, hv, hn⟩
    unfold Json.natural? at hn
    split at hn
    · cases hn
      exact hv
    · cases hn
  · exact fun h => ⟨_, h, rfl⟩

/-- what an object with the number of a command is taken for -/
theorem ofJson_of_id {j : Json} {c : Telecommand} (h : j.field? idKey = some (.ofNat c.id)) : ofJson j = match c with
    | downloadAfterExposure _ => (ofMismatch (downloadOfJson j)).map downloadAfterExposure
    | sequencerSetup _ => (ofMismatch (sequencerOfJson j)).map sequencerSetup
    | intervalometerSetup _ => (ofMismatch (intervalometerOfJson j)).map intervalometerSetup
    | c => .ok c := by
  cases c <;> simp only [ofJson, h] <;> rfl

theorem ofJson_of_unknown {j : Json} {n : UInt64} (hid : j.field? idKey = some (.number (.natural n)))
    (h : ∀ c : Telecommand, c.id ≠ n.toNat) : ofJson j = .error (.unknown n) := by
  have hn := field?_idKey_iff.2 hid
  simp only [ofJson, hn]
  split
  · next he => exact absurd he.symm (h shutdown)
  · next he => exact absurd he.symm (h reboot)
  · next he => exact absurd he.symm (h start)
  · next he => exact absurd he.symm (h stop)
  · next he => exact absurd he.symm (h testConnection)
  · next he => exact absurd he.symm (h reconnect)
  · next he => exact absurd he.symm (h testCapture)
  · next he => exact absurd he.symm (h (downloadAfterExposure false))
  · next he => exact absurd he.symm (h (sequencerSetup ⟨0, 0, false⟩))
  · next he => exact absurd he.symm (h (intervalometerSetup ⟨0, 0, 0, false⟩))
  · rfl

theorem ofJson_of_no_id {j : Json} (h : ∀ n, j.field? idKey ≠ some (.number (.natural n))) :
    ofJson j = .error .missingId := by
  have hnone : (j.field? idKey).bind Json.natural? = none :=
    Option.eq_none_iff_forall_ne_some.2 fun n hn => h n (field?_idKey_iff.1 hn)
  simp only [ofJson, hnone]

/-- the number of a command, as its object has it -/
theorem ofNat_id_iff (c : Telecommand) (n : UInt64) : Json.ofNat c.id = .number (.natural n) ↔ c.id = n.toNat := by
  have hback : c.id.toUInt64.toNat = c.id := by cases c <;> rfl
  simp only [Json.ofNat, Json.number.injEq, JsonNumber.natural.injEq, ← UInt64.toNat_inj, hback]

/-- a value has no number, that of a command, or one that is no command's -/
theorem id_cases (j : Json) : (∀ n, j.field? idKey ≠ some (.number (.natural n))) ∨
    (∃ c : Telecommand, j.field? idKey = some (.ofNat c.id)) ∨
    ∃ n, j.field? idKey = some (.number (.natural n)) ∧ ∀ c : Telecommand, c.id ≠ n.toNat := by
  by_cases hid : ∃ n, j.field? idKey = some (.number (.natural n))
  · obtain ⟨n, hn⟩ := hid
    by_cases hknown : ∃ c : Telecommand, c.id = n.toNat
    · obtain ⟨c, hc⟩ := hknown
      rw [← (ofNat_id_iff c n).2 hc] at hn
      exact .inr (.inl ⟨c, hn⟩)
    · exact .inr (.inr ⟨n, hn, fun c hc => hknown ⟨c, hc⟩⟩)
  · exact .inl fun n hn => hid ⟨n, hn⟩

/-- what is taken for a command has the number of that command -/
theorem id_of_ofJson {j : Json} {c : Telecommand} (h : ofJson j = .ok c) : j.field? idKey = some (.ofNat c.id) := by
  rcases id_cases j with hnone | ⟨c', hid⟩ | ⟨n, hid, hunknown⟩
  · rw [ofJson_of_no_id hnone] at h
    cases h
  · have hsame : c'.id = c.id := by
      rw [ofJson_of_id hid] at h
      cases c' with
      | downloadAfterExposure | sequencerSetup | intervalometerSetup =>
        obtain ⟨_, -, rfl⟩ := ofMismatch_map_eq_ok_iff.1 h
        rfl
      | shutdown | reboot | testConnection | reconnect | start | stop | testCapture =>
        cases h
        rfl
    rw [hid, hsame]
  · rw [ofJson_of_unknown hid hunknown] at h
    cases h

/-- **An object is taken for the commands whose fields it holds**, and for no others. -/
theorem ofJson_eq_ok_iff {j : Json} (hj : j.IsProper) (c : Telecommand) : ofJson j = .ok c ↔ Holds j c := by
  by_cases hid : j.field? idKey = some (.ofNat c.id)
  · rw [ofJson_of_id hid]
    cases c with
    | downloadAfterExposure b =>
      simp [ofMismatch_map_eq_ok_iff, downloadOfJson_eq_ok_iff, Holds, fields, toJson, hid]
    | sequencerSetup s =>
      simp [ofMismatch_map_eq_ok_iff, sequencerOfJson_eq_ok_iff hj, Holds, fields, toJson, hid]
    | intervalometerSetup s =>
      simp [ofMismatch_map_eq_ok_iff, intervalometerOfJson_eq_ok_iff hj, Holds, fields, toJson, hid]
    | shutdown | reboot | testConnection | reconnect | start | stop | testCapture =>
      simp [Holds, fields, toJson, hid]
  · exact iff_of_false (fun h => hid (id_of_ofJson h)) fun h => hid (h (idKey, .ofNat c.id) List.mem_cons_self)

/-- why an object is not taken for a command -/
inductive Refused (j : Json) : CommandError → Prop where
  /-- it has no number -/
  | missing (h : ∀ n, j.field? idKey ≠ some (.number (.natural n))) : Refused j .missingId
  /-- its number is that of no command -/
  | unknown {n : UInt64} (hid : j.field? idKey = some (.number (.natural n))) (h : ∀ c : Telecommand, c.id ≠ n.toNat) :
      Refused j (.unknown n)
  /-- its number is that of a command, whose parameters are not there or do not fit -/
  | mismatch {c : Telecommand} (hid : j.field? idKey = some (.ofNat c.id)) (m : Mismatch) :
      Refused j (.json (.mismatch m))

theorem ofMismatch_map_eq_error {α : Type} {r : Except Mismatch α} {f : α → Telecommand} {e : CommandError}
    (h : (ofMismatch r).map f = .error e) : ∃ m, e = .json (.mismatch m) := by
  cases r with
  | ok x => cases h
  | error m =>
    cases h
    exact ⟨m, rfl⟩

theorem refused_of_ofJson {j : Json} {e : CommandError} (h : ofJson j = .error e) : Refused j e := by
  rcases id_cases j with hnone | ⟨c, hid⟩ | ⟨n, hid, hunknown⟩
  · rw [ofJson_of_no_id hnone] at h
    cases h
    exact .missing hnone
  · have hmismatch : ∃ m, e = .json (.mismatch m) := by
      rw [ofJson_of_id hid] at h
      cases c with
      | downloadAfterExposure | sequencerSetup | intervalometerSetup => exact ofMismatch_map_eq_error h
      | shutdown | reboot | testConnection | reconnect | start | stop | testCapture => cases h
    obtain ⟨m, rfl⟩ := hmismatch
    exact .mismatch hid m
  · rw [ofJson_of_unknown hid hunknown] at h
    cases h
    exact .unknown hid hunknown

theorem ofJson_eq_missingId_iff (j : Json) :
    ofJson j = .error .missingId ↔ ∀ n, j.field? idKey ≠ some (.number (.natural n)) := by
  refine ⟨fun h => ?_, ofJson_of_no_id⟩
  cases refused_of_ofJson h with
  | missing hnone => exact hnone

theorem ofJson_eq_unknown_iff (j : Json) (n : UInt64) : ofJson j = .error (.unknown n) ↔
    j.field? idKey = some (.number (.natural n)) ∧ ∀ c : Telecommand, c.id ≠ n.toNat := by
  refine ⟨fun h => ?_, fun h => ofJson_of_unknown h.1 h.2⟩
  cases refused_of_ofJson h with
  | unknown hid hnone => exact ⟨hid, hnone⟩

theorem ofJson_eq_mismatch_iff {j : Json} (hj : j.IsProper) : (∃ m, ofJson j = .error (.json (.mismatch m))) ↔
    (∃ c : Telecommand, j.field? idKey = some (.ofNat c.id)) ∧ ∀ c, ¬ Holds j c := by
  constructor
  · rintro ⟨m, h⟩
    refine ⟨?_, fun c hc => ?_⟩
    · cases refused_of_ofJson h with
      | mismatch hid => exact ⟨_, hid⟩
    · rw [← ofJson_eq_ok_iff hj, h] at hc
      cases hc
  · rintro ⟨⟨c, hid⟩, hnone⟩
    cases hj' : ofJson j with
    | ok c' => exact absurd ((ofJson_eq_ok_iff hj c').1 hj') (hnone c')
    | error e =>
      cases refused_of_ofJson hj' with
      | missing h => exact absurd hid (h c.id.toUInt64)
      | @unknown n hn h =>
        rw [hid] at hn
        exact absurd ((ofNat_id_iff c n).1 (Option.some.inj hn)) (h c)
      | mismatch _ m => exact ⟨m, rfl⟩

/-! ## Payloads -/

theorem ofBytes_of_json {payload : Bytes} {j : Json} (h : Json.ofBytes payload = .ok j) :
    ofBytes payload = ofJson j := by
  simp only [ofBytes, h]

theorem ofBytes_eq_ok_iff (payload : Bytes) (c : Telecommand) :
    ofBytes payload = .ok c ↔ ∃ fs, Json.ofBytes payload = .ok (.object fs) ∧ Holds (.object fs) c := by
  cases h : Json.ofBytes payload with
  | error fault => simp [ofBytes, h]
  | ok j =>
    rw [ofBytes_of_json h, ofJson_eq_ok_iff (JsonReader.ofBytes_isProper h)]
    constructor
    · intro hc
      have hid := hc (idKey, .ofNat c.id) List.mem_cons_self
      cases j with
      | object fs => exact ⟨fs, rfl, hc⟩
      | null | bool | number | text | array => cases hid
    · rintro ⟨fs, hfs, hc⟩
      cases hfs
      exact hc

/-- **The wire form of a command is taken for it, and nothing else is.** A payload is taken for a command if and only
if it is the text of an object that holds every field the command is written with, whatever else it holds. Where the
text has a key more than once, the last one counts. Other values are refused: without a natural number as number of a
command, with one that is no command's (which is told in full), or with wrong fields. -/
theorem ofBytes_accepts_wire_form :
    (∀ payload c, ofBytes payload = .ok c ↔ ∃ fs, Json.ofBytes payload = .ok (.object fs) ∧
      ∀ k v, c.toJson.field? k = some v → fs.lookup k = some v) ∧
    (∀ c, ofBytes (Utf8.encode c.toJson.compactChars) = .ok c) ∧
    (∀ fs : List (String × Json), (∀ p ∈ fs, PlainText p.1 ∧ p.2.IsScalar) → ∀ c,
      ofBytes (Utf8.encode (Json.object fs).compactChars) = .ok c ↔
        ∀ k v, c.toJson.field? k = some v → fs.reverse.lookup k = some v) ∧
    ∀ payload j, Json.ofBytes payload = .ok j →
      (ofBytes payload = .error .missingId ↔ ∀ n, j.field? idKey ≠ some (.number (.natural n))) ∧
      (∀ n, ofBytes payload = .error (.unknown n) ↔
        j.field? idKey = some (.number (.natural n)) ∧ ∀ c : Telecommand, c.id ≠ n.toNat) ∧
      ((∃ m, ofBytes payload = .error (.json (.mismatch m))) ↔
        (∃ c : Telecommand, j.field? idKey = some (.ofNat c.id)) ∧ ∀ c, ofBytes payload ≠ .ok c) := by
  have haccept : ∀ payload c, ofBytes payload = .ok c ↔ ∃ fs, Json.ofBytes payload = .ok (.object fs) ∧
      ∀ k v, c.toJson.field? k = some v → fs.lookup k = some v := by
    intro payload c
    simp only [ofBytes_eq_ok_iff, holds_iff]
    rfl
  refine ⟨haccept, fun c => toBytes_eq c ▸ ofBytes_toBytes c, fun fs hfs c => ?_, fun payload j hj => ?_⟩
  · rw [haccept, JsonReader.ofBytes_object (fun p hp => (hfs p hp).1) fun p hp => (hfs p hp).2]
    simp only [← JsonReader.lookup_collect]
    exact ⟨fun ⟨_, heq, h⟩ => by cases heq; exact h, fun h => ⟨_, rfl, h⟩⟩
  · have hproper := JsonReader.ofBytes_isProper hj
    rw [ofBytes_of_json hj]
    refine ⟨ofJson_eq_missingId_iff j, ofJson_eq_unknown_iff j, ?_⟩
    simp only [ne_eq, ofJson_eq_ok_iff hproper]
    exact ofJson_eq_mismatch_iff hproper

/-- a number that would be a known one if it were cut to eight bits, and a text with a key twice -/
theorem ofBytes_accepts_wire_form_of_long_number_and_repeated_key :
    ofBytes (Utf8.encode (Json.object [(idKey, .ofNat 276)]).compactChars) = .error (.unknown 276) ∧
    ofBytes (Utf8.encode (Json.object [(idKey, .ofNat 20), ("zoom", .null), (downloadKey, .bool true),
      (idKey, .ofNat 19)]).compactChars) = .ok (downloadAfterExposure true) := by
  obtain ⟨-, -, hrepeated, hrefused⟩ := ofBytes_accepts_wire_form
  constructor
  · have hread : Json.ofBytes (Utf8.encode (Json.object [(idKey, .ofNat 276)]).compactChars) =
        .ok (.object [(idKey, .ofNat 276)]) :=
      JsonReader.ofBytes_object (List.forall_mem_singleton.2 (by decide)) (List.forall_mem_singleton.2 trivial)
    exact ((hrefused _ _ hread).2.1 276).2 ⟨rfl, fun c => by cases c <;> (rw [id]; decide)⟩
  · have hscalars : ∀ p ∈ [(idKey, Json.ofNat 20), ("zoom", .null), (downloadKey, .bool true), (idKey, .ofNat 19)],
        PlainText p.1 ∧ p.2.IsScalar := by
      simp only [List.forall_mem_cons]
      exact ⟨⟨by decide, trivial⟩, ⟨by decide, trivial⟩, ⟨by decide, trivial⟩, ⟨by decide, trivial⟩, by simp⟩
    have hheld : Holds (.object [(idKey, .ofNat 19), (downloadKey, .bool true), ("zoom", .null), (idKey, .ofNat 20)])
        (downloadAfterExposure true) := by
      simp only [Holds, fields, toJson, List.forall_mem_cons]
      exact ⟨rfl, rfl, by simp⟩
    exact (hrepeated _ hscalars _).2 ((holds_iff _ _).1 hheld)

end RemoteShutter.Telecommand
