/-
Telecommands are read back from what a client sends.

- `flat_fields`: a command is written as a flat object, whatever its parameters.
- `ofBytes_toBytes`: its text is read as the command again.
- `toBytes_fits`: its text fits one frame, and is not empty.
-/
import RemoteShutter.Proofs.Json.ReadBack
import RemoteShutter.Telecommand.Json

namespace RemoteShutter

open JsonLexeme

namespace Telecommand

/-! ## Parameters -/

/-- a parameter is written as a whole number -/
theorem exists_int32 (z : Int32) : ∃ n : JsonNumber, int32 z = .number n ∧ n.IsWhole ∧
    n.compact = Numeral.ofInt z.toInt ∧ ∀ wanted low high, low ≤ z.toInt → z.toInt ≤ high →
      n.inRange wanted low high = .ok z.toInt := by
  have hlow := z.le_toInt
  have hhigh := z.toInt_lt
  exact Json.exists_ofInt (by omega) (by omega)

theorem isScalar_int32 (z : Int32) : (int32 z).IsScalar := by
  obtain ⟨n, hn, hwhole, -⟩ := exists_int32 z
  rw [hn]
  exact hwhole

/-- a parameter is taken as it was written -/
theorem toInt32_int32 (z : Int32) : (int32 z).toInt32 = .ok z := by
  obtain ⟨n, hn, -, -, hrange⟩ := exists_int32 z
  have hlow := z.le_toInt
  have hhigh := z.toInt_lt
  have hmin : Int32.minValue.toInt = -2147483648 := by decide
  have hmax : Int32.maxValue.toInt = 2147483647 := by decide
  rw [hn, Json.toInt32, JsonNumber.toInt32, hrange _ _ _ (by omega) (by omega)]
  exact congrArg Except.ok (Int32.ofInt_toInt z)

/-! ## Whole commands -/

/-- the fields of the object that a command is written as -/
def fields (c : Telecommand) : List (String × Json) :=
  match c.toJson with
  | .object fs => fs
  | _ => []

theorem toJson_eq (c : Telecommand) : c.toJson = .object c.fields := rfl

theorem flat_fields (c : Telecommand) : JsonReader.Flat c.fields := by
  have hkeys : PlainText idKey ∧ PlainText downloadKey ∧ PlainText exposureTimeKey ∧ PlainText intervalKey ∧
      PlainText exposuresKey := by decide
  have hnat : ∀ n, (Json.ofNat n).IsScalar := fun _ => trivial
  have hbool : ∀ b, (Json.bool b).IsScalar := fun _ => trivial
  cases c with
  | downloadAfterExposure | sequencerSetup | intervalometerSetup =>
    refine ⟨?_, ?_, ?_⟩
    · simp [fields, toJson, hkeys]
    · simp [fields, toJson, hnat, hbool, isScalar_int32]
    · simp only [fields, toJson, List.map_cons, List.map_nil]
      decide
  | shutdown | reboot | testConnection | reconnect | start | stop | testCapture =>
    refine ⟨?_, ?_, ?_⟩
    · simp [fields, toJson, hkeys]
    · simp [fields, toJson, hnat]
    · exact List.pairwise_singleton _ _

theorem ofJson_toJson (c : Telecommand) : ofJson c.toJson = .ok c := by
  cases c with
  | sequencerSetup s =>
    have hread : sequencerOfJson (sequencerSetup s).toJson = .ok s := by
      have hfields : (sequencerSetup s).toJson.field? downloadKey = some (.bool s.download) ∧
          (sequencerSetup s).toJson.field? exposureTimeKey = some (int32 s.exposureTime) ∧
          (sequencerSetup s).toJson.field? exposuresKey = some (int32 s.exposures) := ⟨rfl, rfl, rfl⟩
      simp only [sequencerOfJson, parameter?, hfields, toInt32_int32]
      rfl
    exact congrArg (fun r => (ofMismatch r).map sequencerSetup) hread
  | intervalometerSetup s =>
    have hread : intervalometerOfJson (intervalometerSetup s).toJson = .ok s := by
      have hfields : (intervalometerSetup s).toJson.field? downloadKey = some (.bool s.download) ∧
          (intervalometerSetup s).toJson.field? exposureTimeKey = some (int32 s.exposureTime) ∧
          (intervalometerSetup s).toJson.field? intervalKey = some (int32 s.interval) ∧
          (intervalometerSetup s).toJson.field? exposuresKey = some (int32 s.exposures) := ⟨rfl, rfl, rfl, rfl⟩
      simp only [intervalometerOfJson, parameter?, hfields, toInt32_int32]
      rfl
    exact congrArg (fun r => (ofMismatch r).map intervalometerSetup) hread
  | downloadAfterExposure | shutdown | reboot | testConnection | reconnect | start | stop | testCapture => rfl

theorem toBytes_eq (c : Telecommand) : c.toBytes = Utf8.encode c.toJson.compactChars := by
  rw [toBytes, text, Json.compact, String.toList_ofList]

/-- **A command is read back from what a client sends for it.** -/
theorem ofBytes_toBytes (c : Telecommand) : ofBytes c.toBytes = .ok c := by
  have hread := JsonReader.ofBytes_compact (flat_fields c)
  rw [← toJson_eq, ← toBytes_eq] at hread
  rw [ofBytes, hread]
  exact ofJson_toJson c

/-! ## Sizes -/

theorem length_int32 (z : Int32) : (int32 z).compactChars.length ≤ 11 := by
  obtain ⟨n, hn, -, hcompact, -⟩ := exists_int32 z
  have hlow := z.le_toInt
  have hhigh := z.toInt_lt
  rw [hn, Json.compactChars, hcompact]
  exact Numeral.length_ofInt (by decide) (k := 10) (by omega)

/-- the text of a command is short -/
theorem length_toJson (c : Telecommand) : c.toJson.compactChars.length ≤ 200 := by
  have hlength := JsonReader.length_object_le c.fields
  have hkeys : (Json.compactText idKey).length = 8 ∧ (Json.compactText downloadKey).length = 10 ∧
      (Json.compactText exposureTimeKey).length = 15 ∧ (Json.compactText intervalKey).length = 10 ∧
      (Json.compactText exposuresKey).length = 15 := by decide
  have hid : (Json.ofNat c.id).compactChars.length ≤ 2 := by
    have hsmall : c.id.toUInt64.toNat < 10 ^ 2 := by cases c <;> (rw [id]; decide)
    rw [Json.ofNat, Json.compactChars, JsonNumber.compact]
    exact length_digits (by decide) hsmall
  have hbool : ∀ b, (Json.bool b).compactChars.length ≤ 5 := by decide
  refine hlength.trans (Nat.add_le_add_right (m := 198) ?_ 2)
  cases c with
  | sequencerSetup s =>
    have h1 := length_int32 s.exposures
    have h2 := length_int32 s.exposureTime
    have h3 := hbool s.download
    simp only [fields, toJson, List.map_cons, List.map_nil, List.sum_cons, List.sum_nil, hkeys]
    omega
  | intervalometerSetup s =>
    have h1 := length_int32 s.exposures
    have h2 := length_int32 s.exposureTime
    have h3 := length_int32 s.interval
    have h4 := hbool s.download
    simp only [fields, toJson, List.map_cons, List.map_nil, List.sum_cons, List.sum_nil, hkeys]
    omega
  | downloadAfterExposure b =>
    have h1 := hbool b
    simp only [fields, toJson, List.map_cons, List.map_nil, List.sum_cons, List.sum_nil, hkeys]
    omega
  | shutdown | reboot | testConnection | reconnect | start | stop | testCapture =>
    simp only [fields, toJson, List.map_cons, List.map_nil, List.sum_cons, List.sum_nil, hkeys]
    omega

/-- **What a client sends for a command fits one frame**, and is not empty. -/
theorem toBytes_fits (c : Telecommand) : c.toBytes ≠ [] ∧ c.toBytes.length ≤ Frame.maxPayload := by
  refine ⟨fun hnil => ?_, ?_⟩
  · have hread := ofBytes_toBytes c
    have herror : ofBytes [] = .error (.json .cutShort) := rfl
    rw [hnil, herror] at hread
    cases hread
  · have hencode := Utf8.length_encode_le c.toJson.compactChars
    have htext := length_toJson c
    rw [toBytes_eq, Frame.maxPayload]
    omega

end Telecommand

end RemoteShutter
