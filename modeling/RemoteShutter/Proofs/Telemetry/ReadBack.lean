/-
Status reports are read back from what the controller sends.

- `TimingStats.reads_toJson`, `FunctionReport.reads_toJson`, `StatusReport.reads_toJson`: each record is read from its
  own text, with all fields in the order of its layout, and with the optional ones there or left out.
- `StatusReport.length_toJson`: the text of a report has at most 600 characters, so it fits one frame.
- `StatusReport.sent_and_read_back`: a report goes out as one telemetry frame, and the client gets it from that frame.
-/
import RemoteShutter.Link.Outbound
import RemoteShutter.Proofs.Decoder.RoundTrip
import RemoteShutter.Proofs.Json.Records

namespace RemoteShutter

open JsonLexeme (PlainText)
open JsonReader

/-! ## Numbers of fixed size -/

theorem reads_uint32 (n : UInt32) : Reads TimingStats.uint32 (.ofNat n.toNat) n := by
  have hlt := n.toNat_lt
  obtain ⟨m, hm, hwhole, -, hrange⟩ := Json.exists_ofInt (z := n.toNat) (by omega) (by omega)
  rw [Json.ofNat_eq, hm]
  refine reads_numberAs hwhole ?_
  rw [JsonNumber.toUInt32, hrange _ _ _ (by omega) (by omega)]
  exact congrArg Except.ok (UInt32.ofNat_toNat)

theorem reads_uint64 (n : UInt64) : Reads (numberAs "u64" JsonNumber.toUInt64) (.ofNat n.toNat) n := by
  have hlt := n.toNat_lt
  obtain ⟨m, hm, hwhole, -, hrange⟩ := Json.exists_ofInt (z := n.toNat) (by omega) (by omega)
  rw [Json.ofNat_eq, hm]
  refine reads_numberAs hwhole ?_
  rw [JsonNumber.toUInt64, hrange _ _ _ (by omega) (by omega)]
  exact congrArg Except.ok (UInt64.ofNat_toNat)

theorem reads_int64 (z : Int64) : Reads TimingStats.int64 (.ofInt z.toInt) z := by
  have hlow := z.le_toInt
  have hhigh := z.toInt_lt
  have hmin : Int64.minValue.toInt = -9223372036854775808 := by decide
  have hmax : Int64.maxValue.toInt = 9223372036854775807 := by decide
  obtain ⟨m, hm, hwhole, -, hrange⟩ := Json.exists_ofInt (z := z.toInt) (by omega) (by omega)
  rw [hm]
  refine reads_numberAs hwhole ?_
  rw [JsonNumber.toInt64, hrange _ _ _ (by omega) (by omega)]
  exact congrArg Except.ok (Int64.ofInt_toInt z)

theorem notNull_ofNat (n : Nat) : NotNull (.ofNat n) :=
  notNull_number (n := .natural n.toUInt64) trivial

/-! ## Records -/

section

variable {σ α : Type} {r : Record σ} {key : String} {set : σ → α → σ} {read : JsonReader α} {state : σ} {j : Json}

theorem takes_required {get : σ → Option α} (hf : r.fields.find? (·.key = key) = some (requiredField key get set read))
    (hfilled : get state = none) {x : α} (h : Reads read j x) : Takes r.field state (key, j) (set state x) :=
  takes_field (f := requiredField key get set read) hf (by simp [requiredField, hfilled]) (reads_map h (set state))

theorem takes_optional {get : σ → Option (Option α)} {set : σ → Option α → σ}
    (hf : r.fields.find? (·.key = key) = some (optionalField key get set read)) (hfilled : get state = none) {x : α}
    (h : Reads read j x) (hj : NotNull j) : Takes r.field state (key, j) (set state (some x)) :=
  takes_field (f := optionalField key get set read) hf (by simp [optionalField, hfilled])
    (reads_map (reads_optional h hj) (set state))

end

namespace TimingStats

theorem reads_toJson (s : TimingStats) : Reads read s.toJson s := by
  have hkeys : ∀ k ∈ ["exposuresCount", "totalUs", "maxUs", "lastUs", "lateCount"], PlainText k := by decide
  have hfields : TakesAll layout.field {} [("exposuresCount", .ofNat s.exposures.toNat), ("totalUs", .ofInt s.total.toInt),
      ("maxUs", .ofInt s.max.toInt), ("lastUs", .ofInt s.last.toInt), ("lateCount", .ofNat s.late.toNat)]
      ⟨some s.exposures, some s.total, some s.max, some s.last, some s.late⟩ := by
    apply TakesAll.cons (takes_required rfl rfl (reads_uint32 _))
    apply TakesAll.cons (takes_required rfl rfl (reads_int64 _))
    apply TakesAll.cons (takes_required rfl rfl (reads_int64 _))
    apply TakesAll.cons (takes_required rfl rfl (reads_int64 _))
    apply TakesAll.cons (takes_required rfl rfl (reads_uint32 _))
    exact TakesAll.nil _
  refine reads_map (reads_record ?_ hfields rfl) Partial.whole
  exact List.forall_mem_map.1 hkeys

end TimingStats

namespace FunctionReport

theorem reads_kind (k : FunctionKind) : Reads (choice (FunctionKind.all.map fun k => (k.text, k))) (.text k.text) k := by
  cases k <;> exact reads_choice (by decide) rfl

theorem reads_lifecycle (l : LifecycleState) :
    Reads (choice (LifecycleState.all.map fun l => (l.text, l))) (.text l.text) l := by
  cases l <;> exact reads_choice (by decide) rfl

theorem reads_toJson (r : FunctionReport) : Reads read r.toJson r := by
  obtain ⟨kind, lifecycle, download, programmed, exposureTime, interval, stats⟩ := r
  have hfront : TakesAll layout.field {} [("kind", .text kind.text), ("lifecycle", .text lifecycle.text),
      ("downloadAfterExposure", .bool download), ("programmedExposures", .ofInt programmed.toInt),
      ("exposureTimeUs", .ofNat exposureTime.toNat)]
      ⟨some kind, some lifecycle, some download, some programmed, some exposureTime, none, none⟩ := by
    apply TakesAll.cons (takes_required rfl rfl (reads_kind _))
    apply TakesAll.cons (takes_required rfl rfl (reads_lifecycle _))
    apply TakesAll.cons (takes_required rfl rfl (reads_boolean _))
    apply TakesAll.cons (takes_required rfl rfl (reads_int64 _))
    apply TakesAll.cons (takes_required rfl rfl (reads_uint32 _))
    exact TakesAll.nil _
  have hstats : ∀ i, TakesAll layout.field
      ⟨some kind, some lifecycle, some download, some programmed, some exposureTime, i, none⟩ [("stats", stats.toJson)]
      ⟨some kind, some lifecycle, some download, some programmed, some exposureTime, i, some stats⟩ := by
    intro i
    apply TakesAll.cons (takes_required rfl rfl stats.reads_toJson)
    exact TakesAll.nil _
  cases interval with
  | some ms =>
    have hkeys : ∀ k ∈ ["kind", "lifecycle", "downloadAfterExposure", "programmedExposures", "exposureTimeUs",
        "intervalMs", "stats"], PlainText k := by decide
    have hinterval : TakesAll layout.field
        ⟨some kind, some lifecycle, some download, some programmed, some exposureTime, none, none⟩
        [("intervalMs", .ofNat ms.toNat)]
        ⟨some kind, some lifecycle, some download, some programmed, some exposureTime, some (some ms), none⟩ := by
      apply TakesAll.cons (takes_optional rfl rfl (reads_uint64 ms) (notNull_ofNat _))
      exact TakesAll.nil _
    refine reads_map (reads_record ?_ ((hfront.append hinterval).append (hstats _)) rfl) Partial.whole
    exact List.forall_mem_map.1 hkeys
  | none =>
    have hkeys : ∀ k ∈ ["kind", "lifecycle", "downloadAfterExposure", "programmedExposures", "exposureTimeUs", "stats"],
        PlainText k := by decide
    refine reads_map (reads_record ?_ (hfront.append (hstats none)) rfl) Partial.whole
    exact List.forall_mem_map.1 hkeys

end FunctionReport

namespace StatusReport

theorem reads_toJson (r : StatusReport) : Reads read r.toJson r := by
  obtain ⟨uptime, function⟩ := r
  have huptime : TakesAll layout.field {} [("uptimeSecs", .ofNat uptime.toNat)] ⟨some uptime, none⟩ := by
    apply TakesAll.cons (takes_required rfl rfl (reads_uint64 _))
    exact TakesAll.nil _
  cases function with
  | some f =>
    have hkeys : ∀ k ∈ ["uptimeSecs", "function"], PlainText k := by decide
    have hfunction : TakesAll layout.field ⟨some uptime, none⟩ [("function", f.toJson)] ⟨some uptime, some (some f)⟩ := by
      apply TakesAll.cons (takes_optional rfl rfl f.reads_toJson (notNull_object _))
      exact TakesAll.nil _
    refine reads_map (reads_record ?_ (huptime.append hfunction) rfl)
      fun p : Partial => StatusReport.mk (p.uptime.getD 0) (p.function.getD none)
    exact List.forall_mem_map.1 hkeys
  | none =>
    have hkeys : ∀ k ∈ ["uptimeSecs"], PlainText k := by decide
    refine reads_map (reads_record ?_ huptime rfl)
      fun p : Partial => StatusReport.mk (p.uptime.getD 0) (p.function.getD none)
    exact List.forall_mem_map.1 hkeys

theorem toBytes_eq (r : StatusReport) : r.toBytes = Utf8.encode r.toJson.compactChars := by
  rw [toBytes, text, Json.compact, String.toList_ofList]

/-- **A report is read back from its text.** -/
theorem ofBytes_toBytes (r : StatusReport) : ofBytes r.toBytes = .ok r := by
  rw [toBytes_eq]
  exact whole_compact r.reads_toJson

end StatusReport

/-! ## Sizes -/

theorem length_ofNat {n : Nat} (hn : n < 2 ^ 64) : (Json.ofNat n).compactChars.length ≤ 21 := by
  obtain ⟨m, hm, -, hcompact, -⟩ := Json.exists_ofInt (z := n) (by omega) (by omega)
  rw [Json.ofNat_eq, hm, Json.compactChars, hcompact]
  exact Numeral.length_ofInt (by decide) (k := 20) (by omega)

theorem length_int64 (z : Int64) : (Json.ofInt z.toInt).compactChars.length ≤ 21 := by
  have hlow := z.le_toInt
  have hhigh := z.toInt_lt
  obtain ⟨m, hm, -, hcompact, -⟩ := Json.exists_ofInt (z := z.toInt) (by omega) (by omega)
  rw [hm, Json.compactChars, hcompact]
  exact Numeral.length_ofInt (by decide) (k := 20) (by omega)

theorem TimingStats.length_toJson (s : TimingStats) : s.toJson.compactChars.length ≤ 200 := by
  have hkeys : (Json.compactText "exposuresCount").length = 16 ∧ (Json.compactText "totalUs").length = 9 ∧
      (Json.compactText "maxUs").length = 7 ∧ (Json.compactText "lastUs").length = 8 ∧
      (Json.compactText "lateCount").length = 11 := by decide
  have hexposures := length_ofNat (n := s.exposures.toNat) (by have := s.exposures.toNat_lt; omega)
  have hlate := length_ofNat (n := s.late.toNat) (by have := s.late.toNat_lt; omega)
  have htotal := length_int64 s.total
  have hmax := length_int64 s.max
  have hlast := length_int64 s.last
  refine (length_object_le _).trans ?_
  simp only [List.map_cons, List.map_nil, List.sum_cons, List.sum_nil, hkeys]
  omega

theorem FunctionReport.length_toJson (r : FunctionReport) : r.toJson.compactChars.length ≤ 500 := by
  have hkeys : (Json.compactText "kind").length = 6 ∧ (Json.compactText "lifecycle").length = 11 ∧
      (Json.compactText "downloadAfterExposure").length = 23 ∧ (Json.compactText "programmedExposures").length = 21 ∧
      (Json.compactText "exposureTimeUs").length = 16 ∧ (Json.compactText "intervalMs").length = 12 ∧
      (Json.compactText "stats").length = 7 := by decide
  have hkind : (Json.text r.kind.text).compactChars.length ≤ 16 := by cases r.kind <;> decide
  have hlifecycle : (Json.text r.lifecycle.text).compactChars.length ≤ 10 := by cases r.lifecycle <;> decide
  have hdownload : (Json.bool r.download).compactChars.length ≤ 5 := by cases r.download <;> decide
  have hprogrammed := length_int64 r.programmed
  have htime := length_ofNat (n := r.exposureTime.toNat) (by have := r.exposureTime.toNat_lt; omega)
  have hstats := r.stats.length_toJson
  refine (length_object_le _).trans ?_
  cases r.interval with
  | some ms =>
    have hinterval := length_ofNat (n := ms.toNat) ms.toNat_lt
    simp only [List.cons_append, List.nil_append, List.map_cons, List.map_nil, List.sum_cons, List.sum_nil, hkeys]
    omega
  | none =>
    simp only [List.cons_append, List.nil_append, List.map_cons, List.map_nil, List.sum_cons, List.sum_nil, hkeys]
    omega

namespace StatusReport

theorem length_toJson (r : StatusReport) : r.toJson.compactChars.length ≤ 600 := by
  have hkeys : (Json.compactText "uptimeSecs").length = 12 ∧ (Json.compactText "function").length = 10 := by decide
  have huptime := length_ofNat (n := r.uptime.toNat) r.uptime.toNat_lt
  refine (length_object_le _).trans ?_
  cases r.function with
  | some f =>
    have hfunction := f.length_toJson
    simp only [List.map_cons, List.map_nil, List.sum_cons, List.sum_nil, hkeys]
    omega
  | none =>
    simp only [List.map_cons, List.map_nil, List.sum_cons, List.sum_nil, hkeys]
    omega

/-- **A report fits one frame**, and is not empty. -/
theorem toBytes_fits (r : StatusReport) : r.toBytes ≠ [] ∧ r.toBytes.length ≤ Frame.maxPayload := by
  constructor
  · intro hnil
    have hread := ofBytes_toBytes r
    have herror : ofBytes [] = .error .cutShort := rfl
    rw [hnil, herror] at hread
    cases hread
  · have hencode := Utf8.length_encode_le r.toJson.compactChars
    have htext := length_toJson r
    rw [toBytes_eq, Frame.maxPayload]
    omega

/-! ## On the way to the client -/

/-- a report is pushed as one frame -/
theorem sendStatus_eq (r : StatusReport) (q : Outbound) :
    q.sendStatus r = q.push (Frame.encode FrameKind.telemetry.toByte r.toBytes) := by
  obtain ⟨hne, hfits⟩ := r.toBytes_fits
  obtain ⟨fs, hfs, hl⟩ := Fragments.exists_carries FrameKind.telemetry.toByte r.toBytes
  rw [hfs.eq_singleton hne hfits] at hl
  rw [Outbound.sendStatus, Outbound.send, Frame.fragments, hl]
  rfl

/-- **A report arrives as it was sent.** Its text stands for it. It is queued as one telemetry frame, which holds that
text, and a client whose decoder waits for a frame finds this frame in its bytes, however these are cut, and in it the
report. -/
theorem sent_and_read_back (r : StatusReport) :
    ofBytes r.toBytes = .ok r ∧ r.toBytes ≠ [] ∧ r.toBytes.length ≤ Frame.maxPayload ∧
    (∀ q : Outbound, q.sendStatus r = q.push (Frame.encode FrameKind.telemetry.toByte r.toBytes)) ∧
    ∀ d : Decoder, d.Reachable → d.isIdle = true → ∀ chunks : List Bytes,
      chunks.flatten = Frame.encode FrameKind.telemetry.toByte r.toBytes →
      ∃ f : Frame, (d.decodeAll chunks).2 = [f] ∧ (d.decodeAll chunks).1.isIdle = true ∧ f.kind = .ok .telemetry ∧
        f.payload = r.toBytes ∧ ofBytes f.payload = .ok r := by
  obtain ⟨hne, hfits⟩ := r.toBytes_fits
  refine ⟨r.ofBytes_toBytes, hne, hfits, r.sendStatus_eq, ?_⟩
  intro d hd hidle chunks hchunks
  have hwf := Decoder.reachable_wf hd
  have hfeed : d.feed (Frame.encode FrameKind.telemetry.toByte r.toBytes) =
      (Decoder.afterFrame ⟨FrameKind.telemetry.toByte, r.toBytes⟩, [⟨FrameKind.telemetry.toByte, r.toBytes⟩]) :=
    Decoder.feed_wire ((Decoder.isIdle_iff d).1 hidle) (f := ⟨FrameKind.telemetry.toByte, r.toBytes⟩) hfits
  rw [Decoder.decodeAll_eq_decode hwf, hchunks, Decoder.decode_eq_feed hwf, hfeed]
  exact ⟨_, rfl, rfl, rfl, rfl, r.ofBytes_toBytes⟩

/-- a report with all its parts at their limits, in single bytes, to a decoder that was reset within a frame -/
theorem sent_and_read_back_byte_by_byte :
    let r : StatusReport := ⟨18446744073709551615, some ⟨.intervalometer, .testing, true, -9223372036854775808, 4294967295,
      some 18446744073709551615, ⟨4294967295, 9223372036854775807, -1, 0, 4294967295⟩⟩⟩
    let d := (Decoder.fresh.run [.chunk [0x54, 0xF0, 9, 2, 0, 1], .reset]).1
    let chunks := (Frame.encode FrameKind.telemetry.toByte r.toBytes).map ([·])
    d.Reachable ∧ d.isIdle = true ∧ chunks.flatten = Frame.encode FrameKind.telemetry.toByte r.toBytes ∧
      ∃ f : Frame, (d.decodeAll chunks).2 = [f] ∧ ofBytes f.payload = .ok r := by
  intro r d chunks
  have hd : d.Reachable := ⟨[.chunk [0x54, 0xF0, 9, 2, 0, 1], .reset], rfl⟩
  have hchunks : chunks.flatten = Frame.encode FrameKind.telemetry.toByte r.toBytes := by
    rw [← List.flatMap_def, List.flatMap_singleton']
  obtain ⟨-, -, -, -, hdecode⟩ := sent_and_read_back r
  obtain ⟨f, hf, -, -, -, hread⟩ := hdecode d hd rfl chunks hchunks
  exact ⟨hd, rfl, hchunks, f, hf, hread⟩

end StatusReport

end RemoteShutter
