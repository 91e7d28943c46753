/-
Compact objects are read back.

- `exists_ofInt`: a whole number that fits 64 bits is written as such, and taken again by every type that has it.
- `value_scalar`: a scalar is read back, in front of anything that could not go on with a number.
- `fields_object`: so are the fields of an object, each taken in by whatever takes in one field.
- `ofBytes_object`: an object of scalars is read, its fields collected one after the other.
- `ofBytes_compact`: an object whose keys are in order is read back as it is.
-/
import RemoteShutter.Json.Convert
import RemoteShutter.Proofs.Json.Lexemes

namespace RemoteShutter

/-- neither a double nor a zero with a sign -/
def JsonNumber.IsWhole : JsonNumber → Prop
  | natural _ => True
  | negative n => n.toInt < 0
  | real _ => False

/-- a value without parts; its number is whole, its text stands for itself -/
def Json.IsScalar : Json → Prop
  | null | bool _ => True
  | number n => n.IsWhole
  | text t => JsonLexeme.PlainText t
  | array _ | object _ => False

/-- **A whole number that fits 64 bits** is written as such, and is taken by every range that it is in. -/
theorem Json.exists_ofInt {z : Int} (hlow : -2 ^ 63 ≤ z) (hhigh : z < 2 ^ 64) : ∃ n : JsonNumber,
    Json.ofInt z = .number n ∧ n.IsWhole ∧ n.compact = Numeral.ofInt z ∧
      ∀ wanted low high, low ≤ z → z ≤ high → n.inRange wanted low high = .ok z := by
  unfold Json.ofInt
  split_ifs with hz
  · have hback : z.toInt64.toInt = z := Int64.toInt_ofInt_of_le hlow (by omega)
    refine ⟨.negative z.toInt64, rfl, hback.trans_lt hz, ?_, fun wanted low high hl _ => ?_⟩
    · rw [JsonNumber.compact, hback]
    · rw [JsonNumber.inRange, hback, if_pos hl]
  · have hback : (z.toNat.toUInt64.toNat : Int) = z := by
      simp only [Nat.toUInt64, UInt64.toNat_ofNat']
      omega
    refine ⟨.natural z.toNat.toUInt64, rfl, trivial, ?_, fun wanted low high _ hh => ?_⟩
    · rw [JsonNumber.compact, Numeral.ofInt, if_neg hz]
      exact congrArg Numeral.digits (by omega)
    · rw [JsonNumber.inRange, hback, if_pos hh]

theorem Json.ofNat_eq (n : Nat) : Json.ofNat n = Json.ofInt n := by
  rw [Json.ofInt, if_neg (by omega), Int.toNat_natCast, Json.ofNat]

theorem Numeral.length_ofInt {k : Nat} (hk : 0 < k) {z : Int} (hz : z.natAbs < 10 ^ k) :
    (Numeral.ofInt z).length ≤ k + 1 := by
  have hdigits := JsonLexeme.length_digits hk hz
  unfold Numeral.ofInt
  split_ifs
  · exact Nat.succ_le_succ hdigits
  · exact Nat.le_succ_of_le hdigits

namespace JsonReader

open JsonLexeme
open Utf8 (encode encode_append encode_cons)

/-! ## Scalars -/

theorem skipBlanks_cons {b : UInt8} (h : isBlank b = false) (s : Bytes) : skipBlanks (b :: s) = b :: s :=
  List.dropWhile_cons_of_neg (by rw [h]; exact Bool.false_ne_true)

theorem number_compact {n : JsonNumber} (h : n.IsWhole) {rest : Bytes} (hrest : Stops rest) :
    JsonLexeme.number (encode n.compact ++ rest) = .ok (n, rest) := by
  cases n with
  | natural n => exact number_natural n hrest
  | negative n => exact number_negative h hrest
  | real x => exact h.elim

theorem encode_text {t : String} (h : PlainText t) :
    encode (Json.compactText t) = byte '"' :: (encode t.toList ++ [byte '"']) := by
  rw [compactText_of_plain h, encode_cons (by decide), encode_append, encode_cons (by decide)]
  rfl

/-- a number begins with its sign or a digit -/
theorem exists_cons_number {n : JsonNumber} (h : n.IsWhole) :
    ∃ b ds, encode n.compact = b :: ds ∧ (b = byte '-' ∨ isDigit b = true) := by
  cases n with
  | natural n =>
    obtain ⟨b, ds, hds, hdigit⟩ := exists_cons_digits n.toNat
    exact ⟨b, ds, hds, .inr hdigit⟩
  | negative n =>
    have hneg : n.toInt < 0 := h
    refine ⟨byte '-', encode (Numeral.digits n.toInt.natAbs), ?_, .inl rfl⟩
    rw [JsonNumber.compact, Numeral.ofInt, if_pos hneg, encode_cons (by decide)]
  | real x => exact h.elim

/-- a sign or a digit begins nothing but a number -/
theorem number_start {b : UInt8} (h : b = byte '-' ∨ isDigit b = true) :
    isBlank b = false ∧ b ≠ byte 'n' ∧ b ≠ byte 't' ∧ b ≠ byte 'f' := by
  rcases h with rfl | h
  · decide
  · have hne : ∀ c, isDigit (byte c) = false → b ≠ byte c := by
      rintro c hc rfl
      rw [hc] at h
      cases h
    refine ⟨?_, hne 'n' (by decide), hne 't' (by decide), hne 'f' (by decide)⟩
    simp [isBlank, hne ' ' (by decide), hne '\n' (by decide), hne '\t' (by decide), hne '\r' (by decide)]

theorem value_null (depth : Nat) (rest : Bytes) :
    value depth (encode Json.null.compactChars ++ rest) = .ok (.null, rest) := by
  have hword : word ['u', 'l', 'l'] (encode ['u', 'l', 'l'] ++ rest) = .ok ((), rest) := word_encode (by decide) rest
  rw [Json.compactChars, encode_cons (by decide), List.cons_append, value, skipBlanks_cons (by decide)]
  simp only [if_true, hword]
  rfl

theorem value_bool (depth : Nat) (b : Bool) (rest : Bytes) :
    value depth (encode (Json.bool b).compactChars ++ rest) = .ok (.bool b, rest) := by
  cases b with
  | true =>
    have hword : word ['r', 'u', 'e'] (encode ['r', 'u', 'e'] ++ rest) = .ok ((), rest) :=
      word_encode (by decide) rest
    rw [Json.compactChars, if_pos rfl, encode_cons (by decide), List.cons_append, value, skipBlanks_cons (by decide)]
    simp only [show byte 't' ≠ byte 'n' by decide, if_false, if_true, hword]
    rfl
  | false =>
    have hword : word ['a', 'l', 's', 'e'] (encode ['a', 'l', 's', 'e'] ++ rest) = .ok ((), rest) :=
      word_encode (by decide) rest
    rw [Json.compactChars, if_neg Bool.false_ne_true, encode_cons (by decide), List.cons_append, value,
      skipBlanks_cons (by decide)]
    simp only [show byte 'f' ≠ byte 'n' by decide, show byte 'f' ≠ byte 't' by decide, if_false, if_true, hword]
    rfl

theorem value_number {n : JsonNumber} (h : n.IsWhole) (depth : Nat) {rest : Bytes} (hrest : Stops rest) :
    value depth (encode (Json.number n).compactChars ++ rest) = .ok (.number n, rest) := by
  obtain ⟨b, ds, hds, hb⟩ := exists_cons_number h
  obtain ⟨hblank, hn, ht, hf⟩ := number_start hb
  have hnumber := number_compact h hrest
  rw [hds, List.cons_append] at hnumber
  rw [Json.compactChars, hds, List.cons_append, value, skipBlanks_cons hblank]
  simp only [if_neg hn, if_neg ht, if_neg hf, if_pos hb, hnumber]
  rfl

theorem value_text {t : String} (h : PlainText t) (depth : Nat) (rest : Bytes) :
    value depth (encode (Json.text t).compactChars ++ rest) = .ok (.text t, rest) := by
  have hstring := string_encode h rest
  have hnumber : ¬ (byte '"' = byte '-' ∨ isDigit (byte '"') = true) := by decide
  rw [Json.compactChars, encode_text h, List.cons_append, List.append_assoc, value, skipBlanks_cons (by decide)]
  simp only [show byte '"' ≠ byte 'n' by decide, show byte '"' ≠ byte 't' by decide,
    show byte '"' ≠ byte 'f' by decide, if_false, if_neg hnumber, if_true, List.singleton_append, hstring]
  rfl

/-- **A scalar is read back**, in front of anything that could not go on with a number. -/
theorem value_scalar {j : Json} (h : j.IsScalar) (depth : Nat) {rest : Bytes} (hrest : Stops rest) :
    value depth (encode j.compactChars ++ rest) = .ok (j, rest) := by
  cases j with
  | null => exact value_null depth rest
  | bool b => exact value_bool depth b rest
  | number n => exact value_number h depth hrest
  | text t => exact value_text h depth rest
  | array js | object fs => exact h.elim

/-! ## Fields -/

/-- a field, as far as the colon, and what follows it -/
theorem encode_field {k : String} (hk : PlainText k) (cs : List Char) :
    encode (Json.compactText k ++ ':' :: cs) = byte '"' :: (encode k.toList ++ byte '"' :: byte ':' :: encode cs) := by
  rw [encode_append, encode_text hk, encode_cons (by decide)]
  simp

/-- behind the value of a field there is a comma or the closing brace -/
theorem stops_fields (fs : List (String × Json)) (rest : Bytes) :
    Stops (encode (Json.compactFields fs) ++ byte '\x7d' :: rest) := by
  intro b hb
  cases fs with
  | nil =>
    obtain rfl : byte '\x7d' = b := by simpa [Json.compactFields, Utf8.encode] using hb
    decide
  | cons p fs =>
    rw [Json.compactFields, encode_cons (by decide)] at hb
    obtain rfl : byte ',' = b := by simpa using hb
    decide

variable {σ : Type} {field : σ → String → JsonReader σ}

/-- with a field in front, the state becomes another one -/
def Takes (field : σ → String → JsonReader σ) (state : σ) (p : String × Json) (state' : σ) : Prop :=
  ∀ rest, Stops rest → field state p.1 (byte ':' :: (encode p.2.compactChars ++ rest)) = .ok (state', rest)

/-- fields are taken in one after the other -/
inductive TakesAll (field : σ → String → JsonReader σ) : σ → List (String × Json) → σ → Prop where
  | nil (state : σ) : TakesAll field state [] state
  | cons {state state' state'' : σ} {p : String × Json} {fs : List (String × Json)} (hp : Takes field state p state')
      (hfs : TakesAll field state' fs state'') : TakesAll field state (p :: fs) state''

theorem TakesAll.append {state state' state'' : σ} {fs gs : List (String × Json)} (hfs : TakesAll field state fs state')
    (hgs : TakesAll field state' gs state'') : TakesAll field state (fs ++ gs) state'' := by
  induction hfs with
  | nil => exact hgs
  | cons hp _ ih => exact .cons hp (ih hgs)

/-- one field is taken in, when its key comes next -/
theorem fields_next {k : String} {j : Json} (hk : PlainText k) {state state' : σ} {rest : Bytes}
    (hfield : field state k (byte ':' :: (encode j.compactChars ++ rest)) = .ok (state', rest))
    {isFirst : Bool} {s r : Bytes} (hnext : nextKey isFirst s =
      .ok (some (encode k.toList ++ byte '"' :: byte ':' :: (encode j.compactChars ++ rest)), r)) (fuel : Nat) :
    fields field (fuel + 1) isFirst state s = fields field fuel false state' rest := by
  simp only [fields, hnext, bind, Except.bind, string_encode hk, hfield]

theorem nextKey_first (s : Bytes) : nextKey true (byte '"' :: s) = .ok (some s, s) := by
  rw [nextKey, skipBlanks_cons (by decide)]
  simp only [show byte '"' ≠ byte '\x7d' by decide, if_false, if_true]

theorem nextKey_comma (s : Bytes) : nextKey false (byte ',' :: byte '"' :: s) = .ok (some s, s) := by
  rw [nextKey, skipBlanks_cons (by decide)]
  simp only [show byte ',' ≠ byte '\x7d' by decide, Bool.false_eq_true, if_false, if_true,
    skipBlanks_cons (show isBlank (byte '"') = false by decide)]

theorem nextKey_brace (isFirst : Bool) (s : Bytes) :
    nextKey isFirst (byte '\x7d' :: s) = .ok (none, byte '\x7d' :: s) := by
  rw [nextKey, skipBlanks_cons (by decide)]
  simp only [if_true]

theorem fields_brace (fuel : Nat) (isFirst : Bool) (state : σ) (s : Bytes) :
    fields field (fuel + 1) isFirst state (byte '\x7d' :: s) = .ok (state, byte '\x7d' :: s) := by
  simp only [fields, nextKey_brace]
  rfl

/-- **Fields are read back**, behind the first one. -/
theorem fields_compact {fs : List (String × Json)} (hkeys : ∀ p ∈ fs, PlainText p.1) {state state' : σ}
    (h : TakesAll field state fs state') {fuel : Nat} (hf : fs.length < fuel) (rest : Bytes) :
    fields field fuel false state (encode (Json.compactFields fs) ++ byte '\x7d' :: rest) =
      .ok (state', byte '\x7d' :: rest) := by
  induction h generalizing fuel with
  | nil state =>
    obtain ⟨fuel, rfl⟩ : ∃ k, fuel = k + 1 := ⟨fuel - 1, by simp at hf; omega⟩
    exact fields_brace fuel false state rest
  | @cons state state' state'' p fs hp _ ih =>
    obtain ⟨fuel, rfl⟩ : ∃ k, fuel = k + 1 := ⟨fuel - 1, by simp at hf; omega⟩
    obtain ⟨k, j⟩ := p
    rw [List.forall_mem_cons] at hkeys
    have hread := hp _ (stops_fields fs rest)
    rw [List.length_cons] at hf
    rw [Json.compactFields, encode_cons (by decide), encode_field hkeys.1, encode_append]
    simp only [List.cons_append, List.append_assoc]
    rw [fields_next hkeys.1 hread (nextKey_comma _), ih hkeys.2 (by omega)]

theorem length_le_encode_fields (fs : List (String × Json)) :
    fs.length ≤ (encode (Json.compactFields fs)).length := by
  induction fs with
  | nil => exact Nat.zero_le _
  | cons p fs ih =>
    rw [Json.compactFields, encode_cons (by decide), encode_append, encode_cons (by decide), encode_append]
    simp only [List.length_cons, List.length_append]
    omega

theorem encode_object_nil (rest : Bytes) :
    encode (Json.object []).compactChars ++ rest = byte '\x7b' :: byte '\x7d' :: rest := by
  rw [Json.compactChars, encode_cons (by decide), encode_cons (by decide)]
  rfl

theorem encode_object_cons {k : String} (hk : PlainText k) (j : Json) (fs : List (String × Json)) (rest : Bytes) :
    encode (Json.object ((k, j) :: fs)).compactChars ++ rest =
      byte '\x7b' :: byte '"' :: (encode k.toList ++ byte '"' :: byte ':' ::
        (encode j.compactChars ++ (encode (Json.compactFields fs) ++ byte '\x7d' :: rest))) := by
  have hnil : encode [] = [] := rfl
  rw [Json.compactChars, encode_cons (by decide), encode_field hk, encode_append, encode_append,
    encode_cons (by decide), hnil]
  simp only [List.cons_append, List.append_assoc, List.nil_append]

/-- **The fields of an object are read back**, from the opening brace to the closing one. -/
theorem fields_object {fs : List (String × Json)} (hkeys : ∀ p ∈ fs, PlainText p.1) {state state' : σ}
    (h : TakesAll field state fs state') (rest : Bytes) :
    ∃ s, encode (Json.object fs).compactChars ++ rest = byte '\x7b' :: s ∧
      fields field (s.length + 1) true state s = .ok (state', byte '\x7d' :: rest) := by
  cases h with
  | nil => exact ⟨_, encode_object_nil rest, fields_brace _ _ _ _⟩
  | @cons _ _ _ p fs hp hfs =>
    obtain ⟨k, j⟩ := p
    rw [List.forall_mem_cons] at hkeys
    have hfuel := length_le_encode_fields fs
    refine ⟨_, encode_object_cons hkeys.1 j fs rest, ?_⟩
    rw [fields_next hkeys.1 (hp _ (stops_fields fs rest)) (nextKey_first _), fields_compact hkeys.2 hfs]
    simp only [List.length_cons, List.length_append]
    omega

/-! ## Objects -/

/-- a field with a greater key than all others goes behind them -/
theorem insert_eq_append {k : String} {fs : List (String × Json)} (h : ∀ p ∈ fs, p.1 < k) (j : Json) :
    Json.insert k j fs = fs ++ [(k, j)] := by
  induction fs with
  | nil => rfl
  | cons p fs ih =>
    rw [List.forall_mem_cons] at h
    have hne : k ≠ p.1 := fun heq => String.lt_irrefl k (heq ▸ h.1)
    rw [Json.insert, if_neg hne, if_neg (String.lt_asymm h.1), ih h.2, List.cons_append]

theorem foldl_insert {fs : List (String × Json)} (h : (fs.map Prod.fst).Pairwise (· < ·)) :
    fs.foldl (fun seen p => Json.insert p.1 p.2 seen) [] = fs := by
  induction fs using List.reverseRecOn with
  | nil => rfl
  | append_singleton fs p ih =>
    rw [List.map_append, List.pairwise_append] at h
    have hless : ∀ q ∈ fs, q.1 < p.1 := fun q hq => h.2.2 q.1 (List.mem_map_of_mem hq) p.1 (by simp)
    rw [List.foldl_append, ih h.1, List.foldl_cons, List.foldl_nil, insert_eq_append hless]

/-- the fields of a flat object: plain keys in order, scalar values -/
structure Flat (fs : List (String × Json)) : Prop where
  plain : ∀ p ∈ fs, PlainText p.1
  scalar : ∀ p ∈ fs, p.2.IsScalar
  sorted : (fs.map Prod.fst).Pairwise (· < ·)

theorem length_compactFields (fs : List (String × Json)) : (Json.compactFields fs).length =
    (fs.map fun p => (Json.compactText p.1).length + p.2.compactChars.length + 2).sum := by
  induction fs with
  | nil => rfl
  | cons p fs ih =>
    rw [Json.compactFields, List.map_cons, List.sum_cons, ← ih]
    simp only [List.length_cons, List.length_append]
    omega

/-- each field takes its key, its value, a comma and a colon -/
theorem length_object_le (fs : List (String × Json)) : (Json.object fs).compactChars.length ≤
    (fs.map fun p => (Json.compactText p.1).length + p.2.compactChars.length + 2).sum + 2 := by
  rw [← length_compactFields]
  rcases fs with _ | ⟨⟨k, j⟩, fs⟩
  · rw [Json.compactChars]
    decide
  · rw [Json.compactChars, Json.compactFields]
    simp only [List.length_cons, List.length_append, List.length_nil]
    omega

/-- how an object takes in one of its fields -/
def objectField (depth : Nat) (seen : List (String × Json)) (key : String) : JsonReader (List (String × Json)) :=
  fun s => do
    let (j, s) ← afterKey (value depth) s
    return (Json.insert key j seen, s)

theorem value_brace (depth : Nat) (s : Bytes) : value (depth + 1) (byte '\x7b' :: s) = do
    let (fs, r) ← fields (objectField depth) (s.length + 1) true [] s
    return (.object fs, r.drop 1) := by
  have hnumber : ¬ (byte '\x7b' = byte '-' ∨ isDigit (byte '\x7b') = true) := by decide
  rw [value, skipBlanks_cons (by decide)]
  simp only [show byte '\x7b' ≠ byte 'n' by decide, show byte '\x7b' ≠ byte 't' by decide,
    show byte '\x7b' ≠ byte 'f' by decide, show byte '\x7b' ≠ byte '"' by decide,
    show byte '\x7b' ≠ byte '[' by decide, if_false, if_neg hnumber, if_true]
  rfl

theorem objectField_scalar {j : Json} (hj : j.IsScalar) (depth : Nat) (k : String) (seen : List (String × Json)) :
    Takes (objectField depth) seen (k, j) (Json.insert k j seen) := by
  intro rest hrest
  simp only [objectField, afterKey, skipBlanks_cons (show isBlank (byte ':') = false by decide), if_true,
    value_scalar hj depth hrest, bind, Except.bind]
  rfl

/-- the fields of an object whose text holds these, in this order -/
def collect (fs : List (String × Json)) : List (String × Json) :=
  fs.foldl (fun seen p => Json.insert p.1 p.2 seen) []

theorem takesAll_scalars {fs : List (String × Json)} (h : ∀ p ∈ fs, p.2.IsScalar) (depth : Nat)
    (seen : List (String × Json)) :
    TakesAll (objectField depth) seen fs (fs.foldl (fun seen p => Json.insert p.1 p.2 seen) seen) := by
  induction fs generalizing seen with
  | nil => exact .nil seen
  | cons p fs ih =>
    rw [List.forall_mem_cons] at h
    exact .cons (objectField_scalar h.1 depth p.1 seen) (ih h.2 _)

/-- an object of scalars is read, in whatever order its keys are, and how often -/
theorem value_object {fs : List (String × Json)} (hkeys : ∀ p ∈ fs, PlainText p.1) (hscalar : ∀ p ∈ fs, p.2.IsScalar)
    (depth : Nat) (rest : Bytes) :
    value (depth + 1) (encode (Json.object fs).compactChars ++ rest) = .ok (.object (collect fs), rest) := by
  obtain ⟨s, hs, hread⟩ := fields_object hkeys (takesAll_scalars hscalar depth []) rest
  rw [hs, value_brace, hread]
  rfl

theorem ofBytes_object {fs : List (String × Json)} (hkeys : ∀ p ∈ fs, PlainText p.1)
    (hscalar : ∀ p ∈ fs, p.2.IsScalar) :
    Json.ofBytes (encode (Json.object fs).compactChars) = .ok (.object (collect fs)) := by
  have hvalue := value_object hkeys hscalar 126 []
  rw [List.append_nil] at hvalue
  simp only [Json.ofBytes, JsonReader.whole, maxDepth, hvalue, bind, Except.bind]
  rfl

/-- **A flat object is read back from its compact text.** -/
theorem ofBytes_compact {fs : List (String × Json)} (h : Flat fs) :
    Json.ofBytes (encode (Json.object fs).compactChars) = .ok (.object fs) := by
  rw [ofBytes_object h.plain h.scalar, collect, foldl_insert h.sorted]

end JsonReader

end RemoteShutter
