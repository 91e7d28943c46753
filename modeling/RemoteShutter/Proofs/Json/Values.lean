/-
What a value is like that has been read.

- `ofBytes_isProper`: what is kept as a negative number is one, everywhere in the value.
- `lookup_insert`, `lookup_collect`: a field that is put in replaces that of its key and leaves the others alone, so of
  equal keys in a text the last one counts.
-/
import RemoteShutter.Proofs.Json.ReadBack

namespace RemoteShutter

/-! ## Steps that can fail -/

theorem bind_eq_ok_iff {ε α β : Type} {x : Except ε α} {f : α → Except ε β} {b : β} :
    x >>= f = .ok b ↔ ∃ a, x = .ok a ∧ f a = .ok b := by
  cases x with
  | error e => simp [bind, Except.bind]
  | ok a => simp [bind, Except.bind]

theorem map_eq_ok_iff {ε α β : Type} {x : Except ε α} {f : α → β} {b : β} :
    x.map f = .ok b ↔ ∃ a, x = .ok a ∧ f a = b := by
  cases x with
  | error e => simp [Except.map]
  | ok a => simp [Except.map]

/-! ## Numbers -/

/-- what is kept as a negative number is one -/
def JsonNumber.IsProper : JsonNumber → Prop
  | negative n => n.toInt < 0
  | natural _ | real _ => True

/-- so it is with all numbers in the value -/
inductive Json.IsProper : Json → Prop where
  | null : IsProper .null
  | bool (b : Bool) : IsProper (.bool b)
  | number {n : JsonNumber} (h : n.IsProper) : IsProper (.number n)
  | text (t : String) : IsProper (.text t)
  | array {js : List Json} (h : ∀ j ∈ js, IsProper j) : IsProper (.array js)
  | object {fs : List (String × Json)} (h : ∀ p ∈ fs, IsProper p.2) : IsProper (.object fs)

namespace JsonLexeme

variable {isNegative : Bool} {n m : Nat} {e : Int} {s rest : Bytes} {x : JsonNumber}

theorem real_isProper (h : real isNegative n e s = .ok (x, rest)) : x.IsProper := by
  unfold real at h
  split at h
  · cases h
    trivial
  · cases h

theorem exponent_isProper (h : exponent isNegative n e s = .ok (x, rest)) : x.IsProper := by
  unfold exponent at h
  split at h
  split at h
  · cases h
  · split_ifs at h <;> exact real_isProper h

theorem exponentOrEnd_isProper (h : exponentOrEnd isNegative n e s = .ok (x, rest)) : x.IsProper := by
  unfold exponentOrEnd at h
  split at h
  · exact real_isProper h
  · split_ifs at h
    · exact exponent_isProper h
    · exact real_isProper h

theorem fraction_isProper (h : fraction isNegative n e s = .ok (x, rest)) : x.IsProper := by
  unfold fraction at h
  split at h
  · cases h
  · split_ifs at h
    exact exponentOrEnd_isProper h

theorem whole_isProper : (whole isNegative n s).1.IsProper := by
  unfold whole
  split_ifs with hneg hn
  · trivial
  · have hback : (-(n : Int)).toInt64.toInt = -n := Int64.toInt_ofInt_of_le (by omega) (by omega)
    exact hback.trans_lt (by omega)
  · trivial

theorem unsigned_isProper (h : unsigned isNegative s = .ok (x, rest)) : x.IsProper := by
  have hwhole : ∀ {n r}, Except.ok (whole isNegative n r) = (.ok (x, rest) : Except JsonFault _) → x.IsProper := by
    intro n r h
    have hx : (whole isNegative n r).1 = x := congrArg Prod.fst (Except.ok.inj h)
    exact hx ▸ whole_isProper
  unfold unsigned at h
  split at h
  · cases h
  · dsimp only at h
    split_ifs at h
    · -- all digits fit
      split at h
      · exact hwhole h
      · split_ifs at h
        · exact fraction_isProper h
        · exact exponent_isProper h
        · exact hwhole h
    · -- digits are left over
      split at h
      · exact real_isProper h
      · split_ifs at h
        · exact fraction_isProper h
        · exact exponent_isProper h
        · exact real_isProper h

theorem number_isProper (h : number s = .ok (x, rest)) : x.IsProper := by
  unfold number at h
  split at h
  · cases h
  · split_ifs at h <;> exact unsigned_isProper h

end JsonLexeme

/-! ## Values -/

namespace Json

theorem mem_insert {key : String} {value : Json} {fs : List (String × Json)} {p : String × Json}
    (h : p ∈ insert key value fs) : p = (key, value) ∨ p ∈ fs := by
  induction fs with
  | nil => exact .inl (List.mem_singleton.1 h)
  | cons q fs ih =>
    rw [insert] at h
    split_ifs at h
    · rcases List.mem_cons.1 h with h | h
      · exact .inl h
      · exact .inr (List.mem_cons_of_mem _ h)
    · exact List.mem_cons.1 h
    · rcases List.mem_cons.1 h with rfl | h
      · exact .inr List.mem_cons_self
      · exact (ih h).imp_right (List.mem_cons_of_mem _)

/-- a field that is put in replaces that of its key and leaves the others alone -/
theorem lookup_insert (key k : String) (value : Json) (fs : List (String × Json)) :
    (insert key value fs).lookup k = if k = key then some value else fs.lookup k := by
  induction fs with
  | nil =>
    rw [insert, List.lookup_cons, List.lookup_nil]
    split_ifs with hk
    · rw [hk, beq_self_eq_true]
    · rw [beq_eq_false_iff_ne.2 hk]
  | cons p fs ih =>
    obtain ⟨k', v⟩ := p
    rw [insert]
    by_cases hk : k = key
    · -- the new field is in front, or comes behind other keys
      subst hk
      rw [if_pos rfl] at ih ⊢
      split_ifs with hsame hless
      · exact List.lookup_cons_self
      · exact List.lookup_cons_self
      · rw [List.lookup_cons, beq_eq_false_iff_ne.2 hsame, ih]
    · have hne : (k == key) = false := beq_eq_false_iff_ne.2 hk
      rw [if_neg hk] at ih ⊢
      split_ifs with hsame hless
      · subst hsame
        simp only [List.lookup_cons, hne]
      · rw [List.lookup_cons, hne]
      · rw [List.lookup_cons, List.lookup_cons, ih]

end Json

namespace JsonReader

open JsonLexeme

variable {σ : Type} {P : σ → Prop}

/-- what every field keeps, the fields keep -/
theorem fields_keep {field : σ → String → JsonReader σ}
    (hfield : ∀ {state key s state' rest}, P state → field state key s = .ok (state', rest) → P state')
    {fuel : Nat} {isFirst : Bool} {state state' : σ} {s rest : Bytes} (h0 : P state)
    (h : fields field fuel isFirst state s = .ok (state', rest)) : P state' := by
  induction fuel generalizing isFirst state s with
  | zero => cases h
  | succ fuel ih =>
    rw [fields, bind_eq_ok_iff] at h
    obtain ⟨⟨next, s⟩, -, h⟩ := h
    cases next with
    | none =>
      cases h
      exact h0
    | some s =>
      rw [bind_eq_ok_iff] at h
      obtain ⟨⟨key, s⟩, -, h⟩ := h
      rw [bind_eq_ok_iff] at h
      obtain ⟨⟨state, s⟩, hread, h⟩ := h
      exact ih (hfield h0 hread) h

/-- what every item adds to a list, the items add to it -/
theorem items_isProper {item : JsonReader Json} (hitem : ∀ {s j rest}, item s = .ok (j, rest) → j.IsProper)
    {fuel : Nat} {seen : Array Json} {js : List Json} {s rest : Bytes} (h0 : ∀ j ∈ seen, j.IsProper)
    (h : items item fuel seen s = .ok (js, rest)) : ∀ j ∈ js, j.IsProper := by
  induction fuel generalizing seen s with
  | zero => cases h
  | succ fuel ih =>
    have hnext : ∀ {s}, (item s >>= fun r => items item fuel (seen.push r.1) r.2) = .ok (js, rest) →
        ∀ j ∈ js, j.IsProper := by
      intro s h
      rw [bind_eq_ok_iff] at h
      obtain ⟨⟨j, s⟩, hj, h⟩ := h
      refine ih (fun i hi => ?_) h
      rcases Array.mem_push.1 hi with hi | rfl
      · exact h0 i hi
      · exact hitem hj
    rw [items] at h
    split at h
    · cases h
    · split_ifs at h
      · cases h
        simpa using h0
      · exact hnext h
      · dsimp only at h
        split at h
        · cases h
        · split_ifs at h
          · cases h
          · exact hnext h
      · cases h

theorem objectField_isProper {depth : Nat} (hvalue : ∀ {s j rest}, value depth s = .ok (j, rest) → j.IsProper)
    {seen : List (String × Json)} {key : String} {s : Bytes} {fs : List (String × Json)} {rest : Bytes}
    (h0 : ∀ p ∈ seen, p.2.IsProper) (h : objectField depth seen key s = .ok (fs, rest)) : ∀ p ∈ fs, p.2.IsProper := by
  rw [objectField, bind_eq_ok_iff] at h
  obtain ⟨⟨j, s⟩, hj, h⟩ := h
  obtain ⟨rfl, -⟩ := Prod.mk.inj (Except.ok.inj h)
  have hproper : j.IsProper := by
    unfold afterKey at hj
    split at hj
    · cases hj
    · split_ifs at hj
      exact hvalue hj
  intro p hp
  rcases Json.mem_insert hp with rfl | hp
  · exact hproper
  · exact h0 p hp

theorem value_isProper {depth : Nat} {s : Bytes} {j : Json} {rest : Bytes} (h : value depth s = .ok (j, rest)) :
    j.IsProper := by
  induction depth using Nat.strong_induction_on generalizing s j rest with
  | _ depth ih =>
    unfold value at h
    split at h
    · cases h
    · split_ifs at h
      · obtain ⟨_, -, h⟩ := bind_eq_ok_iff.1 h
        cases h
        exact .null
      · obtain ⟨_, -, h⟩ := bind_eq_ok_iff.1 h
        cases h
        exact .bool true
      · obtain ⟨_, -, h⟩ := bind_eq_ok_iff.1 h
        cases h
        exact .bool false
      · obtain ⟨_, hn, h⟩ := bind_eq_ok_iff.1 h
        cases h
        exact .number (number_isProper hn)
      · obtain ⟨_, -, h⟩ := bind_eq_ok_iff.1 h
        cases h
        exact .text _
      · split at h
        · cases h
        · next depth =>
          obtain ⟨_, hjs, h⟩ := bind_eq_ok_iff.1 h
          cases h
          exact .array (items_isProper (ih depth (Nat.lt_succ_self depth)) (by simp) hjs)
      · split at h
        · cases h
        · next depth =>
          obtain ⟨_, hfs, h⟩ := bind_eq_ok_iff.1 h
          cases h
          exact .object (fields_keep (objectField_isProper (ih depth (Nat.lt_succ_self depth))) (by simp) hfs)

/-- **What is kept as a negative number is one**, in every value that is read. -/
theorem ofBytes_isProper {s : Bytes} {j : Json} (h : Json.ofBytes s = .ok j) : j.IsProper := by
  obtain ⟨⟨j, rest⟩, hj, h⟩ := bind_eq_ok_iff.1 h
  obtain ⟨_, -, h⟩ := bind_eq_ok_iff.1 h
  cases h
  exact value_isProper hj

/-! ## Fields by their keys -/

theorem isProper_field {j v : Json} (hj : j.IsProper) {key : String} (h : j.field? key = some v) : v.IsProper := by
  cases hj with
  | null | bool | number | text | array => cases h
  | object hfs =>
    obtain ⟨before, after, rfl, -⟩ := List.lookup_eq_some_iff.1 h
    exact hfs (key, v) (List.mem_append_right _ List.mem_cons_self)

/-- a flat object has each key once -/
theorem Flat.lookup_eq_some_iff {fs : List (String × Json)} (h : Flat fs) (k : String) (v : Json) :
    fs.lookup k = some v ↔ (k, v) ∈ fs := by
  refine ⟨fun hv => ?_, fun hv => ?_⟩
  · obtain ⟨before, after, rfl, -⟩ := List.lookup_eq_some_iff.1 hv
    exact List.mem_append_right _ List.mem_cons_self
  · obtain ⟨before, after, rfl⟩ := List.append_of_mem hv
    refine List.lookup_eq_some_iff.2 ⟨before, after, rfl, fun p hp => bne_iff_ne.2 ?_⟩
    have hsorted := h.sorted
    rw [List.map_append, List.pairwise_append] at hsorted
    have hless : p.1 < k := hsorted.2.2 p.1 (List.mem_map_of_mem hp) k (by simp)
    exact fun heq => String.lt_irrefl k (heq ▸ hless)

/-- of equal keys the last one counts -/
theorem lookup_collect (fs : List (String × Json)) (k : String) : (collect fs).lookup k = fs.reverse.lookup k := by
  induction fs using List.reverseRecOn with
  | nil => rfl
  | append_singleton fs p ih =>
    rw [List.reverse_append, List.reverse_singleton, List.singleton_append, List.lookup_cons, ← ih, collect,
      List.foldl_append, List.foldl_cons, List.foldl_nil, Json.lookup_insert]
    split_ifs with hk
    · rw [hk, beq_self_eq_true]
    · rw [beq_eq_false_iff_ne.2 hk]
      rfl

end JsonReader

end RemoteShutter
