import StepUp.Proofs.Readable
import StepUp.Proofs.Sequences

/-!
# What a text can be read as

The members of every object in a value that was read stand in order, and no more arrays and objects
stand inside one another than were allowed to be opened. A text without floats is therefore read as
a value that can be written and read back.
-/

namespace StepUp.Json

theorem scanLiteral_value {value v : Json} {letters s t : List UInt8}
    (h : scanLiteral value letters s = .ok (v, t)) : v = value := by
  induction letters generalizing s with
  | nil =>
    cases h
    rfl
  | cons l ls ih =>
    cases s with
    | nil => cases h
    | cons b s =>
      rw [scanLiteral] at h
      split at h
      · exact ih h
      · cases h

/-- A value that is read is no array and no object, or its parts are read by the inner scanner. -/
theorem scanValueWith_cases {inner : Option (Scanner Json)} {s t : List UInt8} {v : Json}
    (h : scanValueWith inner s = .ok (v, t)) :
    v.depth = 0 ∨
      (∃ value items u, inner = some value ∧ v = .array items ∧ skipSpace s = 0x5B :: u ∧
        scanList id value u = .ok (items, t)) ∨
      ∃ value o u, inner = some value ∧ v = .ofObject o ∧ scanObject value u = .ok (o, t) := by
  unfold scanValueWith at h
  split at h
  · cases h
  · exact .inl (by rw [scanLiteral_value h]; rfl)
  · exact .inl (by rw [scanLiteral_value h]; rfl)
  · exact .inl (by rw [scanLiteral_value h]; rfl)
  · obtain ⟨_, -, h⟩ := Checks.bind_eq_ok_iff.1 h
    cases h
    exact .inl rfl
  · split at h
    · cases h
    · next hopen _ value =>
      obtain ⟨⟨items, t⟩, hitems, h⟩ := Checks.bind_eq_ok_iff.1 h
      cases h
      exact .inr (.inl ⟨value, items, _, rfl, rfl, hopen, hitems⟩)
  · split at h
    · cases h
    · next value =>
      obtain ⟨⟨o, t⟩, ho, h⟩ := Checks.bind_eq_ok_iff.1 h
      cases h
      exact .inr (.inr ⟨value, o, _, rfl, rfl, ho⟩)
  · obtain ⟨_, -, h⟩ := Checks.bind_eq_ok_iff.1 h
    cases h
    exact .inl rfl
  · split at h
    · obtain ⟨_, -, h⟩ := Checks.bind_eq_ok_iff.1 h
      cases h
      exact .inl rfl
    · cases h

theorem scanValueWith_array_iff {value : Scanner Json} {s t : List UInt8} {items : List Json} :
    scanValueWith (some value) s = .ok (.array items, t) ↔
      ∃ u, skipSpace s = 0x5B :: u ∧ scanList id value u = .ok (items, t) := by
  constructor
  · intro h
    rcases scanValueWith_cases h with hv | ⟨_, _, u, hinner, heq, hopen, hitems⟩ |
      ⟨_, _, _, _, heq, _⟩
    · exact absurd hv (Nat.succ_ne_zero _)
    · cases hinner
      cases heq
      exact ⟨u, hopen, hitems⟩
    · cases heq
  · rintro ⟨u, hopen, hitems⟩
    rw [scanValueWith, hopen]
    exact Checks.bind_eq_ok_iff.2 ⟨(items, t), hitems, rfl⟩

/-- Members in order, and at most `n` arrays and objects inside one another. -/
def Nested (n : Nat) (v : Json) : Prop := v.Canonical ∧ v.depth ≤ n

theorem nested_of_depth_eq_zero {v : Json} (h : v.depth = 0) (n : Nat) : Nested n v := by
  refine ⟨?_, h ▸ Nat.zero_le n⟩
  cases v with
  | array items => exact absurd h (Nat.succ_ne_zero _)
  | object members => exact absurd h (Nat.succ_ne_zero _)
  | null | bool | number | string => trivial

/-- By induction on the arrays and objects that may still be opened. -/
theorem scanValue_nested {n : Nat} {s t : List UInt8} {v : Json}
    (h : scanValue n s = .ok (v, t)) : Nested n v := by
  induction n generalizing s t v with
  | zero =>
    rcases scanValueWith_cases h with hv | ⟨_, _, _, hinner, -⟩ | ⟨_, _, _, hinner, -⟩
    · exact nested_of_depth_eq_zero hv 0
    · cases hinner
    · cases hinner
  | succ n ih =>
    rcases scanValueWith_cases h with hv | ⟨_, items, u, hinner, rfl, -, hitems⟩ |
      ⟨_, o, u, hinner, rfl, ho⟩
    · exact nested_of_depth_eq_zero hv (n + 1)
    · cases hinner
      have hall := scanList_forall (P := Nested n) (fun _ _ _ => ih) hitems
      refine ⟨canonicalItems_iff.2 fun v hv => (hall v hv).1, ?_⟩
      exact Nat.add_le_add_right (depthItems_le_iff.2 fun v hv => (hall v hv).2) 1
    · cases hinner
      have hall := forall_get?_iff.2 (scanObject_forall (P := Nested n) (fun _ _ _ => ih) ho)
      exact ⟨(inherits_canonical o).2 fun key v hv => (hall key v hv).1,
        (inherits_shallow n o).2 fun key v hv => (hall key v hv).2⟩

theorem ofBytes_eq_ok_iff {text : List UInt8} {v : Json} :
    ofBytes text = .ok v ↔
      ∃ rest, scanValue maxDepth text = .ok (v, rest) ∧ endOfText rest = .ok () := by
  rw [ofBytes, Checks.mapError_eq_ok_iff, Checks.bind_eq_ok_iff]
  constructor
  · rintro ⟨⟨w, rest⟩, hscan, h⟩
    obtain ⟨⟨⟩, hend, h⟩ := Checks.bind_eq_ok_iff.1 h
    cases h
    exact ⟨rest, hscan, hend⟩
  · rintro ⟨rest, hscan, hend⟩
    exact ⟨(v, rest), hscan, Checks.bind_eq_ok_iff.2 ⟨(), hend, rfl⟩⟩

/-- No number in the value that a text is read as is a float. -/
def FloatFree (text : List UInt8) : Prop := ∀ v, ofBytes text = .ok v → v.IntegersOnly

instance (text : List UInt8) : Decidable (FloatFree text) :=
  match h : ofBytes text with
  | .ok v => decidable_of_iff v.IntegersOnly (by simp [FloatFree, h])
  | .error _ => .isTrue (by simp [FloatFree, h])

theorem readable_of_ofBytes {text : List UInt8} {v : Json} (h : ofBytes text = .ok v)
    (hfree : FloatFree text) : Readable maxDepth v := by
  obtain ⟨rest, hscan, -⟩ := ofBytes_eq_ok_iff.1 h
  obtain ⟨hc, hd⟩ := scanValue_nested hscan
  exact ⟨hc, hfree v h, hd⟩

end StepUp.Json
