import StepUp.Json.Object

/-!
# Values that can be read back

What is written for a value is read as the same value if the members of every object stand in
order, no number is a float, and not too many arrays and objects stand inside one another. Each of
the three holds of an array or an object as soon as it holds of what is inside.
-/

namespace StepUp.Json

/-- Members in order, no floats, and at most `n` arrays and objects inside one another. -/
structure Readable (n : Nat) (v : Json) : Prop where
  canonical : v.Canonical
  integersOnly : v.IntegersOnly
  shallow : v.depth ≤ n

theorem Readable.mono {n m : Nat} {v : Json} (h : Readable n v) (hnm : n ≤ m) : Readable m v :=
  ⟨h.canonical, h.integersOnly, Nat.le_trans h.shallow hnm⟩

mutual

def decideIntegersOnly : (v : Json) → Decidable v.IntegersOnly
  | .number (.integer ..) | .null | .bool _ | .string _ => .isTrue trivial
  | .number (.float ..) => .isFalse id
  | .array items => decideIntegersOnlyItems items
  | .object members => decideIntegersOnlyMembers members

def decideIntegersOnlyItems : (vs : List Json) → Decidable (IntegersOnlyItems vs)
  | [] => .isTrue trivial
  | v :: vs => @instDecidableAnd _ _ (decideIntegersOnly v) (decideIntegersOnlyItems vs)

def decideIntegersOnlyMembers : (ms : List (String × Json)) → Decidable (IntegersOnlyMembers ms)
  | [] => .isTrue trivial
  | (_, v) :: ms => @instDecidableAnd _ _ (decideIntegersOnly v) (decideIntegersOnlyMembers ms)

end

instance : DecidablePred IntegersOnly := decideIntegersOnly

theorem canonicalItems_iff {vs : List Json} : CanonicalItems vs ↔ ∀ v ∈ vs, v.Canonical := by
  induction vs with
  | nil => simp [CanonicalItems]
  | cons v vs ih => simp [CanonicalItems, ih]

theorem canonicalMembers_iff {ms : List (String × Json)} :
    CanonicalMembers ms ↔ ∀ m ∈ ms, m.2.Canonical := by
  induction ms with
  | nil => simp [CanonicalMembers]
  | cons m ms ih => simp [CanonicalMembers, ih]

theorem integersOnlyItems_iff {vs : List Json} :
    IntegersOnlyItems vs ↔ ∀ v ∈ vs, v.IntegersOnly := by
  induction vs with
  | nil => simp [IntegersOnlyItems]
  | cons v vs ih => simp [IntegersOnlyItems, ih]

theorem integersOnlyMembers_iff {ms : List (String × Json)} :
    IntegersOnlyMembers ms ↔ ∀ m ∈ ms, m.2.IntegersOnly := by
  induction ms with
  | nil => simp [IntegersOnlyMembers]
  | cons m ms ih => simp [IntegersOnlyMembers, ih]

theorem depthItems_le_iff {vs : List Json} {n : Nat} :
    depthItems vs ≤ n ↔ ∀ v ∈ vs, v.depth ≤ n := by
  induction vs with
  | nil => simp [depthItems]
  | cons v vs ih => rw [depthItems, Nat.max_le, ih, List.forall_mem_cons]

theorem depthMembers_le_iff {ms : List (String × Json)} {n : Nat} :
    depthMembers ms ≤ n ↔ ∀ m ∈ ms, m.2.depth ≤ n := by
  induction ms with
  | nil => simp [depthMembers]
  | cons m ms ih => rw [depthMembers, Nat.max_le, ih, List.forall_mem_cons]

theorem readable_array_iff {n : Nat} {items : List Json} :
    Readable (n + 1) (.array items) ↔ ∀ v ∈ items, Readable n v := by
  constructor
  · rintro ⟨hc, hi, hd⟩ v hv
    rw [depth, Nat.add_le_add_iff_right] at hd
    exact ⟨canonicalItems_iff.1 hc v hv, integersOnlyItems_iff.1 hi v hv,
      depthItems_le_iff.1 hd v hv⟩
  · intro h
    refine ⟨canonicalItems_iff.2 fun v hv => (h v hv).canonical,
      integersOnlyItems_iff.2 fun v hv => (h v hv).integersOnly, ?_⟩
    rw [depth, Nat.add_le_add_iff_right]
    exact depthItems_le_iff.2 fun v hv => (h v hv).shallow

/-- An object has the one property as soon as its members have the other. -/
def Inherits (outer inner : Json → Prop) : Prop :=
  ∀ o : Object, outer (.ofObject o) ↔ ∀ key v, o.get? key = some v → inner v

theorem forall_get?_iff {o : Object} {P : Json → Prop} :
    (∀ key v, o.get? key = some v → P v) ↔ ∀ m ∈ o.members, P m.2 :=
  ⟨fun h m hm => h m.1 m.2 (Object.get?_eq_some_iff.2 hm),
    fun h key v hv => h (key, v) (Object.get?_eq_some_iff.1 hv)⟩

theorem inherits_canonical : Inherits Canonical Canonical := by
  intro o
  rw [forall_get?_iff, ← canonicalMembers_iff]
  exact and_iff_right o.ascending

theorem inherits_integersOnly : Inherits IntegersOnly IntegersOnly := by
  intro o
  rw [forall_get?_iff, ← integersOnlyMembers_iff]
  rfl

theorem inherits_shallow (n : Nat) : Inherits (·.depth ≤ n + 1) (·.depth ≤ n) := by
  intro o
  rw [forall_get?_iff, ← depthMembers_le_iff]
  exact Nat.add_le_add_iff_right

/-- Members lie one level deeper than their object. -/
theorem inherits_readable (n : Nat) : Inherits (Readable (n + 1)) (Readable n) := by
  intro o
  constructor
  · rintro ⟨hc, hi, hd⟩ key v hv
    exact ⟨(inherits_canonical o).1 hc key v hv, (inherits_integersOnly o).1 hi key v hv,
      (inherits_shallow n o).1 hd key v hv⟩
  · intro h
    exact ⟨(inherits_canonical o).2 fun key v hv => (h key v hv).canonical,
      (inherits_integersOnly o).2 fun key v hv => (h key v hv).integersOnly,
      (inherits_shallow n o).2 fun key v hv => (h key v hv).shallow⟩

theorem readable_object_iff {n : Nat} {members : List (String × Json)}
    (h : members.Pairwise (·.1 < ·.1)) :
    Readable (n + 1) (.object members) ↔ ∀ m ∈ members, Readable n m.2 := by
  rw [← forall_get?_iff (o := ⟨members, h⟩)]
  exact inherits_readable n ⟨members, h⟩

end StepUp.Json
