import StepUp.AuthorizationParameters.Requirements

/-!
# What reading a recognized field gives

An absent member counts as `null`, and `null` is how an unset field would be written. With this
reading a field is one equation between the member and the value (`field?_eq_ok_iff`), and it fails
for one reason, a member that is neither `null` nor of the kind (`field?_eq_error_iff`).
-/

namespace StepUp

/-- The value at a key, where an absent member counts as `null`. -/
def Object.member (o : Object) (key : String) : Json := (o.get? key).getD .null

namespace Kind

/-- The values of a kind. The items of a list may be anything. -/
def Admits : Kind → Json → Prop
  | string, .string _ => True
  | list, .array _ => True
  | bool, .bool _ => True
  | _, _ => False

def Misfit (kind : Kind) (v : Json) : Prop := v ≠ .null ∧ ¬ kind.Admits v

/-- What stands for a field; `null` if it is unset. -/
def written (kind : Kind) (x : Option kind.Value) : Json := (x.map kind.toJson).getD .null

@[simp] theorem written_none (kind : Kind) : kind.written none = .null := rfl

@[simp] theorem written_some (kind : Kind) (x : kind.Value) :
    kind.written (some x) = kind.toJson x := rfl

theorem admits_iff {kind : Kind} {v : Json} : kind.Admits v ↔ ∃ x, kind.ofJson? v = some x := by
  cases kind <;> cases v <;> simp [Admits, ofJson?, Json.string?, Json.array?, Json.bool?]

theorem toJson_ne (kind : Kind) (x : kind.Value) : kind.toJson x ≠ .null := by
  intro h
  have := kind.toJson_ne_null x
  rw [h] at this
  cases this

theorem written_eq_null_iff {kind : Kind} {x : Option kind.Value} :
    kind.written x = .null ↔ x = none := by
  cases x with
  | none => simp
  | some x => simp [kind.toJson_ne x]

theorem written_injective {kind : Kind} {x y : Option kind.Value}
    (h : kind.written x = kind.written y) : x = y := by
  cases x with
  | none => exact (written_eq_null_iff.1 h.symm).symm
  | some x =>
    cases y with
    | none => exact written_eq_null_iff.1 h
    | some y =>
      have := congrArg kind.ofJson? h
      simpa using this

end Kind

namespace Object

theorem member_eq_null_iff {o : Object} {key : String} :
    o.member key = .null ↔ o.get? key = none ∨ o.get? key = some .null := by
  cases h : o.get? key <;> simp [member, h]

theorem member_eq_iff {o : Object} {key : String} {v : Json} (hv : v ≠ .null) :
    o.member key = v ↔ o.get? key = some v := by
  cases h : o.get? key with
  | none => simp [member, h, hv.symm]
  | some w => simp [member, h]

theorem field?_null {o : Object} {name : String} (kind : Kind) (h : o.member name = .null) :
    o.field? name kind = .ok none := by
  rcases member_eq_null_iff.1 h with h | h <;> simp [field?, h]

theorem field?_ne_null {o : Object} {name : String} (kind : Kind) (h : o.member name ≠ .null) :
    o.field? name kind =
      match kind.ofJson? (o.member name) with
      | some x => .ok (some x)
      | none => .error (.wrongKind name kind) := by
  have hget := (member_eq_iff h).1 rfl
  rw [field?, hget]
  generalize o.member name = v at h
  cases v <;> first | rfl | exact absurd rfl h

/-- An absent member and one that is `null` are read alike, so the member is what the field is
written as. -/
theorem field?_eq_ok_iff {o : Object} {name : String} {kind : Kind} {x : Option kind.Value} :
    o.field? name kind = .ok x ↔ o.member name = kind.written x := by
  by_cases h : o.member name = .null
  · rw [field?_null kind h, h, eq_comm (a := Json.null), Kind.written_eq_null_iff]
    simp [eq_comm]
  · rw [field?_ne_null kind h]
    cases hv : kind.ofJson? (o.member name) with
    | none =>
      have hne : o.member name ≠ kind.written x := fun heq => by
        cases x with
        | none => exact h heq
        | some x => simp [heq] at hv
      simp [hne]
    | some y =>
      have hy := Kind.ofJson?_eq_some_iff.1 hv
      constructor
      · rintro ⟨⟩
        exact hy
      · intro heq
        rw [Kind.written_injective (heq.symm.trans hy : kind.written x = kind.written (some y))]

theorem field?_eq_error_iff {o : Object} {name : String} {kind : Kind} {reason : InvalidInput} :
    o.field? name kind = .error reason ↔
      kind.Misfit (o.member name) ∧ reason = .wrongKind name kind := by
  by_cases h : o.member name = .null
  · simp [field?_null kind h, Kind.Misfit, h]
  · rw [field?_ne_null kind h]
    cases hv : kind.ofJson? (o.member name) with
    | none => simp [Kind.Misfit, Kind.admits_iff, h, hv, eq_comm]
    | some y => simp [Kind.Misfit, Kind.admits_iff, hv]

end Object

/-- The recognized members of an object are those of a record exactly when the object is read as
this record. -/
theorem Requirements.ofObject_eq_ok_iff_member {o : Object} {r : Requirements} :
    ofObject o = .ok r ↔ ∀ p : Parameter, o.member p.name = p.kind.written (r.get p) := by
  rw [ofObject_eq_ok_iff]
  exact forall_congr' fun p => Object.field?_eq_ok_iff

end StepUp
