import StepUp.Proofs.RoundTrip

/-!
# Leaving the extra fields out

Written without extra fields, parameters and session errors are the recognized part of what they are
written as with them. This part is read again: it has all that is recognized and no extra field, so
leaving the extra fields out once more changes nothing. Only what has no extra field at any level is
the same as before.
-/

namespace StepUp

theorem compare_self_of_isFinite {x : Float.Model.UnpackedFloat} (h : x.isFinite = true) :
    x.compare x = some .eq := by
  cases x with
  | notANumber | infinity => cases h
  | zero => rfl
  | finite sign mantissa exponent =>
    have hself : (compare exponent exponent).then (compare mantissa mantissa) = .eq := by simp
    cases sign with
    | positive => exact congrArg some hself
    | negative => exact congrArg (fun o => some o.swap) hself

/-- No float in a value is a NaN, so every number equals itself. -/
instance : ReflBEq Number where
  rfl {n} := by
    cases n with
    | integer n => exact beq_self_eq_true n
    | float x hfinite =>
      change (x.toModel.unpack.compare x.toModel.unpack == some .eq) = true
      rw [compare_self_of_isFinite hfinite]
      rfl

namespace Json

mutual

theorem beq_self : (v : Json) → Json.beq v v = true
  | .null => rfl
  | .bool b => beq_self_eq_true b
  | .number n => beq_self_eq_true n
  | .string s => beq_self_eq_true s
  | .array items => beqItems_self items
  | .object members => beqMembers_self members

theorem beqItems_self : (vs : List Json) → beqItems vs vs = true
  | [] => rfl
  | v :: vs => by
    rw [beqItems, beq_self v, beqItems_self vs]
    rfl

theorem beqMembers_self : (ms : List (String × Json)) → beqMembers ms ms = true
  | [] => rfl
  | (key, v) :: ms => by
    rw [beqMembers, beq_self v, beqMembers_self ms, beq_self_eq_true key]
    rfl

end

instance : ReflBEq Json := ⟨beq_self _⟩

end Json

instance : ReflBEq Object := ⟨Json.beqMembers_self _⟩

instance : ReflBEq Requirements where
  rfl {r} := by
    change Requirements.beq r r = true
    simp only [Requirements.beq, BEq.rfl, Bool.and_self]

instance : ReflBEq AuthorizationParameters where
  rfl {p} := by
    change AuthorizationParameters.beq p p = true
    simp only [AuthorizationParameters.beq, BEq.rfl, Bool.and_self]

instance : ReflBEq SessionError where
  rfl {e} := by
    change SessionError.beq e e = true
    simp only [SessionError.beq, BEq.rfl, Bool.and_self]

/-- Only an object without members equals the empty one. -/
theorem Object.empty_beq_iff {o : Object} : (Object.empty == o) = true ↔ o = .empty := by
  constructor
  · intro h
    obtain ⟨members, hmembers⟩ := o
    cases members with
    | nil => rfl
    | cons => cases h
  · rintro rfl
    exact BEq.rfl

def Object.restrict (o : Object) (keys : List String) : Object := o.filter fun key _ => key ∈ keys

theorem Object.get?_restrict (o : Object) (keys : List String) (key : String) :
    (o.restrict keys).get? key = if key ∈ keys then o.get? key else none := by
  rw [restrict, get?_filter]
  cases o.get? key <;> by_cases h : key ∈ keys <;> simp [Option.filter, h]

theorem Parameter.mem_names_iff {name : String} :
    name ∈ Parameter.all.map Parameter.name ↔ Parameter.ofName? name ≠ none := by
  rw [List.mem_map, Option.ne_none_iff_exists']
  simp only [Parameter.mem_all, true_and, Parameter.ofName?_eq_some_iff]

/-- What is written without extra fields is a part of what is written with them, and it is read as a
value that agrees with the one before and has no extra fields. It is the one before only if that has
none either, and it is written in one way. -/
structure StripsTo {α : Type} [BEq α] (read : Object → Except InvalidInput α)
    (write : α → Bool → Object) (part : Object → Object) (Agrees : α → α → Prop) (Plain : α → Prop)
    (x y : α) : Prop where
  written : write x false = part (write x true)
  readBack : read (write x false) = .ok y
  agrees : Agrees y x
  plain : Plain y
  same_iff : (y == x) = true ↔ Plain x
  eq_iff : y = x ↔ Plain x
  writtenOnce (includeExtra : Bool) : write y includeExtra = write x false
  strippedOnce : read (write y false) = .ok y

namespace StripsTo

variable {α : Type} [BEq α] [ReflBEq α] {read : Object → Except InvalidInput α}
  {write : α → Bool → Object} {part : Object → Object} {Agrees : α → α → Prop} {Plain : α → Prop}
  {x y : α}

/-- What reading back gives settles the rest, for parameters and session errors alike. -/
theorem of_readBack (hpart : write x false = part (write x true))
    (hread : read (write x false) = .ok y) (hagrees : Agrees y x) (hplain : Plain y)
    (hbeq : (y == x) = true → Plain x) (heq : Plain x → y = x)
    (hwrite : ∀ includeExtra, write y includeExtra = write x false) :
    StripsTo read write part Agrees Plain x y where
  written := hpart
  readBack := hread
  agrees := hagrees
  plain := hplain
  same_iff := ⟨hbeq, fun h => heq h ▸ BEq.rfl⟩
  eq_iff := ⟨fun h => h ▸ hplain, heq⟩
  writtenOnce := hwrite
  strippedOnce := by rw [hwrite, hread]

end StripsTo

namespace AuthorizationParameters

def recognizedPart (o : Object) : Object := o.restrict (Parameter.all.map Parameter.name)

def Plain (p : AuthorizationParameters) : Prop := p.extra = .empty

theorem toObject_false (p : AuthorizationParameters) :
    p.toObject false = recognizedPart (p.toObject true) := by
  refine Object.ext_get? fun key => ?_
  rw [recognizedPart, Object.get?_restrict]
  cases h : Parameter.ofName? key with
  | none =>
    rw [if_neg (fun hmem => Parameter.mem_names_iff.1 hmem h), get?_toObject_extra p false h]
    rfl
  | some q =>
    rw [if_pos (Parameter.mem_names_iff.2 (by simp [h]))]
    obtain rfl := Parameter.ofName?_eq_some_iff.1 h
    rw [get?_toObject_name, get?_toObject_name]

theorem keep_false_of_plain {p : AuthorizationParameters} (h : p.Plain) : p.keep false = p := by
  obtain ⟨r, extra, _, _⟩ := p
  obtain rfl : extra = .empty := h
  rfl

theorem plain_of_beq {p : AuthorizationParameters} (h : (p.keep false == p) = true) : p.Plain :=
  Object.empty_beq_iff.1 (Bool.and_eq_true_iff.1 h).2

theorem stripsTo_keep (p : AuthorizationParameters) :
    StripsTo ofObject toObject recognizedPart (fun p' p => p'.requirements = p.requirements) Plain p
      (p.keep false) :=
  .of_readBack p.toObject_false (p.ofObject_toObject false) rfl rfl plain_of_beq
    keep_false_of_plain fun includeExtra => p.toObject_keep false includeExtra

end AuthorizationParameters

namespace SessionError

/-- The recognized members of an object, with the recognized part of the parameters. -/
def recognizedPart (o : Object) : Object :=
  match (o.get? parametersName).bind Json.object? with
  | some parameters => (o.restrict names).insert parametersName
      (.ofObject (AuthorizationParameters.recognizedPart parameters))
  | none => o.restrict names

def Plain (e : SessionError) : Prop := e.extra = .empty ∧ e.parameters.Plain

structure Agrees (e' e : SessionError) : Prop where
  code : e'.code = e.code
  requirements : e'.parameters.requirements = e.parameters.requirements
  describe : e'.describe = e.describe

theorem toObject_false (e : SessionError) :
    e.toObject false = recognizedPart (e.toObject true) := by
  have hparameters : ((e.toObject true).get? parametersName).bind Json.object? =
      some (e.parameters.toObject true) := by
    rw [get?_toObject_parametersName]
    exact Json.object?_ofObject _
  refine Object.ext_get? fun key => ?_
  rw [recognizedPart, hparameters]
  dsimp only
  rw [← AuthorizationParameters.toObject_false, Object.get?_insert, Object.get?_restrict]
  by_cases h : key ∈ names
  · rw [if_pos h]
    rcases mem_names.1 h with rfl | rfl
    · rw [if_neg (by decide), get?_toObject_codeName, get?_toObject_codeName]
    · rw [if_pos rfl, get?_toObject_parametersName]
      rfl
  · have hne : key ≠ parametersName := fun heq => h (mem_names.2 (.inr heq))
    rw [if_neg h, if_neg hne, get?_toObject_extra e false h]
    rfl

theorem keep_false_of_plain {e : SessionError} (h : e.Plain) : e.keep false = e := by
  obtain ⟨code, p, extra, _⟩ := e
  obtain ⟨rfl, hp⟩ : extra = .empty ∧ p.Plain := h
  simp only [keep, AuthorizationParameters.keep_false_of_plain hp]
  rfl

theorem plain_of_beq {e : SessionError} (h : (e.keep false == e) = true) : e.Plain := by
  obtain ⟨h, hextra⟩ := Bool.and_eq_true_iff.1 h
  obtain ⟨-, hparameters⟩ := Bool.and_eq_true_iff.1 h
  exact ⟨Object.empty_beq_iff.1 hextra, AuthorizationParameters.plain_of_beq hparameters⟩

theorem stripsTo_keep (e : SessionError) :
    StripsTo ofObject toObject recognizedPart Agrees Plain e (e.keep false) :=
  .of_readBack e.toObject_false (e.ofObject_toObject false) ⟨rfl, rfl, rfl⟩ ⟨rfl, rfl⟩ plain_of_beq
    keep_false_of_plain fun includeExtra => e.toObject_keep false includeExtra

end SessionError

/-- Without their extra fields parameters and session errors are always read again, with all that is
recognized as it was. -/
theorem stripping_keeps_what_is_recognized :
    (∀ p : AuthorizationParameters, ∃ p' : AuthorizationParameters,
        StripsTo AuthorizationParameters.ofObject AuthorizationParameters.toObject
          AuthorizationParameters.recognizedPart (fun p' p => p'.requirements = p.requirements)
          AuthorizationParameters.Plain p p') ∧
      ∀ e : SessionError, ∃ e' : SessionError,
        StripsTo SessionError.ofObject SessionError.toObject SessionError.recognizedPart
          SessionError.Agrees SessionError.Plain e e' :=
  ⟨fun p => ⟨p.keep false, p.stripsTo_keep⟩, fun e => ⟨e.keep false, e.stripsTo_keep⟩⟩

end StepUp
