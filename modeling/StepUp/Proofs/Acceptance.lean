import Mathlib.Tactic.Tauto
import StepUp.Proofs.ReadingBuilds
import StepUp.Proofs.RecognizedFields

/-!
# Which values are accepted, and why the others are not

The checks of a reader are listed as conditions in the order in which they are looked at, each with
the reason that is given where it holds. A reader is explained by such a list if it refuses exactly
for the first condition that holds (`Explains`); lists are appended where readers are run one after
the other (`Explains.bind`). Only recognized members occur in the conditions.
-/

namespace StepUp

/-- Conditions in the order in which they are looked at, with the reason given where one holds. -/
abbrev Faults := List (Prop × InvalidInput)

namespace Faults

/-- The reason is that of the first condition that holds. -/
def First : Faults → InvalidInput → Prop
  | [], _ => False
  | (holds, reason) :: later, r => holds ∧ r = reason ∨ ¬ holds ∧ First later r

def Clear (faults : Faults) : Prop := ∀ f ∈ faults, ¬ f.1

theorem clear_cons {holds : Prop} {reason : InvalidInput} {faults : Faults} :
    Clear ((holds, reason) :: faults) ↔ ¬ holds ∧ Clear faults :=
  List.forall_mem_cons

/-- Later conditions count only where none of the earlier ones holds. -/
theorem first_append {faults later : Faults} {r : InvalidInput} :
    First (faults ++ later) r ↔ First faults r ∨ Clear faults ∧ First later r := by
  induction faults with
  | nil => simp [First, Clear]
  | cons f faults ih =>
    obtain ⟨holds, reason⟩ := f
    rw [List.cons_append, First, First, ih, clear_cons]
    tauto

theorem clear_iff {faults : Faults} : Clear faults ↔ ∀ r, ¬ First faults r := by
  induction faults with
  | nil => simp [First, Clear]
  | cons f faults ih =>
    obtain ⟨holds, reason⟩ := f
    rw [clear_cons, ih]
    constructor
    · rintro ⟨hnot, hlater⟩ r (⟨h, -⟩ | ⟨-, h⟩)
      · exact hnot h
      · exact hlater r h
    · intro h
      have hnot : ¬ holds := fun hholds => h reason (.inl ⟨hholds, rfl⟩)
      exact ⟨hnot, fun r hr => h r (.inr ⟨hnot, hr⟩)⟩

theorem First.unique {faults : Faults} {r r' : InvalidInput} (h : First faults r)
    (h' : First faults r') : r = r' := by
  induction faults with
  | nil => exact h.elim
  | cons f faults ih =>
    rcases h with ⟨hholds, h⟩ | ⟨hnot, h⟩
    · rcases h' with ⟨-, h'⟩ | ⟨hnot', -⟩
      · exact h.trans h'.symm
      · exact absurd hholds hnot'
    · rcases h' with ⟨hholds', -⟩ | ⟨-, h'⟩
      · exact absurd hholds' hnot
      · exact ih h h'

theorem First.mem {faults : Faults} {r : InvalidInput} (h : First faults r) :
    ∃ f ∈ faults, r = f.2 := by
  induction faults with
  | nil => exact h.elim
  | cons f faults ih =>
    rcases h with ⟨-, h⟩ | ⟨-, h⟩
    · exact ⟨f, List.mem_cons_self, h⟩
    · obtain ⟨g, hg, hr⟩ := ih h
      exact ⟨g, List.mem_cons_of_mem f hg, hr⟩

end Faults

/-- A check fails exactly for the first of the conditions that holds. -/
def Explains {α : Type} (faults : Faults) (check : Except InvalidInput α) : Prop :=
  ∀ r, check = .error r ↔ faults.First r

namespace Explains

variable {α β : Type} {faults later : Faults}

theorem ok (a : α) : Explains [] (.ok a) := fun _ => ⟨nofun, False.elim⟩

theorem exists_ok_iff {check : Except InvalidInput α} (h : Explains faults check) :
    (∃ a, check = .ok a) ↔ faults.Clear := by
  rw [Faults.clear_iff]
  cases check with
  | ok a => exact iff_of_true ⟨a, rfl⟩ fun r hr => nomatch (h r).2 hr
  | error r => exact iff_of_false nofun fun hno => hno r ((h r).1 rfl)

/-- Checks made one after another look at their conditions one after another. -/
theorem bind {check : Except InvalidInput α} {next : α → Except InvalidInput β}
    (h : Explains faults check) (hnext : ∀ a, check = .ok a → Explains later (next a)) :
    Explains (faults ++ later) (check >>= next) := by
  intro r
  rw [Faults.first_append, Checks.bind_eq_error_iff, h r, ← h.exists_ok_iff]
  refine or_congr Iff.rfl ⟨?_, ?_⟩
  · rintro ⟨a, ha, hr⟩
    exact ⟨⟨a, ha⟩, (hnext a ha r).1 hr⟩
  · rintro ⟨⟨a, ha⟩, hr⟩
    exact ⟨a, ha, (hnext a ha r).2 hr⟩

theorem field? (o : Object) (name : String) (kind : Kind) :
    Explains [(kind.Misfit (o.member name), .wrongKind name kind)] (o.field? name kind) := by
  intro r
  simp [Object.field?_eq_error_iff, Faults.First]

/-- A condition that does not hold takes no part. -/
theorem cons_of_not {holds : Prop} {reason : InvalidInput} {check : Except InvalidInput α}
    (hnot : ¬ holds) (h : Explains faults check) : Explains ((holds, reason) :: faults) check := by
  intro r
  rw [h r, Faults.First]
  simp [hnot]

/-- What comes after a condition that holds is not looked at. -/
theorem cons_of_holds {holds : Prop} {reason : InvalidInput} (hholds : holds) :
    Explains ((holds, reason) :: faults) (.error reason : Except InvalidInput α) := by
  intro r
  simp [Faults.First, hholds, eq_comm]

theorem of_append_clear {check : Except InvalidInput α} (h : Explains (faults ++ later) check)
    (hlater : later.Clear) : Explains faults check := by
  intro r
  rw [h r, Faults.first_append]
  simp [Faults.clear_iff.1 hlater r]

/-- A value that is made only where a condition fails is refused where it holds. -/
theorem dite {holds c : Prop} [Decidable c] {reason : InvalidInput} (hc : c ↔ ¬ holds)
    {make : c → α} :
    Explains [(holds, reason)] (if h : c then .ok (make h) else .error reason) := by
  split
  · next h => exact .cons_of_not (hc.1 h) (.ok _)
  · next h => exact .cons_of_holds (not_not.1 (mt hc.2 h))

theorem congr {faults' : Faults} {check check' : Except InvalidInput α}
    (h : Explains faults check) (h' : Explains faults' check') (heq : faults = faults')
    (r : InvalidInput) : check = .error r ↔ check' = .error r := by
  rw [h r, h' r, heq]

end Explains

namespace Json

def IsObject : Json → Prop
  | .object _ => True
  | _ => False

/-- The value at a key, where an absent member counts as `null`. -/
def member (v : Json) (key : String) : Json := (v.get? key).getD .null

theorem isObject_iff {v : Json} : v.IsObject ↔ ∃ o, v.object? = some o := by
  cases v <;> simp [IsObject, object?]

theorem member_of_object? {v : Json} {o : Object} (h : v.object? = some o) (key : String) :
    v.member key = o.member key := by
  simp [member, get?, h, Object.member]

end Json

/-- A reader of objects refuses what is no object before it looks at any member. -/
theorem Explains.ofObject? {α : Type} {faults : Faults} {reason : InvalidInput} {v : Json}
    {read : Object → Except InvalidInput α}
    (h : ∀ o, v.object? = some o → Explains faults (read o)) :
    Explains ((¬ v.IsObject, reason) :: faults)
      (match v.object? with
      | some o => read o
      | none => .error reason) := by
  cases hobject : v.object? with
  | none =>
    have hno : ¬ v.IsObject := by simp [Json.isObject_iff, hobject]
    exact .cons_of_holds hno
  | some o =>
    have hyes : ¬ ¬ v.IsObject := not_not.2 (Json.isObject_iff.2 ⟨o, hobject⟩)
    exact .cons_of_not hyes (h o hobject)

namespace AuthorizationParameters

/-- The faults of the members: a recognized one of a wrong kind, in order, or none that is set. -/
def memberFaults (v : Json) : Faults :=
  (Parameter.all.map fun p => (p.kind.Misfit (v.member p.name), .wrongKind p.name p.kind)) ++
    [(∀ p : Parameter, v.member p.name = .null, .noParameterSet)]

def faults (v : Json) : Faults := (¬ v.IsObject, .notAnObject .parameters) :: memberFaults v

/-- An object in which each recognized member is `null` or of its kind, and some are not `null`. -/
def Acceptable (v : Json) : Prop :=
  v.IsObject ∧ (∀ p : Parameter, v.member p.name = .null ∨ p.kind.Admits (v.member p.name)) ∧
    ∃ p : Parameter, v.member p.name ≠ .null

/-- Two values that differ at most in members that are not recognized. -/
def Alike (v w : Json) : Prop :=
  (v.IsObject ↔ w.IsObject) ∧ ∀ p : Parameter, v.member p.name = w.member p.name

theorem explains_requirements (o : Object) :
    Explains (Parameter.all.map fun p => (p.kind.Misfit (o.member p.name), .wrongKind p.name p.kind))
      (Requirements.ofObject o) :=
  .bind (.field? o _ _) fun _ _ => .bind (.field? o _ _) fun _ _ => .bind (.field? o _ _) fun _ _ =>
    .bind (.field? o _ _) fun _ _ => .bind (.field? o _ _) fun _ _ => .bind (.field? o _ _) fun _ _ =>
      .ok _

theorem anySet_iff_member {o : Object} {r : Requirements} (h : Requirements.ofObject o = .ok r) :
    r.anySet = true ↔ ¬ ∀ p : Parameter, o.member p.name = .null := by
  have hr := Requirements.ofObject_eq_ok_iff_member.1 h
  simp only [Requirements.anySet_iff, hr, Kind.written_eq_null_iff, not_forall,
    Option.isSome_iff_ne_none, ne_eq]

theorem explains_ofObject {v : Json} {o : Object} (h : v.object? = some o) :
    Explains (memberFaults v) (ofObject o) := by
  simp only [memberFaults, Json.member_of_object? h]
  exact .bind (explains_requirements o) fun r hr => .dite (anySet_iff_member hr)

theorem explains_ofJson (v : Json) : Explains (faults v) (ofJson v) :=
  .ofObject? fun _ h => explains_ofObject h

theorem clear_memberFaults_iff {v : Json} :
    (memberFaults v).Clear ↔
      (∀ p : Parameter, v.member p.name = .null ∨ p.kind.Admits (v.member p.name)) ∧
        ∃ p : Parameter, v.member p.name ≠ .null := by
  simp only [Faults.Clear, memberFaults, List.forall_mem_append, List.forall_mem_map,
    List.forall_mem_singleton, Parameter.mem_all, Kind.Misfit, not_forall, forall_const]
  refine and_congr (forall_congr' fun p => ?_) Iff.rfl
  tauto

theorem clear_faults_iff {v : Json} : (faults v).Clear ↔ Acceptable v := by
  rw [faults, Faults.clear_cons, not_not, clear_memberFaults_iff, Acceptable]

theorem faults_congr {v w : Json} (h : Alike v w) : faults v = faults w := by
  simp only [faults, memberFaults, h.1, h.2]

end AuthorizationParameters

namespace SessionError

/-- The faults of a value: those of the object, of the code, of the parameters as a whole and of
their members. -/
def faults (v : Json) : Faults :=
  [(¬ v.IsObject, .notAnObject .sessionError),
    (Kind.string.Misfit (v.member codeName), .wrongKind codeName .string),
    (v.member codeName = .null, .missingCode),
    (¬ (v.member parametersName).IsObject, .missingParameters)] ++
    AuthorizationParameters.memberFaults (v.member parametersName)

/-- An object with a code that is a string and with acceptable parameters. -/
def Acceptable (v : Json) : Prop :=
  v.IsObject ∧ (∃ code, v.member codeName = .string code) ∧
    AuthorizationParameters.Acceptable (v.member parametersName)

/-- Two values that differ at most in members of the two levels that are not recognized. -/
def Alike (v w : Json) : Prop :=
  (v.IsObject ↔ w.IsObject) ∧ v.member codeName = w.member codeName ∧
    AuthorizationParameters.Alike (v.member parametersName) (w.member parametersName)

theorem explains_checkParameters (o : Object) :
    Explains ((¬ (o.member parametersName).IsObject, .missingParameters) ::
        AuthorizationParameters.memberFaults (o.member parametersName))
      (checkParameters (o.get? parametersName)) := by
  have hobject : (o.get? parametersName).bind Json.object? = (o.member parametersName).object? := by
    cases h : o.get? parametersName <;> simp [Object.member, h, Json.object?]
  rw [checkParameters, hobject]
  exact .ofObject? fun _ h => AuthorizationParameters.explains_ofObject h

/-- No condition about reserved names is left, since the extra fields of what is read have none. -/
theorem explains_build_reading (code : Option String) (o : Object) :
    Explains ((code = none, .missingCode) ::
        (¬ (o.member parametersName).IsObject, .missingParameters) ::
        AuthorizationParameters.memberFaults (o.member parametersName))
      (Builder.reading code o).build := by
  cases code with
  | none =>
    rw [Builder.build_of_code_none rfl]
    exact .cons_of_holds rfl
  | some code =>
    have hunreserved := Builder.reserved?_reading (some code) o
    rw [Builder.build_of_unreserved rfl hunreserved, Builder.checkedParameters_reading]
    refine .cons_of_not nofun ?_
    have hbind := Explains.bind (explains_checkParameters o) fun p _ =>
      .ok (⟨code, p, extraOf o, Builder.unreserved hunreserved⟩ : SessionError)
    rwa [List.append_nil] at hbind

theorem explains_ofObject {v : Json} {o : Object} (h : v.object? = some o) :
    Explains (faults v).tail (ofObject o) := by
  simp only [faults, List.cons_append, List.tail_cons, List.nil_append, Json.member_of_object? h]
  rw [ofObject_eq_build]
  refine .bind (.field? o codeName .string) fun code hcode => ?_
  have hnull : (o.member codeName = .null) = (code = none) := by
    rw [Object.field?_eq_ok_iff.1 hcode, Kind.written_eq_null_iff]
  rw [hnull]
  exact explains_build_reading code o

theorem explains_ofJson (v : Json) : Explains (faults v) (ofJson v) :=
  .ofObject? fun _ h => explains_ofObject h

/-- A value without any fault is what a reader has to accept, and the other way round. -/
theorem clear_faults_iff {v : Json} : (faults v).Clear ↔ Acceptable v := by
  have hcode : ¬ Kind.string.Misfit (v.member codeName) ∧ v.member codeName ≠ .null ↔
      ∃ code, v.member codeName = .string code := by
    cases v.member codeName <;> simp [Kind.Misfit, Kind.Admits]
  simp only [faults, List.cons_append, List.nil_append, Faults.clear_cons, not_not,
    AuthorizationParameters.clear_memberFaults_iff, Acceptable, AuthorizationParameters.Acceptable,
    ← hcode]
  tauto

theorem faults_congr {v w : Json} (h : Alike v w) : faults v = faults w := by
  obtain ⟨hobject, hcode, hparameters, hmember⟩ := h
  simp only [faults, AuthorizationParameters.memberFaults, hobject, hcode, hparameters, hmember]

end SessionError

/-- A reader accepts exactly the acceptable values and refuses each other one for its first fault.
No fault is a reserved name, and values that are alike are refused for the same reason. -/
structure Decides {α : Type} (read : Json → Except InvalidInput α) (acceptable : Json → Prop)
    (faults : Json → Faults) (alike : Json → Json → Prop) : Prop where
  accepts (v : Json) : (∃ x, read v = .ok x) ↔ acceptable v
  refuses (v : Json) (r : InvalidInput) : read v = .error r ↔ (faults v).First r
  neverReserved (v : Json) (name : String) : read v ≠ .error (.reservedName name)
  disregards (v w : Json) : alike v w → ∀ r, read v = .error r ↔ read w = .error r

theorem Decides.of_explains {α : Type} {read : Json → Except InvalidInput α}
    {acceptable : Json → Prop} {faults : Json → Faults} {alike : Json → Json → Prop}
    (h : ∀ v, Explains (faults v) (read v)) (hclear : ∀ v, (faults v).Clear ↔ acceptable v)
    (hreserved : ∀ v, ∀ f ∈ faults v, ∀ name, f.2 ≠ .reservedName name)
    (hcongr : ∀ v w, alike v w → faults v = faults w) : Decides read acceptable faults alike where
  accepts v := (h v).exists_ok_iff.trans (hclear v)
  refuses v := h v
  neverReserved v name hr := by
    obtain ⟨f, hf, heq⟩ := ((h v _).1 hr).mem
    exact hreserved v f hf name heq.symm
  disregards v w hvw := (h v).congr (h w) (hcongr v w hvw)

theorem AuthorizationParameters.reason_ne_reservedName {v : Json} {f : Prop × InvalidInput}
    (h : f ∈ memberFaults v) (name : String) : f.2 ≠ .reservedName name := by
  rcases List.mem_append.1 h with h | h
  · obtain ⟨p, -, rfl⟩ := List.mem_map.1 h
    nofun
  · rw [List.mem_singleton.1 h]
    nofun

theorem SessionError.reading_never_reserved (code : Option String) (o : Object) (name : String) :
    (Builder.reading code o).build ≠ .error (.reservedName name) := by
  intro h
  obtain ⟨f, hf, heq⟩ := ((explains_build_reading code o _).1 h).mem
  rcases List.mem_cons.1 hf with rfl | hf
  · exact nomatch heq
  · rcases List.mem_cons.1 hf with rfl | hf
    · exact nomatch heq
    · exact AuthorizationParameters.reason_ne_reservedName hf name heq.symm

/-- What is accepted as a session error or as parameters, and for which reason all else is refused.
Of the refusals of a builder, that of a reserved name is out of reach of the reader. -/
theorem acceptance_and_precedence :
    Decides SessionError.ofJson SessionError.Acceptable SessionError.faults SessionError.Alike ∧
      Decides AuthorizationParameters.ofJson AuthorizationParameters.Acceptable
        AuthorizationParameters.faults AuthorizationParameters.Alike ∧
      ∀ o : Object,
        SessionError.ofObject o = (o.field? SessionError.codeName .string >>= fun code =>
            (SessionError.Builder.reading code o).build) ∧
          ∀ code name,
            (SessionError.Builder.reading code o).build ≠ .error (.reservedName name) := by
  refine ⟨?_, ?_, fun o => ⟨SessionError.ofObject_eq_build o, fun code name =>
    SessionError.reading_never_reserved code o name⟩⟩
  · refine .of_explains SessionError.explains_ofJson (fun _ => SessionError.clear_faults_iff)
      (fun v f hf name => ?_) fun _ _ => SessionError.faults_congr
    rcases List.mem_append.1 hf with hf | hf
    · simp only [List.mem_cons, List.not_mem_nil, or_false] at hf
      rcases hf with rfl | rfl | rfl | rfl <;> nofun
    · exact AuthorizationParameters.reason_ne_reservedName hf name
  · refine .of_explains AuthorizationParameters.explains_ofJson
      (fun _ => AuthorizationParameters.clear_faults_iff) (fun v f hf name => ?_)
      fun _ _ => AuthorizationParameters.faults_congr
    rcases List.mem_cons.1 hf with rfl | hf
    · nofun
    · exact AuthorizationParameters.reason_ne_reservedName hf name

end StepUp
