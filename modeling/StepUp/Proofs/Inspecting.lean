import StepUp.Proofs.Normalizing
import StepUp.Proofs.ReportTexts

/-!
# Inspecting what was normalized

The report about a session error has a row for each requirement that is set and a last one with the
number of extra fields. Normalizing keeps all requirements, so a normalized document has the report
of the document it was made from, without the last row if the extra fields were left out. The number
in this row is that of the members that are left out at both levels.
-/

namespace StepUp

/-- The members of an object under keys that another one does not have. -/
def Object.without (o other : Object) : Object := o.filter fun key _ => !other.contains key

theorem Object.get?_without (o other : Object) (key : String) :
    (o.without other).get? key = if other.contains key then none else o.get? key := by
  rw [without, get?_filter]
  cases other.contains key <;> cases o.get? key <;> rfl

/-- Extra fields are what is written only with them. -/
theorem AuthorizationParameters.without_toObject (p : AuthorizationParameters) :
    (p.toObject true).without (p.toObject false) = p.extra := by
  refine Object.ext_get? fun key => ?_
  rw [Object.get?_without, Object.contains]
  cases hkey : Parameter.ofName? key with
  | none =>
    rw [get?_toObject_extra p true hkey, get?_toObject_extra p false hkey]
    rfl
  | some q =>
    obtain rfl := Parameter.ofName?_eq_some_iff.1 hkey
    rw [get?_toObject_name, get?_toObject_name, p.unreserved q]
    cases p.requirements.get q <;> rfl

theorem SessionError.without_toObject (e : SessionError) :
    (e.toObject true).without (e.toObject false) = e.extra := by
  refine Object.ext_get? fun key => ?_
  rw [Object.get?_without, Object.contains]
  by_cases hkey : key ∈ names
  · rw [e.unreserved key hkey]
    obtain rfl | rfl := mem_names.1 hkey
    · rw [get?_toObject_codeName]
      rfl
    · rw [get?_toObject_parametersName]
      rfl
  · rw [get?_toObject_extra e true hkey, get?_toObject_extra e false hkey]
    rfl

namespace CommandLine.Inspecting

open Normalizing (normalized printed)

variable {source : Source} {text : List UInt8} {v : Json} {e : SessionError}

def inspected (color : Bool) (source : Source) (text : List UInt8) : Outcome :=
  Command.inspectSessionError.run color source (.ok text)

def parametersIn (document : Object) : Object :=
  ((document.get? SessionError.parametersName).bind Json.object?).getD .empty

/-- How many members a document has at the top level and directly in its parameters that are missing
in another one. -/
def dropped (kept stripped : Object) : Nat :=
  (kept.without stripped).size + ((parametersIn kept).without (parametersIn stripped)).size

theorem parametersIn_toObject (e : SessionError) (keep : Bool) :
    parametersIn (e.toObject keep) = e.parameters.toObject keep := by
  rw [parametersIn, SessionError.get?_toObject_parametersName, Option.bind_some,
    AuthorizationParameters.toJson, Json.object?_ofObject, Option.getD_some]

/-- The extra fields are dropped, and nothing else is. -/
theorem dropped_toObject (e : SessionError) :
    dropped (e.toObject true) (e.toObject false) = Report.extraCount e := by
  rw [dropped, e.without_toObject, parametersIn_toObject, parametersIn_toObject,
    e.parameters.without_toObject]
  rfl

theorem inspected_of_ok (color : Bool) (hv : source.document (.ok text) = .ok v)
    (he : SessionError.ofJson v = .ok e) :
    inspected color source text =
      ⟨0, validText color ++ blockText color e, [.event source.reading]⟩ := by
  refine run_of_performed hv ?_
  rw [Command.perform, he, ← Report.text_sessionError]
  rfl

theorem inspected_normalized (color : Bool) {color' keep pretty : Bool} {source' : Source}
    (hv : source.document (.ok text) = .ok v) (hreadable : Json.Readable Json.maxDepth v)
    (he : SessionError.ofJson v = .ok e) :
    inspected color source' (printed (normalized color' source keep pretty text)) =
      ⟨0, validText color ++ blockText color (e.keep keep), [.event source'.reading]⟩ :=
  inspected_of_ok color
    (Normalizing.document_of_normalized color' keep pretty hv hreadable he source')
    (e.ofJson_toJson keep)

/-- Normalizing keeps all that a report tells of a session error but the extra fields. -/
theorem blockText_keep_false (color : Bool) (e : SessionError) :
    blockText color (e.keep false) = requirementText color e := by
  rw [blockText]
  exact String.append_empty

theorem rowText_ne_empty (color : Bool) (label value : String) : rowText color label value ≠ "" := by
  rw [rowText, ne_eq, String.append_eq_empty_iff]
  exact fun h => absurd h.2 (by decide)

/-- A number can be told from its digits. -/
theorem repr_inj {m n : Nat} (h : Nat.repr m = Nat.repr n) : m = n := by
  have hdigits : Nat.toDigits 10 m = Nat.toDigits 10 n := String.ofList_injective h
  have hvalue := congrArg (Nat.ofDigitChars 10 · 0) hdigits
  rwa [Nat.ofDigitChars_ten_toDigits, Nat.ofDigitChars_ten_toDigits] at hvalue

theorem extraText_eq_rowText_iff {color : Bool} {m n : Nat} :
    extraText color m = rowText color "Extra fields" (Nat.repr n) ↔ 0 < m ∧ n = m := by
  by_cases hm : m = 0
  · rw [extraText, if_pos hm, hm]
    exact iff_of_false (rowText_ne_empty color _ _).symm fun h => absurd h.1 (Nat.lt_irrefl 0)
  · rw [extraText, if_neg hm, rowText, rowText, String.append_left_inj, String.append_right_inj]
    constructor
    · exact fun h => ⟨Nat.pos_of_ne_zero hm, repr_inj h.symm⟩
    · rintro ⟨-, rfl⟩
      rfl

/-- Inspecting a text tells the requirements of the session error in it and then, in a last row, the
number of members that normalizing prints only with the extra fields, if there are any. Inspecting
what was normalized succeeds: with the extra fields it prints the same, without them it tells the
requirements alone. So the row is there exactly if a member is dropped, and with this number. -/
theorem inspecting_after_normalizing (color : Bool) (source : Source) (text : List UInt8)
    (hfree : Json.FloatFree text) (hok : (inspected color source text).exitCode = 0) :
    ∃ (e : SessionError) (kept stripped : Object),
      (∃ v, source.document (.ok text) = .ok v ∧ SessionError.ofJson v = .ok e) ∧
      (inspected color source text).output =
        validText color ++ requirementText color e ++ extraText color (dropped kept stripped) ∧
      ∀ (color' : Bool) (source' : Source) (pretty : Bool),
        let withExtra := printed (normalized color' source true pretty text)
        let withoutExtra := printed (normalized color' source false pretty text)
        source'.document (.ok withExtra) = .ok (.ofObject kept) ∧
          source'.document (.ok withoutExtra) = .ok (.ofObject stripped) ∧
          (inspected color source' withExtra).exitCode = 0 ∧
          (inspected color source' withoutExtra).exitCode = 0 ∧
          (inspected color source' withExtra).output = (inspected color source text).output ∧
          (inspected color source' withoutExtra).output =
            validText color ++ requirementText color e ∧
          (inspected color source text).output =
            (inspected color source' withoutExtra).output ++
              extraText color (dropped kept stripped) ∧
          ∀ n, (inspected color source text).output =
              (inspected color source' withoutExtra).output ++
                rowText color "Extra fields" (Nat.repr n) ↔
            0 < dropped kept stripped ∧ n = dropped kept stripped := by
  obtain ⟨v, e, hv, he⟩ := exists_of_wanted .inspectSessionError trivial hok
  have hreadable := Json.readable_of_ofBytes (Normalizing.document_eq_ok_iff.1 hv).2 hfree
  have hprints : (inspected color source text).output = validText color ++
      requirementText color e ++ extraText color (dropped (e.toObject true) (e.toObject false)) := by
    rw [inspected_of_ok color hv he, dropped_toObject, String.append_assoc]
    rfl
  refine ⟨e, e.toObject true, e.toObject false, ⟨v, hv, he⟩, hprints,
    fun color' source' pretty => ?_⟩
  have hkept := Normalizing.document_of_normalized color' true pretty hv hreadable he source'
  have hstripped := Normalizing.document_of_normalized color' false pretty hv hreadable he source'
  refine ⟨hkept, hstripped, ?_, ?_, ?_, ?_, ?_, fun n => ?_⟩
  · rw [inspected_normalized color hv hreadable he]
  · rw [inspected_normalized color hv hreadable he]
  · rw [inspected_normalized color hv hreadable he, inspected_of_ok color hv he, e.keep_true]
  · rw [inspected_normalized color hv hreadable he, blockText_keep_false]
  · rw [inspected_normalized color hv hreadable he, blockText_keep_false, hprints]
  · rw [inspected_normalized color hv hreadable he, blockText_keep_false, hprints,
      String.append_right_inj]
    exact extraText_eq_rowText_iff

/-- A session error with two extra fields beside its parameters and one at the top level. -/
def sample : List UInt8 := Text.Utf8.bytes
  "\x7b\"code\": \"c\", \"authorization_parameters\":
    \x7b\"session_required_scopes\": [\"a\", 7], \"code\": 1, \"x\": null\x7d, \"y\": \x7b\x7d\x7d"

theorem inspecting_after_normalizing_sample :
    Json.FloatFree sample ∧ (inspected false .stdin sample).exitCode = 0 ∧
      ∃ (e : SessionError) (kept stripped : Object),
        (inspected false (.file "a")
          (printed (normalized false .stdin false true sample))).output =
            validText false ++ requirementText false e ∧
        (inspected false .stdin sample).output =
          (inspected false (.file "a")
            (printed (normalized false .stdin false true sample))).output ++
              extraText false (dropped kept stripped) := by
  have hfree : Json.FloatFree sample := by decide +kernel
  have hok : (inspected false .stdin sample).exitCode = 0 := by decide +kernel
  obtain ⟨e, kept, stripped, -, -, hruns⟩ :=
    inspecting_after_normalizing false .stdin sample hfree hok
  obtain ⟨-, -, -, -, -, hwithout, houtput, -⟩ := hruns false (.file "a") true
  exact ⟨hfree, hok, e, kept, stripped, hwithout, houtput⟩

end CommandLine.Inspecting

end StepUp
