import StepUp.Proofs.LocalValues
import StepUp.Proofs.Obtainable

/-!
# Readers that check what they read

A document of a checked type is read as reading its text as a value and checking the value
afterwards would do. The check comes before the end of the text, so a text that begins with a
refused value is refused whatever follows this value; every other failure is that of reading the
value.
-/

namespace StepUp

namespace Json

/-- A text begins with a part that alone writes a value, and is read up to its end. -/
def BeginsWith (text : List UInt8) (v : Json) : Prop :=
  ∃ doc rest, text = doc ++ rest ∧ ofBytes doc = .ok v ∧ scanValue maxDepth text = .ok (v, rest)

/-- Whatever is read from the beginning of a text is written by the part of it that was read. -/
theorem beginsWith_iff {text : List UInt8} {v : Json} :
    BeginsWith text v ↔ ∃ rest, scanValue maxDepth text = .ok (v, rest) := by
  constructor
  · rintro ⟨-, rest, -, -, hscan⟩
    exact ⟨rest, hscan⟩
  · rintro ⟨rest, hscan⟩
    obtain ⟨doc, rfl, hread⟩ := scanValue_local maxDepth text v rest hscan
    have halone := hread [] (mayFollow_of_ends v ends_nil)
    rw [List.append_nil] at halone
    exact ⟨doc, rest, rfl, ofBytes_eq_ok_iff.2 ⟨[], halone, endOfText_blank blank_nil⟩, hscan⟩

theorem blank_of_endOfText {s : List UInt8} (h : endOfText s = .ok ()) : Blank s := by
  unfold endOfText at h
  split at h
  · next hs =>
    obtain ⟨blank, hblank, heq⟩ := exists_blank s
    rw [hs, List.append_nil] at heq
    rwa [heq]
  · cases h

theorem mayFollow_append {v : Json} {blank rest : List UInt8} (hblank : Blank blank)
    (h : MayFollow v rest) : MayFollow v (blank ++ rest) := by
  cases v with
  | number => exact hblank.ends_append h
  | null | bool | string | array | object => trivial

/-- A text of a value begins with it whatever comes after it. -/
theorem beginsWith_append {doc rest : List UInt8} {v : Json} (h : ofBytes doc = .ok v)
    (hrest : MayFollow v rest) : BeginsWith (doc ++ rest) v := by
  obtain ⟨blank, hscan, hend⟩ := ofBytes_eq_ok_iff.1 h
  obtain ⟨c, rfl, hread⟩ := scanValue_local maxDepth doc v blank hscan
  refine beginsWith_iff.2 ⟨blank ++ rest, ?_⟩
  rw [List.append_assoc]
  exact hread (blank ++ rest) (mayFollow_append (blank_of_endOfText hend) hrest)

theorem ofBytes_eq_error_iff {text : List UInt8} {e : SyntaxError} :
    ofBytes text = .error e ↔
      ∃ fault, Fault.locate text fault = e ∧
        (scanValue maxDepth text = .error fault ∨
          ∃ v rest, scanValue maxDepth text = .ok (v, rest) ∧ endOfText rest = .error fault) := by
  rw [ofBytes, Checks.mapError_eq_error_iff]
  refine exists_congr fun fault => and_comm.trans (and_congr_right fun _ => ?_)
  simp only [Checks.bind_eq_error_iff, Prod.exists]
  refine or_congr_right (exists_congr fun v => exists_congr fun rest => and_congr_right fun _ => ?_)
  exact or_iff_left (by rintro ⟨_, _, h⟩; cases h)

end Json

namespace Document

/-- The failure for a value that is refused: it is reported as its reason, and at no place. -/
def Error.IsRefusal (err : Error) (reason : InvalidInput) : Prop :=
  err = .refused reason none ∧ err.message = reason.report ∧ err.position? = none ∧
    err.category = .unsuitable

/-- The failure for a text that writes no value, with the message and the place of its fault. -/
def Error.IsFault (err : Error) (fault : Json.SyntaxError) : Prop :=
  err = .malformed fault ∧ err.message = fault.message ∧ err.position? = some fault.position ∧
    err.category = if fault.kind.isEnd then .cutShort else .malformed

theorem Error.isRefusal_iff {err : Error} {reason : InvalidInput} :
    err.IsRefusal reason ↔ err = .refused reason none := by
  refine ⟨And.left, ?_⟩
  rintro rfl
  exact ⟨rfl, rfl, rfl, rfl⟩

theorem Error.isFault_iff {err : Error} {fault : Json.SyntaxError} :
    err.IsFault fault ↔ err = .malformed fault := by
  refine ⟨And.left, ?_⟩
  rintro rfl
  exact ⟨rfl, rfl, rfl, rfl⟩

/-- Readers of documents of a type, of the values that they hold and of lists of them do what
reading a value and checking it afterwards does. -/
structure ChecksAfterReading {α : Type} [Checked α] (check : Json → Except InvalidInput α) :
    Prop where
  accepts (text : List UInt8) (x : α) :
    ofBytes text = .ok x ↔ ∃ v, Json.ofBytes text = .ok v ∧ check v = .ok x
  /-- What follows a refused value is never looked at. -/
  fails (text : List UInt8) (err : Error) :
    (ofBytes text : Except Error α) = .error err ↔
      (∃ v reason, Json.BeginsWith text v ∧ check v = .error reason ∧ err.IsRefusal reason) ∨
        (∀ v reason, Json.BeginsWith text v → check v ≠ .error reason) ∧
          ∃ fault, Json.ofBytes text = .error fault ∧ err.IsFault fault
  refuses (doc rest : List UInt8) (v : Json) (reason : InvalidInput) :
    Json.ofBytes doc = .ok v → Json.MayFollow v rest → check v = .error reason →
      ∃ err, (ofBytes (doc ++ rest) : Except Error α) = .error err ∧ err.IsRefusal reason
  acceptsValue (v : Json) (x : α) : ofValue v = .ok x ↔ check v = .ok x
  failsValue (v : Json) (err : Error) :
    (ofValue v : Except Error α) = .error err ↔
      ∃ reason, check v = .error reason ∧ err.IsRefusal reason
  acceptsList (text : List UInt8) (xs : List α) :
    listOfBytes text = .ok xs ↔
      ∃ vs, Json.ofBytes text = .ok (.array vs) ∧ vs.map check = xs.map .ok

section Checked

variable {α : Type} [Checked α] {text : List UInt8}

theorem ofValue_eq_error_iff {v : Json} {err : Error} :
    (ofValue v : Except Error α) = .error err ↔
      ∃ reason, (Checked.ofJson v : Except InvalidInput α) = .error reason ∧
        err.IsRefusal reason := by
  rw [ofValue, Checks.mapError_eq_error_iff]
  exact exists_congr fun reason => and_congr_right fun _ => eq_comm.trans Error.isRefusal_iff.symm

/-- Reading a document fails at the first of three steps that fails: reading a value, checking it,
and looking for the end of the text. -/
theorem ofBytes_eq_error_iff {err : Error} :
    (ofBytes text : Except Error α) = .error err ↔
      (∃ fault, malformed text fault = err ∧
        Json.scanValue Json.maxDepth text = .error fault) ∨
      ∃ v rest, Json.scanValue Json.maxDepth text = .ok (v, rest) ∧
        ((∃ reason, (Checked.ofJson v : Except InvalidInput α) = .error reason ∧
            err.IsRefusal reason) ∨
          ∃ x : α, Checked.ofJson v = .ok x ∧
            ∃ fault, malformed text fault = err ∧ Json.endOfText rest = .error fault) := by
  simp only [ofBytes, Checks.bind_eq_error_iff, Checks.mapError_eq_error_iff, Prod.exists,
    ofValue_eq_error_iff]
  refine or_congr (exists_congr fun _ => and_comm) ?_
  refine exists_congr fun v => exists_congr fun rest => and_congr Checks.mapError_eq_ok_iff ?_
  refine or_congr_right (exists_congr fun x => and_congr Checks.mapError_eq_ok_iff ?_)
  exact (or_iff_left (by rintro ⟨_, _, h⟩; cases h)).trans (exists_congr fun _ => and_comm)

/-- A text that begins with a refused value is refused whatever follows. -/
theorem ofBytes_of_beginsWith {v : Json} {reason : InvalidInput} (h : Json.BeginsWith text v)
    (hv : (Checked.ofJson v : Except InvalidInput α) = .error reason) :
    (ofBytes text : Except Error α) = .error (.refused reason none) := by
  obtain ⟨rest, hscan⟩ := Json.beginsWith_iff.1 h
  exact ofBytes_eq_error_iff.2
    (.inr ⟨v, rest, hscan, .inl ⟨reason, hv, Error.isRefusal_iff.2 rfl⟩⟩)

/-- A rejected value counts before whatever stands behind it; only where there is none is the text
itself at fault. -/
theorem ofBytes_fails_iff {err : Error} :
    (ofBytes text : Except Error α) = .error err ↔
      (∃ v reason, Json.BeginsWith text v ∧
        (Checked.ofJson v : Except InvalidInput α) = .error reason ∧ err.IsRefusal reason) ∨
        (∀ v reason, Json.BeginsWith text v →
          (Checked.ofJson v : Except InvalidInput α) ≠ .error reason) ∧
          ∃ fault, Json.ofBytes text = .error fault ∧ err.IsFault fault := by
  constructor
  · intro h
    rcases ofBytes_eq_error_iff.1 h with ⟨fault, rfl, hscan⟩ |
      ⟨v, rest, hscan, ⟨reason, hv, herr⟩ | ⟨x, hv, fault, rfl, hend⟩⟩
    · refine .inr ⟨fun v reason hbegins => ?_, fault.locate text,
        Json.ofBytes_eq_error_iff.2 ⟨fault, rfl, .inl hscan⟩, Error.isFault_iff.2 rfl⟩
      obtain ⟨rest, hread⟩ := Json.beginsWith_iff.1 hbegins
      cases hscan.symm.trans hread
    · exact .inl ⟨v, reason, Json.beginsWith_iff.2 ⟨rest, hscan⟩, hv, herr⟩
    · refine .inr ⟨fun w reason hbegins hw => ?_, fault.locate text,
        Json.ofBytes_eq_error_iff.2 ⟨fault, rfl, .inr ⟨v, rest, hscan, hend⟩⟩,
        Error.isFault_iff.2 rfl⟩
      obtain ⟨rest', hread⟩ := Json.beginsWith_iff.1 hbegins
      cases hscan.symm.trans hread
      cases hv.symm.trans hw
  · rintro (⟨v, reason, hbegins, hv, herr⟩ | ⟨hnone, fault, hfault, herr⟩)
    · rw [Error.isRefusal_iff.1 herr]
      exact ofBytes_of_beginsWith hbegins hv
    · rw [Error.isFault_iff.1 herr]
      obtain ⟨f, rfl, hscan | ⟨v, rest, hscan, hend⟩⟩ := Json.ofBytes_eq_error_iff.1 hfault
      · exact ofBytes_eq_error_iff.2 (.inl ⟨f, rfl, hscan⟩)
      · refine ofBytes_eq_error_iff.2 (.inr ⟨v, rest, hscan, .inr ?_⟩)
        cases hv : (Checked.ofJson v : Except InvalidInput α) with
        | error reason => exact absurd hv (hnone v reason (Json.beginsWith_iff.2 ⟨rest, hscan⟩))
        | ok x => exact ⟨x, rfl, f, rfl, hend⟩

theorem checksAfterReading :
    ChecksAfterReading (Checked.ofJson : Json → Except InvalidInput α) where
  accepts _ _ := ofBytes_eq_ok_iff_value
  fails _ _ := ofBytes_fails_iff
  refuses _ _ _ _ hdoc hrest hv :=
    ⟨_, ofBytes_of_beginsWith (Json.beginsWith_append hdoc hrest) hv, Error.isRefusal_iff.2 rfl⟩
  acceptsValue _ _ := Checks.mapError_eq_ok_iff
  failsValue _ _ := ofValue_eq_error_iff
  acceptsList _ _ := listOfBytes_eq_ok_iff

end Checked

/-- The readers of parameters and of session errors agree with reading a value and checking it
afterwards. -/
theorem readers_check_after_reading :
    ChecksAfterReading AuthorizationParameters.ofJson ∧ ChecksAfterReading SessionError.ofJson :=
  ⟨checksAfterReading, checksAfterReading⟩

/-- Behind a value that is no object even a text that is malformed goes unseen. -/
example : (ofBytes (Text.Utf8.bytes "null \x7d") : Except Error SessionError) =
    .error (.refused (.notAnObject .sessionError) none) := rfl

end Document

end StepUp
