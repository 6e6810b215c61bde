import StepUp.Proofs.ResponseReports
import StepUp.Proofs.SkippedInputs
import StepUp.Proofs.TextualReading

/-!
# Bodies that are bytes and bodies that are text

The body of a response can be read from its bytes as they are, or from a source that has to hold
text. Both read the same: bytes that are no text are not read as JSON in either way. So reporting a
response fails exactly where its bytes would count as `null`, and else it reports what was read from
the bytes.
-/

namespace StepUp.CommandLine.Responding

open ErrorResponse (events_eq_nil_iff readFrom_iff)

variable {source : Source} {bytes : List UInt8} {v : Json}

/-- A source that holds bytes gives the value that they are read as. -/
theorem document_eq_ok_iff_bytes (source : Source) :
    source.document (.ok bytes) = .ok v ↔ Json.ofBytes bytes = .ok v := by
  rw [document_eq_ok_iff_text]
  constructor
  · rintro ⟨text, hbytes, h⟩
    cases hbytes
    exact h
  · intro h
    obtain ⟨text, rfl⟩ := Text.Utf8.isText_iff.1 (Json.isText_of_ofBytes h)
    exact ⟨text, rfl, h⟩

theorem exitCode_iff_bytes {status : UInt16} {color : Bool} :
    ((Command.inspectResponse status).run color source (.ok bytes)).exitCode = 0 ↔
      ∃ v, Json.ofBytes bytes = .ok v := by
  rw [inspectResponse_exitCode_iff, exists_comm]
  refine exists_congr fun v => ?_
  rw [← document_eq_ok_iff_bytes source, document_eq_ok_iff_text]

theorem output_of_read {status : UInt16} (color : Bool) (h : Json.ofBytes bytes = .ok v) :
    ((Command.inspectResponse status).run color source (.ok bytes)).output =
      Report.text (Report.response color ⟨status, v⟩) :=
  congrArg Outcome.output (run_of_performed ((document_eq_ok_iff_bytes source).2 h) rfl)

/-- A response is reported, with exit code zero, exactly if its bytes do not count as `null` for
being no JSON text. What is printed are then the status, the code and the message of the response
that is read from the bytes, and a block for each of its session errors in order. -/
theorem bodies_are_read_alike (status : UInt16) (file : Option String) (logging : LogFlags)
    (color : Bool) (bytes : List UInt8) :
    let i : Invocation := ⟨.inspectResponse status, file, logging⟩
    let o := i.run color (.ok bytes)
    let r := (ErrorResponse.ofBytes status bytes).1
    let events := (ErrorResponse.ofBytes status bytes).2
    (∀ v, i.source.document (.ok bytes) = .ok v ↔ Json.ofBytes bytes = .ok v) ∧
      (o.exitCode = 0 ↔ events = []) ∧
      (events = [] ↔ ∃ v, Json.ofBytes bytes = .ok v) ∧
      (o.exitCode = 0 → r.status = status ∧ Json.ofBytes bytes = .ok r.body ∧
        o.output = Report.text (Report.response color r) ∧
        o.output =
          heading color r ++ String.join (r.sessionErrors.map fun e => "\n" ++ blockText color e)) := by
  intro i o r events
  have hexit : o.exitCode = 0 ↔ ∃ v, Json.ofBytes bytes = .ok v := exitCode_iff_bytes
  refine ⟨fun _ => document_eq_ok_iff_bytes i.source, hexit.trans events_eq_nil_iff.symm,
    events_eq_nil_iff, fun hzero => ?_⟩
  obtain ⟨v, hv⟩ := hexit.1 hzero
  have hr : r = ⟨status, v⟩ := congrArg Prod.fst (readFrom_iff.1 (.value hv))
  have houtput : o.output = Report.text (Report.response color r) :=
    (output_of_read color hv).trans (by rw [hr])
  exact ⟨by rw [hr], by rw [hr]; exact hv, houtput, houtput.trans (Report.text_response color r)⟩

/-- A body with a character of more than one byte in it. -/
def shortBody : List UInt8 := Text.Utf8.bytes "\x7b\"code\": \"é\"\x7d"

theorem bodies_are_read_alike_sample :
    let r := (ErrorResponse.ofBytes 403 shortBody).1
    let o := Invocation.run ⟨.inspectResponse 403, some "-", {}⟩ false (.ok shortBody)
    o.exitCode = 0 ∧
      o.output =
        heading false r ++ String.join (r.sessionErrors.map fun e => "\n" ++ blockText false e) := by
  intro r o
  have hread : (ErrorResponse.ofBytes 403 shortBody).2 = [] := by decide +kernel
  have hexit : o.exitCode = 0 := exitCode_iff_bytes.2 (events_eq_nil_iff.1 hread)
  exact ⟨hexit, ((bodies_are_read_alike 403 (some "-") {} false shortBody).2.2.2 hexit).2.2.2⟩

/-- An escape does not complete a character that the byte before it begins. -/
example : (ErrorResponse.ofBytes 403 [0x22, 0xC3, 0x5C, 0x75, 0x30, 0x30, 0x61, 0x39, 0x22]).2 ≠ [] := by
  decide +kernel

end StepUp.CommandLine.Responding
