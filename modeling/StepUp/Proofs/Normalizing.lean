import StepUp.Proofs.Runs
import StepUp.Proofs.ScannedValues
import StepUp.Proofs.WrittenMembers
import StepUp.Proofs.WrittenValues

/-!
# Normalizing what was normalized

Normalizing a text without floats prints a readable value, so its output can be normalized again.
Extra fields are left in the end if both runs leave them, and the second run alone decides about the
layout.
-/

namespace StepUp.CommandLine.Normalizing

open Text (Utf8.bytes)

def normalized (color : Bool) (source : Source) (keep pretty : Bool) (text : List UInt8) : Outcome :=
  (Command.normalize keep pretty).run color source (.ok text)

def printed (o : Outcome) : List UInt8 := Utf8.bytes o.output

def layout (pretty : Bool) : Json.Style := if pretty then .pretty else .compact

variable {source : Source} {text : List UInt8} {v : Json} {e : SessionError}

theorem document_eq_ok_iff :
    source.document (.ok text) = .ok v ↔
      (∃ s, Text.Utf8.decode? text = some s) ∧ Json.ofBytes text = .ok v := by
  rw [document_eq_ok_iff_text]
  constructor
  · rintro ⟨s, hs, h⟩
    cases hs
    exact ⟨⟨s, Text.Utf8.decode?_eq_some_iff.2 rfl⟩, h⟩
  · rintro ⟨⟨s, hs⟩, h⟩
    obtain rfl := Text.Utf8.decode?_eq_some_iff.1 hs
    exact ⟨s, rfl, h⟩

theorem perform_of_ok (color keep pretty : Bool) (he : SessionError.ofJson v = .ok e) :
    (Command.normalize keep pretty).perform color v =
      .ok (Report.text [(e.toJson keep).render (layout pretty)],
        [.event (Command.normalizing e keep)]) := by
  rw [Command.perform, he]
  rfl

theorem normalized_of_ok (color keep pretty : Bool) (hv : source.document (.ok text) = .ok v)
    (he : SessionError.ofJson v = .ok e) :
    (normalized color source keep pretty text).exitCode = 0 ∧
      (normalized color source keep pretty text).output =
        Report.text [(e.toJson keep).render (layout pretty)] := by
  rw [normalized, run_of_performed hv (perform_of_ok color keep pretty he)]
  exact ⟨rfl, rfl⟩

/-- A run that succeeds has read a session error. -/
theorem exists_of_normalized {color keep pretty : Bool}
    (h : (normalized color source keep pretty text).exitCode = 0) :
    ∃ v e, source.document (.ok text) = .ok v ∧ SessionError.ofJson v = .ok e :=
  exists_of_wanted (.normalize keep pretty) trivial h

theorem bytes_text_singleton (line : String) :
    Utf8.bytes (Report.text [line]) = Utf8.bytes line ++ [0x0A] := by
  rw [Report.text_singleton, Text.Utf8.bytes, String.toList_append, Text.Utf8.encode_append]
  rfl

/-- A printed document is read as the value that was printed. -/
theorem document_of_printed (source : Source) (style : Json.Style)
    (hv : Json.Readable Json.maxDepth v) :
    source.document (.ok (Utf8.bytes (Report.text [v.render style]))) = .ok v := by
  refine document_eq_ok_iff.2 ⟨⟨_, Text.Utf8.decode?_eq_some_iff.2 rfl⟩, ?_⟩
  rw [bytes_text_singleton]
  exact Json.ofBytes_render style hv fun b hb => List.mem_singleton.1 hb ▸ rfl

/-- What is written for a session error from a readable value is readable. -/
theorem readable_toJson (hv : Json.Readable Json.maxDepth v) (he : SessionError.ofJson v = .ok e)
    (keep : Bool) : Json.Readable Json.maxDepth (e.toJson keep) :=
  SessionError.toJson_of_ofJson (Json.inherits_readable 126) (Json.inherits_readable 125) he
    hv.canonical hv keep

/-- The output of normalizing is read as what was written for the session error. -/
theorem document_of_normalized (color keep pretty : Bool)
    (hv : source.document (.ok text) = .ok v) (hreadable : Json.Readable Json.maxDepth v)
    (he : SessionError.ofJson v = .ok e) (source' : Source) :
    source'.document (.ok (printed (normalized color source keep pretty text))) =
      .ok (e.toJson keep) := by
  have hprinted : printed (normalized color source keep pretty text) =
      Utf8.bytes (Report.text [(e.toJson keep).render (layout pretty)]) :=
    congrArg Utf8.bytes (normalized_of_ok color keep pretty hv he).2
  rw [hprinted]
  exact document_of_printed source' (layout pretty) (readable_toJson hreadable he keep)

theorem normalized_printed (color : Bool) {keep pretty : Bool}
    (hv : source.document (.ok text) = .ok v) (hreadable : Json.Readable Json.maxDepth v)
    (he : SessionError.ofJson v = .ok e) (color' : Bool) (source' : Source)
    (keep' pretty' : Bool) :
    let second := normalized color' source' keep' pretty'
      (printed (normalized color source keep pretty text))
    second.exitCode = 0 ∧
      second.output = Report.text [(e.toJson (keep && keep')).render (layout pretty')] := by
  have hread := document_of_normalized color keep pretty hv hreadable he source'
  have hsecond := normalized_of_ok color' keep' pretty' hread (e.ofJson_toJson keep)
  rwa [SessionError.toJson_keep] at hsecond

/-- Normalizing prints the session error that it reads, with or without the extra fields and in the
layout that is asked for. To normalize this output succeeds as well: it prints what normalizing would
have printed of the text itself, without the extra fields if the first run has left them out. With
the flags of the first run it prints what it reads. -/
theorem normalize_composes (color : Bool) (source : Source) (keep pretty : Bool)
    (text : List UInt8) (hfree : Json.FloatFree text)
    (hok : (normalized color source keep pretty text).exitCode = 0) :
    let first := normalized color source keep pretty text
    (∃ v e, source.document (.ok text) = .ok v ∧ SessionError.ofJson v = .ok e ∧
      first.output = (e.toJson keep).render (layout pretty) ++ "\n") ∧
      (∀ color' source' keep' pretty',
        let second := normalized color' source' keep' pretty' (printed first)
        second.exitCode = 0 ∧
          second.output = (normalized color source (keep && keep') pretty' text).output) ∧
      ∀ color' source', (normalized color' source' keep pretty (printed first)).output =
        first.output := by
  obtain ⟨v, e, hv, he⟩ := exists_of_normalized hok
  have hreadable := Json.readable_of_ofBytes (document_eq_ok_iff.1 hv).2 hfree
  have hdirect := fun keep pretty => (normalized_of_ok color keep pretty hv he).2
  refine ⟨⟨v, e, hv, he, (hdirect keep pretty).trans (Report.text_singleton _)⟩, ?_, ?_⟩
  · intro color' source' keep' pretty'
    obtain ⟨hexit, houtput⟩ :=
      normalized_printed color hv hreadable he color' source' keep' pretty'
    exact ⟨hexit, houtput.trans (hdirect (keep && keep') pretty').symm⟩
  · intro color' source'
    obtain ⟨-, houtput⟩ := normalized_printed color hv hreadable he color' source' keep pretty
    rw [Bool.and_self] at houtput
    exact houtput.trans (hdirect keep pretty).symm

/-- A text with white space, an escape, a `null` and an extra field. -/
def sample : List UInt8 := Utf8.bytes
  "\x7b\"code\": \"\\n\", \"authorization_parameters\":
    \x7b\"session_message\": null, \"session_required_mfa\": true, \"x\": -1\x7d\x7d"

theorem normalize_composes_sample :
    Json.FloatFree sample ∧ (normalized false .stdin true true sample).exitCode = 0 ∧
      (∃ e : SessionError, (normalized false .stdin true true sample).output =
        (e.toJson true).render .pretty ++ "\n") ∧
      (normalized true (.file "a") false false
        (printed (normalized false .stdin true true sample))).output =
        (normalized false .stdin false false sample).output := by
  have hfree : Json.FloatFree sample := by decide +kernel
  have hok : (normalized false .stdin true true sample).exitCode = 0 := by decide +kernel
  obtain ⟨⟨_, e, -, -, hprints⟩, hagain, -⟩ :=
    normalize_composes false .stdin true true sample hfree hok
  exact ⟨hfree, hok, ⟨e, hprints⟩, (hagain true (.file "a") false false).2⟩

end StepUp.CommandLine.Normalizing
