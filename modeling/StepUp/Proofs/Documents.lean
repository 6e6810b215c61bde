import StepUp.Proofs.Obtainable
import StepUp.Proofs.WrittenValues

/-!
# Documents that were written

The text that is written for an obtainable value is a document of this value, in both styles, unless
it holds a float or nests deeper than a reader goes. A value that was itself read from a text
without floats never does.
-/

namespace StepUp

namespace Document

/-- The text of a value, in each style, is a document of this value. -/
def ReadsBack {α : Type} [Checked α] (x : α) : Prop :=
  ∀ style, ofBytes (Text.Utf8.bytes ((Checked.toJson x).render style)) = .ok x

/-- What its type reads back as a value is read back as a text. -/
theorem readsBack_of_readable {α : Type} [Checked α] {x : α}
    (hread : Checked.ofJson (Checked.toJson x) = .ok x)
    (hreadable : Json.Readable Json.maxDepth (Checked.toJson x)) : ReadsBack x := by
  intro style
  have hscan := Json.scanValue_render style hreadable Json.blank_nil
  rw [List.append_nil] at hscan
  exact ofBytes_eq_ok_iff.2 ⟨_, _, hscan, hread, Json.endOfText_blank Json.blank_nil⟩

theorem floatFree_render {v : Json} (h : Json.Readable Json.maxDepth v) (style : Json.Style) :
    Json.FloatFree (Text.Utf8.bytes (v.render style)) := by
  intro w hw
  have hread := Json.ofBytes_render style h Json.blank_nil
  rw [List.append_nil, hw] at hread
  cases hread
  exact h.integersOnly

theorem readsBack_parameters {p : AuthorizationParameters}
    (h : Json.Readable Json.maxDepth (p.toJson true)) : ReadsBack p :=
  readsBack_of_readable (p.ofJson_toJson true) h

theorem readsBack_sessionError {e : SessionError}
    (h : Json.Readable Json.maxDepth (e.toJson true)) : ReadsBack e :=
  readsBack_of_readable (e.ofJson_toJson true) h

/-- What is written for a value that can be obtained is a document of it, if no number in it is a
float and it does not nest too deep; what is written for a value that was read from a text without
floats always is. -/
theorem written_document_reads_back :
    (∀ p : AuthorizationParameters, p.Obtainable → (p.toJson true).IntegersOnly →
        (p.toJson true).depth ≤ Json.maxDepth → ReadsBack p) ∧
      (∀ e : SessionError, e.Obtainable → (e.toJson true).IntegersOnly →
        (e.toJson true).depth ≤ Json.maxDepth → ReadsBack e) ∧
      (∀ (text : List UInt8) (p : AuthorizationParameters), Json.FloatFree text →
        ReadFrom text p → ReadsBack p) ∧
      ∀ (text : List UInt8) (e : SessionError), Json.FloatFree text →
        ReadFrom text e → ReadsBack e := by
  refine ⟨fun p hp hi hd => ?_, fun e he hi hd => ?_, fun text p hfree hp => ?_,
    fun text e hfree he => ?_⟩
  · exact readsBack_parameters ⟨hp.canonical, hi, hd⟩
  · exact readsBack_sessionError ⟨he.canonical, hi, hd⟩
  · obtain ⟨v, hreadable, hv⟩ := readable_of_readFrom hp hfree
    exact readsBack_parameters (AuthorizationParameters.toJson_of_ofJson
      (Json.inherits_readable 126) hv hreadable.canonical hreadable true)
  · obtain ⟨v, hreadable, hv⟩ := readable_of_readFrom he hfree
    exact readsBack_sessionError (SessionError.toJson_of_ofJson
      (Json.inherits_readable 126) (Json.inherits_readable 125) hv hreadable.canonical hreadable true)

/-- Parameters with a line feed, a list and an extra field. -/
def sampleParameters : AuthorizationParameters where
  requirements := { message := some "a\nb", scopes := some [.string "s"] }
  extra := Object.empty.insert "x" (.array [.null, .number (.integer (-1) (by decide))])
  anySet := rfl
  unreserved p := by cases p <;> rfl

def sampleError : SessionError where
  code := "c"
  parameters := sampleParameters
  extra := Object.empty.insert "y" (.object [])
  unreserved := by decide

theorem obtainable_sampleParameters : sampleParameters.Obtainable := by
  let calls : List AuthorizationParameters.Builder.Call :=
    [.set .message "a\nb", .set .scopes ["s"],
      .extra "x" (.array [.null, .number (.integer (-1) (by decide))])]
  have hcalls : ∀ call ∈ calls, call.Canonical := by
    simp [calls, AuthorizationParameters.Builder.Call.Canonical, Json.Canonical,
      Json.CanonicalItems]
  exact .built hcalls rfl

theorem obtainable_sampleError : sampleError.Obtainable := by
  let calls : List SessionError.Builder.Call :=
    [.code "c", .parameters sampleParameters, .extra "y" (.object [])]
  have hcalls : ∀ call ∈ calls, call.Canonical := by
    simp [calls, SessionError.Builder.Call.Canonical, obtainable_sampleParameters, Json.Canonical,
      Json.CanonicalMembers]
  exact .built hcalls rfl

theorem written_document_reads_back_sample :
    (sampleParameters.Obtainable ∧ (sampleParameters.toJson true).IntegersOnly ∧
        (sampleParameters.toJson true).depth ≤ Json.maxDepth ∧ ReadsBack sampleParameters) ∧
      (sampleError.Obtainable ∧ (sampleError.toJson true).IntegersOnly ∧
        (sampleError.toJson true).depth ≤ Json.maxDepth ∧ ReadsBack sampleError) ∧
      ∃ text, Json.FloatFree text ∧ ReadFrom text sampleError ∧ ReadsBack sampleError := by
  have hp := obtainable_sampleParameters
  have hpi : (sampleParameters.toJson true).IntegersOnly := by decide +kernel
  have hpd : (sampleParameters.toJson true).depth ≤ Json.maxDepth := by decide +kernel
  have he := obtainable_sampleError
  have hei : (sampleError.toJson true).IntegersOnly := by decide +kernel
  have hed : (sampleError.toJson true).depth ≤ Json.maxDepth := by decide +kernel
  have hback := written_document_reads_back.2.1 sampleError he hei hed
  have hfree := floatFree_render ⟨he.canonical, hei, hed⟩ .pretty
  have hfrom : ReadFrom _ sampleError := .inl (hback .pretty)
  exact ⟨⟨hp, hpi, hpd, written_document_reads_back.1 sampleParameters hp hpi hpd⟩,
    ⟨he, hei, hed, hback⟩,
    _, hfree, hfrom, written_document_reads_back.2.2.2 _ sampleError hfree hfrom⟩

end Document

end StepUp
