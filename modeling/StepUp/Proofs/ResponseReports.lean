import Mathlib.Data.List.Forall2
import StepUp.Proofs.FoundErrors
import StepUp.Proofs.Inspecting

/-!
# The report about a response

A response is reported with its status, its code and its message, and then with a block for each
session error in it. A block has the rows of this session error, and it is what inspecting a document
of the value that it was found in prints. Where there is no block a warning stands in place of them.
-/

namespace StepUp.CommandLine.Responding

open ErrorResponse (accepted? accepted?_eq_some_iff examined)
open Inspecting (inspected inspected_of_ok)

variable {source : Source} {text : List UInt8} {d v : Json} {e : SessionError}

def responded (status : UInt16) (source : Source) (text : List UInt8) : Outcome :=
  (Command.inspectResponse status).run false source (.ok text)

/-- The values in a body that are session errors, in the order in which they are examined. -/
def recognized (body : Json) : List Json := (examined body).filter fun v => (accepted? v).isSome

/-- What inspecting a value prints begins with the line that it is valid and an empty line; the
block is the rest. -/
structure IsBlockOf (v : Json) (block : String) : Prop where
  performs : Command.inspectSessionError.perform false v =
    .ok ("✓ Valid session error\n\n" ++ block, [])
  prints (source : Source) (text : List UInt8) : source.document (.ok text) = .ok v →
    (inspected false source text).exitCode = 0 ∧
      (inspected false source text).output = "✓ Valid session error\n\n" ++ block

theorem isBlockOf_blockText (h : SessionError.ofJson v = .ok e) :
    IsBlockOf v (blockText false e) where
  performs := by
    have htext : Report.text (Report.sessionError false e) =
        "✓ Valid session error\n\n" ++ blockText false e := Report.text_sessionError false e
    rw [Command.perform, h, ← htext]
    rfl
  prints source text hv := by
    rw [inspected_of_ok false hv h]
    exact ⟨rfl, rfl⟩

theorem forall₂_accepted? (vs : List Json) :
    List.Forall₂ (fun v e => SessionError.ofJson v = .ok e)
      (vs.filter fun v => (accepted? v).isSome) (vs.filterMap accepted?) := by
  induction vs with
  | nil => exact .nil
  | cons v vs ih =>
    cases h : accepted? v with
    | none =>
      rw [List.filter_cons_of_neg (by simp [h]), List.filterMap_cons_none h]
      exact ih
    | some e =>
      rw [List.filter_cons_of_pos (by simp [h]), List.filterMap_cons_some h]
      exact .cons (accepted?_eq_some_iff.1 h) ih

/-- Each session error of a response belongs to a value in its body, in order. -/
theorem forall₂_recognized (r : ErrorResponse) :
    List.Forall₂ (fun v e => SessionError.ofJson v = .ok e) (recognized r.body) r.sessionErrors := by
  rw [r.sessionErrors_eq]
  exact forall₂_accepted? (examined r.body)

theorem forall₂_blocks (r : ErrorResponse) :
    List.Forall₂ IsBlockOf (recognized r.body) (r.sessionErrors.map (blockText false)) :=
  List.forall₂_map_right_iff.2 ((forall₂_recognized r).imp fun _ _ => isBlockOf_blockText)

def messages (color : Bool) (r : ErrorResponse) : List String :=
  if r.sessionErrors = [] then [Report.noSessionErrors color] else []

theorem text_messages (color : Bool) (r : ErrorResponse) :
    Report.text (messages color r) = if r.sessionErrors = [] then warningText color else "" := by
  rw [messages, apply_ite Report.text, Report.text_noSessionErrors]
  rfl

theorem run_inspectResponse (status : UInt16) (color : Bool) {content : Content}
    (hd : source.document content = .ok d) :
    (Command.inspectResponse status).run color source content =
      ⟨0, Report.text (Report.response color ⟨status, d⟩),
        (source.reading :: ErrorResponse.searchEvents ⟨status, d⟩).map .event ++
          (messages color ⟨status, d⟩).map .message⟩ := by
  have hwarning : (if ErrorResponse.hasSessionError ⟨status, d⟩ then []
      else [Notice.message (Report.noSessionErrors color)]) =
        (messages color ⟨status, d⟩).map .message := by
    by_cases h : ErrorResponse.sessionErrors ⟨status, d⟩ = []
    · rw [messages, if_pos h, if_neg (mt (ErrorResponse.hasSessionError_iff _).1 (not_not_intro h))]
      rfl
    · rw [messages, if_neg h, if_pos ((ErrorResponse.hasSessionError_iff _).2 h)]
      rfl
  rw [run_of_performed hd rfl, hwarning]
  rfl

/-- Beside a report stand log lines and, exactly if there are no session errors, the warning. -/
theorem errorOutput_inspectResponse (status : UInt16) (color : Bool) {content : Content}
    (hd : source.document content = .ok d) (settings : Log.Settings) (time : String) :
    let o := (Command.inspectResponse status).run color source content
    o.errorOutput settings time = Report.text (logLines settings time o.events) ++
      if ErrorResponse.sessionErrors ⟨status, d⟩ = [] then warningText color else "" := by
  intro o
  have hnotices := congrArg Outcome.notices (run_inspectResponse status color hd)
  rw [Outcome.errorOutput_of_notices hnotices, Outcome.events_of_notices hnotices,
    Report.text_append, text_messages]

theorem inspected_exitCode_iff (hd : source.document (.ok text) = .ok d) :
    (inspected false source text).exitCode = 0 ↔ (recognized d).head? = some d := by
  constructor
  · intro hexit
    obtain ⟨v, e, hv, he⟩ := exists_of_wanted .inspectSessionError trivial hexit
    cases hd.symm.trans hv
    have haccepted : (accepted? d).isSome = true :=
      Option.isSome_iff_exists.2 ⟨e, accepted?_eq_some_iff.2 he⟩
    rw [recognized, examined, List.filter_cons, if_pos haccepted, List.head?_cons]
  · intro hhead
    have hmem : d ∈ recognized d := List.mem_of_mem_head? hhead
    obtain ⟨e, he⟩ := Option.isSome_iff_exists.1 (List.mem_filter.1 hmem).2
    rw [inspected_of_ok false hd (accepted?_eq_some_iff.1 he)]

/-- A response is reported with its heading and a block for each session error in it, in order. The
block has the rows of the session error and is what inspecting the value that it was found in prints;
the body has the first block exactly if inspecting the body succeeds. Beside the report stands a
warning exactly if there is no block. -/
theorem inspections_agree (status : UInt16) (source : Source) (text : List UInt8) (d : Json)
    (hd : source.document (.ok text) = .ok d) :
    let r : ErrorResponse := ⟨status, d⟩
    let o := responded status source text
    ∃ blocks : List String,
      List.Forall₂ (fun v e => SessionError.ofJson v = .ok e) (recognized d) r.sessionErrors ∧
        List.Forall₂ IsBlockOf (recognized d) blocks ∧
        blocks = r.sessionErrors.map (blockText false) ∧
        o.exitCode = 0 ∧
        o.output = heading false r ++ String.join (blocks.map ("\n" ++ ·)) ∧
        ((inspected false source text).exitCode = 0 ↔ (recognized d).head? = some d) ∧
        ∀ settings time, o.errorOutput settings time =
          Report.text (logLines settings time o.events) ++
            if blocks = [] then warningText false else "" := by
  intro r o
  have hrun : o = _ := run_inspectResponse status false hd
  refine ⟨r.sessionErrors.map (blockText false), forall₂_recognized r, forall₂_blocks r, rfl, ?_,
    ?_, inspected_exitCode_iff hd, fun settings time => ?_⟩
  · exact congrArg Outcome.exitCode hrun
  · rw [List.map_map]
    exact (congrArg Outcome.output hrun).trans (Report.text_response false r)
  · simp only [List.map_eq_nil_iff]
    exact errorOutput_inspectResponse status false hd settings time

/-- A body that is a session error and lists another one behind a value that is none. -/
def sampleBody : List UInt8 := Text.Utf8.bytes
  "\x7b\"code\":\"a\",\"authorization_parameters\":\x7b\"session_message\":\"m\"\x7d,\"errors\":[\x7b\x7d,
\x7b\"code\":\"b\",\"authorization_parameters\":\x7b\"session_required_mfa\":false\x7d\x7d]\x7d"

theorem inspections_agree_sample :
    ∃ d blocks, Source.stdin.document (.ok sampleBody) = .ok d ∧
      List.Forall₂ IsBlockOf (recognized d) blocks ∧
      (responded 403 .stdin sampleBody).output =
        heading false ⟨403, d⟩ ++ String.join (blocks.map ("\n" ++ ·)) := by
  have hexit : (responded 403 .stdin sampleBody).exitCode = 0 := by decide +kernel
  obtain ⟨text, d, hcontent, hjson⟩ := inspectResponse_exitCode_iff.1 hexit
  have hd : Source.stdin.document (.ok sampleBody) = .ok d :=
    document_eq_ok_iff_text.2 ⟨text, hcontent, hjson⟩
  obtain ⟨blocks, -, hblocks, -, -, houtput, -⟩ := inspections_agree 403 .stdin sampleBody d hd
  exact ⟨d, blocks, hd, hblocks, houtput⟩

end StepUp.CommandLine.Responding
