import StepUp.Proofs.FoundErrors

/-!
# The code and the message of a response

The code and the message are the first texts at the places where one is looked for: in the body, and
then in the first error that it lists. What stands at a place and is no text counts as if nothing
stood there, and nothing else in the body matters. So the code is that of the first session error in
the response if the body is one, or has no code and lists one first.
-/

namespace StepUp.ErrorResponse

def TextAt (v : Json) (name text : String) : Prop :=
  ∃ o, v.object? = some o ∧ o.get? name = some (.string text)

/-- A body is an object with a list of errors, and an entry is the first of them. -/
def ListsFirst (body entry : Json) : Prop :=
  ∃ o rest, body.object? = some o ∧ o.get? "errors" = some (.array (entry :: rest))

def EntryTextAt (body : Json) (name text : String) : Prop :=
  ∃ entry, ListsFirst body entry ∧ TextAt entry name text

/-- A text stands at a place, and no text stands at any place before it. -/
def FirstText : List (String → Prop) → String → Prop
  | [], _ => False
  | place :: later, text => place text ∨ (∀ t, ¬ place t) ∧ FirstText later text

/-- The names in the body, one after another, and then in the first error that it lists. -/
def places (names : List String) (body : Json) : List (String → Prop) :=
  names.map (TextAt body) ++ names.map (EntryTextAt body)

/-- Two bodies have the same texts under the names of codes and messages, and so have the first
errors that they list. -/
def SameTexts (b b' : Json) : Prop :=
  ∀ name ∈ ["code", "message", "detail"], ∀ text, (TextAt b name text ↔ TextAt b' name text) ∧
    (EntryTextAt b name text ↔ EntryTextAt b' name text)

/-- Later places count only where there is no text at an earlier one. -/
theorem firstText_append {places later : List (String → Prop)} {text : String} :
    FirstText (places ++ later) text ↔
      FirstText places text ∨ (∀ t, ¬ FirstText places t) ∧ FirstText later text := by
  induction places with
  | nil => simp [FirstText]
  | cons place places ih =>
    rw [List.cons_append, FirstText, FirstText, ih]
    constructor
    · rintro (h | ⟨hnone, h | ⟨hlater, h⟩⟩)
      · exact .inl (.inl h)
      · exact .inl (.inr ⟨hnone, h⟩)
      · exact .inr ⟨fun t ht => ht.elim (hnone t) fun ht => hlater t ht.2, h⟩
    · rintro ((h | ⟨hnone, h⟩) | ⟨hnot, h⟩)
      · exact .inl h
      · exact .inr ⟨hnone, .inl h⟩
      · have hnone : ∀ t, ¬ place t := fun t ht => hnot t (.inl ht)
        exact .inr ⟨hnone, .inr ⟨fun t ht => hnot t (.inr ⟨hnone, ht⟩), h⟩⟩

/-- Looking under some names one after another finds the first text. -/
theorem findSome?_eq_some_iff {place : String → String → Prop} {find : String → Option String}
    (h : ∀ name text, find name = some text ↔ place name text) {names : List String}
    {text : String} : names.findSome? find = some text ↔ FirstText (names.map place) text := by
  induction names with
  | nil => simp [FirstText]
  | cons name names ih =>
    rw [List.findSome?_cons, List.map_cons, FirstText, ← ih]
    cases hfind : find name <;> simp [← h, hfind]

def text? (v : Json) (name : String) : Option String := (v.get? name).bind Json.string?

theorem text?_eq_some_iff (v : Json) (name text : String) :
    text? v name = some text ↔ TextAt v name text := by
  have hstring (w : Json) : w.string? = some text ↔ w = .string text :=
    @Kind.ofJson?_eq_some_iff .string w text
  simp only [text?, Json.get?, Option.bind_eq_some_iff, hstring, exists_eq_right, TextAt]

theorem head?_entries_iff {r : ErrorResponse} {entry : Json} :
    r.entries.head? = some entry ↔ ListsFirst r.body entry := by
  have harray (w : Json) (vs : List Json) : w.array? = some vs ↔ w = .array vs :=
    @Kind.ofJson?_eq_some_iff .list w vs
  have hcons (rest : List Json) : r.entries = entry :: rest ↔
      (r.body.get? "errors").bind Json.array? = some (entry :: rest) := by
    rw [entries]
    cases (r.body.get? "errors").bind Json.array? <;> simp
  simp only [List.head?_eq_some_iff, hcons, Json.get?, Option.bind_eq_some_iff, harray,
    exists_eq_right, ListsFirst]
  exact exists_comm

theorem entryText?_eq_some_iff (r : ErrorResponse) (name text : String) :
    r.entries.head?.bind (text? · name) = some text ↔ EntryTextAt r.body name text := by
  simp only [Option.bind_eq_some_iff, head?_entries_iff, text?_eq_some_iff, EntryTextAt]

theorem findSome?_sources {α : Type} (r : ErrorResponse) (f : Json → Option α) :
    r.sources.findSome? f = (f r.body).or (r.entries.head?.bind f) := by
  rw [sources, List.findSome?_cons]
  cases r.entries with
  | nil => cases f r.body <;> rfl
  | cons entry rest => cases f r.body <;> simp

/-- What is looked for in the body and in the first error that it lists. -/
theorem findSome?_sources_eq_some_iff {r : ErrorResponse} {names : List String} {text : String} :
    (r.sources.findSome? fun v => names.findSome? (text? v)) = some text ↔
      FirstText (places names r.body) text := by
  have hentry : (r.entries.head?.bind fun v => names.findSome? (text? v)) =
      names.findSome? fun name => r.entries.head?.bind (text? · name) := by
    cases r.entries.head? with
    | none => exact (List.findSome?_eq_none_iff.2 fun _ _ => rfl).symm
    | some entry => rfl
  rw [findSome?_sources, hentry, Option.or_eq_some_iff, places, firstText_append,
    Option.eq_none_iff_forall_ne_some, findSome?_eq_some_iff (entryText?_eq_some_iff r)]
  simp only [ne_eq, findSome?_eq_some_iff (text?_eq_some_iff r.body)]

theorem message?_eq_some_iff {r : ErrorResponse} {text : String} :
    r.message? = some text ↔ FirstText (places ["message", "detail"] r.body) text :=
  findSome?_sources_eq_some_iff

/-- The word for a response without a code is one more place, the last one. -/
theorem code_eq_iff {r : ErrorResponse} {text : String} :
    r.code = text ↔ FirstText (places ["code"] r.body ++ [(· = "Error")]) text := by
  have hfound (t : String) : (r.sources.findSome? (text? · "code")) = some t ↔
      FirstText (places ["code"] r.body) t := by
    rw [← findSome?_sources_eq_some_iff]
    simp
  have hcode : r.code = (r.sources.findSome? (text? · "code")).getD "Error" := rfl
  rw [firstText_append, hcode]
  simp only [← hfound, FirstText]
  cases r.sources.findSome? (text? · "code") <;> simp [eq_comm]

theorem code_of_textAt {r : ErrorResponse} {text : String} (h : TextAt r.body "code" text) :
    r.code = text :=
  code_eq_iff.2 (.inl h)

theorem code_of_entryTextAt {r : ErrorResponse} {text : String}
    (hnone : ∀ t, ¬ TextAt r.body "code" t) (h : EntryTextAt r.body "code" text) : r.code = text :=
  code_eq_iff.2 (.inr ⟨hnone, .inl h⟩)

theorem places_congr {b b' : Json} (h : SameTexts b b') {names : List String}
    (hnames : ∀ name ∈ names, name ∈ ["code", "message", "detail"]) :
    places names b = places names b' := by
  have hbody : names.map (TextAt b) = names.map (TextAt b') :=
    List.map_congr_left fun name hname =>
      funext fun text => propext (h name (hnames name hname) text).1
  have hentry : names.map (EntryTextAt b) = names.map (EntryTextAt b') :=
    List.map_congr_left fun name hname =>
      funext fun text => propext (h name (hnames name hname) text).2
  rw [places, places, hbody, hentry]

theorem code_congr (status : UInt16) {b b' : Json} (h : SameTexts b b') :
    code ⟨status, b⟩ = code ⟨status, b'⟩ := by
  have hcode : FirstText (places ["code"] b' ++ [(· = "Error")]) (code ⟨status, b'⟩) :=
    (@code_eq_iff ⟨status, b'⟩ _).1 rfl
  rw [← places_congr h (by simp)] at hcode
  exact code_eq_iff.2 hcode

theorem message?_congr (status : UInt16) {b b' : Json} (h : SameTexts b b') :
    message? ⟨status, b⟩ = message? ⟨status, b'⟩ := by
  refine Option.ext fun text => ?_
  rw [message?_eq_some_iff, message?_eq_some_iff, places_congr h (by simp)]

theorem textAt_code_of_ofJson {v : Json} {e : SessionError} (h : SessionError.ofJson v = .ok e) :
    TextAt v "code" e.code := by
  obtain ⟨o, ho, hread⟩ := SessionError.ofJson_eq_ok_iff.1 h
  exact ⟨o, ho, (SessionError.ofObject_eq_ok_iff.1 hread).1⟩

theorem sessionError?_of_body {r : ErrorResponse} {e : SessionError}
    (h : SessionError.ofJson r.body = .ok e) : r.sessionError? = some e := by
  rw [sessionError?, sessionErrors_eq, examined,
    List.filterMap_cons_some (accepted?_eq_some_iff.2 h)]
  rfl

theorem sessionError?_of_entry {r : ErrorResponse} {entry : Json} {e : SessionError}
    (hnone : ∀ t, ¬ TextAt r.body "code" t) (hentry : ListsFirst r.body entry)
    (h : SessionError.ofJson entry = .ok e) : r.sessionError? = some e := by
  obtain ⟨o, rest, ho, hget⟩ := hentry
  have hbody : accepted? r.body = none := Option.eq_none_iff_forall_ne_some.2 fun e' he' =>
    hnone e'.code (textAt_code_of_ofJson (accepted?_eq_some_iff.1 he'))
  have hlisted : listed o = entry :: rest := by rw [listed, hget]
  rw [sessionError?, sessionErrors_eq, examined_of_object? ho, hlisted,
    List.filterMap_cons_none hbody, List.filterMap_cons_some (accepted?_eq_some_iff.2 h)]
  rfl

/-- The code is the first text under its name in the body and in the first error that it lists, or
`Error`; the message is the first one under either of its names. Bodies with the same texts there
have the same code, message and line for a person. A body that is a session error, or has no code and
lists one first, has the code of the first session error that is found. -/
theorem codes_and_messages_fall_back :
    (∀ (r : ErrorResponse) (text : String),
        (r.code = text ↔ FirstText (places ["code"] r.body ++ [(· = "Error")]) text) ∧
          (r.message? = some text ↔ FirstText (places ["message", "detail"] r.body) text)) ∧
      (∀ (status : UInt16) (b b' : Json), SameTexts b b' →
        code ⟨status, b⟩ = code ⟨status, b'⟩ ∧ message? ⟨status, b⟩ = message? ⟨status, b'⟩ ∧
          describe ⟨status, b⟩ = describe ⟨status, b'⟩) ∧
      (∀ (r : ErrorResponse) (e : SessionError), SessionError.ofJson r.body = .ok e →
        r.sessionError? = some e ∧ r.code = e.code) ∧
      ∀ (r : ErrorResponse) (entry : Json) (e : SessionError), (∀ t, ¬ TextAt r.body "code" t) →
        ListsFirst r.body entry → SessionError.ofJson entry = .ok e →
          r.sessionError? = some e ∧ r.code = e.code := by
  refine ⟨fun r text => ⟨code_eq_iff, message?_eq_some_iff⟩, fun status b b' h => ?_,
    fun r e he => ?_, fun r entry e hnone hentry he => ?_⟩
  · have hcode := code_congr status h
    have hmessage := message?_congr status h
    refine ⟨hcode, hmessage, ?_⟩
    rw [describe, describe, hcode, hmessage]
  · exact ⟨sessionError?_of_body he, code_of_textAt (textAt_code_of_ofJson he)⟩
  · exact ⟨sessionError?_of_entry hnone hentry he,
      code_of_entryTextAt hnone ⟨entry, hentry, textAt_code_of_ofJson he⟩⟩

/-- A body with a detail and a code that is no text, and with a session error among its errors. -/
def sampleRefusal (later : List Json) : Json :=
  .ofObject (((Object.empty.insert "code" (.bool true)).insert "detail" (.string "denied")).insert
    "errors" (.array (sampleInner.toJson true :: later)))

theorem codes_and_messages_fall_back_sample :
    SameTexts (sampleRefusal []) (sampleRefusal [.null]) ∧
      describe ⟨403, sampleRefusal []⟩ = describe ⟨403, sampleRefusal [.null]⟩ ∧
      code ⟨403, sampleRefusal []⟩ = sampleInner.code ∧
      code ⟨403, sampleOuter.toJson true⟩ = sampleOuter.code := by
  have hsame : SameTexts (sampleRefusal []) (sampleRefusal [.null]) := by
    intro name hname text
    simp only [← text?_eq_some_iff, ← entryText?_eq_some_iff ⟨403, sampleRefusal []⟩,
      ← entryText?_eq_some_iff ⟨403, sampleRefusal [.null]⟩]
    simp only [List.mem_cons, List.not_mem_nil, or_false] at hname
    obtain rfl | rfl | rfl := hname <;> exact ⟨Iff.rfl, Iff.rfl⟩
  have hnone (t : String) : ¬ TextAt (sampleRefusal []) "code" t := fun h =>
    Option.some_ne_none t ((text?_eq_some_iff _ _ _).2 h).symm
  have hfirst : ListsFirst (sampleRefusal []) (sampleInner.toJson true) := ⟨_, [], rfl, rfl⟩
  exact ⟨hsame, (codes_and_messages_fall_back.2.1 403 _ _ hsame).2.2,
    (codes_and_messages_fall_back.2.2.2 ⟨403, sampleRefusal []⟩ _ sampleInner hnone hfirst
      (sampleInner.ofJson_toJson true)).2,
    (codes_and_messages_fall_back.2.2.1 ⟨403, sampleOuter.toJson true⟩ sampleOuter
      (sampleOuter.ofJson_toJson true)).2⟩

end StepUp.ErrorResponse
