import StepUp.CommandLine.Report

/-!
# The text of a report

What a session error is shown as, written out: a row for the code and one for each parameter that is
set, lists only where they have items, and a last row with the number of extra fields of both levels.
A response is shown with a row for its status and its code and one for its message.
-/

namespace StepUp.CommandLine

/-- A label, dimmed on a terminal with colors, and a value. -/
def rowText (color : Bool) (label value : String) : String :=
  (if color then "\x1b[2m" ++ label ++ "\x1b[0m" else label) ++ ": " ++ value ++ "\n"

def optionText (color : Bool) (label : String) : Option String → String
  | some value => rowText color label value
  | none => ""

/-- Items with commas between them, strings without quotes and other values on one line each. -/
def listText (color : Bool) (label : String) : Option (List Json) → String
  | some (v :: vs) => rowText color label (", ".intercalate ((v :: vs).map fun
      | .string s => s
      | w => w.render .compact))
  | some [] | none => ""

def requirementText (color : Bool) (e : SessionError) : String :=
  let r := e.parameters.requirements
  rowText color "Code" e.code ++ optionText color "Message" r.message ++
    listText color "Required identities" r.identities ++
    listText color "Required policies" r.policies ++
    listText color "Required domains" r.singleDomain ++
    listText color "Required scopes" r.scopes ++
    match r.mfa with
    | some true => rowText color "MFA required" "yes"
    | some false => rowText color "MFA required" "no"
    | none => ""

def extraText (color : Bool) (n : Nat) : String :=
  if n = 0 then "" else rowText color "Extra fields" (Nat.repr n)

def blockText (color : Bool) (e : SessionError) : String :=
  requirementText color e ++ extraText color (e.extra.size + e.parameters.extra.size)

/-- What stands before the rows of a session error that is inspected. -/
def validText (color : Bool) : String :=
  (if color then "\x1b[32m✓\x1b[0m" else "✓") ++ " Valid session error\n\n"

def heading (color : Bool) (r : ErrorResponse) : String :=
  rowText color "Status" (Nat.repr r.status.toNat) ++ rowText color "Code" r.code ++
    optionText color "Message" r.message?

def warningText (color : Bool) : String :=
  (if color then "\x1b[33m!\x1b[0m" else "!") ++ " No session errors in response\n"

namespace Report

variable (color : Bool)

def rowText? (row : Option Row) : String := text (row.toList.map (Row.line color))

theorem text_filterMap (rows : List (Option Row)) :
    text ((rows.filterMap id).map (Row.line color)) = String.join (rows.map (rowText? color)) := by
  induction rows with
  | nil => rfl
  | cons row rows ih =>
    rw [List.map_cons, String.join_cons, ← ih, rowText?, ← text_append, ← List.map_append]
    cases row <;> rfl

theorem rowText?_some (label value : String) :
    rowText? color (some ⟨label, value⟩) = rowText color label value := by
  cases color <;> simp [rowText?, text, Row.line, rowText, Paint.apply, Paint.code]

theorem rowText?_map (label : String) (value : Option String) :
    rowText? color (value.map (⟨label, ·⟩)) = optionText color label value := by
  cases value with
  | none => rfl
  | some value => exact rowText?_some color label value

theorem rowText?_listRow? (label : String) (items : Option (List Json)) :
    rowText? color (listRow? label items) = listText color label items := by
  match items with
  | none => rfl
  | some [] => rfl
  | some (v :: vs) =>
    have hitems : (v :: vs).map item = (v :: vs).map fun
        | .string s => s
        | w => w.render .compact := List.map_congr_left fun w _ => by cases w <;> rfl
    rw [listRow?, hitems]
    exact rowText?_some color label _
    nofun

theorem rowText?_extraRow? (e : SessionError) :
    rowText? color (extraRow? e) = extraText color (e.extra.size + e.parameters.extra.size) := by
  rw [extraRow?, extraText, extraCount]
  by_cases h : e.extra.size + e.parameters.extra.size = 0
  · rw [if_pos h, if_neg (Nat.not_lt.2 (Nat.le_of_eq h))]
    rfl
  · rw [if_neg h, if_pos (Nat.pos_of_ne_zero h)]
    exact rowText?_some color "Extra fields" _

theorem text_requirementRows (e : SessionError) :
    text ((requirementRows e).map (Row.line color)) = requirementText color e := by
  have hmfa : ∀ mfa : Option Bool,
      rowText? color (mfa.map fun required => ⟨"MFA required", if required then "yes" else "no"⟩) =
        match mfa with
        | some true => rowText color "MFA required" "yes"
        | some false => rowText color "MFA required" "no"
        | none => ""
    | none => rfl
    | some true => rowText?_some color "MFA required" "yes"
    | some false => rowText?_some color "MFA required" "no"
  simp only [requirementRows, text_filterMap, List.map_cons, List.map_nil, String.join_cons,
    String.join_nil, rowText?_some, rowText?_map, rowText?_listRow?, hmfa, requirementText,
    String.append_assoc, String.append_empty]

/-- The lines about a session error are its rows as they are written out. -/
theorem text_block (e : SessionError) : text (block color e) = blockText color e := by
  rw [block, sessionErrorRows, List.map_append, text_append, text_requirementRows, blockText,
    ← rowText?_extraRow?, rowText?]

theorem text_sessionError (e : SessionError) :
    text (sessionError color e) = validText color ++ blockText color e := by
  rw [sessionError, text_cons, text_cons, text_block, ← String.append_assoc]
  refine congrArg (· ++ blockText color e) ?_
  cases color <;> rfl

theorem text_responseRows (r : ErrorResponse) :
    text ((responseRows r).map (Row.line color)) = heading color r := by
  simp only [responseRows, text_filterMap, List.map_cons, List.map_nil, String.join_cons,
    String.join_nil, rowText?_some, rowText?_map, heading, String.append_assoc, String.append_empty]

theorem text_blocks (es : List SessionError) :
    text (es.flatMap fun e => "" :: block color e) =
      String.join (es.map fun e => "\n" ++ blockText color e) := by
  induction es with
  | nil => rfl
  | cons e es ih =>
    rw [List.flatMap_cons, text_append, ih, List.map_cons, String.join_cons, text_cons, text_block]
    rfl

/-- The lines about a response are its heading and a block for each session error, each after an
empty line. -/
theorem text_response (r : ErrorResponse) :
    text (response color r) =
      heading color r ++ String.join (r.sessionErrors.map fun e => "\n" ++ blockText color e) := by
  rw [response, text_append, text_responseRows, text_blocks]

theorem text_noSessionErrors : text [noSessionErrors color] = warningText color := by
  rw [text_singleton]
  cases color <;> simp [noSessionErrors, warningText, Paint.apply, Paint.code]

end Report

end StepUp.CommandLine
