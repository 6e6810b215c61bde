import StepUp.Json.Parser
import StepUp.Json.Printer
import StepUp.SessionError.Basic
import StepUp.Text.Quoted

/-!
# Reading checked documents

A document of a checked type is a JSON text whose value passes the type's check. The check comes
before the end of the text: what follows a refused value is never looked at.
-/

namespace StepUp

/-- Types whose values are JSON values that pass a check. -/
class Checked (α : Type) where
  ofJson : Json → Except InvalidInput α
  /-- Every value is written with all it holds. -/
  toJson : α → Json

instance : Checked AuthorizationParameters := ⟨AuthorizationParameters.ofJson, (·.toJson true)⟩

instance : Checked SessionError := ⟨SessionError.ofJson, (·.toJson true)⟩

namespace Document

/-- A text can be malformed, end too early, or hold a value that is none of the type. -/
inductive Category where
  | malformed
  | cutShort
  | unsuitable
deriving DecidableEq

/-- Why a text or a value is no document of a type. The place of a refused value is known only
inside a list. -/
inductive Error where
  | malformed (error : Json.SyntaxError)
  | refused (reason : InvalidInput) (position : Option Position)
  | notAList (found : Json) (position : Position)

namespace Error

def describe : Json → String
  | .null => "null"
  | .bool b => "boolean `" ++ (if b then "true" else "false") ++ "`"
  | .number (.integer n _) => "integer `" ++ String.ofList (Json.renderInteger n) ++ "`"
  | .number (.float x _) => "floating point `" ++ String.ofList (Json.renderFloat x) ++ "`"
  | .string s => "string " ++ Text.quote s
  | .array _ => "sequence"
  | .object _ => "map"

def cause : Error → String
  | malformed error => error.kind.message
  | refused reason _ => reason.report
  | notAList found _ => "invalid type: " ++ describe found ++ ", expected a sequence"

def position? : Error → Option Position
  | malformed error => some error.position
  | refused _ position => position
  | notAList _ position => some position

def message (e : Error) : String :=
  match e.position? with
  | none => e.cause
  | some p => e.cause ++ " at " ++ p.text

def category : Error → Category
  | malformed error => if error.kind.isEnd then .cutShort else .malformed
  | refused .. | notAList .. => .unsuitable

end Error

variable {α : Type} [Checked α]

def ofValue (v : Json) : Except Error α :=
  Except.mapError (Error.refused · none) (Checked.ofJson v)

def malformed (text : List UInt8) (fault : Json.Fault) : Error := .malformed (fault.locate text)

def ofBytes (text : List UInt8) : Except Error α := do
  let (v, rest) ← Except.mapError (malformed text) (Json.scanValue Json.maxDepth text)
  let x ← ofValue v
  Except.mapError (malformed text) (Json.endOfText rest)
  return x

/-- What ends the reading of a list. -/
inductive Stop where
  | fault (fault : Json.Fault)
  | refusal (reason : InvalidInput) (rest : List UInt8)

/-- Reads an item of a list; the list is one of the arrays that stand inside one another. -/
def scanItem (s : List UInt8) : Except Stop (α × List UInt8) := do
  let (v, rest) ← Except.mapError Stop.fault (Json.scanValue (Json.maxDepth - 1) s)
  let x ← Except.mapError (Stop.refusal · rest) (Checked.ofJson v)
  return (x, rest)

/-- The place that is given for a refused item: after the bracket or the comma behind it. -/
def afterRefused (rest : List UInt8) : List UInt8 :=
  match Json.skipSpace rest with
  | 0x5D :: s => s  -- closing bracket
  | 0x2C :: s => Json.skipSpace s  -- comma
  | s => s

def Stop.toError (text : List UInt8) : Stop → Error
  | fault f => malformed text f
  | refusal reason rest =>
    .refused reason (some (Position.after (consumed text (afterRefused rest))))

/-- The documents that the items of a list write. -/
def listOfBytes (text : List UInt8) : Except Error (List α) :=
  match Json.skipSpace text with
  | 0x5B :: s => do  -- opening bracket
    let (xs, rest) ← Except.mapError (Stop.toError text) (Json.scanList Stop.fault scanItem s)
    Except.mapError (malformed text) (Json.endOfText rest)
    return xs
  | 0x7B :: s =>  -- opening brace
    .error (.notAList (.object []) (Position.after (consumed text (0x7B :: s))))
  | s => do
    let (v, rest) ← Except.mapError (malformed text) (Json.scanValue 0 s)
    throw (.notAList v (Position.after (consumed text rest)))

end Document

end StepUp
