import StepUp.Pattern.Parser
import StepUp.Pattern.Support

/-!
# Conditions in directives

A condition names a detail, and after an equals sign it may say which value the detail has to have:
a number, or one that a pattern describes.
-/

namespace StepUp.Log.Condition

def isExponent : List Char → Bool
  | [] => true
  | e :: s =>
    let digits := match s with
      | '+' :: s | '-' :: s => s
      | s => s
    (e == 'e' || e == 'E') && !digits.isEmpty && digits.all Char.isDigit

/-- Digits with a point anywhere or nowhere among them, and an exponent or none. -/
def isDecimal (s : List Char) : Bool :=
  let whole := s.takeWhile Char.isDigit
  match s.drop whole.length with
  | '.' :: s =>
    let fraction := s.takeWhile Char.isDigit
    !(whole ++ fraction).isEmpty && isExponent (s.drop fraction.length)
  | s => !whole.isEmpty && isExponent s

/-- Words in any case for what no digits write. -/
def numberWords : List String := ["inf", "infinity", "nan"]

/-- Whether a text is a plus sign and a number. -/
def isSignedNumber : List Char → Bool
  | '+' :: s => isDecimal s || numberWords.contains (String.ofList (s.map Char.toLower))
  | _ => false

/-- A number without a plus sign is a pattern, too. -/
def isValue (s : List Char) : Bool :=
  isSignedNumber s || (Pattern.ofText? s).any (·.isSupported)

/-- The value that a condition asks for, if it does. A second equals sign ends it. -/
def value? (condition : List Char) : Option (List Char) := (condition.splitOn '=')[1]?

/-- Whether a condition asks for no value or for a sound one. -/
def isSound (condition : List Char) : Bool := (value? condition).all isValue

end StepUp.Log.Condition
