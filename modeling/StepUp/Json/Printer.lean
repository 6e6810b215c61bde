import StepUp.Json.Object
import StepUp.Decimal.Shortest

/-!
# Writing JSON texts

A value is written on one line without spaces, or with each item and member on a line of its own.
In both forms the members of an object stand by ascending key.
-/

namespace StepUp.Json

/-- On one line, or with items and members on lines of their own. -/
inductive Style where
  | compact
  | pretty
deriving DecidableEq

namespace Style

/-- What stands before an item that lies `depth` levels deep. -/
def newline (depth : Nat) : Style → List Char
  | compact => []
  | pretty => '\n' :: List.replicate (2 * depth) ' '

def colon : Style → List Char
  | compact => [':']
  | pretty => [':', ' ']

end Style

/-- A double is written without an exponent from `0.00001` up to below `10 ^ 16`. -/
def floatLayout : Decimal.Layout := ⟨-5, 15⟩

def renderFloat (x : Float) : List Char :=
  let bits := x.toBits
  let b := Decimal.Binary.ofBits bits
  let magnitude := if b.significand = 0 then ['0', '.', '0'] else floatLayout.render b.shortest
  if bits.toNat < 0x8000000000000000 then magnitude else '-' :: magnitude

def renderInteger (n : Int) : List Char :=
  if n < 0 then '-' :: Nat.toDigits 10 n.natAbs else Nat.toDigits 10 n.natAbs

def renderNumber : Number → List Char
  | .integer n _ => renderInteger n
  | .float x _ => renderFloat x

def escape (c : Char) : List Char :=
  match c with
  | '"' => ['\\', '"']
  | '\\' => ['\\', '\\']
  | '\x08' => ['\\', 'b']
  | '\x0c' => ['\\', 'f']
  | '\n' => ['\\', 'n']
  | '\r' => ['\\', 'r']
  | '\t' => ['\\', 't']
  | c =>
    if c.toNat < 0x20 then
      ['\\', 'u', '0', '0', Nat.digitChar (c.toNat / 16), Nat.digitChar (c.toNat % 16)]
    else [c]

def renderString (s : String) : List Char := '"' :: (s.toList.flatMap escape ++ ['"'])

mutual

/-- The text of a value that lies `depth` levels deep. -/
def renderAt (style : Style) (depth : Nat) : Json → List Char
  | .null => ['n', 'u', 'l', 'l']
  | .bool true => ['t', 'r', 'u', 'e']
  | .bool false => ['f', 'a', 'l', 's', 'e']
  | .number n => renderNumber n
  | .string s => renderString s
  | .array [] => ['[', ']']
  | .array (v :: vs) =>
    '[' :: (style.newline (depth + 1) ++ renderAt style (depth + 1) v ++
      renderItems style (depth + 1) vs ++ style.newline depth ++ [']'])
  | .object [] => ['{', '}']
  | .object ((k, v) :: ms) =>
    '{' :: (style.newline (depth + 1) ++ renderString k ++ style.colon ++
      renderAt style (depth + 1) v ++ renderMembers style (depth + 1) ms ++
      style.newline depth ++ ['}'])

/-- The items of a list after its first. -/
def renderItems (style : Style) (depth : Nat) : List Json → List Char
  | [] => []
  | v :: vs =>
    ',' :: (style.newline depth ++ renderAt style depth v ++ renderItems style depth vs)

def renderMembers (style : Style) (depth : Nat) : List (String × Json) → List Char
  | [] => []
  | (k, v) :: ms =>
    ',' :: (style.newline depth ++ renderString k ++ style.colon ++ renderAt style depth v ++
      renderMembers style depth ms)

end

def render (style : Style) (v : Json) : String := String.ofList (renderAt style 0 v)

def compact (v : Json) : String := v.render .compact

end StepUp.Json
