import StepUp.Json.Numeral
import StepUp.Json.Object
import StepUp.Text.Utf8

/-!
# Reading JSON texts

A text is read as bytes, and only the bytes inside strings have to be UTF-8. At most `maxDepth`
arrays and objects may stand inside one another. Where two members of an object have one key, the
later value holds.
-/

namespace StepUp.Json

open Text (Utf8.split)

/-- How many arrays and objects may stand inside one another. -/
def maxDepth : Nat := 127

def isSpace (b : UInt8) : Bool := b == 0x20 || b == 0x0A || b == 0x09 || b == 0x0D

def skipSpace (s : List UInt8) : List UInt8 := s.dropWhile isSpace

/-- Reads the rest of a literal whose first letter is known. -/
def scanLiteral (value : Json) : List UInt8 → Scanner Json
  | [], s => .ok (value, s)
  | _ :: _, [] => .error { kind := .endInValue, rest := [] }
  | l :: ls, b :: s =>
    if b = l then scanLiteral value ls s else .error { kind := .expectedIdent, rest := s }

def hexDigit? (b : UInt8) : Option Nat :=
  if 0x30 ≤ b ∧ b ≤ 0x39 then some (b.toNat - 0x30)
  else if 0x61 ≤ b ∧ b ≤ 0x66 then some (b.toNat - 0x61 + 10)
  else if 0x41 ≤ b ∧ b ≤ 0x46 then some (b.toNat - 0x41 + 10)
  else none

def hex4? (a b c d : UInt8) : Option Nat := do
  return (((← hexDigit? a) * 16 + (← hexDigit? b)) * 16 + (← hexDigit? c)) * 16 + (← hexDigit? d)

def scanHex4 : Scanner Nat
  | a :: b :: c :: d :: s =>
    match hex4? a b c d with
    | some n => .ok (n, s)
    | none => .error { kind := .invalidEscape, rest := s }
  | _ => .error { kind := .endInString, rest := [] }

def isHighSurrogate (n : Nat) : Bool := 0xD800 ≤ n && n ≤ 0xDBFF

def isLowSurrogate (n : Nat) : Bool := 0xDC00 ≤ n && n ≤ 0xDFFF

/-- The code point that both halves of a surrogate pair make. -/
def joinSurrogates (high low : Nat) : Scanner Nat := fun s =>
  if isLowSurrogate low then .ok (0x10000 + (high - 0xD800) * 0x400 + (low - 0xDC00), s)
  else .error { kind := .loneSurrogate, rest := s }

def scanLowSurrogate (high : Nat) : Scanner Nat
  | [] => .error { kind := .endInString, rest := [] }
  | [0x5C] => .error { kind := .endInString, rest := [] }  -- backslash
  | 0x5C :: 0x75 :: s => do  -- backslash, u
    let (low, s) ← scanHex4 s
    joinSurrogates high low s
  | 0x5C :: _ :: s => .error { kind := .unfinishedSurrogatePair, rest := s }  -- backslash
  | _ :: s => .error { kind := .unfinishedSurrogatePair, rest := s }

/-- Goes on behind four digits, which may be the first half of a surrogate pair. -/
def completeCodePoint (n : Nat) : Scanner Nat := fun s =>
  if isLowSurrogate n then .error { kind := .loneSurrogate, rest := s }
  else if isHighSurrogate n then scanLowSurrogate n s
  else .ok (n, s)

/-- Reads an escaped code point, after `\u`. -/
def scanCodePoint : Scanner Nat := fun s => do
  let (n, s) ← scanHex4 s
  completeCodePoint n s

/-- The byte that a letter after a backslash stands for. -/
def shortEscape? (letter : UInt8) : Option UInt8 :=
  match letter with
  | 0x22 => some 0x22  -- quote
  | 0x5C => some 0x5C  -- backslash
  | 0x2F => some 0x2F  -- slash
  | 0x62 => some 0x08  -- b: backspace
  | 0x66 => some 0x0C  -- f: form feed
  | 0x6E => some 0x0A  -- n: line feed
  | 0x72 => some 0x0D  -- r: carriage return
  | 0x74 => some 0x09  -- t: tab
  | _ => none

/-- Reads an escape, after its backslash; gives the bytes it stands for. -/
def scanEscape : Scanner (List UInt8)
  | [] => .error { kind := .endInString, rest := [] }
  | 0x75 :: s => do  -- u
    let (n, s) ← scanCodePoint s
    return (String.utf8EncodeChar (Char.ofNat n), s)
  | letter :: s =>
    match shortEscape? letter with
    | some b => .ok ([b], s)
    | none => .error { kind := .invalidEscape, rest := s }

/-- Reads one character of a string, or one byte of it. -/
def scanPiece : Scanner (List UInt8)
  | [] => .error { kind := .endInString, rest := [] }
  | 0x5C :: s => scanEscape s  -- backslash
  | b :: s =>
    if b < 0x20 then .error { kind := .controlCharacter, rest := s } else .ok ([b], s)

/-- Reads a string up to its closing quote, in at most the given number of pieces. No piece is
empty, so when they are used up a text no longer than their number has ended. -/
def scanPieces : Nat → Scanner (List UInt8)
  | 0, _ => .error { kind := .endInString, rest := [] }
  | n + 1, s =>
    match s with
    | 0x22 :: s => .ok ([], s)  -- quote
    | s => do
      let (piece, s) ← scanPiece s
      let (pieces, s) ← scanPieces n s
      return (piece ++ pieces, s)

/-- Reads a string, after its opening quote. -/
def scanString : Scanner String := fun s => do
  let (content, s) ← scanPieces s.length s
  match Utf8.split content with
  | (text, []) => return (String.ofList text, s)
  | (_, malformed) =>
    throw { kind := .invalidCodePoint, rest := s, back := malformed.length }

section Sequences

variable {ε α : Type} (fault : Fault → ε) (item : List UInt8 → Except ε (α × List UInt8))

/-- Reads the items of a list from one that has to come, up to the closing bracket, in at most the
given number of items. -/
def scanItems : Nat → List UInt8 → Except ε (List α × List UInt8)
  | 0, _ => .error (fault { kind := .endInValue, rest := [] })
  | n + 1, s => do
    let (x, s) ← item s
    match skipSpace s with
    | [] => throw (fault { kind := .endInList, rest := [] })
    | 0x5D :: s => return ([x], s)  -- closing bracket
    | 0x2C :: s =>  -- comma
      match skipSpace s with
      | 0x5D :: s => throw (fault { kind := .trailingComma, rest := s })  -- closing bracket
      | s =>
        let (xs, s) ← scanItems n s
        return (x :: xs, s)
    | s => throw (fault (.past .expectedListSeparator s))

def scanList (s : List UInt8) : Except ε (List α × List UInt8) :=
  match skipSpace s with
  | [] => .error (fault { kind := .endInList, rest := [] })
  | 0x5D :: s => .ok ([], s)  -- closing bracket
  | s => scanItems fault item s.length s

end Sequences

def scanMember (value : Scanner Json) : Scanner (String × Json)
  | 0x22 :: s => do  -- quote
    let (key, s) ← scanString s
    match skipSpace s with
    | [] => throw { kind := .endInObject, rest := [] }
    | 0x3A :: s =>  -- colon
      let (v, s) ← value s
      return ((key, v), s)
    | s => throw (.past .expectedColon s)
  | [] => .error { kind := .endInValue, rest := [] }
  | s => .error (.past .keyNotString s)

/-- Reads the members of an object from one that has to come, up to the closing brace, in at most
the given number of members. -/
def scanMembers (value : Scanner Json) : Nat → Scanner (List (String × Json))
  | 0, _ => .error { kind := .endInValue, rest := [] }
  | n + 1, s => do
    let (m, s) ← scanMember value s
    match skipSpace s with
    | [] => throw { kind := .endInObject, rest := [] }
    | 0x7D :: s => return ([m], s)  -- closing brace
    | 0x2C :: s =>  -- comma
      match skipSpace s with
      | 0x7D :: s => throw { kind := .trailingComma, rest := s }  -- closing brace
      | s =>
        let (ms, s) ← scanMembers value n s
        return (m :: ms, s)
    | s => throw (.past .expectedObjectSeparator s)

def scanObject (value : Scanner Json) : Scanner Object := fun s =>
  match skipSpace s with
  | [] => .error { kind := .endInObject, rest := [] }
  | 0x7D :: s => .ok (.empty, s)  -- closing brace
  | s => do
    let (members, s) ← scanMembers value s.length s
    return (.ofMembers members, s)

/-- Reads a value; the values inside it are read by `inner`, if it may hold any. -/
def scanValueWith (inner : Option (Scanner Json)) : Scanner Json := fun s =>
  match skipSpace s with
  | [] => .error { kind := .endInValue, rest := [] }
  | 0x6E :: s => scanLiteral .null [0x75, 0x6C, 0x6C] s  -- null
  | 0x74 :: s => scanLiteral (.bool true) [0x72, 0x75, 0x65] s  -- true
  | 0x66 :: s => scanLiteral (.bool false) [0x61, 0x6C, 0x73, 0x65] s  -- false
  | 0x22 :: s => do  -- quote
    let (text, s) ← scanString s
    return (.string text, s)
  | 0x5B :: s =>  -- opening bracket
    match inner with
    | none => .error { kind := .tooDeep, rest := s }
    | some value => do
      let (items, s) ← scanList id value s
      return (.array items, s)
  | 0x7B :: s =>  -- opening brace
    match inner with
    | none => .error { kind := .tooDeep, rest := s }
    | some value => do
      let (o, s) ← scanObject value s
      return (.ofObject o, s)
  | 0x2D :: s => do  -- minus
    let (n, s) ← Numeral.scan true s
    return (.number n, s)
  | b :: s =>
    if Numeral.isDigit b then do
      let (n, s) ← Numeral.scan false (b :: s)
      return (.number n, s)
    else .error { kind := .expectedValue, rest := s }

/-- Reads a value in which at most `depth` arrays and objects stand inside one another. -/
def scanValue : (depth : Nat) → Scanner Json
  | 0 => scanValueWith none
  | depth + 1 => scanValueWith (some (scanValue depth))

def endOfText (s : List UInt8) : Except Fault Unit :=
  match skipSpace s with
  | [] => .ok ()
  | s => .error (.past .trailingCharacters s)

def ofBytes (text : List UInt8) : Except SyntaxError Json :=
  Except.mapError (Fault.locate text) do
    let (v, rest) ← scanValue maxDepth text
    endOfText rest
    return v

end StepUp.Json
