/-!
# Faults in JSON texts

A scanner that gives up tells the kind of fault and which bytes are still unread at the place it
points to. Lines and columns come from these alone: a line ends with a line feed, and a column
counts bytes.
-/

namespace StepUp

/-- A place in a text: lines count from one, columns are the bytes before it in its line. -/
structure Position where
  line : Nat
  column : Nat
deriving DecidableEq

def Position.after (consumed : List UInt8) : Position where
  line := consumed.count 0x0A + 1
  column := (consumed.reverse.takeWhile (· ≠ 0x0A)).length

/-- How messages give a place. -/
def Position.text (p : Position) : String :=
  "line " ++ Nat.repr p.line ++ " column " ++ Nat.repr p.column

/-- The part of a text that ends where only `rest` is left to read. -/
def consumed (text rest : List UInt8) : List UInt8 := text.take (text.length - rest.length)

namespace Json

inductive FaultKind where
  | endInValue
  | endInString
  | endInList
  | endInObject
  | expectedValue
  | expectedIdent
  | expectedColon
  | expectedListSeparator
  | expectedObjectSeparator
  | invalidNumber
  | numberOutOfRange
  | controlCharacter
  | invalidEscape
  | loneSurrogate
  | unfinishedSurrogatePair
  | invalidCodePoint
  | keyNotString
  | trailingComma
  | trailingCharacters
  | tooDeep
deriving DecidableEq

namespace FaultKind

def message : FaultKind → String
  | endInValue => "EOF while parsing a value"
  | endInString => "EOF while parsing a string"
  | endInList => "EOF while parsing a list"
  | endInObject => "EOF while parsing an object"
  | expectedValue => "expected value"
  | expectedIdent => "expected ident"
  | expectedColon => "expected `:`"
  | expectedListSeparator => "expected `,` or `]`"
  | expectedObjectSeparator => "expected `,` or `\x7d`"
  | invalidNumber => "invalid number"
  | numberOutOfRange => "number out of range"
  | controlCharacter => "control character (\\u0000-\\u001F) found while parsing a string"
  | invalidEscape => "invalid escape"
  | loneSurrogate => "lone leading surrogate in hex escape"
  | unfinishedSurrogatePair => "unexpected end of hex escape"
  | invalidCodePoint => "invalid unicode code point"
  | keyNotString => "key must be a string"
  | trailingComma => "trailing comma"
  | trailingCharacters => "trailing characters"
  | tooDeep => "recursion limit exceeded"

/-- Whether more text could have mended the fault. -/
def isEnd : FaultKind → Bool
  | endInValue | endInString | endInList | endInObject => true
  | _ => false

end FaultKind

/-- A fault, with the bytes still unread where it is seen; its column lies `back` bytes before
that place. -/
structure Fault where
  kind : FaultKind
  rest : List UInt8
  back : Nat := 0

namespace Fault

/-- A fault seen after the byte that shows it. -/
def past (kind : FaultKind) (rest : List UInt8) : Fault := { kind, rest := rest.drop 1 }

def position (text : List UInt8) (fault : Fault) : Position :=
  let reached := Position.after (consumed text fault.rest)
  { reached with column := reached.column - fault.back }

end Fault

/-- A fault at its place in the whole text. -/
structure SyntaxError where
  kind : FaultKind
  position : Position
deriving DecidableEq

def SyntaxError.message (e : SyntaxError) : String :=
  e.kind.message ++ " at " ++ e.position.text

def Fault.locate (text : List UInt8) (fault : Fault) : SyntaxError :=
  ⟨fault.kind, fault.position text⟩

/-- The text left to read stands for a scanner's place: a scanner gives what it read and the rest,
or a fault. -/
abbrev Scanner (α : Type) := List UInt8 → Except Fault (α × List UInt8)

end Json

end StepUp
