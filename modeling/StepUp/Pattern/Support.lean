import StepUp.Pattern.Basic

/-!
# Which patterns are supported

Matching knows no properties of characters beyond ASCII: neither which of them are letters nor which
differ by case alone. Where characters are those of Unicode, a pattern that asks for such properties
is not supported. Where they are bytes, no part of it may match a byte that is not ASCII, lest a
character be cut.
-/

namespace StepUp.Pattern

/-- The flags that matter to whether a pattern is supported. -/
structure Modes where
  unicode : Bool
  ignoreCase : Bool
deriving DecidableEq

namespace Modes

def standard : Modes := ⟨true, false⟩

def switch (m : Modes) (w : Switch) : Modes :=
  ⟨w.apply .unicode m.unicode, w.apply .ignoreCase m.ignoreCase⟩

end Modes

def Literal.isSupported (m : Modes) (l : Literal) : Bool :=
  if m.unicode then !m.ignoreCase else !l.asByte || l.char.toNat < 0x80

def Literal.isSupportedInSet (m : Modes) (l : Literal) : Bool :=
  if m.unicode then !m.ignoreCase else l.char.toNat < 0x80

def Atom.isSupported (m : Modes) : Atom → Bool
  | literal l => l.isSupported m
  | any => m.unicode
  | edge => true
  | wordEdge => !m.unicode
  | letters negated => !m.unicode && !negated

namespace CharSet

mutual

def isSupported (m : Modes) : CharSet → Bool
  | empty => true
  | literal l => l.isSupportedInSet m
  | range first last => first.isSupportedInSet m && last.isSupportedInSet m
  | named negated => if m.unicode then !m.ignoreCase else !negated
  | letters negated => !m.unicode && !negated
  | bracketed negated s => s.isSupported m && (m.unicode || !negated)
  | union items => areSupported m items
  | combined s t => s.isSupported m && t.isSupported m

def areSupported (m : Modes) : List CharSet → Bool
  | [] => true
  | s :: items => s.isSupported m && areSupported m items

end

end CharSet

mutual

/-- The modes after a pattern that begins in given modes, if it is supported. -/
def modesAfter? (m : Modes) : Pattern → Option Modes
  | empty => some m
  | atom a => if a.isSupported m then some m else none
  | set s => if s.isSupported m then some m else none
  | switch w => some (m.switch w)
  | group _ w p => (p.modesAfter? (m.switch w)).map fun _ => m
  | repeated p => p.modesAfter? m
  | sequence ps | alternation ps => modesAfterAll? m ps

def modesAfterAll? (m : Modes) : List Pattern → Option Modes
  | [] => some m
  | p :: ps => (p.modesAfter? m).bind fun m => modesAfterAll? m ps

end

def isSupported (p : Pattern) : Bool := (p.modesAfter? .standard).isSome

end StepUp.Pattern
