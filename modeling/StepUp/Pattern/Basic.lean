/-!
# Patterns

A pattern describes texts by characters, sets of characters, alternatives and repetitions. What is
kept of it is what decides whether it can be used: how often a part may be repeated, say, is not.
-/

namespace StepUp

namespace Pattern

/-- A way of reading or matching a pattern, turned on and off by a letter. -/
inductive Flag where
  | ignoreCase
  | multiLine
  | dotAll
  | shortestFirst
  | unicode
  | crlf
  | freeSpacing
deriving DecidableEq

namespace Flag

def letters : List (Char × Flag) :=
  [('i', ignoreCase), ('m', multiLine), ('s', dotAll), ('U', shortestFirst), ('u', unicode),
    ('R', crlf), ('x', freeSpacing)]

def ofLetter? (c : Char) : Option Flag := letters.lookup c

end Flag

structure Switch where
  on : List Flag
  off : List Flag
deriving DecidableEq

namespace Switch

def idle : Switch := ⟨[], []⟩

/-- Whether a flag is on after the switch, given whether it was on before. -/
def apply (w : Switch) (f : Flag) (before : Bool) : Bool :=
  w.on.contains f || (before && !w.off.contains f)

end Switch

/-- A character that stands for itself. One written with two hexadecimal digits is a byte where
characters are bytes. -/
structure Literal where
  char : Char
  asByte : Bool
deriving DecidableEq

/-- The smallest parts of a pattern. -/
inductive Atom where
  | literal (l : Literal)
  /-- Any character. -/
  | any
  /-- The beginning or the end of the text or of a line. -/
  | edge
  /-- The beginning or the end of a word, or a place that is neither. -/
  | wordEdge
  /-- A digit, a blank or a letter of a word, or any other character than those. -/
  | letters (negated : Bool)
deriving DecidableEq

inductive CharSet where
  | empty
  | literal (l : Literal)
  | range (first last : Literal)
  /-- One of the named sets of ASCII characters, or its complement. -/
  | named (negated : Bool)
  /-- The digits, the blanks or the letters of words, or their complement. -/
  | letters (negated : Bool)
  | bracketed (negated : Bool) (s : CharSet)
  | union (items : List CharSet)
  /-- The intersection or a difference of two sets. -/
  | combined (s t : CharSet)

namespace CharSet

def ofItems : List CharSet → CharSet
  | [] => empty
  | [s] => s
  | items => union items

/-- What operands make when they are combined from the left. -/
def ofOperands : List CharSet → CharSet
  | [] => empty
  | s :: operands => operands.foldl combined s

/-- An atom that may stand in a set. -/
def ofAtom? : Atom → Option CharSet
  | .literal l => some (literal l)
  | .letters negated => some (letters negated)
  | .any | .edge | .wordEdge => none

mutual

def depth : CharSet → Nat
  | empty | literal _ | range _ _ | named _ | letters _ => 0
  | bracketed _ s => s.depth + 1
  | union items => depthOfAll items + 1
  | combined s t => max s.depth t.depth + 1

def depthOfAll : List CharSet → Nat
  | [] => 0
  | s :: items => max s.depth (depthOfAll items)

end

end CharSet

end Pattern

/-- A pattern. A switch that stands by itself holds to the end of the group that it is in. -/
inductive Pattern where
  | empty
  | atom (a : Pattern.Atom)
  | set (s : Pattern.CharSet)
  | switch (w : Pattern.Switch)
  | group (name : Option String) (w : Pattern.Switch) (p : Pattern)
  | repeated (p : Pattern)
  | sequence (items : List Pattern)
  | alternation (branches : List Pattern)

namespace Pattern

def ofItems : List Pattern → Pattern
  | [] => empty
  | [p] => p
  | items => sequence items

def ofBranches : List Pattern → Pattern
  | [] => empty
  | [p] => p
  | branches => alternation branches

mutual

def depth : Pattern → Nat
  | empty | atom _ | switch _ => 0
  | set s => s.depth
  | group _ _ p | repeated p => p.depth + 1
  | sequence ps | alternation ps => depthOfAll ps + 1

def depthOfAll : List Pattern → Nat
  | [] => 0
  | p :: ps => max p.depth (depthOfAll ps)

end

mutual

def names : Pattern → List String
  | empty | atom _ | switch _ | set _ => []
  | group name _ p => name.toList ++ p.names
  | repeated p => p.names
  | sequence ps | alternation ps => namesOfAll ps

def namesOfAll : List Pattern → List String
  | [] => []
  | p :: ps => p.names ++ namesOfAll ps

end

end Pattern

end StepUp
