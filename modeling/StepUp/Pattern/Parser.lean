import StepUp.Pattern.Basic
import StepUp.Text.Alphanumeric
import StepUp.Text.Blank

/-!
# Reading patterns

A pattern is read from its text. Where spacing is free, blanks and comments between its parts mean
nothing. A closing brace never occurs in a text, so none of the notations with braces does.
-/

namespace StepUp.Pattern

open Text (isBlank isAlphabetic isAlphanumeric)

/-- How many compound patterns and sets may stand inside one another. -/
def maxDepth : Nat := 250

/-- Reads something at the beginning of a text, if it is there, and gives the rest. -/
abbrev Scanner (α : Type) := List Char → Option (α × List Char)

/-- Skips blanks and comments. A comment begins with a number sign and ends with its line. -/
def skipRemarks : (inComment : Bool) → List Char → List Char
  | _, [] => []
  | true, c :: s => skipRemarks (c != '\n') s
  | false, c :: s =>
    if isBlank c then skipRemarks false s
    else if c == '#' then skipRemarks true s
    else c :: s

def skipSpace (spaced : Bool) (s : List Char) : List Char :=
  if spaced then skipRemarks false s else s

/-- Letters after a backslash that stand for control characters. -/
def controls : List (Char × Char) :=
  [('a', '\x07'), ('f', '\x0C'), ('t', '\t'), ('n', '\n'), ('r', '\r'), ('v', '\x0B')]

/-- What a single character after a backslash stands for: itself, if it is an ASCII character but
no letter or digit. -/
def escapedAtom? (c : Char) : Option Atom :=
  if ['d', 's', 'w'].contains c then some (.letters false)
  else if ['D', 'S', 'W'].contains c then some (.letters true)
  else if ['A', 'z'].contains c then some .edge
  else if ['b', 'B', '<', '>'].contains c then some .wordEdge
  else
    match controls.lookup c with
    | some control => some (.literal ⟨control, false⟩)
    | none => if c.toNat < 0x80 && !c.isAlphanum then some (.literal ⟨c, false⟩) else none

def hexLength? : Char → Option Nat
  | 'x' => some 2
  | 'u' => some 4
  | 'U' => some 8
  | _ => none

def hexDigit? (c : Char) : Option Nat :=
  if '0' ≤ c ∧ c ≤ '9' then some (c.toNat - '0'.toNat)
  else if 'a' ≤ c ∧ c ≤ 'f' then some (c.toNat - 'a'.toNat + 10)
  else if 'A' ≤ c ∧ c ≤ 'F' then some (c.toNat - 'A'.toNat + 10)
  else none

def scanHex (spaced : Bool) : (length value : Nat) → Scanner Nat
  | 0, value, s => some (value, s)
  | length + 1, value, s =>
    match skipSpace spaced s with
    | [] => none
    | c :: s => do scanHex spaced length (16 * value + (← hexDigit? c)) s

def scanEscape (spaced : Bool) : Scanner Atom
  | [] => none
  | c :: s =>
    match hexLength? c with
    | none => do return (← escapedAtom? c, s)
    | some length => do
      let (value, s) ← scanHex spaced length 0 s
      if value.isValidChar then return (.literal ⟨Char.ofNat value, c == 'x'⟩, s) else none

def setNames : List String :=
  ["alnum", "alpha", "ascii", "blank", "cntrl", "digit", "graph", "lower", "print", "punct",
    "space", "upper", "word", "xdigit"]

/-- Reads a named set between colons, after the first of its brackets. -/
def scanNamed : Scanner CharSet
  | ':' :: s =>
    let (negated, s) := match s with
      | '^' :: s => (true, s)
      | s => (false, s)
    let name := s.takeWhile (· != ':')
    match s.drop name.length with
    | ':' :: ']' :: s =>
      if setNames.contains (String.ofList name) then some (.named negated, s) else none
    | _ => none
  | _ => none

/-- The character that is taken to follow a hyphen. In a comment it is the first that is no
blank. -/
def following? (spaced : Bool) (s : List Char) : Option Char :=
  if spaced then
    match s.dropWhile isBlank with
    | '#' :: s => (s.dropWhile isBlank).head?
    | s => s.head?
  else s.head?

/-- Reads an escape or any other character of a set. -/
def scanSetAtom (spaced : Bool) : Scanner Atom
  | [] => none
  | '\\' :: s => scanEscape spaced s
  | c :: s => some (.literal ⟨c, false⟩, s)

def range? : Atom → Atom → Option CharSet
  | .literal first, .literal last =>
    if first.char ≤ last.char then some (.range first last) else none
  | _, _ => none

/-- Reads an atom or a range. A hyphen before another one or before a bracket makes no range. -/
def scanSetItem (spaced : Bool) : Scanner CharSet := fun s => do
  let (first, s) ← scanSetAtom spaced s
  match skipSpace spaced s with
  | '-' :: s =>
    match following? spaced s with
    | some ']' | some '-' => return (← CharSet.ofAtom? first, '-' :: s)
    | _ =>
      let (last, s) ← scanSetAtom spaced (skipSpace spaced s)
      return (← range? first last, s)
  | s => return (← CharSet.ofAtom? first, s)

/-- Reads the hyphens that a set begins with, at most the given number of them. -/
def scanHyphens (spaced : Bool) : Nat → List Char → List CharSet × List Char
  | 0, s => ([], s)
  | n + 1, s =>
    match skipSpace spaced s with
    | '-' :: s =>
      let (hyphens, s) := scanHyphens spaced n s
      (.literal ⟨'-', false⟩ :: hyphens, s)
    | s => ([], s)

/-- Reads what a set begins with, after its bracket: whether it is negated, and hyphens or a closing
bracket that stand for themselves. -/
def scanSetOpening (spaced : Bool) (s : List Char) : (Bool × List CharSet) × List Char :=
  let (negated, s) := match skipSpace spaced s with
    | '^' :: s => (true, s)
    | s => (false, s)
  match scanHyphens spaced s.length s with
  | ([], ']' :: s) => ((negated, [.literal ⟨']', false⟩]), s)
  | (hyphens, s) => ((negated, hyphens), s)

/-- Reads the operands of a set up to its closing bracket, in at most the given number of steps. The
items of the first operand that have been read come with the last of them first. -/
def scanOperands (spaced : Bool) : Nat → List CharSet → Scanner (List CharSet)
  | 0, _, _ => none
  | n + 1, items, s =>
    match skipSpace spaced s with
    | ']' :: s => some ([.ofItems items.reverse], s)
    | '&' :: '&' :: s | '-' :: '-' :: s | '~' :: '~' :: s => do
      let (operands, s) ← scanOperands spaced n [] s
      return (.ofItems items.reverse :: operands, s)
    | '[' :: s =>
      match scanNamed s with
      | some (item, s) => scanOperands spaced n (item :: items) s
      | none => do
        let ((negated, opening), s) := scanSetOpening spaced s
        let (operands, s) ← scanOperands spaced n opening s
        scanOperands spaced n (.bracketed negated (.ofOperands operands) :: items) s
    | s => do
      let (item, s) ← scanSetItem spaced s
      scanOperands spaced n (item :: items) s

/-- Reads a set, after its opening bracket. -/
def scanSet (spaced : Bool) : Scanner CharSet := fun s => do
  let ((negated, opening), s) := scanSetOpening spaced s
  let (operands, s) ← scanOperands spaced (s.length + 1) opening s
  return (.bracketed negated (.ofOperands operands), s)

/-- Reads letters of flags to be turned on and, after a hyphen, of flags to be turned off; each flag
may occur once. -/
def Switch.ofLetters? (letters : List Char) : Option Switch := do
  let (on, off) ← match letters.splitOn '-' with
    | [on] => some (on, [])
    | [on, off] => if off.isEmpty then none else some (on, off)
    | _ => none
  let on ← on.mapM Flag.ofLetter?
  let off ← off.mapM Flag.ofLetter?
  if (on ++ off).Nodup then return ⟨on, off⟩ else none

inductive Opening where
  | switch (w : Switch)
  | group (name : Option String) (w : Switch)

def isName : List Char → Bool
  | [] => false
  | c :: s =>
    (c == '_' || isAlphabetic c) && s.all fun c => ['_', '.', '[', ']'].contains c || isAlphanumeric c

def scanName : Scanner Opening := fun s =>
  let name := s.takeWhile (· != '>')
  match s.drop name.length with
  | '>' :: s => if isName name then some (.group (some (String.ofList name)) .idle, s) else none
  | _ => none

/-- Reads letters of flags: those of a group before a colon, and a switch before a closing
parenthesis. -/
def scanFlags : Scanner Opening := fun s =>
  let letters := s.takeWhile fun c => c != ':' && c != ')'
  match s.drop letters.length with
  | ':' :: s => do return (.group none (← Switch.ofLetters? letters), s)
  | ')' :: s =>
    if letters.isEmpty then none else do return (.switch (← Switch.ofLetters? letters), s)
  | _ => none

def scanOpening (spaced : Bool) : Scanner Opening := fun s =>
  match skipSpace spaced s with
  | '?' :: 'P' :: '<' :: s => scanName s
  | '?' :: '<' :: s => scanName s
  | '?' :: s => scanFlags s
  | s => some (.group none .idle, s)

/-- Reads the branches of a pattern up to a closing parenthesis or the end, in at most the given
number of steps. The items of the first branch that have been read come with the last of them
first. -/
def scanBranches : Nat → (spaced : Bool) → List Pattern → Scanner (List Pattern)
  | 0, _, _, _ => none
  | n + 1, spaced, items, s =>
    match skipSpace spaced s with
    | [] => some ([ofItems items.reverse], [])
    | ')' :: s => some ([ofItems items.reverse], ')' :: s)
    | '|' :: s => do
      let (branches, s) ← scanBranches n spaced [] s
      return (ofItems items.reverse :: branches, s)
    | '(' :: s =>
      match scanOpening spaced s with
      | none => none
      | some (.switch w, s) => scanBranches n (w.apply .freeSpacing spaced) (switch w :: items) s
      | some (.group name w, s) =>
        match scanBranches n (w.apply .freeSpacing spaced) [] s with
        | some (branches, ')' :: s) =>
          scanBranches n spaced (group name w (ofBranches branches) :: items) s
        | _ => none
    | '[' :: s => do
      let (chars, s) ← scanSet spaced s
      scanBranches n spaced (set chars :: items) s
    | '?' :: s | '*' :: s | '+' :: s =>
      match items with
      | [] | switch _ :: _ => none
      | p :: items =>
        let s := match s with
          | '?' :: s => s
          | s => s
        scanBranches n spaced (repeated p :: items) s
    | '{' :: _ => none
    | '\\' :: s => do
      let (a, s) ← scanEscape spaced s
      scanBranches n spaced (atom a :: items) s
    | '.' :: s => scanBranches n spaced (atom .any :: items) s
    | '^' :: s | '$' :: s => scanBranches n spaced (atom .edge :: items) s
    | c :: s => scanBranches n spaced (atom (.literal ⟨c, false⟩) :: items) s

/-- The pattern that a text writes. No two groups may have one name. -/
def ofText? (text : List Char) : Option Pattern :=
  match scanBranches (text.length + 1) false [] text with
  | some (branches, []) =>
    let p := ofBranches branches
    if p.depth ≤ maxDepth ∧ p.names.Nodup then some p else none
  | _ => none

end StepUp.Pattern
