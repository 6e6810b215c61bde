import StepUp.Log.Condition
import StepUp.Log.Event
import StepUp.Text.Utf8

/-!
# Which events are logged

A filter is written as directives between commas: a level for all events, or a target with a level
for the events whose target begins with it. The most specific directive that applies to an event
decides, and an event to which none applies is not logged.
-/

namespace StepUp.Log

/-- The most detailed level that is let through, if any is. -/
abbrev Limit := Option Level

namespace Limit

def lets (limit : Limit) (level : Level) : Bool := limit.any fun l => level.detail ≤ l.detail

def numbered : List Limit := [none, some .error, some .warn, some .info, some .debug, some .trace]

def words : List (String × Limit) :=
  [("off", none), ("error", some .error), ("warn", some .warn), ("info", some .info),
    ("debug", some .debug), ("trace", some .trace)]

def number? (s : List Char) : Option Nat :=
  let digits := match s with
    | '+' :: rest => rest
    | s => s
  if digits.isEmpty || !digits.all Char.isDigit then none
  else some (digits.foldl (fun n c => 10 * n + (c.toNat - '0'.toNat)) 0)

/-- The limit that a number or a word in any case stands for. -/
def ofText? (s : List Char) : Option Limit :=
  match (number? s).bind (numbered[·]?) with
  | some limit => some limit
  | none => words.lookup (String.ofList (s.map Char.toLower))

end Limit

/-- A directive that can apply to events: to those of its target, and only to those that carry its
detail. -/
structure Rule where
  target : Option String
  detail : Option String
  limit : Limit
deriving DecidableEq

namespace Rule

/-- The name under which every event carries its message. -/
def messageName : String := "message"

def appliesTo (r : Rule) (e : Event) : Bool :=
  r.target.all (·.toList.isPrefixOf e.target.toList) &&
    r.detail.all fun name => name == messageName || e.details.any (·.1 == name)

/-- What makes a rule specific: a long target, then a detail. No detail has an empty name. -/
def rank (r : Rule) : Nat × String :=
  (match r.target with
    | some t => t.length + 1
    | none => 0,
  r.detail.getD "")

def outranks (r s : Rule) : Bool :=
  s.rank.1 < r.rank.1 || (s.rank.1 == r.rank.1 && s.rank.2 ≤ r.rank.2)

end Rule

/-- What a directive says: nothing about events outside spans, or a rule for them. -/
abbrev Directive := Option Rule

namespace Directive

open Text (isBlank)
open Text.Utf8 (encode decode?)

/-- The parts of a directive: a word, a span's name and a condition in brackets, and a level. -/
structure Parts where
  word : List Char
  span : Option (List Char × Option (List Char))
  level : Option (List Char)

def canBegin (c : Char) : Bool := Text.isAlphanumeric c || c == '-' || c == ':' || c == '_'

/-- Reads a level: nothing, or what follows an equals sign. -/
def level? : List Char → Option (Option (List Char))
  | [] => some none
  | '=' :: s => some (some s)
  | _ => none

/-- Reads what follows an opening bracket. -/
def bracketed? (word s : List Char) : Option Parts :=
  let name := s.takeWhile fun c => c != ']' && c != '{'
  match s.drop name.length with
  | ']' :: s => do return ⟨word, some (name, none), ← level? s⟩
  | '{' :: s =>
    let condition := s.takeWhile (· != '}')
    match s.drop condition.length with
    | '}' :: ']' :: s =>
      if condition.isEmpty then none
      else do return ⟨word, some (name, some condition), ← level? s⟩
    | _ => none
  | _ => none

def parts? : List Char → Option Parts
  | [] => none
  | '[' :: s => bracketed? [] s
  | c :: s =>
    if canBegin c then
      let word := (c :: s).takeWhile fun c => c != '=' && c != '['
      match (c :: s).drop word.length with
      | '[' :: s => bracketed? word s
      | s => do return ⟨word, none, ← level? s⟩
    else none

def limit? : Option (List Char) → Option Limit
  | none | some [] => some (some .trace)
  | some level => Limit.ofText? level

/-- A word of its own is a level or a target. A span's name, or a condition on a value, concerns
spans alone. -/
def ofParts? (p : Parts) : Option Directive := do
  let limit ← limit? p.level
  let target := if p.word.isEmpty then none else some (String.ofList p.word)
  match p.span, p.level with
  | none, some _ => return some ⟨target, none, limit⟩
  | none, none =>
    match Limit.ofText? p.word with
    | some limit => return some ⟨none, none, limit⟩
    | none => return some ⟨target, none, limit⟩
  | some ([], some condition), _ =>
    if (Condition.value? condition).isSome then return none
    else return some ⟨target, some (String.ofList condition), limit⟩
  | some _, _ => return none

/-- How many bytes of a directive stand before its condition. -/
def Parts.conditionStart (p : Parts) : Nat :=
  match p.span with
  | some (name, some _) => (encode p.word).length + (encode name).length + 2
  | _ => 0

/-- What is taken for the condition of a directive. Blanks that lead the directive shift it; where
that would cut a character there is none. -/
def Parts.conditionIn? (p : Parts) (directive : List Char) : Option String :=
  match p.span with
  | some (_, some condition) =>
    decode? (((encode directive).drop p.conditionStart).take (encode condition).length)
  | _ => some ""

/-- Reads a directive, the condition of which has to be sound. Blanks around it spoil a level and
make a word a target that no event has; before a bracket they make it a directive about no event. -/
def parse? (s : List Char) : Option Directive := do
  let led := s.dropWhile isBlank
  let bare := (led.reverse.dropWhile isBlank).reverse
  let p ← parts? bare
  let directive ← ofParts? p
  let condition ← p.conditionIn? s
  if !Condition.isSound condition.toList then none
  else if bare.length = s.length then return directive
  else if p.level.isSome then none
  else if led.length = s.length ∧ p.span.isSome then return directive
  else return none

end Directive

/-- A filter is its rules; an event that none of them applies to is not let through. -/
structure Filter where
  rules : List Rule

namespace Filter

def errorsOnly : Rule := ⟨none, none, some .error⟩

def directives? (s : String) : Option (List Directive) :=
  let parts := (s.toList.splitOn ',').filter (!·.isEmpty)
  parts.mapM Directive.parse?

def parse? (s : String) : Option Filter :=
  (directives? s).map fun directives =>
    if directives.isEmpty then ⟨[errorsOnly]⟩ else ⟨directives.filterMap id⟩

/-- The rule that decides about an event; of rules as specific as one another the last. -/
def ruleFor? (f : Filter) (e : Event) : Option Rule :=
  (f.rules.filter (·.appliesTo e)).foldl
    (fun best r => if best.all r.outranks then some r else best) none

def lets (f : Filter) (e : Event) : Bool := (f.ruleFor? e).any (·.limit.lets e.level)

end Filter

end StepUp.Log
