/-!
# JSON values

A number is an integer that fits in 64 bits, with or without a sign, or a finite double. The
members of an object are listed in ascending order of their keys, each key once; this is what
`Canonical` says of a value and of everything inside it.
-/

namespace StepUp

/-- The integers that fit in a signed or an unsigned 64-bit word. -/
def InWordRange (n : Int) : Prop := -0x8000000000000000 ≤ n ∧ n < 0x10000000000000000

instance (n : Int) : Decidable (InWordRange n) := inferInstanceAs (Decidable (_ ∧ _))

inductive Number where
  | integer (n : Int) (range : InWordRange n)
  | float (x : Float) (finite : x.isFinite = true)

namespace Number

def ofInt? (n : Int) : Option Number :=
  if h : InWordRange n then some (.integer n h) else none

def ofFloat? (x : Float) : Option Number :=
  if h : x.isFinite = true then some (.float x h) else none

/-- An integer never equals a float, and `-0.0` equals `0.0`. -/
protected def beq : Number → Number → Bool
  | integer m _, integer n _ => m == n
  | float x _, float y _ => x == y
  | _, _ => false

instance : BEq Number := ⟨Number.beq⟩

def IsInteger : Number → Prop
  | integer .. => True
  | float .. => False

end Number

inductive Json where
  | null
  | bool (b : Bool)
  | number (n : Number)
  | string (s : String)
  | array (items : List Json)
  | object (members : List (String × Json))

namespace Json

mutual

protected def beq : Json → Json → Bool
  | .null, .null => true
  | .bool a, .bool b => a == b
  | .number m, .number n => m == n
  | .string s, .string t => s == t
  | .array xs, .array ys => beqItems xs ys
  | .object xs, .object ys => beqMembers xs ys
  | _, _ => false

def beqItems : List Json → List Json → Bool
  | [], [] => true
  | x :: xs, y :: ys => Json.beq x y && beqItems xs ys
  | _, _ => false

def beqMembers : List (String × Json) → List (String × Json) → Bool
  | [], [] => true
  | (k, x) :: xs, (l, y) :: ys => k == l && Json.beq x y && beqMembers xs ys
  | _, _ => false

end

instance : BEq Json := ⟨Json.beq⟩

def isNull : Json → Bool
  | .null => true
  | _ => false

def bool? : Json → Option Bool
  | .bool b => some b
  | _ => none

def string? : Json → Option String
  | .string s => some s
  | _ => none

def array? : Json → Option (List Json)
  | .array items => some items
  | _ => none

mutual

/-- Every object in the value lists its members by ascending key. -/
def Canonical : Json → Prop
  | .array items => CanonicalItems items
  | .object members => members.Pairwise (·.1 < ·.1) ∧ CanonicalMembers members
  | _ => True

def CanonicalItems : List Json → Prop
  | [] => True
  | v :: vs => Canonical v ∧ CanonicalItems vs

def CanonicalMembers : List (String × Json) → Prop
  | [] => True
  | (_, v) :: vs => Canonical v ∧ CanonicalMembers vs

end

mutual

/-- No number in the value is a float. -/
def IntegersOnly : Json → Prop
  | .number n => n.IsInteger
  | .array items => IntegersOnlyItems items
  | .object members => IntegersOnlyMembers members
  | _ => True

def IntegersOnlyItems : List Json → Prop
  | [] => True
  | v :: vs => IntegersOnly v ∧ IntegersOnlyItems vs

def IntegersOnlyMembers : List (String × Json) → Prop
  | [] => True
  | (_, v) :: vs => IntegersOnly v ∧ IntegersOnlyMembers vs

end

mutual

/-- How many arrays and objects stand inside one another. -/
def depth : Json → Nat
  | .array items => depthItems items + 1
  | .object members => depthMembers members + 1
  | _ => 0

def depthItems : List Json → Nat
  | [] => 0
  | v :: vs => max (depth v) (depthItems vs)

def depthMembers : List (String × Json) → Nat
  | [] => 0
  | (_, v) :: vs => max (depth v) (depthMembers vs)

end

end Json

end StepUp
