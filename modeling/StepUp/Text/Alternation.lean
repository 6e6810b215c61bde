/-!
# Sets of characters as alternations

A set of characters that come in runs is told by the code points at which membership changes: the
characters from the first to below the second belong to it, those from there to below the third do
not, and so on.
-/

namespace StepUp.Text

/-- Whether a character belongs to the set that changes at the given ascending code points. -/
def alternates (changes : List Nat) (c : Char) : Bool :=
  (changes.takeWhile (· ≤ c.toNat)).length % 2 = 1

end StepUp.Text
