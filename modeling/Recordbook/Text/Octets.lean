/-!
# Sizes in octets

The size of a text in octets of its usual encoding, and the ends of a text that fit so many octets.
No character is ever cut.
-/

namespace Recordbook

namespace Text

/-- The number of octets of some characters. -/
def octets : List Char → Nat
  | [] => 0
  | c :: cs => c.utf8Size + octets cs

/-- The longest start that has no more than so many octets. -/
def takeOctets (n : Nat) : List Char → List Char
  | [] => []
  | c :: cs => if c.utf8Size ≤ n then c :: takeOctets (n - c.utf8Size) cs else []

/-- The longest end that has no more than so many octets. -/
def takeLastOctets (n : Nat) (cs : List Char) : List Char := (takeOctets n cs.reverse).reverse

end Text

end Recordbook
