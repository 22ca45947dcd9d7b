import OAuthEndpoint.Text.Ascii
import OAuthEndpoint.Text.Pieces

/-! Sets of characters as ranges of code points.  Tables write them as words of hexadecimal digits
with blanks and line ends between: `41` for one code point, `41-5A` for a range. -/

namespace OAuthEndpoint.Text

/-- The words of a table. -/
def words (text : String) : List (List Char) :=
  (split (fun c => c == ' ' || c == '\n') text.toList).filter fun word => !word.isEmpty

structure Ranges where
  ranges : Array (Nat × Nat)
deriving Repr

namespace Ranges

/-- The first and last code point of a word. -/
def ofWord (word : List Char) : Nat × Nat :=
  match cut (· == '-') word with
  | (first, some last) => (numeral 16 first, numeral 16 last)
  | (only, none) => (numeral 16 only, numeral 16 only)

def parse (text : String) : Ranges := ⟨((words text).map ofWord).toArray⟩

def contains (ranges : Ranges) (c : Char) : Bool :=
  ranges.ranges.any fun range => range.1 ≤ c.toNat && c.toNat ≤ range.2

end Ranges

end OAuthEndpoint.Text
