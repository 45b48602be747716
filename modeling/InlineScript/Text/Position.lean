/-!
Positions and ranges of a text as editors count them: zero-based lines, columns in UTF-16 units.
-/

namespace InlineScript.Text

structure Position where
  line : Nat
  character : Nat
deriving DecidableEq, Repr, Inhabited

namespace Position

/-- Reading order: by line, then by column. -/
instance : LE Position where
  le p q := p.line < q.line ∨ p.line = q.line ∧ p.character ≤ q.character

instance : LT Position where
  lt p q := p.line < q.line ∨ p.line = q.line ∧ p.character < q.character

instance (p q : Position) : Decidable (p ≤ q) :=
  inferInstanceAs (Decidable (p.line < q.line ∨ p.line = q.line ∧ p.character ≤ q.character))

instance (p q : Position) : Decidable (p < q) :=
  inferInstanceAs (Decidable (p.line < q.line ∨ p.line = q.line ∧ p.character < q.character))

/-- Positions in reading order. -/
def sort (positions : List Position) : List Position :=
  positions.mergeSort (fun p q => decide (p ≤ q))

end Position

/-- A stretch of text; `stop` is not part of it. -/
structure Range where
  start : Position
  stop : Position
deriving DecidableEq, Repr, Inhabited

namespace Range

def contains (range : Range) (position : Position) : Bool :=
  decide (range.start ≤ position) && decide (position < range.stop)

def isEmpty (range : Range) : Bool :=
  range.start == range.stop

end Range

end InlineScript.Text
