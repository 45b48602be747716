/-!
Spans: stretches of a text by byte offset and length.
-/

namespace InlineScript.Text

structure Span where
  start : Nat
  length : Nat
deriving DecidableEq, Repr, Inhabited

namespace Span

/-- The span between two offsets; empty when they are reversed. -/
def ofBounds (start stop : Nat) : Span where
  start := start
  length := stop - start

def stop (span : Span) : Nat :=
  span.start + span.length

end Span

end InlineScript.Text
