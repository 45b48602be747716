/-!
Lines of a text. A line ends at a line feed; a carriage return is an ordinary character, except
that one directly before the line feed belongs to the terminator.
-/

namespace InlineScript.Text

/-- The text cut after each line feed. The last piece holds none and may be empty. -/
def cutLines : List Char → List (List Char)
  | [] => [[]]
  | c :: rest =>
      if c = '\n' then
        ['\n'] :: cutLines rest
      else
        match cutLines rest with
        | [] => [[c]]
        | line :: lines => (c :: line) :: lines

/-- A piece without its line feed. -/
def dropLineFeed (line : List Char) : List Char :=
  if line.getLast? = some '\n' then line.dropLast else line

/-- A piece without its terminator. -/
def dropTerminator (line : List Char) : List Char :=
  if line.getLast? = some '\n' then
    let body := line.dropLast
    if body.getLast? = some '\r' then body.dropLast else body
  else
    line

/-- The lines of a text without their terminators. A final line feed opens no further line. -/
def lines (text : List Char) : List (List Char) :=
  let pieces := cutLines text
  let whole := if pieces.getLast? = some [] then pieces.dropLast else pieces
  whole.map dropTerminator

/-- The text split at each line feed. -/
def splitLines (text : List Char) : List (List Char) :=
  (cutLines text).map dropLineFeed

/-- Lines joined by line feeds. -/
def joinLines : List (List Char) → List Char
  | [] => []
  | [line] => line
  | line :: rest => line ++ '\n' :: joinLines rest

theorem cutLines_ne_nil (text : List Char) : cutLines text ≠ [] := by
  cases text with
  | nil => simp [cutLines]
  | cons c rest =>
      simp only [cutLines]
      split
      · simp
      · split <;> simp

theorem flatten_cutLines (text : List Char) : (cutLines text).flatten = text := by
  induction text with
  | nil => rfl
  | cons c rest ih =>
      simp only [cutLines]
      split
      next feed => simp [ih, feed]
      next =>
        split
        next empty => exact absurd empty (cutLines_ne_nil rest)
        next line lines cut =>
          rw [cut] at ih
          simpa using ih

end InlineScript.Text
