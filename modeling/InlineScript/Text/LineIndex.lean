import InlineScript.Text.Bytes
import InlineScript.Text.Lines
import InlineScript.Text.Position

/-!
A line index maps byte offsets of a text to positions and back. An offset inside a character maps
to the position before the character. A column past the end of a line maps to the end of the line,
which is before its first carriage return or line feed, and a column inside a character to the
boundary after the character.
-/

namespace InlineScript.Text

/-- The pieces of a text, each with its line feed, so that they concatenate to the text. -/
structure LineIndex where
  pieces : List (List Char)
deriving Repr

namespace LineIndex

def ofText (text : List Char) : LineIndex where
  pieces := cutLines text

def lineCount (index : LineIndex) : Nat :=
  index.pieces.length

/-- Position of an offset counted from the first of the given pieces, which is line `line`. -/
def positionFrom (line : Nat) : List (List Char) → Nat → Position
  | [], _ => { line, character := 0 }
  | [last], offset => { line, character := unitLength (takeBytes offset last) }
  | piece :: next :: rest, offset =>
      if offset < byteLength piece then
        { line, character := unitLength (takeBytes offset piece) }
      else
        positionFrom (line + 1) (next :: rest) (offset - byteLength piece)

def positionAt (index : LineIndex) (offset : Nat) : Position :=
  positionFrom 0 index.pieces offset

/-- Byte offset of a column within one piece. -/
def columnOffset : List Char → Nat → Nat
  | [], _ => 0
  | c :: rest, column =>
      if column = 0 ∨ c = '\n' ∨ c = '\r' then
        0
      else
        c.utf8Size + columnOffset rest (column - unitSize c)

/-- Byte offset of a position, counted from the first of the given pieces. -/
def offsetFrom : List (List Char) → Nat → Nat → Nat
  | [], _, _ => 0
  | piece :: _, 0, column => columnOffset piece column
  | piece :: rest, line + 1, column => byteLength piece + offsetFrom rest line column

def offsetAt (index : LineIndex) (position : Position) : Nat :=
  offsetFrom index.pieces position.line position.character

end LineIndex

end InlineScript.Text
