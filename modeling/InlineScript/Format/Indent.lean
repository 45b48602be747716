import InlineScript.Text.Lines

/-!
The indentation a text is written with. Each indented line counts for the difference from the line
before it, and the difference that occurs most often wins. Lines that repeat the indentation of the
line before decide between equals, then the smaller amount, then blanks before tabs. Indentation by
one blank counts only where there is no other.
-/

namespace InlineScript.Format

inductive IndentKind where
  | space
  | tab
deriving DecidableEq, Repr

namespace IndentKind

def char : IndentKind → Char
  | space => ' '
  | tab => '\t'

end IndentKind

/-- A unit of indentation. -/
structure Indent where
  kind : IndentKind
  amount : Nat
deriving DecidableEq, Repr

namespace Indent

def text (indent : Indent) : List Char :=
  List.replicate indent.amount indent.kind.char

/-- The kind and size of a line's indentation. -/
def ofLine? (line : List Char) : Option Indent :=
  match line with
  | ' ' :: _ => some ⟨.space, (line.takeWhile (· == ' ')).length⟩
  | '\t' :: _ => some ⟨.tab, (line.takeWhile (· == '\t')).length⟩
  | _ => none

end Indent

/-- How often a unit was seen: as a difference, and as a repetition behind it. -/
structure Tally where
  unit : Indent
  uses : Nat
  weight : Nat
deriving DecidableEq, Repr

namespace Tally

/-- Whether one unit is preferred to another. -/
def beats (first second : Tally) : Bool :=
  if first.uses ≠ second.uses then second.uses < first.uses
  else if first.weight ≠ second.weight then second.weight < first.weight
  else if first.unit.amount ≠ second.unit.amount then first.unit.amount < second.unit.amount
  else first.unit.kind = .space ∧ second.unit.kind = .tab

/-- Adds to the tally of a unit. -/
def add (unit : Indent) (uses weight : Nat) : List Tally → List Tally
  | [] => [{ unit, uses, weight }]
  | tally :: rest =>
      if tally.unit = unit then
        { tally with uses := tally.uses + uses, weight := tally.weight + weight } :: rest
      else
        tally :: add unit uses weight rest

/-- The preferred one. -/
def best? (tallies : List Tally) : Option Tally :=
  tallies.foldl
    (fun best tally =>
      match best with
      | none => some tally
      | some other => if tally.beats other then some tally else some other)
    none

end Tally

/-- What is known behind a line: its indentation, the unit seen last, and the tallies. -/
structure IndentScan where
  previous : Option Indent
  unit : Option Indent
  tallies : List Tally

namespace IndentScan

def start : IndentScan where
  previous := none
  unit := none
  tallies := []

/-- The size to compare with: that of the line before, if it was of the same kind. -/
def previousSize (scan : IndentScan) (kind : IndentKind) : Nat :=
  match scan.previous with
  | some indent => if indent.kind = kind then indent.amount else 0
  | none => 0

/-- One line. With `skipSingle`, lines indented by one blank are passed over. -/
def step (skipSingle : Bool) (scan : IndentScan) (line : List Char) : IndentScan :=
  if line.isEmpty then
    scan
  else
    match Indent.ofLine? line with
    | none => { scan with previous := none }
    | some indent =>
        if skipSingle && indent.kind = .space && indent.amount = 1 then
          scan
        else
          let size := scan.previousSize indent.kind
          let difference := (indent.amount - size) + (size - indent.amount)
          if difference = 0 then
            { scan with
              previous := some indent
              tallies :=
                match scan.unit with
                | none => scan.tallies
                | some unit => Tally.add unit 0 1 scan.tallies }
          else
            { previous := some indent
              unit := some ⟨indent.kind, difference⟩
              tallies := Tally.add ⟨indent.kind, difference⟩ 1 0 scan.tallies }

end IndentScan

/-- The tallies of all lines. -/
def tallies (skipSingle : Bool) (lines : List (List Char)) : List Tally :=
  (lines.foldl (IndentScan.step skipSingle) .start).tallies

/-- The unit of indentation of a text, if any line is indented. -/
def detectIndent? (text : List Char) : Option Indent :=
  let lines := Text.lines text
  let counted := tallies true lines
  (Tally.best? (if counted.isEmpty then tallies false lines else counted)).map (·.unit)

end InlineScript.Format
