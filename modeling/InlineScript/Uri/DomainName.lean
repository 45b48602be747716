import InlineScript.Text.Utf8
import InlineScript.Unicode.Composition
import InlineScript.Unicode.NameMapping
import InlineScript.Unicode.Spelling
import InlineScript.Uri.Punycode

/-!
Names of machines in all scripts, and the plain letters they are asked for by. A name consists of
labels between dots, and each label has to keep rules of spelling.
-/

namespace InlineScript.DomainName

open Unicode (Direction)

/-- Plain characters that a name cannot have. -/
def isForbidden (char : Char) : Bool :=
  char.toNat ≤ 0x20 || char.toNat = 0x7F
    || ['%', '#', '/', ':', '<', '>', '?', '@', '[', '\\', ']', '^', '|'].contains char

/-! ## Joiners -/

/-- Keeps letters apart that would be joined. -/
def nonJoiner : Char := '\u200c'

/-- Joins letters that would stand apart. -/
def joiner : Char := '\u200d'

/-- Whether the first letter that is not transparent joins in one of the given ways. -/
def joins (ways : List Unicode.Joining) (text : List Char) : Bool :=
  match text.dropWhile fun char => Unicode.joining? char == some .transparent with
  | [] => false
  | char :: _ => (Unicode.joining? char).any ways.contains

/-- Whether joiners stand only where they make a difference: behind a mark that takes away a vowel,
or, for the one that keeps apart, between letters that would be joined. What was read before is given
last one first. -/
def joinersFit (before : List Char) : List Char → Bool
  | [] => true
  | char :: rest =>
      let behindMark := before.head?.any fun last => Unicode.markClass last == 9
      let fits :=
        if char = joiner then behindMark
        else if char = nonJoiner then
          behindMark || (joins [.left, .both] before && joins [.right, .both] rest)
        else true
      fits && joinersFit (char :: before) rest

/-! ## Directions -/

/-- Whether a text has characters that are written from right to left. -/
def isTwoWay (text : List Char) : Bool :=
  text.any fun char =>
    Unicode.direction char == .rightToLeft || Unicode.direction char == .innerDigit

/-- The direction of the last character that is no mark. -/
def lastDirection? (label : List Char) : Option Direction :=
  (label.reverse.map Unicode.direction).find? (· != .mark)

/-- Whether a label reads the same in a text of either direction. -/
def directionsFit (label : List Char) : Bool :=
  let directions := label.map Unicode.direction
  let holds (allowed : List Direction) : Bool := directions.all allowed.contains
  let endsWith (allowed : List Direction) : Bool := (lastDirection? label).any allowed.contains
  match directions.head? with
  | none => true
  | some .leftToRight =>
      holds [.leftToRight, .digit, .neutral, .mark] && endsWith [.leftToRight, .digit]
  | some .rightToLeft =>
      holds [.rightToLeft, .innerDigit, .digit, .neutral, .mark]
        && endsWith [.rightToLeft, .digit, .innerDigit]
        && !(directions.contains .digit && directions.contains .innerDigit)
  | some _ => false

/-! ## Labels -/

/-- A label as it is read and as it is asked for. -/
structure Label where
  shown : List Char
  plain : List Char
deriving Repr

/-- Marks the plain form of a label with other letters. -/
def encodedMark : List Char := ['x', 'n', '-', '-']

/-- Labels with other letters have so many characters at most. -/
def labelLimit : Nat := 1000

/-- The plain forms of such labels have so many letters at most behind their mark. -/
def codeLimit : Nat := 2000

/-- Whether a label is spelled as it may be. -/
def isSpelledWell (label : List Char) : Bool :=
  label.length ≤ labelLimit && !(label.head?.any Unicode.isMark) && joinersFit [] label

/-- The label that a plain form stands for. It has other letters, is in composed form, and would be
taken as it is. -/
def decoded? (label : List Char) : Option Label := do
  let code := label.drop encodedMark.length
  if code.isEmpty || codeLimit < code.length || code.getLast? == some '-' then
    none
  else
    let shown ← Punycode.decode? code
    if shown.all Unicode.isKept && Unicode.compose shown == shown && isSpelledWell shown then
      some { shown, plain := label }
    else
      none

def label? (label : List Char) : Option Label :=
  if encodedMark.isPrefixOf label then
    decoded? label
  else if label.all Punycode.isPlain then
    some { shown := label, plain := label }
  else if isSpelledWell label then
    some { shown := label, plain := encodedMark ++ Punycode.encode label }
  else
    none

/-! ## Names -/

/-- The plain form of a name that is given in bytes. -/
def plain? (bytes : List UInt8) : Option (List Char) := do
  let taken ← (Text.Utf8.decode bytes).mapM Unicode.taken?
  let name := Unicode.compose taken.flatten
  if name.any isForbidden then
    none
  else
    let labels ← (name.splitOn '.').mapM label?
    if labels.any (isTwoWay ·.shown) && !labels.all (directionsFit ·.shown) then none
    else some (['.'].intercalate (labels.map (·.plain)))

end InlineScript.DomainName
