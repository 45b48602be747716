import InlineScript.Json.Number

/-!
Tokens of a JSON text. Strings are kept as pieces, so that an escaped code unit that is no
character by itself can stand in a text whose value nobody asks for.
-/

namespace InlineScript.Json

/-- A character of a string, or a code unit written as an escape. -/
inductive Piece where
  | char (c : Char)
  | unit (code : Nat)
deriving DecidableEq, Repr

inductive Token where
  | openBrace
  | closeBrace
  | openBracket
  | closeBracket
  | colon
  | comma
  | null
  | bool (value : Bool)
  | number (number : Number)
  | string (pieces : List Piece)
deriving DecidableEq, Repr

namespace Token

/-- Where the reader stands between two characters. Collected parts have the last one first. -/
inductive State where
  | between
  | word (letters : List Char)
  | text (pieces : List Piece)
  | escape (pieces : List Piece)
  | hex (pieces : List Piece) (missing : Nat) (value : Nat)

/-- Letters, digits and signs, of which numbers and constants consist. -/
def isWordPart (c : Char) : Bool :=
  c.isAlphanum || c == '+' || c == '-' || c == '.'

/-- The token a word stands for. -/
def ofWord? (letters : List Char) : Option Token :=
  match letters with
  | ['n', 'u', 'l', 'l'] => some null
  | ['t', 'r', 'u', 'e'] => some (bool true)
  | ['f', 'a', 'l', 's', 'e'] => some (bool false)
  | _ => (Number.ofChars? letters).map number

/-- What a character outside words and strings does: the tokens it completes and the next state. -/
def start? (c : Char) : Option (List Token × State) :=
  match c with
  | ' ' | '\t' | '\n' | '\r' => some ([], .between)
  | '\x7b' => some ([openBrace], .between)
  | '\x7d' => some ([closeBrace], .between)
  | '[' => some ([openBracket], .between)
  | ']' => some ([closeBracket], .between)
  | ':' => some ([colon], .between)
  | ',' => some ([comma], .between)
  | '"' => some ([], .text [])
  | _ => if isWordPart c then some ([], .word [c]) else none

/-- The character a one-letter escape stands for. -/
def escaped? : Char → Option Char
  | '"' => some '"'
  | '\\' => some '\\'
  | '/' => some '/'
  | 'b' => some '\x08'
  | 'f' => some '\x0c'
  | 'n' => some '\n'
  | 'r' => some '\r'
  | 't' => some '\t'
  | _ => none

def hexValue? (c : Char) : Option Nat :=
  if c.isDigit then some (c.toNat - '0'.toNat)
  else if 'a' ≤ c ∧ c ≤ 'f' then some (c.toNat - 'a'.toNat + 10)
  else if 'A' ≤ c ∧ c ≤ 'F' then some (c.toNat - 'A'.toNat + 10)
  else none

/-- One character: the tokens it completes and the next state, or nothing where no JSON text has
such a character. -/
def step? : State → Char → Option (List Token × State)
  | .between, c => start? c
  | .word letters, c =>
      if isWordPart c then
        some ([], .word (c :: letters))
      else do
        let token ← ofWord? letters.reverse
        let (tokens, state) ← start? c
        return (token :: tokens, state)
  | .text pieces, c =>
      if c = '"' then some ([string pieces.reverse], .between)
      else if c = '\\' then some ([], .escape pieces)
      else if c.toNat < 0x20 then none
      else some ([], .text (.char c :: pieces))
  | .escape pieces, c =>
      if c = 'u' then some ([], .hex pieces 4 0)
      else (escaped? c).map fun plain => ([], .text (.char plain :: pieces))
  | .hex pieces missing value, c => do
      let digit ← hexValue? c
      let next := value * 16 + digit
      if missing ≤ 1 then some ([], .text (.unit next :: pieces))
      else some ([], .hex pieces (missing - 1) next)

/-- The tokens of a text from a state on. -/
def readFrom? : State → List Char → Option (List Token)
  | .between, [] => some []
  | .word letters, [] => (ofWord? letters.reverse).map ([·])
  | _, [] => none
  | state, c :: rest => do
      let (tokens, next) ← step? state c
      let more ← readFrom? next rest
      return tokens ++ more

/-- The tokens of a JSON text. -/
def read? (text : List Char) : Option (List Token) :=
  readFrom? .between text

end Token

end InlineScript.Json
