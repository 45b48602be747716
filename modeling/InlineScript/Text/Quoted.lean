import InlineScript.Unicode.Shown

/-!
Texts between quotes, with all that a reader could not see written out.
-/

namespace InlineScript.Text

/-- The digits of a number to the base sixteen. -/
def hexText (value : Nat) : List Char :=
  Nat.toDigits 16 value

/-- A character as it is written between quotes. -/
def shownChar (c : Char) : List Char :=
  match c with
  | '"' => ['\\', '"']
  | '\\' => ['\\', '\\']
  | '\n' => ['\\', 'n']
  | '\r' => ['\\', 'r']
  | '\t' => ['\\', 't']
  | '\x00' => ['\\', '0']
  | _ =>
      if Unicode.isHidden c then ['\\', 'u', '\x7b'] ++ hexText c.toNat ++ ['\x7d'] else [c]

/-- A text between quotes. -/
def quoted (text : String) : String :=
  "\"" ++ String.ofList (text.toList.flatMap shownChar) ++ "\""

end InlineScript.Text
