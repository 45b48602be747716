import InlineScript.Json.Token
import InlineScript.Text.Utf8

/-!
Percent signs in URIs: a byte that may not stand for itself is written with its value.
-/

namespace InlineScript.Uri

/-- The digit for a value below sixteen. -/
def hexDigit (value : Nat) : Char :=
  if value < 10 then Char.ofNat ('0'.toNat + value) else Char.ofNat ('A'.toNat + value - 10)

def escapeByte (byte : UInt8) : List Char :=
  ['%', hexDigit (byte.toNat / 16), hexDigit (byte.toNat % 16)]

/-- Writes the characters that are not `plain` by the values of their bytes. -/
def escape (plain : Char → Bool) (text : List Char) : List Char :=
  text.flatMap fun char =>
    if plain char then [char] else (Text.Utf8.encode [char]).flatMap escapeByte

/-- The bytes of a text in which some are written by their values. -/
def escapedBytes : List Char → List UInt8
  | '%' :: high :: low :: rest =>
      match Json.Token.hexValue? high, Json.Token.hexValue? low with
      | some first, some second => UInt8.ofNat (first * 16 + second) :: escapedBytes rest
      | _, _ => '%'.toUInt8 :: escapedBytes (high :: low :: rest)
  | char :: rest => Text.Utf8.encode [char] ++ escapedBytes rest
  | [] => []

/-- Characters that can be printed, of the smallest set. -/
def isPrintable (char : Char) : Bool :=
  0x20 ≤ char.toNat && char.toNat ≤ 0x7E

/-- Characters that stand for themselves in a fragment. -/
def plainInFragment (char : Char) : Bool :=
  isPrintable char && !([' ', '"', '<', '>', '\x60'].contains char)

/-- Characters that stand for themselves in a path. -/
def plainInPath (char : Char) : Bool :=
  plainInFragment char && !(['#', '?', '\x7b', '\x7d'].contains char)

/-- Characters that stand for themselves in a user's name. -/
def plainInUser (char : Char) : Bool :=
  plainInPath char && !(['/', ':', ';', '=', '@', '[', '\\', ']', '^', '|'].contains char)

/-- Characters that stand for themselves in a query. -/
def plainInQuery (isSpecial : Bool) (char : Char) : Bool :=
  isPrintable char && !([' ', '"', '#', '<', '>'].contains char) && !(isSpecial && char == '\'')

end InlineScript.Uri
