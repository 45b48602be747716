import InlineScript.Script.Dialect

/-!
Attributes of an opening tag. They are searched for: what is no part of an attribute is passed
over. A value stands behind `=`, with blanks allowed around it, and is quoted either way or a run of
plain characters. An attribute whose value is not well formed has none.
-/

namespace InlineScript.Markup

def isNameStart (c : Char) : Bool :=
  c.isAlpha || c == '_' || c == ':'

def isNamePart (c : Char) : Bool :=
  isNameStart c || c.isDigit || c == '-' || c == '.'

/-- Characters of an unquoted value. -/
def isPlain (c : Char) : Bool :=
  !(Text.isBlank c || c == '"' || c == '\'' || c == '=' || c == '<' || c == '>' || c == '\x60')

/-- A text up to the given quote, and what follows the quote. -/
def quoted? (mark : Char) (text : List Char) : Option (List Char × List Char) :=
  match text.dropWhile (· != mark) with
  | [] => none
  | _ :: rest => some (text.takeWhile (· != mark), rest)

/-- The value at the start of a text, and what follows it. -/
def bareValue? (text : List Char) : Option (List Char × List Char) :=
  match text with
  | '"' :: rest => quoted? '"' rest
  | '\'' :: rest => quoted? '\'' rest
  | _ => if (text.takeWhile isPlain).isEmpty then none
      else some (text.takeWhile isPlain, text.dropWhile isPlain)

/-- The value behind `=` at the start of a text, and what follows it. -/
def value? (text : List Char) : Option (List Char × List Char) :=
  match Text.trimStart text with
  | '=' :: rest => bareValue? (Text.trimStart rest)
  | _ => none

theorem length_dropWhile_le (p : Char → Bool) (text : List Char) :
    (text.dropWhile p).length ≤ text.length :=
  (List.dropWhile_sublist p).length_le

theorem quoted?_length {mark : Char} {text value rest : List Char}
    (found : quoted? mark text = some (value, rest)) : rest.length ≤ text.length := by
  have bound := length_dropWhile_le (· != mark) text
  unfold quoted? at found
  split at found
  next => contradiction
  next head tail remaining =>
    rw [remaining] at bound
    simp only [Option.some.injEq, Prod.mk.injEq] at found
    rw [← found.2]
    simp only [List.length_cons] at bound
    omega

theorem bareValue?_length {text value rest : List Char}
    (found : bareValue? text = some (value, rest)) : rest.length ≤ text.length := by
  unfold bareValue? at found
  split at found
  next tail =>
    have bound := quoted?_length found
    simp only [List.length_cons]
    omega
  next tail =>
    have bound := quoted?_length found
    simp only [List.length_cons]
    omega
  next =>
    split at found
    next => contradiction
    next =>
      simp only [Option.some.injEq, Prod.mk.injEq] at found
      rw [← found.2]
      exact length_dropWhile_le isPlain text

theorem value?_length {text value rest : List Char}
    (found : value? text = some (value, rest)) : rest.length ≤ text.length := by
  have outer := length_dropWhile_le Text.isBlank text
  unfold value? Text.trimStart at found
  split at found
  next tail remaining =>
    rw [remaining] at outer
    have inner := length_dropWhile_le Text.isBlank tail
    have bound := bareValue?_length found
    simp only [List.length_cons] at outer
    omega
  next => contradiction

/-- Names and values in the order in which they stand in a text. -/
def attributePairs (text : List Char) : List (List Char × List Char) :=
  match text with
  | [] => []
  | c :: rest =>
      if isNameStart c then
        let name := c :: rest.takeWhile isNamePart
        match _found : value? (rest.dropWhile isNamePart) with
        | some (value, remaining) => (name, value) :: attributePairs remaining
        | none => (name, []) :: attributePairs (rest.dropWhile isNamePart)
      else
        attributePairs rest
termination_by text.length
decreasing_by
  · have bound := value?_length _found
    have shorter := length_dropWhile_le isNamePart rest
    simp only [List.length_cons]
    omega
  · have shorter := length_dropWhile_le isNamePart rest
    simp only [List.length_cons]
    omega
  · simp

/-- The attributes of a text. Names are in lower case; of a repeated name the last value counts. -/
def parseAttributes (text : List Char) : Attributes :=
  (attributePairs text).foldl
    (fun attributes pair =>
      attributes.insert (String.ofList pair.1).toLower (String.ofList pair.2))
    ∅

end InlineScript.Markup
