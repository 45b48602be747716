import InlineScript.Markup.Attributes
import InlineScript.Text.Bytes
import InlineScript.Text.Word

/-!
Script blocks of a markup text: an opening tag, the shortest content in front of a closing tag, and
that closing tag. Letters of the tag names count in either case.
-/

namespace InlineScript.Markup

/-- Whether a character is the given letter of a tag name in either case. The long s folds to `s`. -/
def foldsTo (letter c : Char) : Bool :=
  c.toLower == letter || (letter == 's' && c == 'ſ')

/-- The text split behind a tag name at its start. -/
def tagName? : List Char → List Char → Option (List Char × List Char)
  | [], text => some ([], text)
  | _ :: _, [] => none
  | letter :: letters, c :: text =>
      if foldsTo letter c then
        (tagName? letters text).map fun (name, rest) => (c :: name, rest)
      else
        none

/-- A script block and the parts it is spelled with. -/
structure Block where
  /-- The opening tag from `<` to `>`. -/
  opening : List Char
  /-- What stands in the opening tag behind its name. -/
  attributes : List Char
  content : List Char
  /-- The closing tag from `<` to `>`. -/
  closing : List Char
deriving DecidableEq, Repr

namespace Block

/-- The whole block as it stands in the markup. -/
def text (block : Block) : List Char :=
  block.opening ++ block.content ++ block.closing

/-- The opening tag at the start of a text: the tag, its attributes and what follows. The name
ends where a word does. -/
def opening? (text : List Char) : Option (List Char × List Char × List Char) :=
  match tagName? ['<', 's', 'c', 'r', 'i', 'p', 't'] text with
  | none => none
  | some (name, rest) =>
      if (rest.head?.map Text.isWord).getD false then
        none
      else
        let attributes := rest.takeWhile (· != '>')
        match rest.dropWhile (· != '>') with
        | [] => none
        | _ :: after => some (name ++ attributes ++ ['>'], attributes, after)

/-- The closing tag at the start of a text, and what follows. -/
def closing? (text : List Char) : Option (List Char × List Char) :=
  match tagName? ['<', '/', 's', 'c', 'r', 'i', 'p', 't'] text with
  | none => none
  | some (name, rest) =>
      match rest.dropWhile Text.isBlank with
      | '>' :: after => some (name ++ rest.takeWhile Text.isBlank ++ ['>'], after)
      | _ => none

/-- The shortest content in front of a closing tag, that tag, and what follows. -/
def content? : List Char → Option (List Char × List Char × List Char)
  | [] => none
  | c :: text =>
      match closing? (c :: text) with
      | some (closing, rest) => some ([], closing, rest)
      | none =>
          match content? text with
          | some (content, closing, rest) => some (c :: content, closing, rest)
          | none => none

/-- The block at the start of a text, and what follows. -/
def atStart? (text : List Char) : Option (Block × List Char) :=
  match opening? text with
  | none => none
  | some (opening, attributes, after) =>
      match content? after with
      | none => none
      | some (content, closing, rest) => some ({ opening, attributes, content, closing }, rest)

theorem tagName?_length {letters text name rest : List Char}
    (found : tagName? letters text = some (name, rest)) :
    rest.length + letters.length = text.length := by
  induction letters generalizing text name rest with
  | nil =>
      simp only [tagName?, Option.some.injEq, Prod.mk.injEq] at found
      simp [found.2]
  | cons letter letters ih =>
      cases text with
      | nil => simp [tagName?] at found
      | cons c text =>
          simp only [tagName?] at found
          split at found
          next =>
            obtain ⟨⟨name, rest⟩, inner, same⟩ := Option.map_eq_some_iff.mp found
            simp only [Prod.mk.injEq] at same
            have bound := ih inner
            rw [← same.2]
            simp only [List.length_cons]
            omega
          next => contradiction

theorem opening?_length {text opening attributes after : List Char}
    (found : opening? text = some (opening, attributes, after)) : after.length < text.length := by
  unfold opening? at found
  split at found
  next => contradiction
  next name rest named =>
    have total := tagName?_length named
    have shorter := length_dropWhile_le (· != '>') rest
    split at found
    next => contradiction
    next =>
      split at found
      next => contradiction
      next head tail remaining =>
        rw [remaining] at shorter
        simp only [Option.some.injEq, Prod.mk.injEq] at found
        rw [← found.2.2]
        simp only [List.length_cons, List.length_nil] at shorter total
        omega

theorem closing?_length {text closing rest : List Char}
    (found : closing? text = some (closing, rest)) : rest.length < text.length := by
  unfold closing? at found
  split at found
  next => contradiction
  next name after named =>
    have total := tagName?_length named
    have shorter := length_dropWhile_le Text.isBlank after
    split at found
    next tail remaining =>
      rw [remaining] at shorter
      simp only [Option.some.injEq, Prod.mk.injEq] at found
      rw [← found.2]
      simp only [List.length_cons, List.length_nil] at shorter total
      omega
    next => contradiction

theorem content?_length {text content closing rest : List Char}
    (found : content? text = some (content, closing, rest)) : rest.length < text.length := by
  induction text generalizing content with
  | nil => simp [content?] at found
  | cons c text ih =>
      simp only [content?] at found
      split at found
      next closing after closed =>
        have bound := closing?_length closed
        simp only [Option.some.injEq, Prod.mk.injEq] at found
        rw [← found.2.2]
        exact bound
      next =>
        split at found
        next inner closing after more =>
          simp only [Option.some.injEq, Prod.mk.injEq] at found
          obtain ⟨_, same, last⟩ := found
          subst same last
          have bound := ih more
          simp only [List.length_cons]
          omega
        next => contradiction

theorem atStart?_length {text rest : List Char} {block : Block}
    (found : atStart? text = some (block, rest)) : rest.length < text.length := by
  unfold atStart? at found
  split at found
  next => contradiction
  next opening attributes after opened =>
    split at found
    next => contradiction
    next content closing last inner =>
      simp only [Option.some.injEq, Prod.mk.injEq] at found
      have first := opening?_length opened
      have second := content?_length inner
      rw [← found.2]
      omega

/-- The blocks of a text that starts at the given byte offset, left to right, each with the offset
of its content. The search goes on behind each block. -/
def all (offset : Nat) (text : List Char) : List (Nat × Block) :=
  match text with
  | [] => []
  | c :: text =>
      match _found : atStart? (c :: text) with
      | some (block, rest) =>
          (offset + Text.byteLength block.opening, block)
            :: all (offset + Text.byteLength block.text) rest
      | none => all (offset + c.utf8Size) text
termination_by text.length
decreasing_by
  · exact atStart?_length _found
  · simp

end Block

/-- The script of a markup document. -/
structure Fragment where
  /-- Byte offset of the content in the document. -/
  start : Nat
  content : List Char
  attributes : Attributes

namespace Fragment

def ofBlock (start : Nat) (block : Block) : Fragment where
  start := start
  content := block.content
  attributes := parseAttributes block.attributes

/-- Byte offset behind the content. -/
def stop (fragment : Fragment) : Nat :=
  fragment.start + Text.byteLength fragment.content

/-- Whether the script belongs to the module rather than to each instance of a component. -/
def isModule (fragment : Fragment) : Bool :=
  fragment.attributes["context"]? == some "module"

/-- The first script that is not a module's; if there is none, the first script. -/
def find? (markup : List Char) : Option Fragment :=
  let fragments := (Block.all 0 markup).map fun (start, block) => ofBlock start block
  (fragments.find? (!·.isModule)).or fragments.head?

end Fragment

end InlineScript.Markup
