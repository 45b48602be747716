import Mathlib.Data.List.Chain
import InlineScript.Json.Comments

/-!
The lexemes of a configuration text, and what is left of them when the text is made plain JSON: no
comment is left, strings and signs stay in order as they are written, and only commas in front of a
closing bracket go. What stood apart stands apart still.
-/

namespace InlineScript.Json

open Text (isBlank)

attribute [local simp] dropComments dropTrailingCommas

/-! ## Lexemes -/

/-- A part of a text: a string with its quotes, a comment, a blank or any other character. -/
inductive Lexeme where
  | string (chars : List Char)
  | lineComment (chars : List Char)
  | blockComment (chars : List Char)
  | blank (c : Char)
  | sign (c : Char)
deriving DecidableEq, Repr

/-- The rest of a string behind its opening quote, and what follows it. -/
def cutString : List Char → List Char × List Char
  | [] => ([], [])
  | '"' :: rest => (['"'], rest)
  | '\\' :: c :: rest => ('\\' :: c :: (cutString rest).1, (cutString rest).2)
  | c :: rest => (c :: (cutString rest).1, (cutString rest).2)

/-- The rest of a block comment behind its first two characters, and what follows it. -/
def cutBlock : List Char → List Char × List Char
  | [] => ([], [])
  | '*' :: '/' :: rest => (['*', '/'], rest)
  | c :: rest => (c :: (cutBlock rest).1, (cutBlock rest).2)

theorem cutString_append (text : List Char) : (cutString text).1 ++ (cutString text).2 = text := by
  fun_induction cutString text with
  | case1 => rfl
  | case2 => rfl
  | case3 c rest ih => simp [ih]
  | case4 c rest _ _ ih => simp [ih]

theorem cutBlock_append (text : List Char) : (cutBlock text).1 ++ (cutBlock text).2 = text := by
  fun_induction cutBlock text with
  | case1 => rfl
  | case2 => rfl
  | case3 c rest _ ih => simp [ih]

theorem length_cutString (text : List Char) : (cutString text).2.length ≤ text.length := by
  have whole := congrArg List.length (cutString_append text)
  rw [List.length_append] at whole
  omega

theorem length_cutBlock (text : List Char) : (cutBlock text).2.length ≤ text.length := by
  have whole := congrArg List.length (cutBlock_append text)
  rw [List.length_append] at whole
  omega

def lexemes : List Char → List Lexeme
  | [] => []
  | '"' :: rest => .string ('"' :: (cutString rest).1) :: lexemes (cutString rest).2
  | '/' :: '/' :: rest =>
      .lineComment ('/' :: '/' :: rest.takeWhile (· != '\n')) :: lexemes (rest.dropWhile (· != '\n'))
  | '/' :: '*' :: rest =>
      .blockComment ('/' :: '*' :: (cutBlock rest).1) :: lexemes (cutBlock rest).2
  | c :: rest => (if isBlank c then .blank c else .sign c) :: lexemes rest
termination_by text => text.length
decreasing_by
  · have shorter := length_cutString rest
    simp only [List.length_cons]
    omega
  · have shorter := (List.dropWhile_sublist (l := rest) (· != '\n')).length_le
    simp only [List.length_cons]
    omega
  · have shorter := length_cutBlock rest
    simp only [List.length_cons]
    omega
  · simp

namespace Lexeme

def chars : Lexeme → List Char
  | string chars | lineComment chars | blockComment chars => chars
  | blank c | sign c => [c]

def isComment : Lexeme → Bool
  | lineComment _ | blockComment _ => true
  | _ => false

/-- Whether a lexeme is neither a blank nor a comment. -/
def isSolid : Lexeme → Bool
  | string _ | sign _ => true
  | _ => false

end Lexeme

/-- Whether the first solid lexeme closes a bracket. -/
def closes (lexemes : List Lexeme) : Bool :=
  match lexemes.find? Lexeme.isSolid with
  | some (.sign c) => c == '\x7d' || c == ']'
  | _ => false

theorem closes_string (chars : List Char) (rest : List Lexeme) :
    closes (.string chars :: rest) = false := rfl

theorem closes_sign (c : Char) (rest : List Lexeme) :
    closes (.sign c :: rest) = (c == '\x7d' || c == ']') := rfl

theorem closes_cons_of_not_isSolid {lexeme : Lexeme} (loose : lexeme.isSolid = false)
    (rest : List Lexeme) : closes (lexeme :: rest) = closes rest := by
  simp [closes, loose]

/-- The lexemes without the commas whose next solid lexeme closes a bracket. -/
def withoutTrailing : List Lexeme → List Lexeme
  | [] => []
  | lexeme :: rest =>
      if lexeme = .sign ',' ∧ closes rest then withoutTrailing rest else lexeme :: withoutTrailing rest

/-! ## How lexemes are cut off -/

/-- The lexeme that one character is by itself. -/
def single (c : Char) : Lexeme :=
  if isBlank c then .blank c else .sign c

/-- Whether a character in front of a text begins neither a string nor a comment. -/
def StandsAlone (c : Char) (rest : List Char) : Prop :=
  c ≠ '"' ∧ (c = '/' → rest.head? ≠ some '/' ∧ rest.head? ≠ some '*')

theorem lexemes_single {c : Char} {rest : List Char} (alone : StandsAlone c rest) :
    lexemes (c :: rest) = single c :: lexemes rest := by
  rw [lexemes, single]
  · exact alone.1
  · intro more slash same
    exact (alone.2 slash).1 (by simp [same])
  · intro more slash same
    exact (alone.2 slash).2 (by simp [same])

theorem dropComments_single {c : Char} {rest : List Char} (alone : StandsAlone c rest) :
    dropComments (.code .outside) (c :: rest) = c :: dropComments (.code .outside) rest := by
  rw [dropComments]
  · exact alone.1
  · intro more slash same
    exact (alone.2 slash).1 (by simp [same])
  · intro more slash same
    exact (alone.2 slash).2 (by simp [same])

/-- The ways in which a text can begin. -/
theorem lexemes_cases {motive : List Char → Prop} (text : List Char) (nil : motive [])
    (quote : ∀ rest, motive (cutString rest).2 → motive ('"' :: rest))
    (line : ∀ rest, motive (rest.dropWhile (· != '\n')) → motive ('/' :: '/' :: rest))
    (block : ∀ rest, motive (cutBlock rest).2 → motive ('/' :: '*' :: rest))
    (alone : ∀ c rest, StandsAlone c rest → motive rest → motive (c :: rest)) : motive text := by
  fun_induction lexemes text with
  | case1 => exact nil
  | case2 rest ih => exact quote rest ih
  | case3 rest ih => exact line rest ih
  | case4 rest ih => exact block rest ih
  | case5 c rest noQuote noLine noBlock ih =>
      refine alone c rest ⟨noQuote, fun slash => ?_⟩ ih
      cases rest with
      | nil => simp
      | cons d rest =>
          constructor
          · rintro ⟨⟩
            exact noLine rest slash rfl
          · rintro ⟨⟩
            exact noBlock rest slash rfl

theorem flatMap_chars_lexemes (text : List Char) : (lexemes text).flatMap Lexeme.chars = text := by
  induction text using lexemes_cases with
  | nil => simp [lexemes]
  | quote rest ih => simp [lexemes, Lexeme.chars, ih, cutString_append]
  | line rest ih => simp [lexemes, Lexeme.chars, ih]
  | block rest ih => simp [lexemes, Lexeme.chars, ih, cutBlock_append]
  | alone c rest alone ih =>
      have one : (single c).chars = [c] := by
        unfold single
        split <;> rfl
      simp [lexemes_single alone, one, ih]

theorem cutString_cases {motive : List Char → Prop} (text : List Char) (nil : motive [])
    (quote : ∀ rest, motive ('"' :: rest))
    (escape : ∀ c rest, motive rest → motive ('\\' :: c :: rest))
    (unfinished : motive ['\\'])
    (other : ∀ c rest, c ≠ '"' → c ≠ '\\' → motive rest → motive (c :: rest)) : motive text := by
  fun_induction cutString text with
  | case1 => exact nil
  | case2 rest => exact quote rest
  | case3 c rest ih => exact escape c rest ih
  | case4 c rest noQuote unescaped ih =>
      by_cases same : c = '\\'
      · subst same
        cases rest with
        | nil => exact unfinished
        | cons d rest => exact absurd rfl (unescaped d rest rfl)
      · exact other c rest noQuote same ih

theorem cutString_other {c : Char} {rest : List Char} (noQuote : c ≠ '"') (noEscape : c ≠ '\\') :
    cutString (c :: rest) = (c :: (cutString rest).1, (cutString rest).2) := by
  rw [cutString]
  · exact noQuote
  · exact fun _ _ same => absurd same noEscape

/-- A string is cut off again in front of another text. One that is not closed ends the text. -/
theorem cutString_again (text : List Char) {more : List Char}
    (ends : (cutString text).2 = [] → more = []) :
    cutString ((cutString text).1 ++ more) = ((cutString text).1, more) := by
  induction text using cutString_cases with
  | nil => simp [ends rfl, cutString]
  | quote rest => simp [cutString]
  | escape c rest ih => simp [cutString, ih ends]
  | unfinished => simp [ends rfl, cutString]
  | other c rest noQuote noEscape ih =>
      rw [cutString_other noQuote noEscape] at ends ⊢
      rw [List.cons_append, cutString_other noQuote noEscape, ih ends]

/-! ## Without comments -/

namespace Lexeme

/-- What is left of a lexeme when comments are dropped. -/
def uncommented : Lexeme → List Lexeme
  | lineComment _ => []
  | blockComment _ => [.blank ' ']
  | lexeme => [lexeme]

end Lexeme

theorem dropComments_inside (text : List Char) :
    dropComments (.code .inside) text =
      (cutString text).1 ++ dropComments (.code .outside) (cutString text).2 := by
  induction text using cutString_cases with
  | nil => simp [cutString]
  | quote rest => simp [cutString]
  | escape c rest ih => simp [cutString, ih]
  | unfinished => simp [cutString]
  | other c rest noQuote noEscape ih =>
      rw [cutString_other noQuote noEscape, dropComments, ih, List.cons_append]
      · exact noEscape
      · exact noQuote

theorem dropComments_line (text : List Char) :
    dropComments .line text = dropComments (.code .outside) (text.dropWhile (· != '\n')) := by
  induction text with
  | nil => simp
  | cons c text ih =>
      by_cases feed : c = '\n'
      · simp [feed]
      · rw [dropComments, ih]
        · simp [feed]
        · exact feed

theorem dropComments_star {text : List Char} (noSlash : text.head? ≠ some '/') :
    dropComments (.block true) text = dropComments (.block false) text := by
  cases text with
  | nil => simp
  | cons c text =>
      have other : c ≠ '/' := by simpa using noSlash
      simp [other]

theorem dropComments_block (text : List Char) :
    dropComments (.block false) text = dropComments (.code .outside) (cutBlock text).2 := by
  fun_induction cutBlock text with
  | case1 => simp
  | case2 rest => simp
  | case3 c rest unclosed ih =>
      rw [dropComments, Bool.false_and, if_neg Bool.false_ne_true, ← ih]
      by_cases star : c = '*'
      · rw [star, BEq.rfl]
        apply dropComments_star
        intro slash
        obtain ⟨more, same⟩ := List.head?_eq_some_iff.mp slash
        exact unclosed more star same
      · rw [beq_eq_false_iff_ne.mpr star]

theorem dropComments_standsAlone {c : Char} {rest : List Char} (alone : StandsAlone c rest) :
    StandsAlone c (dropComments (.code .outside) rest) := by
  refine ⟨alone.1, fun slash => ?_⟩
  obtain ⟨noSlash, noStar⟩ := alone.2 slash
  cases rest with
  | nil => simp
  | cons d rest =>
      have other : d ≠ '/' := by simpa using noSlash
      by_cases quote : d = '"'
      · simp [quote]
      · rw [dropComments_single ⟨quote, fun same => absurd same other⟩]
        exact ⟨noSlash, noStar⟩

theorem lexemes_dropComments (text : List Char) :
    lexemes (dropComments (.code .outside) text) = (lexemes text).flatMap Lexeme.uncommented := by
  induction text using lexemes_cases with
  | nil => simp [lexemes]
  | quote rest ih =>
      have ends : (cutString rest).2 = [] → dropComments (.code .outside) (cutString rest).2 = [] := by
        intro empty
        rw [empty, dropComments]
      rw [dropComments, dropComments_inside, lexemes, lexemes, cutString_again rest ends, ih]
      rfl
  | line rest ih =>
      rw [dropComments, dropComments_line, lexemes, ih]
      rfl
  | block rest ih =>
      have blank : StandsAlone ' ' (dropComments (.code .outside) (cutBlock rest).2) := by
        simp [StandsAlone]
      rw [dropComments, dropComments_block, lexemes_single blank, lexemes, ih]
      rfl
  | alone c rest alone ih =>
      have kept : (single c).uncommented = [single c] := by
        unfold single
        split <;> rfl
      rw [dropComments_single alone, lexemes_single (dropComments_standsAlone alone),
        lexemes_single alone, ih, List.flatMap_cons, kept, List.singleton_append]

/-! ## Without trailing commas -/

theorem dropTrailingCommas_inside (text : List Char) :
    dropTrailingCommas .inside text =
      (cutString text).1 ++ dropTrailingCommas .outside (cutString text).2 := by
  induction text using cutString_cases with
  | nil => simp [cutString]
  | quote rest => simp [cutString]
  | escape c rest ih => simp [cutString, ih]
  | unfinished => simp [cutString]
  | other c rest noQuote noEscape ih =>
      rw [cutString_other noQuote noEscape, dropTrailingCommas, ih, List.cons_append]
      · exact noEscape
      · exact noQuote

theorem dropTrailingCommas_other {c : Char} (noQuote : c ≠ '"') (noComma : c ≠ ',')
    (rest : List Char) :
    dropTrailingCommas .outside (c :: rest) = c :: dropTrailingCommas .outside rest := by
  rw [dropTrailingCommas]
  · exact noQuote
  · exact noComma

/-- A text that closes a bracket begins with a blank or with the bracket. -/
theorem exists_of_closesNext {text : List Char} (closing : closesNext text = true) :
    ∃ c rest, text = c :: rest ∧ (isBlank c = true ∨ c = '\x7d' ∨ c = ']') := by
  cases text with
  | nil => simp [closesNext] at closing
  | cons c rest =>
      refine ⟨c, rest, rfl, ?_⟩
      cases blank : isBlank c with
      | true => exact .inl rfl
      | false => exact .inr (by simpa [closesNext, blank] using closing)

theorem dropTrailingCommas_standsAlone {c : Char} {rest : List Char} (alone : StandsAlone c rest) :
    StandsAlone c (dropTrailingCommas .outside rest) := by
  refine ⟨alone.1, fun slash => ?_⟩
  have first := alone.2 slash
  cases rest with
  | nil => simp
  | cons d rest =>
      by_cases quote : d = '"'
      · simp [quote]
      by_cases comma : d = ','
      · rw [comma, dropTrailingCommas]
        split
        next closing =>
          -- what moves up is a blank or a bracket
          obtain ⟨e, more, rfl, kind⟩ := exists_of_closesNext closing
          have plain : e ≠ '"' ∧ e ≠ ',' ∧ e ≠ '/' ∧ e ≠ '*' := by
            refine ⟨?_, ?_, ?_, ?_⟩ <;> rintro rfl <;> exact absurd kind (by decide)
          rw [dropTrailingCommas_other plain.1 plain.2.1]
          simp [plain]
        next => simp
      · rw [dropTrailingCommas_other quote comma]
        exact first

theorem closesNext_eq {text : List Char}
    (clear : ∀ lexeme ∈ lexemes text, lexeme.isComment = false) :
    closesNext text = closes (lexemes text) := by
  induction text using lexemes_cases with
  | nil => simp [closesNext, lexemes, closes]
  | quote rest => simp [closesNext, lexemes, closes_string, isBlank]
  | line rest => simp [lexemes, Lexeme.isComment] at clear
  | block rest => simp [lexemes, Lexeme.isComment] at clear
  | alone c rest alone ih =>
      rw [lexemes_single alone] at clear ⊢
      rw [List.forall_mem_cons] at clear
      cases blank : isBlank c with
      | true =>
          rw [single, if_pos blank, closes_cons_of_not_isSolid rfl, ← ih clear.2]
          simp [closesNext, blank]
      | false =>
          rw [single, if_neg (by simp [blank]), closes_sign]
          simp [closesNext, blank]

theorem lexemes_dropTrailingCommas {text : List Char}
    (clear : ∀ lexeme ∈ lexemes text, lexeme.isComment = false) :
    lexemes (dropTrailingCommas .outside text) = withoutTrailing (lexemes text) := by
  induction text using lexemes_cases with
  | nil => simp [lexemes, withoutTrailing]
  | quote rest ih =>
      have ends : (cutString rest).2 = [] →
          dropTrailingCommas .outside (cutString rest).2 = [] := by
        intro empty
        rw [empty, dropTrailingCommas]
      rw [lexemes, List.forall_mem_cons] at clear
      rw [dropTrailingCommas, dropTrailingCommas_inside, lexemes, lexemes,
        cutString_again rest ends, ih clear.2, withoutTrailing, if_neg (by simp)]
  | line rest => simp [lexemes, Lexeme.isComment] at clear
  | block rest => simp [lexemes, Lexeme.isComment] at clear
  | alone c rest alone ih =>
      rw [lexemes_single alone, List.forall_mem_cons] at clear
      rw [lexemes_single alone, withoutTrailing, ← ih clear.2, ← closesNext_eq clear.2]
      by_cases comma : c = ','
      · subst comma
        have isComma : single ',' = .sign ',' := by decide
        rw [dropTrailingCommas]
        by_cases closing : closesNext rest = true
        · rw [if_pos closing, if_pos ⟨isComma, closing⟩]
        · rw [if_neg closing, if_neg (fun both => closing both.2)]
          exact lexemes_single (dropTrailingCommas_standsAlone alone)
      · have other : single c ≠ .sign ',' := by
          unfold single
          split
          · simp
          · simpa using comma
        rw [dropTrailingCommas_other alone.1 comma, if_neg (fun both => other both.1)]
        exact lexemes_single (dropTrailingCommas_standsAlone alone)

/-! ## Plain text -/

theorem find?_isSolid_uncommented (lexemes : List Lexeme) :
    (lexemes.flatMap Lexeme.uncommented).find? Lexeme.isSolid = lexemes.find? Lexeme.isSolid := by
  induction lexemes with
  | nil => rfl
  | cons lexeme rest ih => cases lexeme <;> simp [Lexeme.uncommented, Lexeme.isSolid, List.find?_cons, ih]

theorem filter_isSolid_uncommented (lexemes : List Lexeme) :
    (lexemes.flatMap Lexeme.uncommented).filter Lexeme.isSolid = lexemes.filter Lexeme.isSolid := by
  induction lexemes with
  | nil => rfl
  | cons lexeme rest ih => cases lexeme <;> simp [Lexeme.uncommented, Lexeme.isSolid, List.filter_cons, ih]

theorem isComment_of_mem_uncommented {lexemes : List Lexeme} {lexeme : Lexeme}
    (member : lexeme ∈ lexemes.flatMap Lexeme.uncommented) : lexeme.isComment = false := by
  obtain ⟨own, -, left⟩ := List.mem_flatMap.mp member
  cases own <;> simp [Lexeme.uncommented] at left <;> rw [left] <;> rfl

theorem withoutTrailing_uncommented (lexemes : List Lexeme) :
    withoutTrailing (lexemes.flatMap Lexeme.uncommented) =
      (withoutTrailing lexemes).flatMap Lexeme.uncommented := by
  induction lexemes with
  | nil => rfl
  | cons lexeme rest ih =>
      have same : closes (rest.flatMap Lexeme.uncommented) = closes rest := by
        rw [closes, find?_isSolid_uncommented, closes]
      cases lexeme with
      | string chars => simp [Lexeme.uncommented, withoutTrailing, ih]
      | lineComment chars => simp [Lexeme.uncommented, withoutTrailing, ih]
      | blockComment chars => simp [Lexeme.uncommented, withoutTrailing, ih]
      | blank c => simp [Lexeme.uncommented, withoutTrailing, ih]
      | sign c =>
          by_cases trailing : c = ',' ∧ closes rest = true
          · simp [Lexeme.uncommented, withoutTrailing, ih, same, trailing]
          · simp [Lexeme.uncommented, withoutTrailing, ih, same, trailing]

/-- What plain text consists of. -/
theorem lexemes_plain (text : List Char) :
    lexemes (plain text) = (withoutTrailing (lexemes text)).flatMap Lexeme.uncommented := by
  rw [plain, lexemes_dropTrailingCommas, lexemes_dropComments, withoutTrailing_uncommented]
  intro lexeme member
  rw [lexemes_dropComments] at member
  exact isComment_of_mem_uncommented member

/-! ## What stands apart -/

/-- A line comment goes up to the end of its line. -/
def Breaks (lexeme next : Lexeme) : Prop :=
  ∀ chars, lexeme = .lineComment chars → next = .blank '\n'

theorem isChain_lexemes (text : List Char) : (lexemes text).IsChain Breaks := by
  induction text using lexemes_cases with
  | nil =>
      rw [lexemes]
      exact .nil
  | quote rest ih =>
      rw [lexemes, List.isChain_cons]
      exact ⟨fun _ _ _ same => by contradiction, ih⟩
  | line rest ih =>
      rw [lexemes, List.isChain_cons]
      refine ⟨fun next first _ _ => ?_, ih⟩
      cases left : rest.dropWhile (· != '\n') with
      | nil => simp [left, lexemes] at first
      | cons c more =>
          have feed : c = '\n' := by
            have stops := List.head?_dropWhile_not (· != '\n') rest
            simpa [left] using stops
          have alone : StandsAlone '\n' more := by simp [StandsAlone]
          rw [left, feed, lexemes_single alone, List.head?_cons, Option.mem_some_iff] at first
          exact first.symm
  | block rest ih =>
      rw [lexemes, List.isChain_cons]
      exact ⟨fun _ _ _ same => by contradiction, ih⟩
  | alone c rest alone ih =>
      rw [lexemes_single alone, List.isChain_cons]
      refine ⟨fun _ _ chars same => ?_, ih⟩
      unfold single at same
      split at same <;> contradiction

theorem isChain_withoutTrailing {lexemes : List Lexeme} (chain : lexemes.IsChain Breaks) :
    (withoutTrailing lexemes).IsChain Breaks := by
  induction lexemes with
  | nil => exact .nil
  | cons lexeme rest ih =>
      rw [List.isChain_cons] at chain
      rw [withoutTrailing]
      split
      next => exact ih chain.2
      next =>
        rw [List.isChain_cons]
        refine ⟨fun next first chars same => ?_, ih chain.2⟩
        cases rest with
        | nil => simp [withoutTrailing] at first
        | cons second rest =>
            have feed := chain.1 second rfl chars same
            rw [feed, withoutTrailing, if_neg (by simp), List.head?_cons, Option.mem_some_iff] at first
            exact first.symm

/-- Between solid lexemes a comment leaves a blank. -/
theorem exists_blank_uncommented {between after : List Lexeme} {gap second : Lexeme}
    (chain : (between ++ second :: after).IsChain Breaks) (solid : second.isSolid = true)
    (member : gap ∈ between) (loose : gap.isSolid = false) :
    ∃ c, Lexeme.blank c ∈ between.flatMap Lexeme.uncommented := by
  have leaves {own : Lexeme} {c : Char} (isOwn : own ∈ between)
      (left : Lexeme.blank c ∈ own.uncommented) :
      ∃ c, Lexeme.blank c ∈ between.flatMap Lexeme.uncommented :=
    ⟨c, List.mem_flatMap.mpr ⟨own, isOwn, left⟩⟩
  cases gap with
  | string chars => simp [Lexeme.isSolid] at loose
  | sign c => simp [Lexeme.isSolid] at loose
  | blank c => exact leaves member List.mem_cons_self
  | blockComment chars => exact leaves member List.mem_cons_self
  | lineComment chars =>
      obtain ⟨front, back, split⟩ := List.append_of_mem member
      rw [split, List.append_assoc, List.isChain_append, List.cons_append, List.isChain_cons] at chain
      have next := chain.2.1.1
      cases back with
      | nil =>
          have feed := next second rfl chars rfl
          rw [feed] at solid
          contradiction
      | cons own back =>
          have feed := next own rfl chars rfl
          have isOwn : Lexeme.blank '\n' ∈ between := by simp [split, feed]
          exact leaves isOwn List.mem_cons_self

/-- The lexemes of a text make it up. Of those of the plain text none is a comment, the solid ones
are those of the text but for trailing commas, and where a blank or a comment stood between two that
stay, a blank stands still. -/
theorem plain_keeps_lexemes (text : List Char) :
    (lexemes text).flatMap Lexeme.chars = text ∧
    (∀ lexeme ∈ lexemes (plain text), lexeme.isComment = false) ∧
    (lexemes (plain text)).filter Lexeme.isSolid =
      (withoutTrailing (lexemes text)).filter Lexeme.isSolid ∧
    ∀ before first between second after,
      withoutTrailing (lexemes text) = before ++ first :: (between ++ second :: after) →
      first.isSolid = true → second.isSolid = true → (∃ gap ∈ between, gap.isSolid = false) →
      ∃ front middle back,
        lexemes (plain text) = front ++ first :: (middle ++ second :: back) ∧
        front.filter Lexeme.isSolid = before.filter Lexeme.isSolid ∧
        middle.filter Lexeme.isSolid = between.filter Lexeme.isSolid ∧
        ∃ c, Lexeme.blank c ∈ middle := by
  refine ⟨flatMap_chars_lexemes text, ?_, ?_, ?_⟩
  · intro lexeme member
    rw [lexemes_plain] at member
    exact isComment_of_mem_uncommented member
  · rw [lexemes_plain, filter_isSolid_uncommented]
  · intro before first between second after split firstSolid secondSolid apart
    obtain ⟨gap, member, loose⟩ := apart
    have whole {lexeme : Lexeme} (solid : lexeme.isSolid = true) : lexeme.uncommented = [lexeme] := by
      cases lexeme <;> simp [Lexeme.isSolid] at solid <;> rfl
    have chain := isChain_withoutTrailing (isChain_lexemes text)
    rw [split, List.isChain_append, List.isChain_cons] at chain
    refine ⟨before.flatMap Lexeme.uncommented, between.flatMap Lexeme.uncommented,
      after.flatMap Lexeme.uncommented, ?_, filter_isSolid_uncommented before,
      filter_isSolid_uncommented between, ?_⟩
    · rw [lexemes_plain, split]
      simp [whole firstSolid, whole secondSolid]
    · exact exists_blank_uncommented chain.2.1.2 secondSolid member loose

end InlineScript.Json
