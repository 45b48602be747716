import Mathlib.Tactic.Common
import InlineScript.Format.Brackets
import InlineScript.Proofs.Text.Lines

/-!
The language of scripts as far as brackets go, given by a grammar. A part of a text is read from its
front, and what is left behind it belongs to the derivation, since whether a character stands for
itself can depend on the next one. Every text can be read up to its end or up to a closing bracket
that fits nothing.
-/

namespace InlineScript.Format

open Text (EndsLine)

variable {c : Char} {text front behind rest : List Char}

/-! ## Parts -/

inductive Part where
  | code
  | lineComment
  | comment
  | string (mark : Char)
  /-- A template without its backquotes. -/
  | literal
deriving DecidableEq, Repr

def Opener.closer : Opener → Char
  | paren => ')'
  | bracket => ']'
  | brace => '\x7d'
  | substitution => '\x7d'

def AtLineEnd (text : List Char) : Prop :=
  ∀ c ∈ text.head?, c = '\n'

/-- A character that stands for itself, given the text behind it. -/
def Part.IsPlain : Part → Char → List Char → Prop
  | code, c, text =>
      c ∉ ['"', '\'', '\x60', '(', '[', '\x7b', ')', ']', '\x7d'] ∧
        (c = '/' → text.head? ≠ some '/' ∧ text.head? ≠ some '*')
  | lineComment, c, _ => c ≠ '\n'
  | comment, c, text => c = '*' → text.head? ≠ some '/'
  | string mark, c, _ => c ≠ mark ∧ c ≠ '\\' ∧ c ≠ '\n'
  | literal, c, text => c ≠ '\\' ∧ c ≠ '\x60' ∧ (c = '$' → text.head? ≠ some '\x7b')

/-- `Derives part text rest`: the text is something of the part, followed by `rest`. -/
inductive Derives : Part → List Char → List Char → Prop
  | nil {part : Part} {text : List Char} : Derives part text text
  | plain {part : Part} {c : Char} {text rest : List Char} :
      part.IsPlain c text → Derives part text rest → Derives part (c :: text) rest
  -- code
  | lineComment {text behind rest : List Char} :
      Derives .lineComment text behind → AtLineEnd behind → Derives .code behind rest →
      Derives .code ('/' :: '/' :: text) rest
  | comment {text behind rest : List Char} :
      Derives .comment text ('*' :: '/' :: behind) → Derives .code behind rest →
      Derives .code ('/' :: '*' :: text) rest
  | string {mark : Char} {text behind rest : List Char} :
      mark = '"' ∨ mark = '\'' →
      Derives (.string mark) text (mark :: behind) → Derives .code behind rest →
      Derives .code (mark :: text) rest
  /-- A string that the end of its line ends. -/
  | openString {mark : Char} {text behind rest : List Char} :
      mark = '"' ∨ mark = '\'' →
      Derives (.string mark) text behind → AtLineEnd behind → Derives .code behind rest →
      Derives .code (mark :: text) rest
  | bracket {opener : Opener} {text behind rest : List Char} :
      opener ≠ .substitution →
      Derives .code text (opener.closer :: behind) → Derives .code behind rest →
      Derives .code (opener.char :: text) rest
  | template {text behind rest : List Char} :
      Derives .literal text ('\x60' :: behind) → Derives .code behind rest →
      Derives .code ('\x60' :: text) rest
  -- strings
  | quotedEscape {mark c : Char} {text rest : List Char} :
      c ≠ '\n' → Derives (.string mark) text rest → Derives (.string mark) ('\\' :: c :: text) rest
  /-- A backslash at the end of its line escapes nothing. -/
  | idleEscape {mark : Char} {text rest : List Char} :
      AtLineEnd text → Derives (.string mark) text rest → Derives (.string mark) ('\\' :: text) rest
  -- templates
  | escape {c : Char} {text rest : List Char} :
      Derives .literal text rest → Derives .literal ('\\' :: c :: text) rest
  | group {text behind rest : List Char} :
      Derives .code text ('\x7d' :: behind) → Derives .literal behind rest →
      Derives .literal ('$' :: '\x7b' :: text) rest

theorem Derives.trans {part : Part} (first : Derives part text behind)
    (second : Derives part behind rest) : Derives part text rest := by
  induction first with
  | nil => exact second
  | plain isPlain _ ih => exact .plain isPlain (ih second)
  | lineComment comment ends _ _ ih => exact .lineComment comment ends (ih second)
  | comment comment _ _ ih => exact .comment comment (ih second)
  | string quote string _ _ ih => exact .string quote string (ih second)
  | openString quote string ends _ _ ih => exact .openString quote string ends (ih second)
  | bracket some inside _ _ ih => exact .bracket some inside (ih second)
  | template inside _ _ ih => exact .template inside (ih second)
  | quotedEscape sameLine _ ih => exact .quotedEscape sameLine (ih second)
  | idleEscape ends _ ih => exact .idleEscape ends (ih second)
  | escape _ ih => exact .escape (ih second)
  | group inside _ _ ih => exact .group inside (ih second)

/-! ## Places -/

/-- `Reaches part outer text last opened rest`: a text that starts in `part`, with `outer` standing
open, is read up to `rest`, which then starts in `last` with `opened` standing open. -/
inductive Reaches : Part → List Opener → List Char → Part → List Opener → List Char → Prop
  | here {part : Part} {outer : List Opener} {text rest : List Char} :
      Derives part text rest → Reaches part outer text part outer rest
  | bracket {opener : Opener} {outer opened : List Opener} {text inside rest : List Char}
      {last : Part} :
      opener ≠ .substitution → Derives .code text (opener.char :: inside) →
      Reaches .code (opener :: outer) inside last opened rest →
      Reaches .code outer text last opened rest
  | template {outer opened : List Opener} {text inside rest : List Char} {last : Part} :
      Derives .code text ('\x60' :: inside) → Reaches .literal outer inside last opened rest →
      Reaches .code outer text last opened rest
  | group {outer opened : List Opener} {text inside rest : List Char} {last : Part} :
      Derives .literal text ('$' :: '\x7b' :: inside) →
      Reaches .code (.substitution :: outer) inside last opened rest →
      Reaches .literal outer text last opened rest
  | comment {outer : List Opener} {text inside rest : List Char} :
      Derives .code text ('/' :: '*' :: inside) → Derives .comment inside rest →
      Reaches .code outer text .comment outer rest
  /-- A backslash at the end of the text. -/
  | idleEscape {outer : List Opener} {text : List Char} :
      Derives .literal text ['\\'] → Reaches .literal outer text .literal outer []

theorem Reaches.prepend {part last : Part} {outer opened : List Opener}
    (reaches : Reaches part outer behind last opened rest) (derives : Derives part text behind) :
    Reaches part outer text last opened rest := by
  cases reaches with
  | here more => exact .here (derives.trans more)
  | bracket some more inner => exact .bracket some (derives.trans more) inner
  | template more inner => exact .template (derives.trans more) inner
  | group more inner => exact .group (derives.trans more) inner
  | comment more inner => exact .comment (derives.trans more) inner
  | idleEscape more => exact .idleEscape (derives.trans more)

/-! ## Every text can be read -/

/-- A place where reading can stop: the end of the text or the start of a line. -/
def IsStop (front stop : List Char) : Prop :=
  stop = [] ∨ EndsLine front

section

variable {left stop : List Char} {outer : List Opener}

theorem IsStop.of_isSuffix (isStop : IsStop front stop) (suffix : left <:+ front) :
    IsStop left stop := by
  rcases isStop with empty | ends
  · exact .inl empty
  · exact .inr (ends.of_isSuffix suffix)

theorem IsStop.tail (isStop : IsStop (c :: front) stop) : IsStop front stop :=
  isStop.of_isSuffix (List.suffix_cons c front)

theorem IsStop.eq_nil (isStop : IsStop [c] stop) (ordinary : c ≠ '\n') : stop = [] := by
  rcases isStop with empty | empty | feed
  · exact empty
  · contradiction
  · exact absurd (Option.some.inj feed) ordinary

theorem IsStop.exists_cons {d : Char} (isStop : IsStop (c :: front) stop) (ordinary : c ≠ '\n')
    (head : (front ++ stop).head? = some d) : ∃ more, front = d :: more := by
  cases front with
  | nil =>
      rw [isStop.eq_nil ordinary] at head
      contradiction
  | cons e front =>
      cases head
      exact ⟨front, rfl⟩

/-- Where the reading of a text ends short of its aim. -/
inductive Halts (stop : List Char) : Part → List Opener → List Char → Prop
  | misplaced {c : Char} {opened : List Opener} {left : List Char} :
      Scan.isCloser c = true → (∀ opener ∈ opened.head?, opener.closer ≠ c) →
      Halts stop .code opened (c :: left ++ stop)
  | unclosed {opener : Opener} {opened : List Opener} : Halts stop .code (opener :: opened) stop
  | inComment {opened : List Opener} : Halts stop .comment opened stop
  | inLiteral {opened : List Opener} : Halts stop .literal opened stop

def IsStuck (stop : List Char) (part : Part) (outer : List Opener) (text : List Char) : Prop :=
  ∃ last opened rest, Reaches part outer text last opened rest ∧ Halts stop last opened rest

theorem IsStuck.prepend {part : Part} (stuck : IsStuck stop part outer behind)
    (derives : Derives part text behind) : IsStuck stop part outer text := by
  obtain ⟨last, opened, rest, reaches, halts⟩ := stuck
  exact ⟨last, opened, rest, reaches.prepend derives, halts⟩

theorem exists_lineComment (isStop : IsStop (c :: front) stop) (ordinary : c ≠ '\n') :
    ∃ left, left <:+ front ∧ Derives .lineComment (front ++ stop) (left ++ stop) ∧
      AtLineEnd (left ++ stop) := by
  induction front generalizing c with
  | nil =>
      rw [isStop.eq_nil ordinary]
      exact ⟨[], List.suffix_rfl, .nil, by simp [AtLineEnd]⟩
  | cons d front ih =>
      by_cases feed : d = '\n'
      · exact ⟨d :: front, List.suffix_rfl, .nil, by simp [AtLineEnd, feed]⟩
      · obtain ⟨left, suffix, derives, ends⟩ := ih isStop.tail feed
        exact ⟨left, suffix.trans (List.suffix_cons _ _), .plain feed derives, ends⟩

theorem exists_comment (isStop : IsStop front stop) :
    (∃ left, left <:+ front ∧ Derives .comment (front ++ stop) ('*' :: '/' :: left ++ stop)) ∨
      Derives .comment (front ++ stop) stop := by
  induction front with
  | nil => exact .inr .nil
  | cons c front ih =>
      by_cases isPlain : Part.comment.IsPlain c (front ++ stop)
      · rcases ih isStop.tail with ⟨left, suffix, derives⟩ | derives
        · exact .inl ⟨left, suffix.trans (List.suffix_cons _ _), .plain isPlain derives⟩
        · exact .inr (.plain isPlain derives)
      · simp only [Part.IsPlain, ne_eq, Classical.not_imp, not_not] at isPlain
        obtain ⟨rfl, slash⟩ := isPlain
        obtain ⟨left, rfl⟩ := isStop.exists_cons (by decide) slash
        exact .inl ⟨left, (List.suffix_cons _ _).trans (List.suffix_cons _ _), .nil⟩

theorem exists_string {c : Char} (mark : Char) (front : List Char) (isStop : IsStop (c :: front) stop)
    (ordinary : c ≠ '\n') :
    ∃ left, left <:+ front ∧ Derives (.string mark) (front ++ stop) (left ++ stop) ∧
      (left.head? = some mark ∨ AtLineEnd (left ++ stop)) := by
  match front with
  | [] =>
      rw [isStop.eq_nil ordinary]
      exact ⟨[], List.suffix_rfl, .nil, .inr (by simp [AtLineEnd])⟩
  | d :: front =>
      by_cases isPlain : (Part.string mark).IsPlain d (front ++ stop)
      · obtain ⟨left, suffix, derives, ends⟩ := exists_string mark front isStop.tail isPlain.2.2
        exact ⟨left, suffix.trans (List.suffix_cons _ _), .plain isPlain derives, ends⟩
      · simp only [Part.IsPlain, not_and_or, not_not] at isPlain
        rcases isPlain with rfl | rfl | rfl
        · exact ⟨d :: front, List.suffix_rfl, .nil, .inl rfl⟩
        · match front with
          | [] =>
              rw [isStop.tail.eq_nil (by decide)]
              exact ⟨[], List.nil_suffix, .idleEscape (by simp [AtLineEnd]) .nil,
                .inr (by simp [AtLineEnd])⟩
          | e :: front =>
              by_cases feed : e = '\n'
              · have ends : AtLineEnd (e :: front ++ stop) := by simp [AtLineEnd, feed]
                exact ⟨e :: front, List.suffix_cons _ _, .idleEscape ends .nil, .inr ends⟩
              · obtain ⟨left, suffix, derives, ends⟩ := exists_string mark front isStop.tail.tail feed
                exact ⟨left, suffix.trans ((List.suffix_cons _ _).trans (List.suffix_cons _ _)),
                  .quotedEscape feed derives, ends⟩
        · exact ⟨'\n' :: front, List.suffix_rfl, .nil, .inr (by simp [AtLineEnd])⟩

/-- Code is read up to a closing bracket or up to the stop. -/
def ReadsCode (outer : List Opener) (front stop : List Char) : Prop :=
  (∃ left, left <:+ front ∧ Derives .code (front ++ stop) (left ++ stop) ∧
      ∀ c ∈ left.head?, Scan.isCloser c = true) ∨
    IsStuck stop .code outer (front ++ stop)

/-- A template is read up to its closing backquote. -/
def ReadsLiteral (outer : List Opener) (front stop : List Char) : Prop :=
  (∃ left, '\x60' :: left <:+ front ∧ Derives .literal (front ++ stop) ('\x60' :: left ++ stop)) ∨
    IsStuck stop .literal outer (front ++ stop)

theorem ReadsCode.prepend (read : ReadsCode outer left stop) (suffix : left <:+ front)
    (derives : Derives .code (front ++ stop) (left ++ stop)) : ReadsCode outer front stop := by
  rcases read with ⟨rest, shorter, more, ends⟩ | stuck
  · exact .inl ⟨rest, shorter.trans suffix, derives.trans more, ends⟩
  · exact .inr (stuck.prepend derives)

theorem ReadsLiteral.prepend (read : ReadsLiteral outer left stop) (suffix : left <:+ front)
    (derives : Derives .literal (front ++ stop) (left ++ stop)) : ReadsLiteral outer front stop := by
  rcases read with ⟨rest, shorter, more⟩ | stuck
  · exact .inl ⟨rest, shorter.trans suffix, derives.trans more⟩
  · exact .inr (stuck.prepend derives)

/-- Behind an opener, the closing bracket that ends the code has to fit. -/
theorem ReadsCode.closes_or_isStuck {opener : Opener} (read : ReadsCode (opener :: outer) front stop) :
    (∃ left, opener.closer :: left <:+ front ∧
        Derives .code (front ++ stop) (opener.closer :: left ++ stop)) ∨
      IsStuck stop .code (opener :: outer) (front ++ stop) := by
  rcases read with ⟨left, suffix, derives, ends⟩ | stuck
  · cases left with
    | nil => exact .inr ⟨_, _, _, .here derives, .unclosed⟩
    | cons c left =>
        by_cases fits : c = opener.closer
        · subst fits
          exact .inl ⟨left, suffix, derives⟩
        · have misplaced : ∀ other ∈ (opener :: outer).head?, other.closer ≠ c := by
            simpa using Ne.symm fits
          exact .inr ⟨_, _, _, .here derives, .misplaced (ends c rfl) misplaced⟩
  · exact .inr stuck

/-- What a character of code can be. -/
theorem code_cases (c : Char) (text : List Char) :
    Part.code.IsPlain c text ∨ (c = '"' ∨ c = '\'') ∨ c = '\x60' ∨
      (∃ opener : Opener, opener ≠ .substitution ∧ c = opener.char) ∨ Scan.isCloser c = true ∨
      c = '/' ∧ (text.head? = some '/' ∨ text.head? = some '*') := by
  by_cases isPlain : Part.code.IsPlain c text
  · exact .inl isPlain
  · right
    simp only [Part.IsPlain, not_and_or, not_not, Classical.not_imp, ne_eq, List.mem_cons,
      List.not_mem_nil, or_false] at isPlain
    rcases isPlain with (quote | quote | template | paren | bracket | brace | closer) | comment
    · exact .inl (.inl quote)
    · exact .inl (.inr quote)
    · exact .inr (.inl template)
    · exact .inr (.inr (.inl ⟨.paren, by decide, paren⟩))
    · exact .inr (.inr (.inl ⟨.bracket, by decide, bracket⟩))
    · exact .inr (.inr (.inl ⟨.brace, by decide, brace⟩))
    · refine .inr (.inr (.inr (.inl ?_)))
      rcases closer with rfl | rfl | rfl <;> rfl
    · exact .inr (.inr (.inr (.inr comment)))

theorem readsCode_cons
    (shorter : ∀ other, other <:+ front → ∀ outer, ReadsCode outer other stop ∧
      ReadsLiteral outer other stop)
    (isStop : IsStop (c :: front) stop) (outer : List Opener) : ReadsCode outer (c :: front) stop := by
  have later {left : List Char} (suffix : left <:+ front)
      (derives : Derives .code (c :: front ++ stop) (left ++ stop)) :
      ReadsCode outer (c :: front) stop :=
    (shorter left suffix outer).1.prepend (suffix.trans (List.suffix_cons _ _)) derives
  rcases code_cases c (front ++ stop) with
    isPlain | quote | rfl | ⟨opener, some, rfl⟩ | closer | ⟨rfl, slash | star⟩
  · exact later List.suffix_rfl (.plain isPlain .nil)
  · have ordinary : c ≠ '\n' := by rcases quote with rfl | rfl <;> decide
    obtain ⟨left, suffix, string, ends⟩ := exists_string c front isStop ordinary
    rcases ends with closed | ends
    · obtain ⟨left, rfl⟩ := List.head?_eq_some_iff.mp closed
      exact later ((List.suffix_cons _ _).trans suffix) (.string quote string .nil)
    · exact later suffix (.openString quote string ends .nil)
  · rcases (shorter front List.suffix_rfl outer).2 with
      ⟨left, suffix, inside⟩ | ⟨last, opened, rest, reaches, halts⟩
    · exact later ((List.suffix_cons _ _).trans suffix) (.template inside .nil)
    · exact .inr ⟨last, opened, rest, .template .nil reaches, halts⟩
  · rcases (shorter front List.suffix_rfl (opener :: outer)).1.closes_or_isStuck with
      ⟨left, suffix, inside⟩ | ⟨last, opened, rest, reaches, halts⟩
    · exact later ((List.suffix_cons _ _).trans suffix) (.bracket some inside .nil)
    · exact .inr ⟨last, opened, rest, .bracket some .nil reaches, halts⟩
  · exact .inl ⟨c :: front, List.suffix_rfl, .nil, by simpa using closer⟩
  · obtain ⟨front, rfl⟩ := isStop.exists_cons (by decide) slash
    obtain ⟨left, suffix, comment, ends⟩ := exists_lineComment isStop.tail (by decide)
    exact later (suffix.trans (List.suffix_cons _ _)) (.lineComment comment ends .nil)
  · obtain ⟨front, rfl⟩ := isStop.exists_cons (by decide) star
    rcases exists_comment isStop.tail.tail with ⟨left, suffix, comment⟩ | unended
    · exact later (suffix.trans (List.suffix_cons _ _)) (.comment comment .nil)
    · exact .inr ⟨.comment, outer, stop, .comment .nil unended, .inComment⟩

theorem readsLiteral_cons
    (shorter : ∀ other, other <:+ front → ∀ outer, ReadsCode outer other stop ∧
      ReadsLiteral outer other stop)
    (isStop : IsStop (c :: front) stop) (outer : List Opener) :
    ReadsLiteral outer (c :: front) stop := by
  have later {left : List Char} (suffix : left <:+ front)
      (derives : Derives .literal (c :: front ++ stop) (left ++ stop)) :
      ReadsLiteral outer (c :: front) stop :=
    (shorter left suffix outer).2.prepend (suffix.trans (List.suffix_cons _ _)) derives
  by_cases isPlain : Part.literal.IsPlain c (front ++ stop)
  · exact later List.suffix_rfl (.plain isPlain .nil)
  · simp only [Part.IsPlain, not_and_or, ne_eq, Classical.not_imp, not_not] at isPlain
    rcases isPlain with rfl | rfl | ⟨rfl, brace⟩
    · cases front with
      | nil =>
          rw [isStop.eq_nil (by decide)]
          exact .inr ⟨.literal, outer, [], .idleEscape .nil, .inLiteral⟩
      | cons d front => exact later (List.suffix_cons _ _) (.escape .nil)
    · exact .inl ⟨front, List.suffix_rfl, .nil⟩
    · obtain ⟨front, rfl⟩ := isStop.exists_cons (by decide) brace
      have inner := (shorter front (List.suffix_cons _ _) (.substitution :: outer)).1
      rcases inner.closes_or_isStuck with
        ⟨left, suffix, inside⟩ | ⟨last, opened, rest, reaches, halts⟩
      · have behind := (List.suffix_cons _ _).trans suffix
        exact later (behind.trans (List.suffix_cons _ _)) (.group inside .nil)
      · exact .inr ⟨last, opened, rest, .group .nil reaches, halts⟩

theorem readsCode_and_readsLiteral (isStop : IsStop front stop) (outer : List Opener) :
    ReadsCode outer front stop ∧ ReadsLiteral outer front stop := by
  induction length : front.length using Nat.strongRecOn generalizing front outer with
  | ind size ih =>
      cases front with
      | nil =>
          exact ⟨.inl ⟨[], List.suffix_rfl, .nil, by simp⟩,
            .inr ⟨.literal, outer, stop, .here .nil, .inLiteral⟩⟩
      | cons c front =>
          have shorter : ∀ other, other <:+ front → ∀ outer, ReadsCode outer other stop ∧
              ReadsLiteral outer other stop := by
            intro other suffix outer
            have bound := suffix.length_le
            rw [List.length_cons] at length
            exact ih other.length (by omega) (isStop.tail.of_isSuffix suffix) outer rfl
          exact ⟨readsCode_cons shorter isStop outer, readsLiteral_cons shorter isStop outer⟩

end

end InlineScript.Format
