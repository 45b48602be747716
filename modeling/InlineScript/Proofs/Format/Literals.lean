import InlineScript.Proofs.Format.Acceptance
import InlineScript.Proofs.Format.Preservation

/-!
The literal parts of templates and what a layout makes of them. Which texts they are is told by the
grammar; the reader finds them one character at a time. A layout leaves lines alone that start inside
a template, but takes the blanks from the end of any other line, and such a line may end inside one.
-/

namespace InlineScript.Format

open Text (EndsLine isBlank isBlankLine terminated trim trimEnd trimStart)

variable {c : Char} {text out line front behind rest other : List Char} {opened : List Opener}
  {scan next last : Scan} {parts : List (List Char)}

/-! ## Literal parts by the grammar -/

/-- `Quotes part text rest literals`: the text is something of the part, followed by `rest`, and
`literals` are the literal parts of the templates in it, in their order. A template ends with its
backquote; its groups part it into several. -/
inductive Quotes : Part → List Char → List Char → List (List Char) → Prop
  -- code
  | nil {text : List Char} : Quotes .code text text []
  | plainCode {c : Char} {text rest : List Char} {parts : List (List Char)} :
      Part.code.IsPlain c text → Quotes .code text rest parts → Quotes .code (c :: text) rest parts
  | lineComment {text behind rest : List Char} {parts : List (List Char)} :
      Derives .lineComment text behind → AtLineEnd behind → Quotes .code behind rest parts →
      Quotes .code ('/' :: '/' :: text) rest parts
  | comment {text behind rest : List Char} {parts : List (List Char)} :
      Derives .comment text ('*' :: '/' :: behind) → Quotes .code behind rest parts →
      Quotes .code ('/' :: '*' :: text) rest parts
  | string {mark : Char} {text behind rest : List Char} {parts : List (List Char)} :
      mark = '"' ∨ mark = '\'' → Derives (.string mark) text (mark :: behind) →
      Quotes .code behind rest parts → Quotes .code (mark :: text) rest parts
  | openString {mark : Char} {text behind rest : List Char} {parts : List (List Char)} :
      mark = '"' ∨ mark = '\'' → Derives (.string mark) text behind → AtLineEnd behind →
      Quotes .code behind rest parts → Quotes .code (mark :: text) rest parts
  | bracket {opener : Opener} {text behind rest : List Char} {inner parts : List (List Char)} :
      opener ≠ .substitution → Quotes .code text (opener.closer :: behind) inner →
      Quotes .code behind rest parts → Quotes .code (opener.char :: text) rest (inner ++ parts)
  | template {text behind rest : List Char} {inner parts : List (List Char)} :
      Quotes .literal text behind inner → Quotes .code behind rest parts →
      Quotes .code ('\x60' :: text) rest (inner ++ parts)
  -- templates
  | close {rest : List Char} : Quotes .literal ('\x60' :: rest) rest [[]]
  | plainLiteral {c : Char} {text rest part : List Char} {parts : List (List Char)} :
      Part.literal.IsPlain c text → Quotes .literal text rest (part :: parts) →
      Quotes .literal (c :: text) rest ((c :: part) :: parts)
  | escape {c : Char} {text rest part : List Char} {parts : List (List Char)} :
      Quotes .literal text rest (part :: parts) →
      Quotes .literal ('\\' :: c :: text) rest (('\\' :: c :: part) :: parts)
  | group {text behind rest : List Char} {inner parts : List (List Char)} :
      Quotes .code text ('\x7d' :: behind) inner → Quotes .literal behind rest parts →
      Quotes .literal ('$' :: '\x7b' :: text) rest ([] :: inner ++ parts)

theorem Quotes.exists_cons (quotes : Quotes .literal text rest parts) :
    ∃ part more, parts = part :: more := by
  cases quotes <;> exact ⟨_, _, rfl⟩

/-- What is derived as a part has literal parts. -/
def HasLiterals (text rest : List Char) : Part → Prop
  | .code => ∃ parts, Quotes .code text rest parts
  | .literal => ∀ behind, rest = '\x60' :: behind → ∃ parts, Quotes .literal text behind parts
  | _ => True

theorem Derives.hasLiterals {part : Part} (derives : Derives part text rest) :
    HasLiterals text rest part := by
  induction derives with
  | @nil part text =>
      cases part with
      | code => exact ⟨[], .nil⟩
      | literal =>
          rintro behind rfl
          exact ⟨_, .close⟩
      | lineComment | comment | string => trivial
  | @plain part c text rest isPlain _ ih =>
      cases part with
      | code =>
          obtain ⟨parts, quotes⟩ := ih
          exact ⟨parts, .plainCode isPlain quotes⟩
      | literal =>
          intro behind closed
          obtain ⟨parts, quotes⟩ := ih behind closed
          obtain ⟨part, more, rfl⟩ := quotes.exists_cons
          exact ⟨_, .plainLiteral isPlain quotes⟩
      | lineComment | comment | string => trivial
  | lineComment comment ends _ _ ih =>
      obtain ⟨parts, quotes⟩ := ih
      exact ⟨parts, .lineComment comment ends quotes⟩
  | comment comment _ _ ih =>
      obtain ⟨parts, quotes⟩ := ih
      exact ⟨parts, .comment comment quotes⟩
  | string quote string _ _ ih =>
      obtain ⟨parts, quotes⟩ := ih
      exact ⟨parts, .string quote string quotes⟩
  | openString quote string ends _ _ ih =>
      obtain ⟨parts, quotes⟩ := ih
      exact ⟨parts, .openString quote string ends quotes⟩
  | bracket some _ _ inside code =>
      obtain ⟨inner, quotesInner⟩ := inside
      obtain ⟨parts, quotes⟩ := code
      exact ⟨_, .bracket some quotesInner quotes⟩
  | template _ _ inside code =>
      obtain ⟨inner, quotesInner⟩ := inside _ rfl
      obtain ⟨parts, quotes⟩ := code
      exact ⟨_, .template quotesInner quotes⟩
  | quotedEscape => trivial
  | idleEscape => trivial
  | escape _ ih =>
      intro behind closed
      obtain ⟨parts, quotes⟩ := ih behind closed
      obtain ⟨part, more, rfl⟩ := quotes.exists_cons
      exact ⟨_, .escape quotes⟩
  | group _ _ inside literal =>
      intro behind closed
      obtain ⟨inner, quotesInner⟩ := inside
      obtain ⟨parts, quotes⟩ := literal behind closed
      exact ⟨_, .group quotesInner quotes⟩

/-! ## Literal parts by the reader -/

/-- Whether the reader stands in the literal part of a template. -/
def Scan.inLiteral (scan : Scan) : Bool :=
  match scan.mode with
  | .template | .templateEscape | .templateDollar => true
  | _ => false

/-- The literal parts from a character on, given those behind it. The dollar sign in front of a group
is none of their characters. -/
def addLiteral (scan next : Scan) (c : Char) (rest : List Char) (parts : List (List Char)) :
    List (List Char) :=
  if scan.inLiteral = false then parts
  else if next.inLiteral = false then [] :: parts
  else if next.mode = .templateDollar ∧ rest.head? = some '\x7b' then parts
  else parts.modifyHead (c :: ·)

/-- The literal parts that the reader finds in a text. The first is what is left of the one that it
stands in, if it stands in one. -/
def literals : Scan → List Char → List (List Char)
  | scan, [] => if scan.inLiteral then [[]] else []
  | scan, c :: rest =>
      match scan.next? c with
      | none => []
      | some next => addLiteral scan next c rest (literals next rest)

theorem inLiteral_endLine (scan : Scan) : scan.endLine.inLiteral = scan.inLiteral := by
  obtain ⟨mode, opened⟩ := scan
  cases mode <;> rfl

theorem inLiteral_of_endLine_eq (same : scan.endLine = next.endLine) :
    scan.inLiteral = next.inLiteral := by
  rw [← inLiteral_endLine, same, inLiteral_endLine]

theorem literals_of_next? (step : scan.next? c = some next) :
    literals scan (c :: rest) = addLiteral scan next c rest (literals next rest) := by
  rw [literals, step]

theorem literals_outside (outside : scan.inLiteral = false) (step : scan.next? c = some next) :
    literals scan (c :: rest) = literals next rest := by
  rw [literals_of_next? step, addLiteral, if_pos outside]

theorem literals_leave (inside : scan.inLiteral = true) (step : scan.next? c = some next)
    (outside : next.inLiteral = false) : literals scan (c :: rest) = [] :: literals next rest := by
  rw [literals_of_next? step, addLiteral, if_neg (by simp [inside]), if_pos outside]

theorem literals_inside (inside : scan.inLiteral = true) (step : scan.next? c = some next)
    (stays : next.inLiteral = true)
    (goesOn : ¬ (next.mode = .templateDollar ∧ rest.head? = some '\x7b')) :
    literals scan (c :: rest) = (literals next rest).modifyHead (c :: ·) := by
  rw [literals_of_next? step, addLiteral, if_neg (by simp [inside]), if_neg (by simp [stays]),
    if_neg goesOn]

theorem literals_dollar (inside : scan.inLiteral = true) (step : scan.next? c = some next)
    (stays : next.inLiteral = true)
    (opens : next.mode = .templateDollar ∧ rest.head? = some '\x7b') :
    literals scan (c :: rest) = literals next rest := by
  rw [literals_of_next? step, addLiteral, if_neg (by simp [inside]), if_neg (by simp [stays]),
    if_pos opens]

theorem Alike.literals_eq {other : Scan} (alike : Alike text scan other) :
    literals scan text = literals other text := by
  have same := inLiteral_of_endLine_eq alike.ended
  cases text with
  | nil => rw [literals, literals, same]
  | cons c rest =>
      rw [literals, literals, alike.next c rfl]
      cases other.next? c with
      | none => rfl
      | some next => simp only [addLiteral, same]

theorem Leads.exists_next? {other : Scan} (leads : Leads scan (c :: text) other text) :
    ∃ next, scan.next? c = some next ∧ Alike text next other := by
  have walk : Leads scan ([c] ++ text) other text := leads
  obtain ⟨stop, walked, alike⟩ := walk.exists_after?
  rw [Scan.after?] at walked
  obtain ⟨next, step, found⟩ := Option.bind_eq_some_iff.mp walked
  cases found
  exact ⟨stop, step, alike⟩

theorem literals_of_leads {other : Scan} (outside : scan.inLiteral = false)
    (leads : Leads scan (c :: text) other text) : literals scan (c :: text) = literals other text := by
  obtain ⟨next, step, alike⟩ := leads.exists_next?
  rw [literals_outside outside step, alike.literals_eq]

/-- Comments and strings hold no templates. -/
theorem Derives.literals_eq {part : Part} (derives : Derives part text rest) (notCode : part ≠ .code)
    (notLiteral : part ≠ .literal) (opened : List Opener) :
    literals (part.reader opened) text = literals (part.reader opened) rest := by
  induction derives with
  | nil => rfl
  | @plain part c text rest isPlain _ ih =>
      have outside : (part.reader opened).inLiteral = false := by
        cases part with
        | literal => contradiction
        | code | lineComment | comment | string => rfl
      rw [literals_of_leads outside (leads_plain isPlain), ih notCode notLiteral]
  | @quotedEscape mark c text rest sameLine _ ih =>
      have escapes : ((Part.string mark).reader opened).next? '\\' = some ⟨.string mark true, opened⟩ :=
        rfl
      rw [literals_outside rfl escapes, literals_outside rfl (Scan.next?_of_ne _ sameLine)]
      exact ih notCode notLiteral
  | @idleEscape mark text rest ends _ ih =>
      have escapes : ((Part.string mark).reader opened).next? '\\' = some ⟨.string mark true, opened⟩ :=
        rfl
      have idle : Alike text ⟨.string mark true, opened⟩ ((Part.string mark).reader opened) :=
        alike_of_atLineEnd ends rfl
      rw [literals_outside rfl escapes, idle.literals_eq, ih notCode notLiteral]
  | lineComment | comment | string | openString | bracket | template => contradiction
  | escape | group => contradiction

/-- A character of the literal part that stands for itself. -/
theorem literals_plainLiteral (isPlain : Part.literal.IsPlain c text) (opened : List Opener) :
    literals (Part.literal.reader opened) (c :: text) =
      (literals (Part.literal.reader opened) text).modifyHead (c :: ·) := by
  have leads : Leads (Part.literal.reader opened) (c :: text) (Part.literal.reader opened) text :=
    leads_plain isPlain
  obtain ⟨next, step, alike⟩ := leads.exists_next?
  have stays : next.inLiteral = true := inLiteral_of_endLine_eq alike.ended
  have goesOn : ¬ (next.mode = .templateDollar ∧ text.head? = some '\x7b') := by
    rintro ⟨dollar, brace⟩
    obtain ⟨mode, outer⟩ := next
    cases dollar
    have clash : some (⟨.code, .substitution :: outer⟩ : Scan) = some ⟨.template, opened⟩ :=
      alike.next '\x7b' brace
    simp at clash
  rw [literals_inside rfl step stays goesOn, alike.literals_eq]

theorem literals_quote {mark : Char} (quote : mark = '"' ∨ mark = '\'') (opened : List Opener) :
    literals (Part.code.reader opened) (mark :: text) =
      literals ((Part.string mark).reader opened) text := by
  cases quote with
  | inl double =>
      subst double
      exact literals_outside rfl rfl
  | inr single =>
      subst single
      exact literals_outside rfl rfl

theorem Quotes.literals_eq {part : Part} (quotes : Quotes part text rest parts)
    (opened : List Opener) :
    literals (part.reader opened) text = parts ++ literals (Part.code.reader opened) rest := by
  induction quotes generalizing opened with
  | nil => rfl
  | plainCode isPlain _ ih => rw [literals_of_leads rfl (leads_plain isPlain), ih]
  | @lineComment text behind rest parts comment ends _ ih =>
      have starts : literals (Part.code.reader opened) ('/' :: '/' :: text) =
          literals (Part.lineComment.reader opened) text :=
        (literals_outside rfl rfl).trans (literals_outside rfl rfl)
      have ended : Alike behind (Part.lineComment.reader opened) (Part.code.reader opened) :=
        alike_of_atLineEnd ends rfl
      rw [starts, comment.literals_eq (by simp) (by simp), ended.literals_eq, ih]
  | @comment text behind rest parts comment _ ih =>
      have starts : literals (Part.code.reader opened) ('/' :: '*' :: text) =
          literals (Part.comment.reader opened) text :=
        (literals_outside rfl rfl).trans (literals_outside rfl rfl)
      have ends : literals (Part.comment.reader opened) ('*' :: '/' :: behind) =
          literals (Part.code.reader opened) behind :=
        (literals_outside rfl rfl).trans (literals_outside rfl rfl)
      rw [starts, comment.literals_eq (by simp) (by simp), ends, ih]
  | @string mark text behind rest parts quote string _ ih =>
      have ends : literals ((Part.string mark).reader opened) (mark :: behind) =
          literals (Part.code.reader opened) behind := by
        rcases quote with rfl | rfl <;> exact literals_outside rfl rfl
      rw [literals_quote quote, string.literals_eq (by simp) (by simp), ends, ih]
  | @openString mark text behind rest parts quote string ends _ ih =>
      have ended : Alike behind ((Part.string mark).reader opened) (Part.code.reader opened) :=
        alike_of_atLineEnd ends rfl
      rw [literals_quote quote, string.literals_eq (by simp) (by simp), ended.literals_eq, ih]
  | bracket some _ _ inside code =>
      rw [literals_outside rfl (next?_opener some), inside, literals_outside rfl (next?_closer some),
        code, List.append_assoc]
  | @template text behind rest inner parts _ _ inside code =>
      have starts : literals (Part.code.reader opened) ('\x60' :: text) =
          literals (Part.literal.reader opened) text := literals_outside rfl rfl
      rw [starts, inside, code, List.append_assoc]
  | close => exact literals_leave rfl rfl rfl
  | plainLiteral isPlain _ ih =>
      rw [literals_plainLiteral isPlain, ih]
      rfl
  | @escape c text rest part parts _ ih =>
      have escapes : (Part.literal.reader opened).next? '\\' = some ⟨.templateEscape, opened⟩ := rfl
      have escaped : (⟨.templateEscape, opened⟩ : Scan).next? c = some (Part.literal.reader opened) := by
        by_cases feed : c = '\n'
        · subst feed
          rfl
        · exact Scan.next?_of_ne _ feed
      have stays : (Part.literal.reader opened).mode ≠ .templateDollar := by simp [Part.reader, Part.mode]
      rw [literals_inside rfl escapes rfl (by simp), literals_inside rfl escaped rfl (by simp [stays]),
        ih]
      rfl
  | @group text behind rest inner parts _ _ inside literal =>
      have starts : literals (Part.literal.reader opened) ('$' :: '\x7b' :: text) =
          [] :: literals (Part.code.reader (.substitution :: opened)) text := by
        have dollar : (Part.literal.reader opened).next? '$' = some ⟨.templateDollar, opened⟩ := rfl
        rw [literals_dollar rfl dollar rfl ⟨rfl, rfl⟩]
        exact literals_leave rfl rfl rfl
      have ends : literals (Part.code.reader (.substitution :: opened)) ('\x7d' :: behind) =
          literals (Part.literal.reader opened) behind := literals_outside rfl rfl
      rw [starts, inside, ends, literal]
      simp

/-- The reader finds the literal parts that the grammar tells. -/
theorem quotes_iff (derives : Derives .code text []) :
    Quotes .code text [] parts ↔ parts = literals .start text := by
  have found {parts : List (List Char)} (quotes : Quotes .code text [] parts) :
      parts = literals .start text := by
    have whole := quotes.literals_eq []
    have nothing : literals (Part.code.reader []) [] = [] := rfl
    rw [nothing, List.append_nil] at whole
    exact whole.symm
  constructor
  · exact found
  · intro same
    obtain ⟨other, quotes⟩ := derives.hasLiterals
    rw [same, ← found quotes]
    exact quotes

/-! ## Texts that go on in two ways -/

theorem modifyHead_cons_inj {first second : List (List Char)} :
    first.modifyHead (c :: ·) = second.modifyHead (c :: ·) ↔ first = second := by
  cases first <;> cases second <;> simp

theorem addLiteral_inj {first second : List (List Char)} :
    addLiteral scan next c rest first = addLiteral scan next c rest second ↔ first = second := by
  unfold addLiteral
  split
  · rfl
  · split
    · simp
    · split
      · rfl
      · exact modifyHead_cons_inj

/-- Two texts of which both or neither let a dollar sign in front of them open a group. -/
def StartAlike (scan : Scan) (text other : List Char) : Prop :=
  scan.mode = .templateDollar → (text.head? = some '\x7b' ↔ other.head? = some '\x7b')

theorem addLiteral_congr (alike : StartAlike next rest other) (parts : List (List Char)) :
    addLiteral scan next c rest parts = addLiteral scan next c other parts := by
  simp only [addLiteral, and_congr_right_iff.mpr alike]

theorem literals_append_iff (walked : scan.after? front = some last)
    (alike : StartAlike last rest other) :
    literals scan (front ++ rest) = literals scan (front ++ other) ↔
      literals last rest = literals last other := by
  induction front generalizing scan with
  | nil =>
      cases walked
      rfl
  | cons c front ih =>
      rw [Scan.after?] at walked
      obtain ⟨next, step, walkedOn⟩ := Option.bind_eq_some_iff.mp walked
      have alikeNext : StartAlike next (front ++ rest) (front ++ other) := by
        cases front with
        | nil =>
            cases walkedOn
            exact alike
        | cons d front => exact fun _ => Iff.rfl
      rw [List.cons_append, List.cons_append, literals_of_next? step, literals_of_next? step,
        addLiteral_congr alikeNext, addLiteral_inj, ih walkedOn]

theorem Scan.exists_next? (inside : scan.inLiteral = true) (c : Char) :
    ∃ next, scan.next? c = some next := by
  by_cases feed : c = '\n'
  · exact ⟨scan.endLine, by rw [feed, scan.next?_feed]⟩
  · rw [scan.next?_of_ne feed]
    obtain ⟨mode, opened⟩ := scan
    cases mode with
    | template | templateEscape => exact ⟨_, rfl⟩
    | templateDollar =>
        by_cases brace : c = '\x7b'
        · exact ⟨_, if_pos brace⟩
        · exact ⟨_, if_neg brace⟩
    | code | slash | lineComment | comment | string => contradiction

theorem exists_literals (inside : scan.inLiteral = true) (text : List Char) :
    ∃ part parts, literals scan text = part :: parts := by
  induction text generalizing scan with
  | nil => exact ⟨[], [], by rw [literals, if_pos inside]⟩
  | cons c rest ih =>
      obtain ⟨next, step⟩ := Scan.exists_next? inside c
      cases stays : next.inLiteral with
      | false => exact ⟨[], _, literals_leave inside step stays⟩
      | true =>
          obtain ⟨part, parts, found⟩ := ih stays
          by_cases opens : next.mode = .templateDollar ∧ rest.head? = some '\x7b'
          · exact ⟨part, parts, by rw [literals_dollar inside step stays opens, found]⟩
          · exact ⟨c :: part, parts, by rw [literals_inside inside step stays opens, found]; rfl⟩

/-! ## Blanks -/

theorem Scan.next?_blank (scan : Scan) (blank : isBlank c = true) :
    ∃ next, scan.next? c = some next ∧ next.endLine = scan.endLine := by
  by_cases feed : c = '\n'
  · subst feed
    exact ⟨scan.endLine, scan.next?_feed, endLine_endLine scan⟩
  · rw [scan.next?_of_ne feed]
    exact scan.step?_blank blank

variable {blanks : List Char}

theorem literals_blanks_append (starts : scan.endLine = scan) (outside : scan.inLiteral = false)
    (allBlank : ∀ c ∈ blanks, isBlank c = true) (text : List Char) :
    literals scan (blanks ++ text) = literals scan text := by
  induction blanks with
  | nil => rfl
  | cons c blanks ih =>
      obtain ⟨first, later⟩ := List.forall_mem_cons.mp allBlank
      have step : scan.next? c = some scan := by
        by_cases feed : c = '\n'
        · rw [feed, scan.next?_feed, starts]
        · rw [scan.next?_of_ne feed, step?_blank_of_starts starts first]
      rw [List.cons_append, literals_outside outside step, ih later]

theorem head?_blanks_feed (allBlank : ∀ c ∈ blanks, isBlank c = true) (text : List Char) :
    (blanks ++ '\n' :: text).head? ≠ some '\x7b' := by
  cases blanks with
  | nil => simp
  | cons c blanks =>
      intro brace
      cases brace
      have blank := allBlank '\x7b' List.mem_cons_self
      contradiction

theorem literals_blanks_feed_outside (outside : scan.inLiteral = false)
    (allBlank : ∀ c ∈ blanks, isBlank c = true) (text : List Char) :
    literals scan (blanks ++ '\n' :: text) = literals scan.endLine text := by
  induction blanks generalizing scan with
  | nil => exact literals_outside outside scan.next?_feed
  | cons c blanks ih =>
      obtain ⟨first, later⟩ := List.forall_mem_cons.mp allBlank
      obtain ⟨next, step, ended⟩ := scan.next?_blank first
      have still : next.inLiteral = false := (inLiteral_of_endLine_eq ended).trans outside
      rw [List.cons_append, literals_outside outside step, ih still later, ended]

/-- Blanks at the end of a line belong to the literal part that the line ends in. -/
theorem literals_blanks_feed_inside (inside : scan.inLiteral = true)
    (allBlank : ∀ c ∈ blanks, isBlank c = true) (text : List Char) :
    literals scan (blanks ++ '\n' :: text) =
      (literals scan.endLine text).modifyHead (blanks ++ '\n' :: ·) := by
  induction blanks generalizing scan with
  | nil =>
      have goesOn : scan.endLine.mode ≠ .templateDollar := by
        obtain ⟨mode, opened⟩ := scan
        cases mode <;> simp [Scan.endLine]
      exact literals_inside inside scan.next?_feed ((inLiteral_endLine scan).trans inside)
        fun opens => goesOn opens.1
  | cons c blanks ih =>
      obtain ⟨first, later⟩ := List.forall_mem_cons.mp allBlank
      obtain ⟨next, step, ended⟩ := scan.next?_blank first
      have still : next.inLiteral = true := (inLiteral_of_endLine_eq ended).trans inside
      rw [List.cons_append, literals_inside inside step still
        fun opens => head?_blanks_feed later text opens.2, ih still later, ended,
        List.modifyHead_modifyHead]
      rfl

/-! ## Lines -/

theorem mode_of_inLiteral (starts : scan.endLine = scan) :
    scan.inLiteral = true ↔ scan.mode = .template := by
  obtain ⟨mode, opened⟩ := scan
  rcases mode_of_endLine starts with code | comment | template
  · cases code
    simp [Scan.inLiteral]
  · cases comment
    simp [Scan.inLiteral]
  · cases template
    simp [Scan.inLiteral]

theorem inLiteral_of_mode_ne (starts : scan.endLine = scan) (outside : scan.mode ≠ .template) :
    scan.inLiteral = false := by
  rw [← Bool.not_eq_true, mode_of_inLiteral starts]
  exact outside

theorem startAlike_of_starts (starts : scan.endLine = scan) : StartAlike scan text other := by
  intro dollar
  rcases mode_of_endLine starts with code | comment | template
  · simp [code] at dollar
  · simp [comment] at dollar
  · simp [template] at dollar

/-- Blanks at the end of a line do not show in the literal parts, unless the line ends in one. -/
theorem literals_trail_iff {body trail first second : List Char} {stop : Scan}
    (walked : scan.after? body = some stop) (allBlank : ∀ c ∈ trail, isBlank c = true)
    (noFeed : '\n' ∉ trail) :
    literals scan (body ++ '\n' :: first) = literals scan (body ++ (trail ++ '\n' :: second)) ↔
      (stop.inLiteral = true → trail = []) ∧
        literals stop.endLine first = literals stop.endLine second := by
  have noBlanks : ∀ c ∈ ([] : List Char), isBlank c = true := by simp
  have alike : StartAlike stop ([] ++ '\n' :: first) (trail ++ '\n' :: second) := fun _ =>
    iff_of_false (head?_blanks_feed noBlanks first) (head?_blanks_feed allBlank second)
  refine (literals_append_iff walked alike).trans ?_
  cases inside : stop.inLiteral with
  | false =>
      rw [literals_blanks_feed_outside inside noBlanks, literals_blanks_feed_outside inside allBlank]
      simp
  | true =>
      have still := (inLiteral_endLine stop).trans inside
      obtain ⟨part, parts, found⟩ := exists_literals still first
      obtain ⟨other, others, foundOther⟩ := exists_literals still second
      rw [literals_blanks_feed_inside inside noBlanks, literals_blanks_feed_inside inside allBlank,
        found, foundOther]
      cases trail with
      | nil => simp
      | cons c trail =>
          have ordinary : c ≠ '\n' := (List.ne_of_not_mem_cons noFeed).symm
          simp [ordinary.symm]

variable {unit : List Char}

/-- A line and the end of it, in a text. -/
theorem after?_line (noFeed : '\n' ∉ line) (starts : last.endLine = last)
    (walked : scan.after? front = some last) :
    scan.after? (front ++ (line ++ ['\n'])) = last.behind? line := by
  rw [Scan.after?_append, walked, Option.bind_some, last.after?_feed noFeed,
    Scan.behind?_eq starts]
  cases (last.runLine line).toOption <;> rfl

theorem literals_literalLine_iff (starts : scan.endLine = scan) (noFeed : '\n' ∉ line)
    (read : scan.behind? line = some next) (first second : List Char) :
    literals scan (line ++ '\n' :: first) = literals scan (line ++ '\n' :: second) ↔
      literals next first = literals next second := by
  have walked : scan.after? (line ++ ['\n']) = some next := by
    rw [← List.nil_append (line ++ ['\n']), after?_line noFeed starts rfl, read]
  have alike : StartAlike next first second := startAlike_of_starts (endLine_of_behind? read)
  rw [← literals_append_iff walked alike, List.append_assoc, List.append_assoc]
  rfl

theorem literals_trimmedLine_iff (starts : scan.endLine = scan) (outside : scan.mode ≠ .template)
    (noFeed : '\n' ∉ line) (read : scan.behind? line = some next) (first second : List Char) :
    literals scan (trim line ++ '\n' :: first) = literals scan (line ++ '\n' :: second) ↔
      (next.mode = .template → trimEnd line = line) ∧
        literals next first = literals next second := by
  have notInside := inLiteral_of_mode_ne starts outside
  obtain ⟨lead, trail, leadBlank, trailBlank, split⟩ := Text.exists_trim line
  have trailNoFeed : '\n' ∉ trail := by
    intro feed
    rw [split] at noFeed
    simp [feed] at noFeed
  rw [Scan.behind?, if_neg outside] at read
  obtain ⟨stop, found, rfl⟩ := Option.map_eq_some_iff.mp read
  have walked : scan.after? (trim line) = some stop := by
    rw [scan.after?_of_not_mem fun feed => noFeed (Text.mem_of_mem_trim feed), found]
  have whole : literals scan (line ++ '\n' :: second) =
      literals scan (trim line ++ (trail ++ '\n' :: second)) := by
    conv_lhs => rw [split]
    rw [List.append_assoc, literals_blanks_append starts notInside leadBlank, List.append_assoc]
  have ended : stop.endLine.mode = .template ↔ stop.inLiteral = true := by
    rw [← mode_of_inLiteral (endLine_endLine stop), inLiteral_endLine]
  rw [whole, literals_trail_iff walked trailBlank trailNoFeed, ended]
  refine and_congr_left' (imp_congr_right fun inside => ?_)
  -- the line ends in a literal part that it did not start in, so it is not blank
  have dark : trim line ≠ [] := by
    intro empty
    rw [empty] at walked
    cases walked
    simp [inside] at notInside
  exact (Text.trimEnd_eq_self_iff_of_split dark trailBlank split).symm

theorem literals_row_iff (isIndent : IsIndent unit) (starts : scan.endLine = scan)
    (noFeed : '\n' ∉ line) (row : (rowOf unit scan line).1 = .line text)
    (read : scan.behind? line = some next) (first second : List Char) :
    literals scan (text ++ '\n' :: first) = literals scan (line ++ '\n' :: second) ↔
      (scan.mode ≠ .template → next.mode = .template → trimEnd line = line) ∧
        literals next first = literals next second := by
  rcases rowOf_text isIndent row with ⟨inside, rfl⟩ | ⟨outside, blanks, blank, rfl⟩
  · rw [literals_literalLine_iff starts noFeed read]
    simp [inside]
  · have notInside := inLiteral_of_mode_ne starts outside
    rw [List.append_assoc, literals_blanks_append starts notInside blank.isBlank,
      literals_trimmedLine_iff starts outside noFeed read]
    simp [outside]

/-! ## All lines -/

/-- No line that leads from outside into the literal part of a template ends in blanks. -/
def Hemmed : Scan → List (List Char) → Prop
  | _, [] => True
  | scan, line :: rest =>
      ∀ next ∈ scan.behind? line,
        (scan.mode ≠ .template → next.mode = .template → trimEnd line = line) ∧ Hemmed next rest

variable {lines result : List (List Char)} {full : Bool}

theorem hemmed_cons (read : scan.behind? line = some next) :
    Hemmed scan (line :: lines) ↔
      (scan.mode ≠ .template → next.mode = .template → trimEnd line = line) ∧ Hemmed next lines := by
  simp [Hemmed, read]

theorem hemmed_gap (starts : scan.endLine = scan) (code : scan.mode = .code) (empty : trim line = []) :
    Hemmed scan (line :: lines) ↔ Hemmed scan lines := by
  rw [hemmed_cons (behind?_of_trim_nil starts (by simp [code]) empty)]
  simp [code]

theorem literals_gap (starts : scan.endLine = scan) (code : scan.mode = .code) (empty : trim line = []) :
    literals scan (terminated (line :: lines)) = literals scan (terminated lines) := by
  have notInside : scan.inLiteral = false := by simp [Scan.inLiteral, code]
  have allBlank : ∀ c ∈ line ++ ['\n'], isBlank c = true := by
    have blank := List.all_eq_true.mp ((Text.trim_eq_nil_iff line).mp empty)
    exact List.forall_mem_append.mpr ⟨blank, List.forall_mem_singleton.mpr rfl⟩
  have split : terminated (line :: lines) = (line ++ ['\n']) ++ terminated lines := by simp
  rw [split, literals_blanks_append starts notInside allBlank]

/-- A layout keeps the literal parts of templates exactly if no blanks at the ends of lines belong to
them that are laid out as code or as comments. -/
theorem LaidOut.literals_iff (isIndent : IsIndent unit) (starts : scan.endLine = scan)
    (noFeed : ∀ line ∈ lines, '\n' ∉ line) (laid : LaidOut unit full scan lines result) :
    literals scan (terminated result) = literals scan (terminated lines) ↔ Hemmed scan lines := by
  induction laid with
  | nil => exact iff_of_true rfl trivial
  | skip code empty idle laid ih =>
      rw [literals_gap starts code empty, hemmed_gap starts code empty,
        ih starts (List.forall_mem_cons.mp noFeed).2]
  | gap code empty some laid ih =>
      rw [literals_gap starts code empty, literals_gap starts code rfl, hemmed_gap starts code empty,
        ih starts (List.forall_mem_cons.mp noFeed).2]
  | line row read laid ih =>
      obtain ⟨first, later⟩ := List.forall_mem_cons.mp noFeed
      rw [Text.terminated_cons, Text.terminated_cons, literals_row_iff isIndent starts first row read,
        ih (endLine_of_behind? read) later, hemmed_cons read]

theorem hemmed_iff (starts : scan.endLine = scan) (noFeed : ∀ line ∈ lines, '\n' ∉ line) :
    Hemmed scan lines ↔ ∀ front line back last next, lines = front ++ line :: back →
      scan.after? (terminated front) = some last → last.behind? line = some next →
      last.mode ≠ .template → next.mode = .template → trimEnd line = line := by
  induction lines generalizing scan with
  | nil => simp [Hemmed]
  | cons line lines ih =>
      obtain ⟨first, later⟩ := List.forall_mem_cons.mp noFeed
      constructor
      · intro hemmed front found back last next split walked read
        cases front with
        | nil =>
            cases walked
            cases split
            exact (hemmed next read).1
        | cons top front =>
            obtain ⟨rfl, tail⟩ := List.cons.inj split
            rw [after?_terminated_cons starts first] at walked
            obtain ⟨middle, begins, goesOn⟩ := Option.bind_eq_some_iff.mp walked
            exact (ih (endLine_of_behind? begins) later).mp (hemmed middle begins).2 front found back
              last next tail goesOn read
      · intro kept next read
        refine ⟨kept [] line lines scan next rfl rfl read, ?_⟩
        refine (ih (endLine_of_behind? read) later).mpr ?_
        intro front found back last final tail walked
        apply kept (line :: front) found back last final (congrArg _ tail)
        rw [after?_terminated_cons starts first, read]
        exact walked

/-! ## Whole texts -/

/-- No line that starts outside the literal part of a template and ends inside one ends in blanks. -/
def HemsLiterals (text : List Char) : Prop :=
  ∀ front line rest, text = front ++ (line ++ '\n' :: rest) → EndsLine front → '\n' ∉ line →
    ¬ Stands .literal text (line ++ '\n' :: rest) → Stands .literal text rest → trimEnd line = line

/-- Where a line starts, the reader and the grammar tell the same. -/
theorem stands_literal_iff (ends : EndsLine front) (walked : Scan.start.after? front = some scan) :
    Stands .literal (front ++ rest) rest ↔ scan.mode = .template := by
  constructor
  · rintro ⟨opened, reaches⟩
    rw [reaches.after?_eq (.inr (.inr rfl)) ends, Option.some.injEq] at walked
    rw [← walked]
    rfl
  · intro inside
    exact stands_literal_of_after? ends walked inside rest

theorem endsLine_line (front line : List Char) : EndsLine (front ++ (line ++ ['\n'])) :=
  .inr (by simp)

/-- Lines that are laid out end in code. -/
theorem LaidOut.exists_after? (starts : scan.endLine = scan) (noFeed : ∀ line ∈ lines, '\n' ∉ line)
    (laid : LaidOut unit full scan lines result) :
    ∃ last, scan.after? (terminated lines) = some last ∧ last.mode = .code := by
  rw [← List.append_nil lines] at laid
  obtain ⟨full, last, before, behind, walked, rest, -⟩ := laid.splitLines starts noFeed
  cases rest with
  | nil ends => exact ⟨last, walked, mode_of_atEnd ends⟩

theorem LaidOut.hemmed_lines_iff (noReturn : '\r' ∉ text)
    (laid : LaidOut unit false .start (Text.lines text) result) :
    Hemmed .start (Text.lines text) ↔ HemsLiterals text := by
  rw [hemmed_iff rfl fun _ => Text.not_mem_of_mem_lines]
  constructor
  · rintro hemmed front line rest rfl ends noFeed startsOutside ⟨opened, reaches⟩
    have cut : Text.lines (front ++ (line ++ '\n' :: rest)) =
        Text.lines front ++ line :: Text.lines rest := by
      have lineNoReturn : '\r' ∉ line := by simp_all
      rw [ends.lines_append, Text.lines_feed noFeed, Text.dropTerminator_feed lineNoReturn]
    have whole : front ++ (line ++ '\n' :: rest) = front ++ (line ++ ['\n']) ++ rest := by simp
    rw [whole] at reaches
    have walkedLine := reaches.after?_eq (.inr (.inr rfl)) (endsLine_line front line)
    rw [Scan.after?_append] at walkedLine
    obtain ⟨last, walked, -⟩ := Option.bind_eq_some_iff.mp walkedLine
    have starts := Scan.endLine_of_after? rfl ends walked
    rw [← Scan.after?_append, after?_line noFeed starts walked] at walkedLine
    rw [stands_literal_iff ends walked] at startsOutside
    rw [← after?_terminated_lines ends] at walked
    exact hemmed _ line _ last _ cut walked walkedLine startsOutside rfl
  · intro hems fronts line backs last next cut walked read startsOutside endsInside
    have noFeed : ∀ other ∈ fronts ++ line :: backs, '\n' ∉ other := by
      rw [← cut]
      exact fun _ => Text.not_mem_of_mem_lines
    obtain ⟨frontsNoFeed, others⟩ := List.forall_mem_append.mp noFeed
    obtain ⟨lineNoFeed, -⟩ := List.forall_mem_cons.mp others
    have ends := Text.endsLine_terminated fronts
    have starts := Scan.endLine_of_after? rfl ends walked
    have walkedLine := after?_line lineNoFeed starts walked
    rw [read] at walkedLine
    have some : backs ≠ [] := by
      rintro rfl
      obtain ⟨stop, reached, code⟩ := laid.exists_after? rfl fun _ => Text.not_mem_of_mem_lines
      rw [cut, Text.terminated_append, Text.terminated_cons, Text.terminated_nil, walkedLine] at reached
      cases reached
      rw [code] at endsInside
      contradiction
    obtain ⟨rest, rfl⟩ := Text.exists_of_lines_eq noReturn cut some
    refine hems _ line rest rfl ends lineNoFeed ?_ ?_
    · rwa [stands_literal_iff ends walked]
    · have whole : terminated fronts ++ (line ++ '\n' :: rest) =
          terminated fronts ++ (line ++ ['\n']) ++ rest := by simp
      rw [whole, stands_literal_iff (endsLine_line _ line) walkedLine]
      exact endsInside

/-- A line feed behind the last line adds nothing to the literal parts of a text that is laid out. -/
theorem LaidOut.literals_lines (noReturn : '\r' ∉ text)
    (laid : LaidOut unit false .start (Text.lines text) result) :
    literals .start (terminated (Text.lines text)) = literals .start text := by
  obtain ⟨stop, reached, code⟩ := laid.exists_after? rfl fun _ => Text.not_mem_of_mem_lines
  obtain ⟨lines, line, rfl, -, -, cut⟩ := Text.exists_lines noReturn
  rw [cut] at reached ⊢
  by_cases empty : line = []
  · simp [empty]
  · have whole : terminated (lines ++ [line]) = terminated lines ++ line ++ ['\n'] := by
      simp [Text.terminated_append]
    rw [if_neg empty, whole] at reached ⊢
    rw [Scan.after?_append] at reached
    obtain ⟨last, walked, fed⟩ := Option.bind_eq_some_iff.mp reached
    have outside : last.inLiteral = false := by
      have ended : last.endLine = stop := by simpa [Scan.after?, Scan.next?_feed] using fed
      rw [← inLiteral_endLine, ended]
      simp [Scan.inLiteral, code]
    have alike : StartAlike last ['\n'] [] := by simp [StartAlike]
    have same := (literals_append_iff walked alike).mpr (by
      rw [literals_outside outside last.next?_feed, literals, literals, inLiteral_endLine])
    rwa [List.append_nil] at same

theorem derives_of_layout (ok : layout unit text = .ok out) : Derives .code text [] := by
  cases (exists_layout_iff unit text).mp ⟨_, ok⟩ with
  | accepted derives => exact derives

/-- A layout keeps the literal parts of all templates, but for a text in which a line leads from
outside into one and ends in blanks. -/
theorem layout_keeps_literals_iff (settings : Settings) (text out : List Char) (noReturn : '\r' ∉ text)
    (ok : layout settings.indentUnit text = .ok out) :
    (∀ parts, Quotes .code text [] parts ↔ parts = literals .start text) ∧
    (∀ parts, Quotes .code out [] parts ↔ parts = literals .start out) ∧
    (literals .start out = literals .start text ↔ HemsLiterals text) := by
  have isIndent := isIndent_indentUnit settings
  have derives := derives_of_layout ok
  obtain ⟨result, laid, rfl⟩ := (layout_eq_ok_iff isIndent).mp ok
  have outDerives := derives_of_layout (laid.layout_eq isIndent (Text.unbroken_lines noReturn))
  refine ⟨fun parts => quotes_iff derives, fun parts => quotes_iff outDerives, ?_⟩
  rw [← laid.literals_lines noReturn, ← laid.hemmed_lines_iff noReturn]
  exact laid.literals_iff isIndent rfl fun _ => Text.not_mem_of_mem_lines

/-- Templates with blanks of their own at both ends of lines, one within a group of the other. -/
private def nestedTemplates : List Char :=
  "  f(\x60 a\n  b  $\x7b\n   [1,  \n\x60\\\x60c\n \n\x60]  \x7d$ \n  \x60)".toList

theorem layout_keeps_literals_iff_nestedTemplates :
    let settings : Settings := {}
    let out := "f(\x60 a\n  b  $\x7b\n  [1,\n    \x60\\\x60c\n \n\x60]  \x7d$ \n  \x60)\n".toList
    let parts := [" a\n  b  ".toList, "\\\x60c\n \n".toList, "$ \n  ".toList]
    '\r' ∉ nestedTemplates ∧ layout settings.indentUnit nestedTemplates = .ok out ∧
      Quotes .code nestedTemplates [] parts ∧ Quotes .code out [] parts ∧
      HemsLiterals nestedTemplates := by
  intro settings out parts
  have noReturn : '\r' ∉ nestedTemplates := by decide +kernel
  have ok : layout settings.indentUnit nestedTemplates = .ok out := by decide +kernel
  obtain ⟨before, after, kept⟩ := layout_keeps_literals_iff settings nestedTemplates out noReturn ok
  have found : literals .start nestedTemplates = parts := by decide +kernel
  have foundAfter : literals .start out = parts := by decide +kernel
  exact ⟨noReturn, ok, (before parts).mpr found.symm, (after parts).mpr foundAfter.symm,
    kept.mp (foundAfter.trans found.symm)⟩

theorem layout_trims_literal :
    let settings : Settings := {}
    let text := "a = \x60b  \nc\x60;\n".toList
    let out := "a = \x60b\nc\x60;\n".toList
    layout settings.indentUnit text = .ok out ∧ literals .start text = ["b  \nc".toList] ∧
      literals .start out = ["b\nc".toList] := by
  decide +kernel

end InlineScript.Format
