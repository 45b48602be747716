import InlineScript.Proofs.Format.Grammar
import InlineScript.Proofs.Format.Layout

/-!
The reader of brackets along a whole text. It looks at one character at a time, so behind a slash, a
star or a dollar sign it has yet to find out what it reads, where the grammar looks ahead. Up to that
it walks through what the grammar derives, and stands behind it in the mode in which it started. At
the start of a line nothing is left to be found out, and the two agree.
-/

namespace InlineScript.Format

open Text (isBlank trim terminated dropTerminator EndsLine)

variable {c : Char} {text line blanks front behind rest : List Char} {opened : List Opener}
  {scan : Scan}

/-! ## Whole texts -/

/-- One character of a text; a line feed ends its line. -/
def Scan.next? (scan : Scan) (c : Char) : Option Scan :=
  if c = '\n' then some scan.endLine else scan.step? c

/-- Where the reader stands behind a text, if no closing bracket in it is out of place. -/
def Scan.after? : Scan → List Char → Option Scan
  | scan, [] => some scan
  | scan, c :: rest => (scan.next? c).bind fun next => next.after? rest

theorem Scan.next?_feed (scan : Scan) : scan.next? '\n' = some scan.endLine :=
  if_pos rfl

theorem Scan.next?_of_ne (scan : Scan) (ordinary : c ≠ '\n') : scan.next? c = scan.step? c :=
  if_neg ordinary

theorem Scan.after?_append (scan : Scan) (first second : List Char) :
    scan.after? (first ++ second) = (scan.after? first).bind fun next => next.after? second := by
  induction first generalizing scan with
  | nil => rfl
  | cons c first ih =>
      rw [List.cons_append, after?, after?, Option.bind_assoc]
      cases scan.next? c with
      | none => rfl
      | some next => exact ih next

/-! ## Blanks -/

namespace Scan

/-- A blank at the end of a line does not show once the line has ended. -/
theorem step?_blank (scan : Scan) (blank : isBlank c = true) :
    ∃ next, scan.step? c = some next ∧ next.endLine = scan.endLine := by
  have plain := not_mem_marks blank
  simp only [marks, List.mem_cons, List.not_mem_nil, or_false, not_or] at plain
  have inCode : stepCode? scan.opened c = some { mode := .code, opened := scan.opened } := by
    simp [stepCode?, isCloser, plain]
  have inTemplate : stepTemplate scan.opened c = { mode := .template, opened := scan.opened } := by
    simp [stepTemplate, plain]
  obtain ⟨mode, opened⟩ := scan
  cases mode with
  | code => exact ⟨_, inCode, rfl⟩
  | slash =>
      refine ⟨{ mode := .code, opened }, ?_, rfl⟩
      simpa [step?, plain] using inCode
  | lineComment => exact ⟨_, rfl, rfl⟩
  | comment star =>
      refine ⟨{ mode := .comment false, opened }, ?_, rfl⟩
      simp [step?, plain]
  | string mark escaped =>
      cases escaped with
      | true => exact ⟨_, rfl, rfl⟩
      | false =>
          by_cases ends : c = mark
          · refine ⟨{ mode := .code, opened }, ?_, rfl⟩
            subst ends
            simp [step?, plain]
          · refine ⟨{ mode := .string mark false, opened }, ?_, rfl⟩
            simp [step?, plain, ends]
  | template => exact ⟨_, congrArg some inTemplate, rfl⟩
  | templateEscape => exact ⟨_, rfl, rfl⟩
  | templateDollar =>
      refine ⟨{ mode := .template, opened }, ?_, rfl⟩
      simpa [step?, plain] using inTemplate

theorem run_append (scan : Scan) (first second : List Char) :
    scan.run (first ++ second) = (scan.run first).bind fun next => next.run second := by
  induction first generalizing scan with
  | nil => rfl
  | cons c first ih =>
      rw [List.cons_append, run, run]
      cases scan.step? c with
      | none => rfl
      | some next => exact ih next

theorem run_blanks (scan : Scan) (allBlank : ∀ c ∈ blanks, isBlank c = true) :
    ∃ next, scan.run blanks = .ok next ∧ next.endLine = scan.endLine := by
  induction blanks generalizing scan with
  | nil => exact ⟨scan, rfl, rfl⟩
  | cons c blanks ih =>
      obtain ⟨first, later⟩ := List.forall_mem_cons.mp allBlank
      obtain ⟨middle, step, same⟩ := scan.step?_blank first
      obtain ⟨next, run, ended⟩ := ih middle later
      exact ⟨next, by rw [Scan.run, step]; exact run, ended.trans same⟩

/-! ## Lines -/

/-- The characters of a line and its end. -/
def runLine (scan : Scan) (line : List Char) : Except Char Scan :=
  (scan.run line).map endLine

theorem runLine_append_blanks (scan : Scan) (line : List Char)
    (allBlank : ∀ c ∈ blanks, isBlank c = true) :
    scan.runLine (line ++ blanks) = scan.runLine line := by
  rw [runLine, runLine, run_append]
  cases scan.run line with
  | error found => rfl
  | ok last =>
      obtain ⟨next, run, ended⟩ := last.run_blanks allBlank
      simp only [Except.bind, run, Except.map, ended]

theorem runLine_blanks_append (starts : scan.endLine = scan)
    (allBlank : ∀ c ∈ blanks, isBlank c = true) (line : List Char) :
    scan.runLine (blanks ++ line) = scan.runLine line := by
  rw [runLine, runLine, run_blanks_append starts allBlank]

theorem runLine_trim (starts : scan.endLine = scan) (line : List Char) :
    scan.runLine (trim line) = scan.runLine line := by
  obtain ⟨blanks, allBlank, front⟩ := Text.exists_trimStart line
  obtain ⟨more, moreBlank, back⟩ := Text.exists_trimEnd (Text.trimStart line)
  conv_rhs => rw [front, runLine_blanks_append starts allBlank, back,
    runLine_append_blanks _ _ moreBlank]
  rfl

theorem runLine_dropTerminator (scan : Scan) (line : List Char) :
    scan.runLine (dropTerminator (line ++ ['\n'])) = scan.runLine line := by
  rcases Text.dropTerminator_feed_cases line with same | returned
  · rw [← same]
  · conv_rhs => rw [returned, scan.runLine_append_blanks _ (List.forall_mem_singleton.mpr rfl)]

theorem behind?_eq (starts : scan.endLine = scan) (line : List Char) :
    scan.behind? line = (scan.runLine line).toOption := by
  have read : scan.runLine (if scan.mode = .template then line else trim line) =
      scan.runLine line := by
    split
    · rfl
    · exact runLine_trim starts line
  rw [← read, behind?, runLine]
  cases scan.run (if scan.mode = .template then line else trim line) <;> rfl

theorem after?_of_not_mem (scan : Scan) (noFeed : '\n' ∉ line) :
    scan.after? line = (scan.run line).toOption := by
  induction line generalizing scan with
  | nil => rfl
  | cons c line ih =>
      have ordinary : c ≠ '\n' := (List.ne_of_not_mem_cons noFeed).symm
      rw [after?, next?_of_ne _ ordinary, run]
      cases scan.step? c with
      | none => rfl
      | some next => exact ih next (List.not_mem_of_not_mem_cons noFeed)

theorem after?_feed (scan : Scan) (noFeed : '\n' ∉ line) (rest : List Char) :
    scan.after? (line ++ '\n' :: rest) =
      (scan.runLine line).toOption.bind fun next => next.after? rest := by
  rw [after?_append, scan.after?_of_not_mem noFeed, runLine]
  cases scan.run line with
  | error found => rfl
  | ok last => simp only [Except.toOption, Except.map, Option.bind_some, after?, next?_feed]

theorem endLine_of_runLine {next : Scan} (read : scan.runLine line = .ok next) :
    next.endLine = next := by
  rw [runLine] at read
  cases run : scan.run line with
  | error found => simp [run, Except.map] at read
  | ok last =>
      simp only [run, Except.map, Except.ok.injEq] at read
      rw [← read, endLine_endLine]

end Scan

/-! ## Walks -/

/-- Two places from which a text is read in the same way. -/
structure Alike (text : List Char) (scan other : Scan) : Prop where
  ended : scan.endLine = other.endLine
  next : ∀ c ∈ text.head?, scan.next? c = other.next? c

/-- The reader walks through a text up to `rest`, which it reads as it would from `other`. -/
def Leads (scan : Scan) (text : List Char) (other : Scan) (rest : List Char) : Prop :=
  ∃ front last, text = front ++ rest ∧ scan.after? front = some last ∧ Alike rest last other

theorem alike_of_atLineEnd {scan other : Scan} (ends : AtLineEnd text)
    (same : scan.endLine = other.endLine) : Alike text scan other := by
  refine ⟨same, ?_⟩
  intro c head
  rw [ends c head, Scan.next?_feed, Scan.next?_feed, same]

theorem alike_of_step? {scan other : Scan} (same : scan.endLine = other.endLine)
    (step : ∀ c ∈ text.head?, scan.step? c = other.step? c) : Alike text scan other := by
  refine ⟨same, ?_⟩
  intro c head
  by_cases feed : c = '\n'
  · rw [feed, Scan.next?_feed, Scan.next?_feed, same]
  · rw [Scan.next?_of_ne _ feed, Scan.next?_of_ne _ feed, step c head]

namespace Leads

variable {middle last : Scan}

theorem refl (scan : Scan) (text : List Char) : Leads scan text scan text :=
  ⟨[], scan, rfl, rfl, rfl, fun _ _ => rfl⟩

theorem of_alike (alike : Alike text scan last) : Leads scan text last text :=
  ⟨[], scan, rfl, rfl, alike⟩

theorem step (next : scan.next? c = some middle) (leads : Leads middle text last rest) :
    Leads scan (c :: text) last rest := by
  obtain ⟨front, stop, rfl, walked, alike⟩ := leads
  exact ⟨c :: front, stop, rfl, by rw [Scan.after?, next]; exact walked, alike⟩

theorem trans (first : Leads scan text middle behind) (second : Leads middle behind last rest) :
    Leads scan text last rest := by
  obtain ⟨front, stop, rfl, walked, alike⟩ := first
  obtain ⟨more, finish, rfl, walkedOn, alikeOn⟩ := second
  cases more with
  | nil =>
      cases walkedOn
      refine ⟨front, stop, rfl, walked, alike.ended.trans alikeOn.ended, ?_⟩
      exact fun c head => (alike.next c head).trans (alikeOn.next c head)
  | cons c more =>
      refine ⟨front ++ c :: more, finish, by rw [List.append_assoc], ?_, alikeOn⟩
      -- the first character is what the two places read alike
      rw [Scan.after?_append, walked, Option.bind_some, Scan.after?, alike.next c rfl]
      exact walkedOn

theorem exists_after? (leads : Leads scan (front ++ rest) last rest) :
    ∃ stop, scan.after? front = some stop ∧ Alike rest stop last := by
  obtain ⟨walkedFront, stop, split, walked, alike⟩ := leads
  rw [List.append_cancel_right split]
  exact ⟨stop, walked, alike⟩

end Leads

/-! ## Characters -/

/-- The mode in which a part is read, where nothing is to be found out. -/
def Part.mode : Part → Mode
  | code => .code
  | lineComment => .lineComment
  | comment => .comment false
  | string mark => .string mark false
  | literal => .template

def Part.reader (part : Part) (opened : List Opener) : Scan where
  mode := part.mode
  opened := opened

theorem alike_slash (noComment : text.head? ≠ some '/' ∧ text.head? ≠ some '*') :
    Alike text ⟨.slash, opened⟩ (Part.code.reader opened) := by
  refine alike_of_step? rfl ?_
  intro c head
  simp only [Option.mem_def.mp head, ne_eq, Option.some.injEq] at noComment
  simp [Scan.step?, Part.reader, Part.mode, noComment]

theorem alike_star (goesOn : text.head? ≠ some '/') :
    Alike text ⟨.comment true, opened⟩ (Part.comment.reader opened) := by
  refine alike_of_step? rfl ?_
  intro c head
  simp only [Option.mem_def.mp head, ne_eq, Option.some.injEq] at goesOn
  simp [Scan.step?, Part.reader, Part.mode, goesOn]

theorem alike_dollar (noGroup : text.head? ≠ some '\x7b') :
    Alike text ⟨.templateDollar, opened⟩ (Part.literal.reader opened) := by
  refine alike_of_step? rfl ?_
  intro c head
  simp only [Option.mem_def.mp head, ne_eq, Option.some.injEq] at noGroup
  simp [Scan.step?, Part.reader, Part.mode, noGroup]

theorem leads_plain_code (isPlain : Part.code.IsPlain c text) :
    Leads (Part.code.reader opened) (c :: text) (Part.code.reader opened) text := by
  obtain ⟨ordinary, noComment⟩ := isPlain
  by_cases slash : c = '/'
  · subst slash
    exact .step rfl (.of_alike (alike_slash (noComment rfl)))
  · refine .step ?_ (.refl _ _)
    by_cases feed : c = '\n'
    · subst feed
      rfl
    · simp only [List.mem_cons, List.not_mem_nil, or_false, not_or] at ordinary
      rw [Scan.next?_of_ne _ feed]
      simp [Scan.step?, Scan.stepCode?, Scan.isCloser, Part.reader, Part.mode, ordinary, slash]

theorem leads_plain_comment (isPlain : Part.comment.IsPlain c text) :
    Leads (Part.comment.reader opened) (c :: text) (Part.comment.reader opened) text := by
  by_cases star : c = '*'
  · subst star
    exact .step rfl (.of_alike (alike_star (isPlain rfl)))
  · refine .step ?_ (.refl _ _)
    by_cases feed : c = '\n'
    · subst feed
      rfl
    · rw [Scan.next?_of_ne _ feed]
      simp [Scan.step?, Part.reader, Part.mode, star]

theorem leads_plain_literal (isPlain : Part.literal.IsPlain c text) :
    Leads (Part.literal.reader opened) (c :: text) (Part.literal.reader opened) text := by
  obtain ⟨noEscape, noEnd, noGroup⟩ := isPlain
  by_cases dollar : c = '$'
  · subst dollar
    exact .step rfl (.of_alike (alike_dollar (noGroup rfl)))
  · refine .step ?_ (.refl _ _)
    by_cases feed : c = '\n'
    · subst feed
      rfl
    · rw [Scan.next?_of_ne _ feed]
      simp [Scan.step?, Scan.stepTemplate, Part.reader, Part.mode, noEscape, noEnd, dollar]

theorem leads_plain {part : Part} (isPlain : part.IsPlain c text) :
    Leads (part.reader opened) (c :: text) (part.reader opened) text := by
  cases part with
  | code => exact leads_plain_code isPlain
  | lineComment => exact .step (Scan.next?_of_ne _ isPlain) (.refl _ _)
  | comment => exact leads_plain_comment isPlain
  | string mark =>
      obtain ⟨noEnd, noEscape, noFeed⟩ := isPlain
      refine .step ?_ (.refl _ _)
      rw [Scan.next?_of_ne _ noFeed]
      simp [Scan.step?, Part.reader, Part.mode, noEnd, noEscape]
  | literal => exact leads_plain_literal isPlain

theorem next?_opener {opener : Opener} (some : opener ≠ .substitution) :
    (Part.code.reader opened).next? opener.char = .some (Part.code.reader (opener :: opened)) := by
  cases opener with
  | paren => rfl
  | bracket => rfl
  | brace => rfl
  | substitution => contradiction

theorem next?_closer {opener : Opener} (some : opener ≠ .substitution) :
    (Part.code.reader (opener :: opened)).next? opener.closer = .some (Part.code.reader opened) := by
  cases opener with
  | paren => rfl
  | bracket => rfl
  | brace => rfl
  | substitution => contradiction

/-- A closing bracket that does not fit is where the reader stops. -/
theorem next?_misplaced (closer : Scan.isCloser c = true)
    (misplaced : ∀ opener ∈ opened.head?, opener.closer ≠ c) :
    (Part.code.reader opened).next? c = none := by
  have closers : c = ')' ∨ c = ']' ∨ c = '\x7d' := by
    simpa [Scan.isCloser, or_assoc] using closer
  cases opened with
  | nil => rcases closers with rfl | rfl | rfl <;> rfl
  | cons opener opened =>
      have unfit := misplaced opener rfl
      rcases closers with rfl | rfl | rfl <;> cases opener <;> first | rfl | contradiction

/-! ## What the grammar derives -/

theorem Derives.leads {part : Part} (derives : Derives part text rest) (opened : List Opener) :
    Leads (part.reader opened) text (part.reader opened) rest := by
  induction derives generalizing opened with
  | nil => exact .refl _ _
  | plain isPlain _ ih => exact (leads_plain isPlain).trans (ih opened)
  | @lineComment text behind rest _ ends _ comment code =>
      have ended : Alike behind (Part.lineComment.reader opened) (Part.code.reader opened) :=
        alike_of_atLineEnd ends rfl
      have line := (comment opened).trans (.of_alike ended)
      exact .step rfl (.step rfl (line.trans (code opened)))
  | comment _ _ comment code =>
      exact .step rfl (.step rfl ((comment opened).trans (.step rfl (.step rfl (code opened)))))
  | string quote _ _ string code =>
      rcases quote with rfl | rfl <;>
        exact .step rfl ((string opened).trans (.step rfl (code opened)))
  | @openString mark text behind rest quote _ ends _ string code =>
      have ended : Alike behind ((Part.string mark).reader opened) (Part.code.reader opened) :=
        alike_of_atLineEnd ends rfl
      have line := (string opened).trans (.of_alike ended)
      rcases quote with rfl | rfl <;> exact .step rfl (line.trans (code opened))
  | bracket some _ _ inside code =>
      exact .step (next?_opener some)
        ((inside _).trans (.step (next?_closer some) (code opened)))
  | template _ _ inside code =>
      exact .step rfl ((inside opened).trans (.step rfl (code opened)))
  | quotedEscape sameLine _ ih =>
      exact .step rfl (.step (Scan.next?_of_ne _ sameLine) (ih opened))
  | @idleEscape mark text rest ends _ ih =>
      have idle : Alike text ⟨.string mark true, opened⟩ ((Part.string mark).reader opened) :=
        alike_of_atLineEnd ends rfl
      exact .step rfl ((Leads.of_alike idle).trans (ih opened))
  | @escape c text rest _ ih =>
      refine .step rfl (.step ?_ (ih opened))
      by_cases feed : c = '\n'
      · subst feed
        rfl
      · exact Scan.next?_of_ne _ feed
  | group _ _ inside literal =>
      exact .step rfl (.step rfl ((inside _).trans (.step rfl (literal opened))))

theorem Reaches.leads {part last : Part} {outer : List Opener}
    (reaches : Reaches part outer text last opened rest) :
    Leads (part.reader outer) text (last.reader opened) rest := by
  induction reaches with
  | here derives => exact derives.leads _
  | bracket some derives _ ih => exact (derives.leads _).trans (.step (next?_opener some) ih)
  | template derives _ ih => exact (derives.leads _).trans (.step rfl ih)
  | group derives _ ih => exact (derives.leads _).trans (.step rfl (.step rfl ih))
  | comment derives inside =>
      exact (derives.leads _).trans (.step rfl (.step rfl (inside.leads _)))
  | idleEscape derives =>
      exact (derives.leads _).trans (.step rfl (.of_alike ⟨rfl, by simp⟩))

theorem Reaches.leads_start {last : Part} (reaches : Reaches .code [] text last opened rest) :
    Leads .start text (last.reader opened) rest :=
  reaches.leads

theorem Reaches.isSuffix {part last : Part} {outer : List Opener}
    (reaches : Reaches part outer text last opened rest) : rest <:+ text := by
  obtain ⟨front, -, split, -, -⟩ := reaches.leads
  exact ⟨front, split.symm⟩

/-! ## Starts of lines -/

/-- The parts that a line can start in. -/
def Part.SpansLines (part : Part) : Prop :=
  part = .code ∨ part = .comment ∨ part = .literal

theorem Part.SpansLines.endLine_reader {part : Part} (spans : part.SpansLines) (opened : List Opener) :
    (part.reader opened).endLine = part.reader opened := by
  rcases spans with rfl | rfl | rfl <;> rfl

theorem Scan.endLine_of_after? {last : Scan} (starts : scan.endLine = scan) (ends : EndsLine front)
    (walked : scan.after? front = some last) : last.endLine = last := by
  rcases ends with rfl | feed
  · cases walked
    exact starts
  · obtain ⟨front, rfl⟩ := List.getLast?_eq_some_iff.mp feed
    rw [after?_append] at walked
    obtain ⟨stop, -, step⟩ := Option.bind_eq_some_iff.mp walked
    cases step
    exact endLine_endLine stop

theorem Reaches.after?_eq {last : Part} (reaches : Reaches .code [] (front ++ rest) last opened rest)
    (spans : last.SpansLines) (ends : EndsLine front) :
    Scan.start.after? front = some (last.reader opened) := by
  obtain ⟨stop, walked, alike⟩ := reaches.leads_start.exists_after?
  rw [walked, ← Scan.endLine_of_after? rfl ends walked, alike.ended, spans.endLine_reader]

/-- Behind a closing bracket that does not fit the reader stands nowhere. -/
theorem Reaches.after?_misplaced {left : List Char}
    (reaches : Reaches .code [] (front ++ rest) .code opened (c :: left ++ rest))
    (closer : Scan.isCloser c = true) (misplaced : ∀ opener ∈ opened.head?, opener.closer ≠ c) :
    Scan.start.after? front = none := by
  obtain ⟨before, stop, split, walked, alike⟩ := reaches.leads_start
  have whole : front = before ++ c :: left := by
    rw [← List.append_assoc] at split
    exact List.append_cancel_right split
  have stops := next?_misplaced closer misplaced
  rw [← alike.next c rfl] at stops
  rw [whole, Scan.after?_append, walked, Option.bind_some, Scan.after?, stops]
  rfl

/-- Where the reader stands at the start of a line, the grammar leads. -/
theorem exists_reaches (ends : EndsLine front) (walked : Scan.start.after? front = some scan)
    (rest : List Char) :
    ∃ last opened, last.SpansLines ∧ Reaches .code [] (front ++ rest) last opened rest ∧
      scan = last.reader opened := by
  have found {last : Part} {opened : List Opener} (spans : last.SpansLines)
      (reaches : Reaches .code [] (front ++ rest) last opened rest) :
      ∃ last opened, last.SpansLines ∧ Reaches .code [] (front ++ rest) last opened rest ∧
        scan = last.reader opened := by
    refine ⟨last, opened, spans, reaches, ?_⟩
    rw [reaches.after?_eq spans ends] at walked
    exact (Option.some.inj walked).symm
  have nowhere {c : Char} {opened : List Opener} {left : List Char}
      (reaches : Reaches .code [] (front ++ rest) .code opened (c :: left ++ rest))
      (closer : Scan.isCloser c = true)
      (misplaced : ∀ opener ∈ opened.head?, opener.closer ≠ c) : False := by
    rw [reaches.after?_misplaced closer misplaced] at walked
    contradiction
  rcases (readsCode_and_readsLiteral (.inr ends) []).1 with ⟨left, -, derives, closers⟩ | stuck
  · cases left with
    | nil => exact found (.inl rfl) (.here derives)
    | cons c left => exact (nowhere (.here derives) (closers c rfl) (by simp)).elim
  · obtain ⟨last, opened, behind, reaches, halts⟩ := stuck
    cases halts with
    | misplaced closer unfit => exact (nowhere reaches closer unfit).elim
    | unclosed => exact found (.inl rfl) reaches
    | inComment => exact found (.inr (.inl rfl)) reaches
    | inLiteral => exact found (.inr (.inr rfl)) reaches

end InlineScript.Format
