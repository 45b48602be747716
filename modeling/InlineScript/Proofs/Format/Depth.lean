import InlineScript.Proofs.Format.Preservation

/-!
How far lines of code are indented. The layout takes the number of brackets that stand open where a
line starts and subtracts one for every closing character that the line starts with. That is the
number of brackets that still stand open behind these characters, unless one of them ends a group of
a template: a group counts for nothing while it is open, but its end is subtracted, and with it the
closing characters behind it, which are text of the template.
-/

namespace InlineScript.Format

open Text (EndsLine dropTerminator isBlankLine terminated trim)

variable {c : Char} {unit line text front out : List Char} {opened : List Opener} {scan last : Scan}
  {lines result : List (List Char)} {full : Bool}

/-! ## Closing characters -/

/-- How many brackets stand open; groups of templates are none. -/
def brackets (opened : List Opener) : Nat :=
  opened.countP (· != .substitution)

/-- What stands open behind the closing brackets that a text starts with, as far as they are read as
code: behind the end of a group they belong to a template. -/
def unwound : List Opener → List Char → List Opener
  | opener :: opened, c :: text =>
      if c = opener.closer then
        if opener = .substitution then opened else unwound opened text
      else
        opener :: opened
  | opened, _ => opened

/-- How many of the closing characters that a text starts with close no bracket: the end of a group
and all that follow it. -/
def stray : List Opener → List Char → Nat
  | opener :: opened, c :: text =>
      if c = opener.closer then
        if opener = .substitution then ((c :: text).takeWhile Scan.isCloser).length
        else stray opened text
      else
        0
  | _, _ => 0

theorem isCloser_closer (opener : Opener) : Scan.isCloser opener.closer = true := by
  cases opener <;> rfl

theorem brackets_cons {opener : Opener} (some : opener ≠ .substitution) (opened : List Opener) :
    brackets (opener :: opened) = brackets opened + 1 := by
  simp [brackets, some]

/-- A closing bracket that code starts with closes what was opened last. -/
theorem exists_opener_of_run {next : Scan} (closer : Scan.isCloser c = true)
    (read : (Part.code.reader opened).run (c :: text) = .ok next) :
    ∃ opener outer, opened = opener :: outer ∧ c = opener.closer := by
  have ordinary : c ≠ '\n' := by
    rintro rfl
    contradiction
  have stops (unfit : ∀ opener ∈ opened.head?, opener.closer ≠ c) :
      (Part.code.reader opened).step? c = none := by
    rw [← Scan.next?_of_ne _ ordinary, next?_misplaced closer unfit]
  cases opened with
  | nil => simp [Scan.run, stops (by simp)] at read
  | cons opener outer =>
      by_cases fits : c = opener.closer
      · exact ⟨opener, outer, rfl, fits⟩
      · simp [Scan.run, stops (by simpa using Ne.symm fits)] at read

theorem brackets_sub_closers {next : Scan} (read : (Part.code.reader opened).run text = .ok next) :
    brackets opened - (text.takeWhile Scan.isCloser).length =
      brackets (unwound opened text) - stray opened text := by
  induction text generalizing opened with
  | nil => cases opened <;> rfl
  | cons c text ih =>
      cases closer : Scan.isCloser c with
      | false =>
          cases opened with
          | nil => simp [unwound, stray, closer]
          | cons opener outer =>
              have unfit : c ≠ opener.closer := by
                rintro rfl
                rw [isCloser_closer] at closer
                contradiction
              simp [unwound, stray, closer, unfit]
      | true =>
          obtain ⟨opener, outer, rfl, rfl⟩ := exists_opener_of_run closer read
          by_cases group : opener = .substitution
          · subst group
            rfl
          · have ordinary : opener.closer ≠ '\n' := by cases opener <;> decide
            have step : (Part.code.reader (opener :: outer)).step? opener.closer =
                some (Part.code.reader outer) := by
              rw [← Scan.next?_of_ne _ ordinary, next?_closer group]
            rw [Scan.run, step] at read
            have tail := ih read
            rw [List.takeWhile_cons_of_pos closer, List.length_cons, brackets_cons group, unwound,
              stray, if_pos rfl, if_neg group, if_pos rfl, if_neg group]
            omega

theorem trim_ne_nil (dark : isBlankLine line = false) : trim line ≠ [] := by
  intro empty
  rw [(Text.trim_eq_nil_iff line).mp empty] at dark
  contradiction

/-- A line of code that is not blank, laid out. -/
theorem rowOf_brackets {next : Scan} (dark : isBlankLine line = false)
    (behind : (Part.code.reader opened).behind? line = some next) :
    (rowOf unit (Part.code.reader opened) line).1 =
      .line (repeated (brackets (unwound opened (trim line)) - stray opened (trim line)) unit ++
        trim line) := by
  have some := trim_ne_nil dark
  have code : (Part.code.reader opened).mode = .code := rfl
  have outside : (Part.code.reader opened).mode ≠ .template := by simp [code]
  rw [Scan.behind?, if_neg outside] at behind
  cases read : (Part.code.reader opened).run (trim line) with
  | error found => simp [read, Except.toOption] at behind
  | ok stop =>
      rw [← brackets_sub_closers read]
      simp only [rowOf, code, codeRow, List.isEmpty_iff, if_neg some]
      rfl

/-! ## Lines that are not blank -/

namespace LaidOut

theorem countP_dark (isIndent : IsIndent unit) (laid : LaidOut unit full scan lines result) :
    result.countP (!isBlankLine ·) = lines.countP (!isBlankLine ·) := by
  have same : darkLines true result = darkLines true lines := laid.darkLines_eq isIndent fun _ => rfl
  have trimmed := congrArg (List.map Prod.snd) same
  rw [map_snd_darkLines, map_snd_darkLines] at trimmed
  simpa [List.countP_eq_length_filter] using congrArg List.length trimmed

/-- A line that is not blank becomes the line with the same number among those that are not. -/
theorem exists_row (isIndent : IsIndent unit) {front back : List (List Char)}
    (starts : scan.endLine = scan) (laid : LaidOut unit full scan (front ++ line :: back) result)
    (noFeed : ∀ line ∈ front, '\n' ∉ line) (dark : isBlankLine line = false)
    (walked : scan.after? (terminated front) = some last) :
    ∃ row next, (rowOf unit last line).1 = .line row ∧ last.behind? line = some next ∧
      (result.filter (!isBlankLine ·))[front.countP (!isBlankLine ·)]? = some row := by
  have whole := laid.countP_dark isIndent
  obtain ⟨full, stop, before, behind, reached, rest, rfl⟩ := laid.splitLines starts noFeed
  rw [walked, Option.some.injEq] at reached
  subst reached
  have tail := rest.countP_dark isIndent
  have number : before.countP (!isBlankLine ·) = front.countP (!isBlankLine ·) := by
    rw [List.countP_append, List.countP_append] at whole
    omega
  have some := trim_ne_nil dark
  cases rest with
  | skip code empty => contradiction
  | gap code empty => contradiction
  | @line _ _ next _ text _ _ row behind laid =>
      have darkRow : isBlankLine text = false := by
        rw [isBlankLine_congr (trim_row isIndent row), dark]
      refine ⟨text, next, row, behind, ?_⟩
      rw [← number, List.countP_eq_length_filter, List.filter_append,
        List.getElem?_append_right (Nat.le_refl _), Nat.sub_self, List.filter_cons]
      simp [darkRow]

end LaidOut

/-! ## Whole texts -/

/-- The lines of a text that are not blank. -/
def darkOf (text : List Char) : List (List Char) :=
  (Text.lines text).filter (!isBlankLine ·)

/-- A line of code that is not blank, behind `front`, with `opened` standing open where it starts. A
group inside a template is code. -/
structure IsCodeLine (text front line : List Char) (opened : List Opener) : Prop where
  starts : EndsLine front
  dark : isBlankLine line = false
  stands : ∃ rest, text = front ++ rest ∧ (Text.lines rest).head? = some line ∧
    Reaches .code [] text .code opened rest

/-- Lines of code are indented by a level that is told by what stands open where they start and by the
line. Blank lines aside, each line keeps its number. -/
def IndentsCode (level : List Opener → List Char → Nat) (unit text out : List Char) : Prop :=
  ∀ front line opened, IsCodeLine text front line opened →
    (darkOf out)[(darkOf front).length]? =
      some (repeated (level opened (trim line)) unit ++ trim line)

theorem isCodeLine_of_after? {rest : List Char} (ends : EndsLine front)
    (walked : Scan.start.after? front = some (Part.code.reader opened))
    (leads : (Text.lines rest).head? = some line) (dark : isBlankLine line = false) :
    IsCodeLine (front ++ rest) front line opened := by
  obtain ⟨part, outer, spans, reaches, same⟩ := exists_reaches ends walked rest
  rcases spans with rfl | rfl | rfl
  · cases same
    exact ⟨ends, dark, rest, rfl, leads, reaches⟩
  · cases same
  · cases same

theorem length_repeated (count : Nat) (text : List Char) :
    (repeated count text).length = count * text.length := by
  simp [repeated]

theorem repeated_eq_iff (count other : Nat) (text : List Char) :
    repeated count text = repeated other text ↔ text = [] ∨ count = other := by
  constructor
  · intro same
    cases text with
    | nil => exact .inl rfl
    | cons c text =>
        have lengths := congrArg List.length same
        rw [length_repeated, length_repeated] at lengths
        exact .inr (Nat.eq_of_mul_eq_mul_right (Nat.succ_pos text.length) lengths)
  · rintro (rfl | rfl)
    · simp [repeated]
    · rfl

theorem darkOf_terminated (noFeed : ∀ line ∈ lines, '\n' ∉ line) :
    darkOf (terminated lines) =
      (lines.filter (!isBlankLine ·)).map fun line => dropTerminator (line ++ ['\n']) := by
  rw [darkOf, Text.lines_terminated_eq_map noFeed, List.filter_map]
  congr 2
  funext line
  exact congrArg _ (isBlankLine_dropTerminator line)

theorem dropTerminator_trim (blanks : List Char) (dark : isBlankLine line = false) :
    dropTerminator (blanks ++ trim line ++ ['\n']) = blanks ++ trim line := by
  apply Text.dropTerminator_feed_of_getLast?
  intro last
  rw [List.getLast?_append_of_ne_nil _ (trim_ne_nil dark)] at last
  have blank := Text.isBlank_of_getLast?_trim last
  contradiction

theorem LaidOut.indentsCode (isIndent : IsIndent unit)
    (laid : LaidOut unit false .start (Text.lines text) result) :
    IndentsCode (fun opened line => brackets (unwound opened line) - stray opened line) unit text
      (terminated result) := by
  have noFeed := laid.not_mem_feed isIndent
  rintro front line opened ⟨ends, dark, rest, rfl, leads, reaches⟩
  obtain ⟨back, tail⟩ := List.head?_eq_some_iff.mp leads
  rw [ends.lines_append, tail] at laid
  have walked := reaches.after?_eq (.inl rfl) ends
  rw [← after?_terminated_lines ends] at walked
  obtain ⟨row, next, laidRow, behind, found⟩ :=
    laid.exists_row isIndent rfl (fun _ => Text.not_mem_of_mem_lines) dark walked
  rw [rowOf_brackets dark behind, Row.line.injEq] at laidRow
  rw [darkOf_terminated noFeed, List.getElem?_map, darkOf,
    ← List.countP_eq_length_filter, found, ← laidRow]
  exact congrArg some (dropTerminator_trim _ dark)

/-- A line of code is indented by the brackets that stand open behind the closing characters that it
starts with, less the stray ones among these characters. So the brackets alone tell the indentation
only where no stray one takes anything away. -/
theorem layout_indents_code_iff (settings : Settings) (text out : List Char)
    (ok : layout settings.indentUnit text = .ok out) :
    IndentsCode (fun opened line => brackets (unwound opened line) - stray opened line)
        settings.indentUnit text out ∧
      (IndentsCode (fun opened line => brackets (unwound opened line)) settings.indentUnit text out ↔
        ∀ front line opened, IsCodeLine text front line opened →
          settings.indentUnit = [] ∨ brackets (unwound opened (trim line)) = 0 ∨
            stray opened (trim line) = 0) := by
  have isIndent := isIndent_indentUnit settings
  obtain ⟨result, laid, rfl⟩ := (layout_eq_ok_iff isIndent).mp ok
  have indents := laid.indentsCode isIndent
  have same (opened : List Opener) (line : List Char) :
      repeated (brackets (unwound opened line) - stray opened line) settings.indentUnit =
          repeated (brackets (unwound opened line)) settings.indentUnit ↔
        settings.indentUnit = [] ∨ brackets (unwound opened line) = 0 ∨ stray opened line = 0 := by
    rw [repeated_eq_iff]
    apply or_congr_right
    omega
  refine ⟨indents, ?_⟩
  constructor
  · intro deep front line opened isLine
    have row := indents front line opened isLine
    rw [deep front line opened isLine, Option.some.injEq, List.append_cancel_right_eq] at row
    exact (same opened (trim line)).mp row.symm
  · intro even front line opened isLine
    rw [indents front line opened isLine, (same opened (trim line)).mpr (even front line opened isLine)]

/-- A group with a bracket inside, both of which are ended by the closing characters of one line. -/
private def groupedScript : List Char :=
  "\x7b\n f(\x60$\x7b[\n1,\n]\x7d\x7d\x60,\n2)\n\x7d\n".toList

theorem layout_indents_code_iff_groupedScript :
    let out := "\x7b\n  f(\x60$\x7b[\n      1,\n]\x7d\x7d\x60,\n    2)\n\x7d\n".toList
    let opened : List Opener := [.bracket, .substitution, .paren, .brace]
    layout ({} : Settings).indentUnit groupedScript = .ok out ∧
      IsCodeLine groupedScript (groupedScript.take 13) "]\x7d\x7d\x60,".toList opened ∧
      unwound opened "]\x7d\x7d\x60,".toList = [.paren, .brace] ∧
      (darkOf out)[(darkOf (groupedScript.take 13)).length]? = some "]\x7d\x7d\x60,".toList := by
  intro out opened
  have ok : layout ({} : Settings).indentUnit groupedScript = .ok out := by decide +kernel
  have isLine : IsCodeLine (groupedScript.take 13 ++ groupedScript.drop 13) (groupedScript.take 13)
      "]\x7d\x7d\x60,".toList opened :=
    isCodeLine_of_after? (.inr (by decide +kernel)) rfl rfl (by decide +kernel)
  rw [List.take_append_drop] at isLine
  refine ⟨ok, isLine, rfl, ?_⟩
  exact (layout_indents_code_iff {} groupedScript out ok).1 _ _ _ isLine

/-- The end of a group takes a level away that its start did not add. -/
theorem layout_not_indentsCode_unwound :
    let text := "f(\x60$\x7b\nx\n\x7d\x60)\n".toList
    let out := "f(\x60$\x7b\n  x\n\x7d\x60)\n".toList
    layout ({} : Settings).indentUnit text = .ok out ∧
      ¬ IndentsCode (fun opened line => brackets (unwound opened line)) ({} : Settings).indentUnit
        text out := by
  intro text out
  refine ⟨by decide +kernel, ?_⟩
  intro indents
  have isLine : IsCodeLine (text.take 8 ++ text.drop 8) (text.take 8) "\x7d\x60)".toList
      [.substitution, .paren] :=
    isCodeLine_of_after? (.inr (by decide +kernel)) rfl rfl (by decide +kernel)
  rw [List.take_append_drop] at isLine
  have row := indents _ _ _ isLine
  revert row
  decide +kernel

end InlineScript.Format
