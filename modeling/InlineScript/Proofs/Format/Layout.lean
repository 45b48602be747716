import InlineScript.Format.Edit
import InlineScript.Proofs.Text.Ink

/-!
What a layout does to the lines of a script, line by line, and what it does to its own result when
that is indented as a whole: lines of code and of comments are laid out as before, lines of templates
keep the indentation.
-/

namespace InlineScript.Format

open Text (ReturnsPaired Unbroken ink isBlank isBlankLine trim terminated)

variable {unit indent line text : List Char} {scan next : Scan}

/-! ## Indentation -/

/-- A text of blanks and tabs. -/
def IsIndent (text : List Char) : Prop :=
  ∀ c ∈ text, c = ' ' ∨ c = '\t'

theorem IsIndent.isBlank (isIndent : IsIndent text) : ∀ c ∈ text, isBlank c = true := by
  intro c member
  rcases isIndent c member with rfl | rfl <;> decide

theorem IsIndent.not_feed (isIndent : IsIndent text) : '\n' ∉ text := by
  intro member
  rcases isIndent _ member with same | same <;> contradiction

theorem IsIndent.not_return (isIndent : IsIndent text) : '\r' ∉ text := by
  intro member
  rcases isIndent _ member with same | same <;> contradiction

theorem IsIndent.repeated (isIndent : IsIndent unit) (count : Nat) :
    IsIndent (repeated count unit) := by
  intro c member
  obtain ⟨copy, listed, inside⟩ := List.mem_flatten.mp member
  rw [List.eq_of_mem_replicate listed] at inside
  exact isIndent c inside

theorem IsIndent.concat (isIndent : IsIndent text) : IsIndent (text ++ [' ']) := by
  intro c member
  rcases List.mem_append.mp member with inside | last
  · exact isIndent c inside
  · exact .inl (List.mem_singleton.mp last)

theorem isIndent_replicate {c : Char} (indents : c = ' ' ∨ c = '\t') (count : Nat) :
    IsIndent (List.replicate count c) := by
  intro d member
  rwa [List.eq_of_mem_replicate member]

theorem isIndent_indentUnit (settings : Settings) : IsIndent settings.indentUnit := by
  unfold Settings.indentUnit
  split
  · exact isIndent_replicate (.inr rfl) 1
  · exact isIndent_replicate (.inl rfl) settings.tabWidth

theorem indentLine_of_blank (blank : isBlankLine line = true) : indentLine indent line = line :=
  if_pos blank

theorem indentLine_of_not_blank (dark : isBlankLine line = false) :
    indentLine indent line = indent ++ line := by
  simp [indentLine, dark]

theorem isBlankLine_append (first second : List Char) :
    isBlankLine (first ++ second) = (isBlankLine first && isBlankLine second) :=
  List.all_append

theorem isBlankLine_indentLine (indent line : List Char) :
    isBlankLine (indentLine indent line) = isBlankLine line := by
  cases dark : isBlankLine line with
  | true => rw [indentLine_of_blank dark, dark]
  | false => rw [indentLine_of_not_blank dark, isBlankLine_append, dark, Bool.and_false]

theorem indentLine_eq_nil_iff : indentLine indent line = [] ↔ line = [] := by
  cases dark : isBlankLine line with
  | true => rw [indentLine_of_blank dark]
  | false =>
      have some : line ≠ [] := by
        rintro rfl
        contradiction
      simp [indentLine_of_not_blank dark, some]

theorem indentLine_eq_self_iff :
    indentLine indent line = line ↔ indent = [] ∨ isBlankLine line = true := by
  cases dark : isBlankLine line with
  | true => simp [indentLine_of_blank dark]
  | false => simp [indentLine_of_not_blank dark]

theorem indentLine_injective (indent : List Char) : Function.Injective (indentLine indent) := by
  intro first second same
  have alike : isBlankLine first = isBlankLine second := by
    rw [← isBlankLine_indentLine indent first, same, isBlankLine_indentLine]
  cases dark : isBlankLine second with
  | true => rwa [indentLine_of_blank (alike.trans dark), indentLine_of_blank dark] at same
  | false =>
      rw [indentLine_of_not_blank (alike.trans dark), indentLine_of_not_blank dark] at same
      exact List.append_cancel_left same

theorem trim_indentLine (isIndent : IsIndent indent) (line : List Char) :
    trim (indentLine indent line) = trim line := by
  unfold indentLine
  split
  · rfl
  · exact Text.trim_append isIndent.isBlank line

theorem ink_indentLine (isIndent : IsIndent indent) (line : List Char) :
    ink (indentLine indent line) = ink line := by
  rw [← Text.ink_trim, trim_indentLine isIndent, Text.ink_trim]

/-! ## One line -/

/-- Where the reader stands behind a line, if no closing bracket in it is out of place. -/
def Scan.behind? (scan : Scan) (line : List Char) : Option Scan :=
  ((scan.run (if scan.mode = .template then line else trim line)).toOption).map Scan.endLine

theorem snd_rowOf (unit : List Char) (scan : Scan) (line : List Char) :
    (rowOf unit scan line).2 = if scan.mode = .template then line else trim line := by
  unfold rowOf
  split <;> simp_all

theorem rowOf_template (inside : scan.mode = .template) :
    rowOf unit scan line = (.line line, line) := by
  simp [rowOf, inside]

theorem rowOf_congr {other : List Char} (outside : scan.mode ≠ .template)
    (same : trim line = trim other) : rowOf unit scan line = rowOf unit scan other := by
  unfold rowOf
  split
  · contradiction
  · rw [same]
  · rw [same]

theorem behind?_congr {other : List Char} (outside : scan.mode ≠ .template)
    (same : trim line = trim other) : scan.behind? line = scan.behind? other := by
  simp only [Scan.behind?, if_neg outside, same]

theorem endLine_endLine (scan : Scan) : scan.endLine.endLine = scan.endLine := by
  unfold Scan.endLine
  cases scan.mode <;> rfl

theorem endLine_of_behind? (found : scan.behind? line = some next) : next.endLine = next := by
  obtain ⟨last, -, rfl⟩ := Option.map_eq_some_iff.mp found
  exact endLine_endLine last

theorem behind?_nil (starts : scan.endLine = scan) : scan.behind? [] = some scan := by
  have same : (if scan.mode = .template then [] else trim []) = [] := ite_self []
  simp [Scan.behind?, same, Scan.run, Except.toOption, starts]

theorem behind?_of_trim_nil (starts : scan.endLine = scan) (outside : scan.mode ≠ .template)
    (empty : trim line = []) : scan.behind? line = some scan :=
  (behind?_congr outside empty).trans (behind?_nil starts)

/-- A line of a template is kept; any other is put behind blanks without those around it. -/
theorem rowOf_text (isIndent : IsIndent unit) (row : (rowOf unit scan line).1 = .line text) :
    scan.mode = .template ∧ text = line ∨
      scan.mode ≠ .template ∧ ∃ blanks, IsIndent blanks ∧ text = blanks ++ trim line := by
  have deep := isIndent.repeated
  unfold rowOf at row
  split at row
  next inside =>
    cases row
    exact .inl ⟨inside, rfl⟩
  next star comment =>
    refine .inr ⟨by simp [comment], ?_⟩
    unfold commentRow at row
    split at row
    next empty =>
      cases row
      exact ⟨[], by simp [IsIndent], by simp [empty]⟩
    next starred =>
      cases row
      exact ⟨_, (deep scan.depth).concat, by simp [starred]⟩
    next =>
      cases row
      exact ⟨_, deep scan.depth, rfl⟩
  next outside _ =>
    refine .inr ⟨outside, ?_⟩
    unfold codeRow at row
    split at row
    · contradiction
    · cases row
      exact ⟨_, deep _, rfl⟩

/-- Where a line can start. -/
theorem mode_of_endLine (starts : scan.endLine = scan) :
    scan.mode = .code ∨ scan.mode = .comment false ∨ scan.mode = .template := by
  rw [← starts]
  unfold Scan.endLine
  cases scan.mode <;> simp

theorem rowOf_gap (starts : scan.endLine = scan) (row : (rowOf unit scan line).1 = .gap) :
    scan.mode = .code ∧ trim line = [] := by
  rcases mode_of_endLine starts with code | comment | inside
  · refine ⟨code, ?_⟩
    simp only [rowOf, code, codeRow] at row
    split at row
    next empty => simpa using empty
    next => contradiction
  · simp only [rowOf, comment, commentRow] at row
    split at row <;> contradiction
  · rw [rowOf_template inside] at row
    contradiction

theorem rowOf_blank (code : scan.mode = .code) (empty : trim line = []) :
    (rowOf unit scan line).1 = .gap := by
  simp [rowOf, code, codeRow, empty]

/-- A line of code that is no gap is not blank. -/
theorem rowOf_code (isIndent : IsIndent unit) (code : scan.mode = .code)
    (row : (rowOf unit scan line).1 = .line text) : isBlankLine text = false := by
  have some : trim line ≠ [] := by
    intro empty
    rw [rowOf_blank code empty] at row
    contradiction
  have dark : isBlankLine (trim line) = false := by
    rw [← Text.trim_trim] at some
    simpa [Text.trim_eq_nil_iff] using some
  rcases rowOf_text isIndent row with ⟨inside, -⟩ | ⟨-, blanks, -, rfl⟩
  · simp [code] at inside
  · rw [isBlankLine_append, dark, Bool.and_false]

/-- The characters that mean something to the reader. -/
def marks : List Char :=
  ['/', '*', '"', '\'', '\x60', '\\', '$', '(', '[', '\x7b', ')', ']', '\x7d']

theorem not_mem_marks {c : Char} (blank : isBlank c = true) : c ∉ marks := by
  intro member
  have dark : marks.all (!isBlank ·) = true := by decide
  have dim := List.all_eq_true.mp dark c member
  rw [blank] at dim
  contradiction

/-- A blank at the start of a line is passed over. -/
theorem step?_blank_of_starts {c : Char} (starts : scan.endLine = scan) (blank : isBlank c = true) :
    scan.step? c = some scan := by
  have plain := not_mem_marks blank
  simp only [marks, List.mem_cons, List.not_mem_nil, or_false, not_or] at plain
  obtain ⟨mode, opened⟩ := scan
  rcases mode_of_endLine starts with code | comment | template
  · cases code
    simp [Scan.step?, Scan.stepCode?, Scan.isCloser, plain]
  · cases comment
    simp [Scan.step?, plain]
  · cases template
    simp [Scan.step?, Scan.stepTemplate, plain]

theorem run_blanks_append (starts : scan.endLine = scan) {blanks : List Char}
    (allBlank : ∀ c ∈ blanks, isBlank c = true) (text : List Char) :
    scan.run (blanks ++ text) = scan.run text := by
  induction blanks with
  | nil => rfl
  | cons c blanks ih =>
      obtain ⟨first, later⟩ := List.forall_mem_cons.mp allBlank
      rw [List.cons_append, Scan.run, step?_blank_of_starts starts first]
      exact ih later

theorem behind?_blank (starts : scan.endLine = scan) (blank : isBlankLine line = true) :
    scan.behind? line = some scan := by
  by_cases inside : scan.mode = .template
  · have stays := run_blanks_append starts (List.all_eq_true.mp blank) []
    rw [List.append_nil] at stays
    simp [Scan.behind?, inside, stays, Scan.run, Except.toOption, starts]
  · exact behind?_of_trim_nil starts inside ((Text.trim_eq_nil_iff line).mpr blank)

/-- A line of a layout where it stands indented: in a template the indentation stays. -/
def indentLiteral (indent : List Char) (scan : Scan) (line : List Char) : List Char :=
  if scan.mode = .template then indentLine indent line else line

/-- A row is its own layout. -/
theorem rowOf_row (isIndent : IsIndent unit) (row : (rowOf unit scan line).1 = .line text) :
    (rowOf unit scan text).1 = .line text ∧ scan.behind? text = scan.behind? line := by
  rcases rowOf_text isIndent row with ⟨inside, rfl⟩ | ⟨outside, blanks, blank, rfl⟩
  · exact ⟨by rw [rowOf_template inside], rfl⟩
  · have same : trim (blanks ++ trim line) = trim line := by
      rw [Text.trim_append blank.isBlank, Text.trim_trim]
    exact ⟨by rw [rowOf_congr outside same, row], behind?_congr outside same⟩

theorem rowOf_indentLine (isIndent : IsIndent indent) (row : (rowOf unit scan line).1 = .line line) :
    (rowOf unit scan (indentLine indent line)).1 = .line (indentLiteral indent scan line) ∧
      scan.behind? (indentLine indent line) = scan.behind? line := by
  by_cases inside : scan.mode = .template
  · refine ⟨by simp [rowOf_template inside, indentLiteral, inside], ?_⟩
    unfold indentLine
    split
    · rfl
    · have starts : scan.endLine = scan := by
        obtain ⟨mode, opened⟩ := scan
        cases inside
        rfl
      simp only [Scan.behind?, if_pos inside, run_blanks_append starts isIndent.isBlank]
  · have same := trim_indentLine isIndent line
    exact ⟨by rw [rowOf_congr inside same, row, indentLiteral, if_neg inside],
      behind?_congr inside same⟩

/-! ## All lines -/

theorem rows_cons_ok_iff {number : Nat} {rest : List (List Char)} {result : List Row} :
    rows unit number scan (line :: rest) = .ok result ↔
      ∃ next more, scan.behind? line = some next ∧ rows unit (number + 1) next rest = .ok more ∧
        result = (rowOf unit scan line).1 :: more := by
  simp only [rows, Scan.behind?, ← snd_rowOf unit]
  cases scan.run (rowOf unit scan line).2 with
  | error found => simp [Except.toOption]
  | ok last =>
      simp only [Except.toOption, Option.map_some, Option.some.injEq, exists_and_left,
        exists_eq_left']
      cases rows unit (number + 1) last.endLine rest with
      | error fault => simp
      | ok more => simp [eq_comm]

theorem rows_gap {number : Nat} {rest : List (List Char)} {more : List Row}
    (starts : scan.endLine = scan) (code : scan.mode = .code) (empty : trim line = [])
    (tail : rows unit (number + 1) scan rest = .ok more) :
    rows unit number scan (line :: rest) = .ok (.gap :: more) := by
  have outside : scan.mode ≠ .template := by simp [code]
  have stays := behind?_of_trim_nil starts outside empty
  exact rows_cons_ok_iff.mpr ⟨scan, more, stays, tail, by rw [rowOf_blank code empty]⟩

theorem mode_of_atEnd (ends : atEnd scan = .ok ()) : scan.mode = .code := by
  unfold atEnd at ends
  split at ends
  next code empty => exact code
  next => contradiction
  next => contradiction

/-- What becomes of lines when they are laid out. `full` tells whether a line that is not empty
stands before them. -/
inductive LaidOut (unit : List Char) : Bool → Scan → List (List Char) → List (List Char) → Prop
  | nil {full : Bool} {scan : Scan} : atEnd scan = .ok () → LaidOut unit full scan [] []
  /-- A gap that does not count. -/
  | skip {full : Bool} {scan : Scan} {line : List Char} {rest result : List (List Char)} :
      scan.mode = .code → trim line = [] → full = false ∨ result = [] →
      LaidOut unit false scan rest result → LaidOut unit full scan (line :: rest) result
  | gap {scan : Scan} {line : List Char} {rest result : List (List Char)} :
      scan.mode = .code → trim line = [] → result ≠ [] →
      LaidOut unit false scan rest result → LaidOut unit true scan (line :: rest) ([] :: result)
  | line {full : Bool} {scan next : Scan} {line text : List Char} {rest result : List (List Char)} :
      (rowOf unit scan line).1 = .line text → scan.behind? line = some next →
      LaidOut unit (!text.isEmpty) next rest result →
      LaidOut unit full scan (line :: rest) (text :: result)

namespace LaidOut

variable {full : Bool} {lines result : List (List Char)}

theorem atEnd_of_nil (laid : LaidOut unit full scan lines []) : atEnd scan = .ok () := by
  generalize empty : ([] : List (List Char)) = result at laid
  induction laid with
  | nil ends => exact ends
  | skip _ _ _ _ ih => exact ih empty
  | gap => contradiction
  | line => contradiction

/-- An empty line that is no gap stands in a comment or a template, and these have an end. -/
theorem ne_nil_of_row (isIndent : IsIndent unit) (starts : scan.endLine = scan)
    (row : (rowOf unit scan line).1 = .line []) (behind : scan.behind? line = some next)
    (laid : LaidOut unit full next lines result) : result ≠ [] := by
  rintro rfl
  rw [← (rowOf_row isIndent row).2, behind?_nil starts, Option.some.injEq] at behind
  subst behind
  have code := mode_of_atEnd laid.atEnd_of_nil
  have dark := rowOf_code isIndent code row
  contradiction

end LaidOut

theorem dropEmptyEnd_cons (line : List Char) (lines : List (List Char)) :
    dropEmptyEnd (line :: lines) =
      if line = [] ∧ dropEmptyEnd lines = [] then [] else line :: dropEmptyEnd lines := by
  simp only [dropEmptyEnd, List.reverse_cons, List.dropWhile_append, List.reverse_eq_nil_iff]
  cases lines.reverse.dropWhile List.isEmpty with
  | nil => cases line <;> simp
  | cons last more => simp

/-- What is said line by line is what the rows of all lines come to. -/
theorem LaidOut.rows (isIndent : IsIndent unit) {full : Bool} {lines result : List (List Char)}
    (starts : scan.endLine = scan) (laid : LaidOut unit full scan lines result) (number : Nat) :
    ∃ rows, Format.rows unit number scan lines = .ok rows ∧
      dropEmptyEnd (collapse full rows) = result := by
  induction laid generalizing number with
  | nil ends => exact ⟨[], by simp [Format.rows, ends], rfl⟩
  | @skip full scan line rest result code empty idle laid ih =>
      obtain ⟨more, tail, same⟩ := ih starts (number + 1)
      refine ⟨.gap :: more, rows_gap starts code empty tail, ?_⟩
      rcases idle with rfl | rfl
      · exact same
      · cases full with
        | false => exact same
        | true => simp [collapse, dropEmptyEnd_cons, same]
  | @gap scan line rest result code empty some laid ih =>
      obtain ⟨more, tail, same⟩ := ih starts (number + 1)
      refine ⟨.gap :: more, rows_gap starts code empty tail, ?_⟩
      simp [collapse, dropEmptyEnd_cons, same, some]
  | @line full scan next line text rest result row behind laid ih =>
      obtain ⟨more, tail, same⟩ := ih (endLine_of_behind? behind) (number + 1)
      refine ⟨.line text :: more, rows_cons_ok_iff.mpr ⟨next, more, behind, tail, by rw [row]⟩, ?_⟩
      -- only gaps are dropped at the end
      have kept : ¬ (text = [] ∧ result = []) := by
        rintro ⟨rfl, empty⟩
        exact laid.ne_nil_of_row isIndent starts row behind empty
      simp [collapse, dropEmptyEnd_cons, same, kept]

theorem laidOut_of_rows (isIndent : IsIndent unit) {number : Nat} {lines : List (List Char)}
    {rows : List Row} (starts : scan.endLine = scan)
    (ok : Format.rows unit number scan lines = .ok rows) (full : Bool) :
    LaidOut unit full scan lines (dropEmptyEnd (collapse full rows)) := by
  induction lines generalizing number scan rows full with
  | nil =>
      rw [Format.rows] at ok
      split at ok
      next ends =>
        cases ok
        exact .nil ends
      next => contradiction
  | cons line rest ih =>
      obtain ⟨next, more, behind, tail, rfl⟩ := rows_cons_ok_iff.mp ok
      have laid := ih (endLine_of_behind? behind) tail
      cases row : (rowOf unit scan line).1 with
      | gap =>
          obtain ⟨code, empty⟩ := rowOf_gap starts row
          rw [behind?_of_trim_nil starts (by simp [code]) empty, Option.some.injEq] at behind
          subst behind
          cases full with
          | false => exact .skip code empty (.inl rfl) (laid false)
          | true =>
              rw [collapse, if_pos rfl, dropEmptyEnd_cons]
              split
              next ends =>
                refine .skip code empty (.inr rfl) ?_
                rw [← ends.2]
                exact laid false
              next some =>
                exact .gap code empty (fun ends => some ⟨rfl, ends⟩) (laid false)
      | line text =>
          have after := laid (!text.isEmpty)
          have kept : ¬ (text = [] ∧ dropEmptyEnd (collapse (!text.isEmpty) more) = []) := by
            rintro ⟨rfl, empty⟩
            exact after.ne_nil_of_row isIndent starts row behind empty
          rw [collapse, dropEmptyEnd_cons, if_neg kept]
          exact .line row behind after

/-! ## What stays -/

namespace LaidOut

variable {full : Bool} {lines result : List (List Char)}

theorem ink_eq (isIndent : IsIndent unit) (laid : LaidOut unit full scan lines result) :
    result.flatMap ink = lines.flatMap ink := by
  induction laid with
  | nil => rfl
  | @skip full scan line rest result code empty idle laid ih =>
      rw [List.flatMap_cons, ← Text.ink_trim line, empty, ih]
      rfl
  | @gap scan line rest result code empty some laid ih =>
      rw [List.flatMap_cons, List.flatMap_cons, ← Text.ink_trim line, empty, ih]
  | @line full scan next line text rest result row behind laid ih =>
      have same : ink text = ink line := by
        rcases rowOf_text isIndent row with ⟨-, rfl⟩ | ⟨-, blanks, blank, rfl⟩
        · rfl
        · rw [Text.ink_blanks_append blank.isBlank, Text.ink_trim]
      rw [List.flatMap_cons, List.flatMap_cons, same, ih]

/-- A layout brings no characters into a script but blanks and tabs. -/
theorem not_mem (isIndent : IsIndent unit) (laid : LaidOut unit full scan lines result) {c : Char}
    (other : c ≠ ' ' ∧ c ≠ '\t') (absent : ∀ line ∈ lines, c ∉ line) : ∀ line ∈ result, c ∉ line := by
  induction laid with
  | nil => exact absent
  | skip code empty idle laid ih => exact ih (List.forall_mem_cons.mp absent).2
  | gap code empty some laid ih =>
      exact List.forall_mem_cons.mpr ⟨by simp, ih (List.forall_mem_cons.mp absent).2⟩
  | @line full scan next line text rest result row behind laid ih =>
      obtain ⟨first, later⟩ := List.forall_mem_cons.mp absent
      refine List.forall_mem_cons.mpr ⟨?_, ih later⟩
      rcases rowOf_text isIndent row with ⟨-, rfl⟩ | ⟨-, blanks, blank, rfl⟩
      · exact first
      · intro member
        rcases List.mem_append.mp member with inBlanks | inLine
        · rcases blank c inBlanks with same | same
          · exact other.1 same
          · exact other.2 same
        · exact first (Text.mem_of_mem_trim inLine)

theorem unbroken (isIndent : IsIndent unit) (laid : LaidOut unit full scan lines result)
    (whole : Unbroken lines) : Unbroken result := by
  intro line listed
  exact ⟨laid.not_mem isIndent (by decide) (fun other member => (whole other member).1) line listed,
    laid.not_mem isIndent (by decide) (fun other member => (whole other member).2) line listed⟩

end LaidOut

/-- The lines that start in the literal part of a template. -/
def literalLines : Scan → List (List Char) → List (List Char)
  | _, [] => []
  | scan, line :: rest =>
      (if scan.mode = .template then [line] else []) ++
        match scan.behind? line with
        | some next => literalLines next rest
        | none => []

/-- Lines with indentation in front of those that start in the literal part of a template. -/
def indentLiterals (indent : List Char) : Scan → List (List Char) → List (List Char)
  | _, [] => []
  | scan, line :: rest =>
      indentLiteral indent scan line ::
        match scan.behind? line with
        | some next => indentLiterals indent next rest
        | none => rest

theorem literalLines_cons (behind : scan.behind? line = some next) (rest : List (List Char)) :
    literalLines scan (line :: rest) =
      (if scan.mode = .template then [line] else []) ++ literalLines next rest := by
  simp only [literalLines, behind]

theorem literalLines_gap (starts : scan.endLine = scan) (code : scan.mode = .code)
    (empty : trim line = []) (rest : List (List Char)) :
    literalLines scan (line :: rest) = literalLines scan rest := by
  have outside : scan.mode ≠ .template := by simp [code]
  rw [literalLines_cons (behind?_of_trim_nil starts outside empty), if_neg outside, List.nil_append]

theorem indentLiterals_cons (behind : scan.behind? line = some next) (rest : List (List Char)) :
    indentLiterals indent scan (line :: rest) =
      indentLiteral indent scan line :: indentLiterals indent next rest := by
  simp only [indentLiterals, behind]

theorem indentLiteral_eq_nil_iff : indentLiteral indent scan line = [] ↔ line = [] := by
  unfold indentLiteral
  split
  · exact indentLine_eq_nil_iff
  · rfl

theorem indentLiterals_eq_nil_iff {lines : List (List Char)} :
    indentLiterals indent scan lines = [] ↔ lines = [] := by
  cases lines <;> simp [indentLiterals]

theorem indentLiterals_eq_self_iff (indent : List Char) (scan : Scan) (lines : List (List Char)) :
    indentLiterals indent scan lines = lines ↔
      indent = [] ∨ ∀ line ∈ literalLines scan lines, isBlankLine line = true := by
  induction lines generalizing scan with
  | nil => simp [indentLiterals, literalLines]
  | cons line rest ih =>
      have head : indentLiteral indent scan line = line ↔
          indent = [] ∨ ∀ literal ∈ (if scan.mode = .template then [line] else []),
            isBlankLine literal = true := by
        by_cases inside : scan.mode = .template
        · simp [indentLiteral, inside, indentLine_eq_self_iff]
        · simp [indentLiteral, inside]
      cases behind : scan.behind? line with
      | none => simp [indentLiterals, literalLines, behind, head]
      | some next =>
          rw [indentLiterals_cons behind, literalLines_cons behind, List.cons.injEq, head, ih next,
            List.forall_mem_append, ← or_and_left]

namespace LaidOut

variable {full : Bool} {lines result : List (List Char)}

theorem literalLines_eq (isIndent : IsIndent unit) (starts : scan.endLine = scan)
    (laid : LaidOut unit full scan lines result) :
    literalLines scan result = literalLines scan lines := by
  induction laid with
  | nil => rfl
  | skip code empty idle laid ih => rw [literalLines_gap starts code empty, ih starts]
  | gap code empty some laid ih =>
      rw [literalLines_gap starts code empty, literalLines_gap starts code rfl, ih starts]
  | @line full scan next line text rest result row behind laid ih =>
      have same := (rowOf_row isIndent row).2
      rw [literalLines_cons behind, literalLines_cons (same.trans behind),
        ih (endLine_of_behind? behind)]
      rcases rowOf_text isIndent row with ⟨-, rfl⟩ | ⟨outside, -⟩
      · rfl
      · simp [outside]

/-- A template that is open has an end, and the line with the end is not blank. -/
theorem exists_literal (laid : LaidOut unit full scan lines result) (starts : scan.endLine = scan)
    (opened : scan.mode = .template ∨ literalLines scan lines ≠ []) :
    ∃ line ∈ literalLines scan lines, isBlankLine line = false := by
  induction laid with
  | nil ends => simp [mode_of_atEnd ends, literalLines] at opened
  | skip code empty idle laid ih =>
      rw [literalLines_gap starts code empty] at opened ⊢
      exact ih starts opened
  | gap code empty some laid ih =>
      rw [literalLines_gap starts code empty] at opened ⊢
      exact ih starts opened
  | @line full scan next line text rest result row behind laid ih =>
      by_cases inside : scan.mode = .template
      · rw [literalLines_cons behind, if_pos inside]
        cases dark : isBlankLine line with
        | false => exact ⟨line, by simp, dark⟩
        | true =>
            -- blanks do not close the template, so it is still open behind the line
            rw [behind?_blank starts dark, Option.some.injEq] at behind
            subst behind
            obtain ⟨literal, listed, dark⟩ := ih starts (.inl inside)
            exact ⟨literal, List.mem_append_right _ listed, dark⟩
      · rw [literalLines_cons behind, if_neg inside, List.nil_append] at opened ⊢
        exact ih (endLine_of_behind? behind) (.inr (opened.resolve_left inside))

theorem literalLines_blank_iff (laid : LaidOut unit full scan lines result)
    (starts : scan.endLine = scan) :
    (∀ line ∈ literalLines scan lines, isBlankLine line = true) ↔ literalLines scan lines = [] := by
  constructor
  · intro blank
    by_contra some
    obtain ⟨literal, listed, dark⟩ := laid.exists_literal starts (.inr some)
    rw [blank literal listed] at dark
    contradiction
  · intro none
    simp [none]

/-- A layout that is indented as a whole and laid out again. -/
theorem indented (isUnit : IsIndent unit) (isIndent : IsIndent indent) (starts : scan.endLine = scan)
    (laid : LaidOut unit full scan lines result) :
    LaidOut unit full scan (result.map (indentLine indent)) (indentLiterals indent scan result) := by
  induction laid with
  | nil ends => exact .nil ends
  | @skip full scan line rest result code empty idle laid ih =>
      -- the gap is gone: what is laid out again are the lines behind it, or none
      rcases idle with rfl | rfl
      · exact ih starts
      · exact .nil laid.atEnd_of_nil
  | @gap scan line rest result code empty some laid ih =>
      rw [indentLiterals_cons (behind?_nil starts), indentLiteral, if_neg (by simp [code])]
      exact .gap code rfl (by simpa [indentLiterals_eq_nil_iff] using some) (ih starts)
  | @line full scan next line text rest result row behind laid ih =>
      obtain ⟨own, same⟩ := rowOf_row isUnit row
      obtain ⟨again, after⟩ := rowOf_indentLine isIndent own
      have alike : (indentLiteral indent scan text).isEmpty = text.isEmpty := by
        rw [Bool.eq_iff_iff, List.isEmpty_iff, List.isEmpty_iff, indentLiteral_eq_nil_iff]
      rw [List.map_cons, indentLiterals_cons (same.trans behind)]
      refine .line again (after.trans (same.trans behind)) ?_
      rw [alike]
      exact ih (endLine_of_behind? behind)

/-- A layout starts with a line that is not blank. -/
theorem head_not_blank (isIndent : IsIndent unit) {first : List Char} (code : scan.mode = .code)
    (laid : LaidOut unit full scan lines (first :: result)) (leads : full = false) :
    isBlankLine first = false := by
  generalize whole : first :: result = all at laid
  induction laid with
  | nil => contradiction
  | skip _ _ _ _ ih => exact ih code rfl whole
  | gap => contradiction
  | line row behind laid ih =>
      cases whole
      exact rowOf_code isIndent code row

end LaidOut

/-! ## Layouts -/

theorem assemble_eq (lines : List (List Char)) : assemble lines = terminated lines := by
  cases lines with
  | nil => rfl
  | cons line rest => simp only [assemble, List.isEmpty_cons, Bool.false_eq_true, if_false,
      Text.joinLines_feed (List.cons_ne_nil line rest)]

theorem layout_eq_ok_iff (isIndent : IsIndent unit) {formatted : List Char} :
    layout unit text = .ok formatted ↔
      ∃ result, LaidOut unit false .start (Text.lines text) result ∧
        formatted = terminated result := by
  unfold layout
  constructor
  · intro ok
    split at ok
    next rows found =>
      cases ok
      exact ⟨_, laidOut_of_rows isIndent rfl found false, assemble_eq _⟩
    next => contradiction
  · rintro ⟨result, laid, rfl⟩
    obtain ⟨rows, found, same⟩ := laid.rows isIndent rfl 1
    simp only [found, same, assemble_eq]

/-- The lines of a layout in its place: an empty one, and the others with indentation. -/
def placedLines (indent : List Char) (lines : List (List Char)) : List (List Char) :=
  [] :: lines.map (indentLine indent)

section

variable {lines result : List (List Char)}

theorem placed_terminated (indent : List Char) (unbroken : Unbroken lines) :
    placed indent (terminated lines) = terminated (placedLines indent lines) := by
  have last : indentLine indent [] = [] := indentLine_of_blank rfl
  have pieces := Text.splitLines_terminated fun line listed => (unbroken line listed).1
  rw [placed, pieces, List.map_append, List.map_singleton, last, Text.joinLines_concat_nil,
    placedLines, Text.terminated_cons, List.nil_append]

theorem unbroken_placedLines (isIndent : IsIndent indent) (unbroken : Unbroken lines) :
    Unbroken (placedLines indent lines) := by
  refine List.forall_mem_cons.mpr ⟨by simp, List.forall_mem_map.mpr ?_⟩
  intro line listed
  unfold indentLine
  split
  · exact unbroken line listed
  · simp [isIndent.not_feed, isIndent.not_return, unbroken line listed]

theorem ink_placedLines (isIndent : IsIndent indent) :
    (placedLines indent lines).flatMap ink = lines.flatMap ink := by
  rw [placedLines, List.flatMap_cons, List.flatMap_map]
  simp only [ink_indentLine isIndent]
  rfl

/-- A layout in its place, laid out again. -/
theorem LaidOut.placedLines (isUnit : IsIndent unit) (isIndent : IsIndent indent)
    (laid : LaidOut unit false .start lines result) :
    LaidOut unit false .start (placedLines indent result) (indentLiterals indent .start result) :=
  .skip rfl rfl (.inl rfl) (laid.indented isUnit isIndent rfl)

/-- The first line, which is code, tells by what the lines are indented; and lines of templates stay
where they are if they are not indented twice. -/
theorem LaidOut.placedLines_eq_iff (isUnit : IsIndent unit)
    (laid : LaidOut unit false .start lines result) (indent other : List Char) :
    Format.placedLines other (indentLiterals indent .start result) =
        Format.placedLines indent result ↔
      result = [] ∨ other = indent ∧ (indent = [] ∨ literalLines .start lines = []) := by
  rw [← laid.literalLines_blank_iff rfl, ← laid.literalLines_eq isUnit rfl,
    ← indentLiterals_eq_self_iff, Format.placedLines, Format.placedLines, List.cons.injEq,
    and_iff_right rfl]
  cases result with
  | nil => simp [indentLiterals]
  | cons first rest =>
      have dark := laid.head_not_blank isUnit rfl rfl
      have head : (indentLiterals indent .start (first :: rest)).head? = some first := rfl
      constructor
      · intro same
        have heads := congrArg List.head? same
        rw [List.head?_map, List.head?_map, head, List.head?_cons, Option.map_some, Option.map_some,
          Option.some.injEq, indentLine_of_not_blank dark, indentLine_of_not_blank dark] at heads
        have alike : other = indent := List.append_cancel_right heads
        subst alike
        exact .inr ⟨rfl, List.map_injective_iff.mpr (indentLine_injective other) same⟩
      · rintro (empty | ⟨rfl, same⟩)
        · contradiction
        · rw [same]

/-! ## Layouts of layouts -/

/-- A layout is laid out already. -/
theorem LaidOut.again (isIndent : IsIndent unit) (starts : scan.endLine = scan)
    {full : Bool} (laid : LaidOut unit full scan lines result) :
    LaidOut unit full scan result result := by
  have same : result.map (indentLine []) = result := by
    apply List.map_id''
    exact fun line => indentLine_eq_self_iff.mpr (.inl rfl)
  have relaid := laid.indented isIndent (by simp [IsIndent] : IsIndent []) starts
  rwa [same, (indentLiterals_eq_self_iff [] scan result).mpr (.inl rfl)] at relaid

theorem LaidOut.layout_eq (isIndent : IsIndent unit) (unbroken : Unbroken lines)
    (laid : LaidOut unit false .start lines result) :
    layout unit (terminated result) = .ok (terminated result) := by
  refine (layout_eq_ok_iff isIndent).mpr ⟨result, ?_, rfl⟩
  rw [(laid.unbroken isIndent unbroken).lines_eq]
  exact laid.again isIndent rfl

theorem layout_idempotent (settings : Settings) (text out : List Char) (paired : ReturnsPaired text)
    (ok : layout settings.indentUnit text = .ok out) : layout settings.indentUnit out = .ok out := by
  have isIndent := isIndent_indentUnit settings
  obtain ⟨result, laid, rfl⟩ := (layout_eq_ok_iff isIndent).mp ok
  exact laid.layout_eq isIndent (Text.unbroken_lines_of_paired paired)

/-- Lines ended in both ways, a comment with stars, a template that starts and ends within lines and
one blank line too many. -/
private def mixedScript : List Char :=
  "\r\n f(\x60 a\r\n  $\x7b\n[1,\r\n2]\n\x7d \x60,  \n/*\n* b\r\n   */\n\n\n\n3)\r\n".toList

theorem layout_idempotent_mixedScript :
    let settings : Settings := { useTabs := true }
    let out := "f(\x60 a\n  $\x7b\n\t[1,\n\t\t2]\n\x7d \x60,\n\t/*\n\t * b\n\t */\n\n\t3)\n".toList
    ReturnsPaired mixedScript ∧ layout settings.indentUnit mixedScript = .ok out ∧
      layout settings.indentUnit out = .ok out := by
  intro settings out
  have paired : ReturnsPaired mixedScript := by decide +kernel
  have ok : layout settings.indentUnit mixedScript = .ok out := by decide +kernel
  exact ⟨paired, ok, layout_idempotent settings mixedScript out paired ok⟩

end

end InlineScript.Format
