import InlineScript.Proofs.Format.Reading

/-!
What a layout keeps of a script. The lines that are not blank stay, in their order and with the gaps
between them, and lines of templates stay as they are. Where a line of the script or of its layout
starts is told by the grammar.
-/

namespace InlineScript.Format

open Text (EndsLine dropTerminator isBlankLine terminated trim)

variable {unit line front text out : List Char} {scan : Scan} {lines result : List (List Char)}
  {full parted : Bool}

/-! ## Lines that are not blank -/

/-- The lines that are not blank, without the blanks around them, each with whether a blank line
stands in front of it; `parted` tells this for the first line. -/
def darkLines : Bool → List (List Char) → List (Bool × List Char)
  | _, [] => []
  | parted, line :: rest =>
      if isBlankLine line then darkLines true rest else (parted, trim line) :: darkLines false rest

theorem isBlankLine_congr {other : List Char} (same : trim line = trim other) :
    isBlankLine line = isBlankLine other := by
  rw [Bool.eq_iff_iff, ← Text.trim_eq_nil_iff, ← Text.trim_eq_nil_iff, same]

theorem darkLines_cons_of_blank (blank : isBlankLine line = true) (parted : Bool)
    (rest : List (List Char)) : darkLines parted (line :: rest) = darkLines true rest :=
  if_pos blank

theorem darkLines_map {change : List Char → List Char}
    (same : ∀ line, trim (change line) = trim line) (parted : Bool) (lines : List (List Char)) :
    darkLines parted (lines.map change) = darkLines parted lines := by
  induction lines generalizing parted with
  | nil => rfl
  | cons line rest ih =>
      simp only [List.map_cons, darkLines, same, isBlankLine_congr (same line), ih]

theorem map_snd_darkLines (parted : Bool) (lines : List (List Char)) :
    (darkLines parted lines).map Prod.snd = (lines.filter (!isBlankLine ·)).map trim := by
  induction lines generalizing parted with
  | nil => rfl
  | cons line rest ih =>
      cases blank : isBlankLine line with
      | true => simp [darkLines, blank, ih]
      | false => simp [darkLines, blank, ih]

theorem darkLines_eq_nil_iff (parted : Bool) (lines : List (List Char)) :
    darkLines parted lines = [] ↔ ∀ line ∈ lines, isBlankLine line = true := by
  induction lines generalizing parted with
  | nil => simp [darkLines]
  | cons line rest ih =>
      cases blank : isBlankLine line with
      | true => simp [darkLines, blank, ih]
      | false => simp [darkLines, blank]

theorem after?_terminated_cons (starts : scan.endLine = scan) (noFeed : '\n' ∉ line)
    (lines : List (List Char)) :
    scan.after? (terminated (line :: lines)) =
      (scan.behind? line).bind fun next => next.after? (terminated lines) := by
  rw [Text.terminated_cons, scan.after?_feed noFeed, Scan.behind?_eq starts]

theorem after?_terminated_gap (starts : scan.endLine = scan) (code : scan.mode = .code)
    (empty : trim line = []) (noFeed : '\n' ∉ line) (lines : List (List Char)) :
    scan.after? (terminated (line :: lines)) = scan.after? (terminated lines) := by
  have outside : scan.mode ≠ .template := by simp [code]
  rw [after?_terminated_cons starts noFeed, behind?_of_trim_nil starts outside empty]
  rfl

theorem trim_row (isIndent : IsIndent unit) (row : (rowOf unit scan line).1 = .line text) :
    trim text = trim line := by
  rcases rowOf_text isIndent row with ⟨-, rfl⟩ | ⟨-, blanks, blank, rfl⟩
  · rfl
  · rw [Text.trim_append blank.isBlank, Text.trim_trim]

namespace LaidOut

/-- Gaps are dropped at the start, at the end and behind other gaps, where they part nothing. -/
theorem darkLines_eq (isIndent : IsIndent unit) (laid : LaidOut unit full scan lines result)
    (behindGap : full = false → parted = true) :
    darkLines parted result = darkLines parted lines := by
  induction laid generalizing parted with
  | nil => rfl
  | @skip full scan line rest result code empty idle laid ih =>
      rw [darkLines_cons_of_blank ((Text.trim_eq_nil_iff line).mp empty), ← ih fun _ => rfl]
      rcases idle with first | rfl
      · rw [behindGap first]
      · rfl
  | @gap scan line rest result code empty some laid ih =>
      rw [darkLines_cons_of_blank ((Text.trim_eq_nil_iff line).mp empty),
        darkLines_cons_of_blank rfl, ih fun _ => rfl]
  | @line full scan next line text rest result row behind laid ih =>
      have same := trim_row isIndent row
      rw [darkLines, darkLines, same, isBlankLine_congr same]
      cases blank : isBlankLine line with
      | true =>
          rw [if_pos rfl, if_pos rfl]
          exact ih fun _ => rfl
      | false =>
          -- a line that is not blank is not empty, so that a gap behind it counts
          have some : text.isEmpty = false := by
            cases text with
            | nil => rw [← isBlankLine_congr same] at blank; contradiction
            | cons c rest => rfl
          rw [if_neg Bool.false_ne_true, if_neg Bool.false_ne_true]
          congr 1
          exact ih (by simp [some])

/-- What a layout is from one of its lines on is a layout. -/
theorem split (isIndent : IsIndent unit) {front back : List (List Char)}
    (starts : scan.endLine = scan) (laid : LaidOut unit full scan lines (front ++ back))
    (noFeed : ∀ line ∈ front, '\n' ∉ line) :
    ∃ full last rest, scan.after? (terminated front) = some last ∧ last.endLine = last ∧
      LaidOut unit full last rest back := by
  generalize whole : front ++ back = result at laid
  induction laid generalizing front with
  | @nil full scan ends =>
      obtain ⟨rfl, rfl⟩ := List.append_eq_nil_iff.mp whole
      exact ⟨full, scan, [], rfl, starts, .nil ends⟩
  | skip code empty idle laid ih => exact ih starts noFeed whole
  | @gap scan line rest result code empty some laid ih =>
      cases front with
      | nil =>
          subst whole
          exact ⟨true, scan, line :: rest, rfl, starts, .gap code empty some laid⟩
      | cons first front =>
          obtain ⟨rfl, later⟩ := List.cons.inj whole
          obtain ⟨full, last, rest, walked, ended, laidOut⟩ :=
            ih starts (List.forall_mem_cons.mp noFeed).2 later
          refine ⟨full, last, rest, ?_, ended, laidOut⟩
          rw [after?_terminated_cons starts (List.not_mem_nil), behind?_nil starts]
          exact walked
  | @line full scan next line text rest result row behind laid ih =>
      cases front with
      | nil =>
          subst whole
          exact ⟨full, scan, line :: rest, rfl, starts, .line row behind laid⟩
      | cons first front =>
          obtain ⟨rfl, later⟩ := List.cons.inj whole
          obtain ⟨firstNoFeed, laterNoFeed⟩ := List.forall_mem_cons.mp noFeed
          obtain ⟨full, last, rest, walked, ended, laidOut⟩ :=
            ih (endLine_of_behind? behind) laterNoFeed later
          refine ⟨full, last, rest, ?_, ended, laidOut⟩
          rw [← (rowOf_row isIndent row).2] at behind
          rw [after?_terminated_cons starts firstNoFeed, behind]
          exact walked

/-- What a layout makes of the last lines is a layout of them. -/
theorem splitLines {front back : List (List Char)} (starts : scan.endLine = scan)
    (laid : LaidOut unit full scan (front ++ back) result)
    (noFeed : ∀ line ∈ front, '\n' ∉ line) :
    ∃ full last before behind, scan.after? (terminated front) = some last ∧
      LaidOut unit full last back behind ∧ result = before ++ behind := by
  induction front generalizing scan full result with
  | nil => exact ⟨full, scan, [], result, rfl, laid, rfl⟩
  | cons line front ih =>
      obtain ⟨first, later⟩ := List.forall_mem_cons.mp noFeed
      cases laid with
      | skip code empty idle laid =>
          obtain ⟨full, last, before, behind, walked, rest, split⟩ := ih starts laid later
          rw [← after?_terminated_gap starts code empty first] at walked
          exact ⟨full, last, before, behind, walked, rest, split⟩
      | gap code empty some laid =>
          obtain ⟨full, last, before, behind, walked, rest, split⟩ := ih starts laid later
          rw [← after?_terminated_gap starts code empty first] at walked
          exact ⟨full, last, [] :: before, behind, walked, rest, congrArg _ split⟩
      | @line _ _ next _ text _ _ row behind laid =>
          obtain ⟨full, last, before, rows, walked, rest, split⟩ :=
            ih (endLine_of_behind? behind) laid later
          refine ⟨full, last, text :: before, rows, ?_, rest, congrArg _ split⟩
          rw [after?_terminated_cons starts first, behind]
          exact walked

theorem not_blank_of_blank (isIndent : IsIndent unit) {first second : List Char}
    (code : scan.mode = .code) (laid : LaidOut unit full scan lines (first :: second :: result))
    (blank : isBlankLine first = true) : isBlankLine second = false := by
  generalize whole : first :: second :: result = all at laid
  induction laid with
  | nil => contradiction
  | skip _ _ _ _ ih => exact ih code whole
  | gap _ _ _ laid _ =>
      obtain ⟨-, rfl⟩ := List.cons.inj whole
      exact laid.head_not_blank isIndent code rfl
  | line row _ _ _ =>
      obtain ⟨rfl, -⟩ := List.cons.inj whole
      rw [rowOf_code isIndent code row] at blank
      contradiction

/-- A layout ends with a line that is not blank. -/
theorem last_not_blank (isIndent : IsIndent unit) {last : List Char} (starts : scan.endLine = scan)
    (laid : LaidOut unit full scan lines [last]) : isBlankLine last = false := by
  generalize whole : [last] = all at laid
  induction laid with
  | nil => contradiction
  | skip _ _ _ _ ih => exact ih starts whole
  | gap _ _ some _ _ =>
      obtain ⟨-, rfl⟩ := List.cons.inj whole
      contradiction
  | @line full scan next line text rest result row behind laid _ =>
      obtain ⟨rfl, rfl⟩ := List.cons.inj whole
      -- a blank line would leave the reader where it is, and the text does not end there
      cases blank : isBlankLine last with
      | false => rfl
      | true =>
          have code := mode_of_atEnd laid.atEnd_of_nil
          rw [← (rowOf_row isIndent row).2] at behind
          rw [behind?_blank starts blank, Option.some.injEq] at behind
          subst behind
          rw [rowOf_code isIndent code row] at blank
          contradiction

end LaidOut

/-! ## Starts of lines -/

/-- What is left of a text starts inside a part of it. A group inside a template is code. -/
def Stands (part : Part) (text rest : List Char) : Prop :=
  ∃ opened, Reaches .code [] text part opened rest

/-- The reader does not see how lines are ended. -/
theorem after?_terminated_lines (ends : EndsLine front) (scan : Scan) :
    scan.after? (terminated (Text.lines front)) = scan.after? front := by
  obtain ⟨lines, rfl, noFeed⟩ := ends.exists_lines
  rw [Text.lines_terminated_eq_map noFeed]
  clear ends
  induction lines generalizing scan with
  | nil => rfl
  | cons line lines ih =>
      obtain ⟨first, later⟩ := List.forall_mem_cons.mp noFeed
      rw [List.map_cons, Text.terminated_cons, Text.terminated_cons,
        scan.after?_feed (Text.not_mem_dropTerminator first), scan.after?_feed first,
        scan.runLine_dropTerminator]
      cases (scan.runLine line).toOption with
      | none => rfl
      | some next => exact ih next later

/-- Each line of a template stands as it is in `result`, at the place that is told. Places keep the
order, and no two lines get the same. -/
def Carries (place : Nat → Nat) (scan : Scan) (lines result : List (List Char)) : Prop :=
  ∀ front line back last, lines = front ++ line :: back →
    scan.after? (terminated front) = some last → last.mode = .template →
    (∀ later, front.length < later → place front.length < place later) ∧
    ∃ before behind, result = before ++ line :: behind ∧ before.length = place front.length ∧
      scan.after? (terminated before) = some last

namespace Carries

variable {place : Nat → Nat} {next : Scan}

theorem skip (starts : scan.endLine = scan) (code : scan.mode = .code) (empty : trim line = [])
    (noFeed : '\n' ∉ line) (carries : Carries place scan lines result) :
    Carries (fun | 0 => 0 | number + 1 => place number) scan (line :: lines) result := by
  have outside : scan.mode ≠ .template := by simp [code]
  intro front found back last split walked inside
  cases front with
  | nil =>
      cases walked
      contradiction
  | cons first front =>
      obtain ⟨rfl, tail⟩ := List.cons.inj split
      rw [after?_terminated_cons starts noFeed, behind?_of_trim_nil starts outside empty] at walked
      obtain ⟨rises, kept⟩ := carries front found back last tail walked inside
      refine ⟨fun later above => ?_, kept⟩
      cases later with
      | zero => contradiction
      | succ later => exact rises later (Nat.lt_of_succ_lt_succ above)

theorem cons (starts : scan.endLine = scan) (verbatim : scan.mode = .template → text = line)
    (behind : scan.behind? line = some next) (same : scan.behind? text = some next)
    (noFeed : '\n' ∉ line) (textNoFeed : '\n' ∉ text) (carries : Carries place next lines result) :
    Carries (fun | 0 => 0 | number + 1 => place number + 1) scan (line :: lines) (text :: result) := by
  intro front found back last split walked inside
  cases front with
  | nil =>
      cases walked
      obtain ⟨rfl, rfl⟩ := List.cons.inj split
      refine ⟨fun later above => ?_, [], result, by rw [verbatim inside]; rfl, rfl, rfl⟩
      cases later with
      | zero => contradiction
      | succ later => exact Nat.succ_pos _
  | cons first front =>
      obtain ⟨rfl, tail⟩ := List.cons.inj split
      rw [after?_terminated_cons starts noFeed, behind] at walked
      obtain ⟨rises, before, after, rfl, number, stands⟩ :=
        carries front found back last tail walked inside
      refine ⟨fun later above => ?_, text :: before, after, rfl, congrArg (· + 1) number, ?_⟩
      · cases later with
        | zero => contradiction
        | succ later => exact Nat.succ_lt_succ (rises later (Nat.lt_of_succ_lt_succ above))
      · rw [after?_terminated_cons starts textNoFeed, same]
        exact stands

end Carries

theorem LaidOut.exists_carries (isIndent : IsIndent unit) (starts : scan.endLine = scan)
    (laid : LaidOut unit full scan lines result) (noFeed : ∀ line ∈ lines, '\n' ∉ line)
    (resultNoFeed : ∀ line ∈ result, '\n' ∉ line) :
    ∃ place, Carries place scan lines result := by
  induction laid with
  | nil => exact ⟨id, by simp [Carries]⟩
  | skip code empty idle laid ih =>
      obtain ⟨first, later⟩ := List.forall_mem_cons.mp noFeed
      obtain ⟨place, carries⟩ := ih starts later resultNoFeed
      exact ⟨_, carries.skip starts code empty first⟩
  | @gap scan line rest result code empty some laid ih =>
      obtain ⟨first, later⟩ := List.forall_mem_cons.mp noFeed
      obtain ⟨firstRow, laterRows⟩ := List.forall_mem_cons.mp resultNoFeed
      obtain ⟨place, carries⟩ := ih starts later laterRows
      have outside : scan.mode ≠ .template := by simp [code]
      exact ⟨_, carries.cons starts (absurd · outside) (behind?_of_trim_nil starts outside empty)
        (behind?_nil starts) first firstRow⟩
  | @line full scan next line text rest result row behind laid ih =>
      obtain ⟨first, later⟩ := List.forall_mem_cons.mp noFeed
      obtain ⟨firstRow, laterRows⟩ := List.forall_mem_cons.mp resultNoFeed
      obtain ⟨place, carries⟩ := ih (endLine_of_behind? behind) later laterRows
      have verbatim : scan.mode = .template → text = line := by
        intro inside
        rw [rowOf_template inside] at row
        exact (Row.line.inj row).symm
      have same := (rowOf_row isIndent row).2
      exact ⟨_, carries.cons starts verbatim behind (same.trans behind) first firstRow⟩

theorem stands_literal_of_after? (ends : EndsLine front)
    (walked : Scan.start.after? front = some scan) (inside : scan.mode = .template)
    (rest : List Char) : Stands .literal (front ++ rest) rest := by
  obtain ⟨part, opened, spans, reaches, rfl⟩ := exists_reaches ends walked rest
  rcases spans with rfl | rfl | rfl
  · contradiction
  · contradiction
  · exact ⟨opened, reaches⟩

/-! ## Whole texts -/

/-- A line that starts inside a template stands as it is inside a template of `out`, as the line with
the number that `place` tells. Later lines get later numbers. -/
def KeepsLiteralLines (text out : List Char) : Prop :=
  ∃ place : Nat → Nat, ∀ front rest line, text = front ++ rest → EndsLine front →
    Stands .literal text rest → (Text.lines rest).head? = some line →
    (∀ later, front.count '\n' < later → place (front.count '\n') < place later) ∧
    ∃ before behind, out = before ++ line ++ '\n' :: behind ∧ EndsLine before ∧
      before.count '\n' = place (front.count '\n') ∧ Stands .literal out (line ++ '\n' :: behind)

/-- What `text` and its layout `out` have to do with one another. -/
structure Tidied (text out : List Char) : Prop where
  /-- No line is lost, moved or changed but for the blanks around it. -/
  sameLines : ((Text.lines out).filter (!isBlankLine ·)).map trim =
    ((Text.lines text).filter (!isBlankLine ·)).map trim
  /-- Lines are parted by blank lines where they were, and only there. -/
  sameGaps : darkLines true (Text.lines out) = darkLines true (Text.lines text)
  verbatim : KeepsLiteralLines text out
  empty_iff : out = [] ↔ ∀ line ∈ Text.lines text, isBlankLine line = true
  first : out ≠ [] → ∃ line rest, Text.lines out = line :: rest ∧ isBlankLine line = false
  last : out ≠ [] → ∃ front line, out = front ++ line ++ ['\n'] ∧ EndsLine front ∧ '\n' ∉ line ∧
    isBlankLine line = false
  /-- Where two blank lines follow one another, the first starts inside a comment or a template. -/
  single : ∀ front rest first second more, out = front ++ rest → EndsLine front →
    Text.lines rest = first :: second :: more → isBlankLine first = true →
    isBlankLine second = true → Stands .comment out rest ∨ Stands .literal out rest

theorem isBlankLine_dropTerminator (line : List Char) :
    isBlankLine (dropTerminator (line ++ ['\n'])) = isBlankLine line :=
  isBlankLine_congr (Text.trim_dropTerminator line)

namespace LaidOut

theorem not_mem_feed (isIndent : IsIndent unit)
    (laid : LaidOut unit full scan (Text.lines text) result) : ∀ line ∈ result, '\n' ∉ line :=
  laid.not_mem isIndent (by decide) fun _ => Text.not_mem_of_mem_lines

theorem darkLines_terminated (isIndent : IsIndent unit)
    (laid : LaidOut unit false .start (Text.lines text) result) :
    darkLines true (Text.lines (terminated result)) = darkLines true (Text.lines text) := by
  rw [Text.lines_terminated_eq_map (laid.not_mem_feed isIndent),
    darkLines_map Text.trim_dropTerminator]
  exact laid.darkLines_eq isIndent fun _ => rfl

theorem keepsLiteralLines (isIndent : IsIndent unit)
    (laid : LaidOut unit false .start (Text.lines text) result) :
    KeepsLiteralLines text (terminated result) := by
  have noFeed := laid.not_mem_feed isIndent
  obtain ⟨place, carries⟩ :=
    laid.exists_carries isIndent rfl (fun _ => Text.not_mem_of_mem_lines) noFeed
  refine ⟨place, ?_⟩
  rintro front rest line rfl ends ⟨opened, reaches⟩ leads
  obtain ⟨more, tail⟩ := List.head?_eq_some_iff.mp leads
  have walked := reaches.after?_eq (.inr (.inr rfl)) ends
  rw [← after?_terminated_lines ends] at walked
  obtain ⟨rises, before, behind, rfl, number, walked⟩ :=
    carries (Text.lines front) line more _ (by rw [ends.lines_append, tail]) walked rfl
  rw [ends.length_lines] at rises number
  have split : terminated (before ++ line :: behind) =
      terminated before ++ (line ++ '\n' :: terminated behind) := by
    rw [Text.terminated_append, Text.terminated_cons]
  refine ⟨rises, terminated before, terminated behind, ?_, Text.endsLine_terminated before, ?_, ?_⟩
  · rw [split, List.append_assoc]
  · rw [Text.count_terminated (List.forall_mem_append.mp noFeed).1, number]
  · rw [split]
    exact stands_literal_of_after? (Text.endsLine_terminated before) walked rfl _

theorem terminated_eq_nil_iff (isIndent : IsIndent unit)
    (laid : LaidOut unit false .start lines result) :
    terminated result = [] ↔ ∀ line ∈ lines, isBlankLine line = true := by
  rw [← darkLines_eq_nil_iff true, ← laid.darkLines_eq isIndent fun _ => rfl, darkLines_eq_nil_iff]
  cases result with
  | nil => simp
  | cons first rest =>
      have dark := laid.head_not_blank isIndent rfl rfl
      simp [dark]

theorem exists_first (isIndent : IsIndent unit)
    (laid : LaidOut unit false .start (Text.lines text) result) (some : terminated result ≠ []) :
    ∃ line rest, Text.lines (terminated result) = line :: rest ∧ isBlankLine line = false := by
  have cut := Text.lines_terminated_eq_map (laid.not_mem_feed isIndent)
  cases result with
  | nil => contradiction
  | cons first rest =>
      refine ⟨_, _, cut, ?_⟩
      rw [isBlankLine_dropTerminator]
      exact laid.head_not_blank isIndent rfl rfl

theorem exists_last (isIndent : IsIndent unit)
    (laid : LaidOut unit false .start (Text.lines text) result) (some : terminated result ≠ []) :
    ∃ front line, terminated result = front ++ line ++ ['\n'] ∧ EndsLine front ∧ '\n' ∉ line ∧
      isBlankLine line = false := by
  have noFeed := laid.not_mem_feed isIndent
  rcases List.eq_nil_or_concat result with rfl | ⟨front, last, whole⟩
  · contradiction
  · rw [List.concat_eq_append] at whole
    subst whole
    obtain ⟨frontNoFeed, lastNoFeed⟩ := List.forall_mem_append.mp noFeed
    obtain ⟨full, scan, rest, -, starts, laidLast⟩ := laid.split isIndent rfl frontNoFeed
    refine ⟨terminated front, last, ?_, Text.endsLine_terminated front,
      lastNoFeed last (List.mem_singleton_self last), laidLast.last_not_blank isIndent starts⟩
    rw [Text.terminated_append, Text.terminated_cons, Text.terminated_nil, List.append_assoc]

theorem stands_of_blank_blank (isIndent : IsIndent unit)
    (laid : LaidOut unit false .start (Text.lines text) result) {rest first second : List Char}
    {more : List (List Char)} (whole : terminated result = front ++ rest) (ends : EndsLine front)
    (leads : Text.lines rest = first :: second :: more) (blank : isBlankLine first = true)
    (again : isBlankLine second = true) :
    Stands .comment (terminated result) rest ∨ Stands .literal (terminated result) rest := by
  have noFeed := laid.not_mem_feed isIndent
  obtain ⟨fronts, backs, rfl, rfl, rfl⟩ := ends.exists_append_terminated noFeed whole
  obtain ⟨frontsNoFeed, backsNoFeed⟩ := List.forall_mem_append.mp noFeed
  rw [Text.lines_terminated_eq_map backsNoFeed] at leads
  obtain ⟨one, others, rfl, rfl, next⟩ := List.map_eq_cons_iff.mp leads
  obtain ⟨two, backs, rfl, rfl, -⟩ := List.map_eq_cons_iff.mp next
  rw [isBlankLine_dropTerminator] at blank again
  obtain ⟨full, scan, lines, walked, -, laidRest⟩ := laid.split isIndent rfl frontsNoFeed
  obtain ⟨part, opened, spans, reaches, rfl⟩ :=
    exists_reaches ends walked (terminated (one :: two :: backs))
  rw [whole]
  rcases spans with rfl | rfl | rfl
  · rw [laidRest.not_blank_of_blank isIndent rfl blank] at again
    contradiction
  · exact .inl ⟨opened, reaches⟩
  · exact .inr ⟨opened, reaches⟩

end LaidOut

theorem layout_tidies (settings : Settings) (text out : List Char)
    (ok : layout settings.indentUnit text = .ok out) : Tidied text out := by
  have isIndent := isIndent_indentUnit settings
  obtain ⟨result, laid, rfl⟩ := (layout_eq_ok_iff isIndent).mp ok
  have sameGaps := laid.darkLines_terminated isIndent
  refine ⟨?_, sameGaps, laid.keepsLiteralLines isIndent, laid.terminated_eq_nil_iff isIndent,
    laid.exists_first isIndent, laid.exists_last isIndent, ?_⟩
  · rw [← map_snd_darkLines true, sameGaps, map_snd_darkLines]
  · intro front rest first second more whole ends leads blank again
    exact laid.stands_of_blank_blank isIndent whole ends leads blank again

/-- Blank lines in front, in a template, between lines of code, in a comment and at the end. -/
private def spreadScript : List Char :=
  "\n\n f(\x60\n\n\n   a$\x7b\n1\n\x7d\x60,\n2)\n\n\n/*\n\n\n*/\n x\n\n".toList

theorem layout_tidies_spreadScript :
    let out := "f(\x60\n\n\n   a$\x7b\n  1\n\x7d\x60,\n  2)\n\n/*\n\n\n */\nx\n".toList
    layout ({} : Settings).indentUnit spreadScript = .ok out ∧
      Stands .literal spreadScript (spreadScript.drop 7) ∧ Tidied spreadScript out := by
  intro out
  have ok : layout ({} : Settings).indentUnit spreadScript = .ok out := by decide +kernel
  have inside : Stands .literal (spreadScript.take 7 ++ spreadScript.drop 7) (spreadScript.drop 7) :=
    stands_literal_of_after? (.inr (by decide +kernel)) rfl rfl _
  rw [List.take_append_drop] at inside
  exact ⟨ok, inside, layout_tidies {} spreadScript out ok⟩

end InlineScript.Format
