import Mathlib.Data.List.DropRight
import InlineScript.Proofs.Text.Lines
import InlineScript.Text.Blank

/-!
What is left of a text when the amount of blanks between its words does not count. Layouts change
blanks only at the ends of lines, so they leave it alone.
-/

namespace InlineScript.Text

variable {text blanks : List Char}

/-! ## Trimming -/

theorem exists_trimStart (text : List Char) :
    ∃ blanks, (∀ c ∈ blanks, isBlank c = true) ∧ text = blanks ++ trimStart text := by
  refine ⟨text.takeWhile isBlank, ?_, List.takeWhile_append_dropWhile.symm⟩
  intro c member
  exact List.mem_takeWhile_imp member

theorem exists_trimEnd (text : List Char) :
    ∃ blanks, (∀ c ∈ blanks, isBlank c = true) ∧ text = trimEnd text ++ blanks := by
  refine ⟨text.rtakeWhile isBlank, ?_, List.rdropWhile_append_rtakeWhile.symm⟩
  intro c member
  exact List.mem_rtakeWhile_imp member

theorem trimStart_append (allBlank : ∀ c ∈ blanks, isBlank c = true) (text : List Char) :
    trimStart (blanks ++ text) = trimStart text := by
  rw [trimStart, List.dropWhile_append_of_pos allBlank, trimStart]

theorem trim_append (allBlank : ∀ c ∈ blanks, isBlank c = true) (text : List Char) :
    trim (blanks ++ text) = trim text := by
  rw [trim, trimStart_append allBlank, trim]

theorem trim_append_blanks (text : List Char) (allBlank : ∀ c ∈ blanks, isBlank c = true) :
    trim (text ++ blanks) = trim text := by
  have dropped : trimStart blanks = [] := List.dropWhile_eq_nil_iff.mpr allBlank
  unfold trim
  rw [trimStart, List.dropWhile_append, ← trimStart, ← trimStart]
  split
  next empty => rw [dropped, List.isEmpty_iff.mp empty]
  next =>
    have reversed : ∀ c ∈ blanks.reverse, isBlank c = true :=
      fun c member => allBlank c (List.mem_reverse.mp member)
    rw [trimEnd, List.reverse_append, List.dropWhile_append_of_pos reversed, trimEnd]

theorem trim_dropTerminator (line : List Char) : trim (dropTerminator (line ++ ['\n'])) = trim line := by
  rcases dropTerminator_feed_cases line with same | returned
  · rw [← same]
  · conv_rhs => rw [returned, trim_append_blanks _ (List.forall_mem_singleton.mpr rfl)]

theorem trimStart_trim (text : List Char) : trimStart (trim text) = trim text := by
  cases kept : trim text with
  | nil => rfl
  | cons c rest =>
      obtain ⟨blanks, -, split⟩ := exists_trimEnd (trimStart text)
      rw [← trim, kept] at split
      have first : isBlank c = false := by
        have stops := List.head?_dropWhile_not isBlank text
        rw [← trimStart, split] at stops
        simpa using stops
      simp [trimStart, first]

theorem trim_trim (text : List Char) : trim (trim text) = trim text := by
  rw [trim, trimStart_trim]
  exact List.rdropWhile_idempotent isBlank (trimStart text)

theorem isBlank_of_getLast?_trim {c : Char} (last : (trim text).getLast? = some c) :
    isBlank c = false := by
  have some : trim text ≠ [] := by
    intro empty
    simp [empty] at last
  have dark := List.rdropWhile_last_not isBlank (trimStart text) some
  rw [List.getLast?_eq_some_getLast some, Option.some.injEq] at last
  rw [← last]
  exact Bool.not_eq_true _ ▸ dark

theorem trimEnd_eq_self_iff (text : List Char) :
    trimEnd text = text ↔ ∀ c ∈ text.getLast?, isBlank c = false := by
  have same : trimEnd text = text.rdropWhile isBlank := rfl
  rw [same, List.rdropWhile_eq_self_iff]
  constructor
  · intro dark c last
    have some : text ≠ [] := by
      rintro rfl
      contradiction
    rw [List.getLast?_eq_some_getLast some, Option.mem_some_iff] at last
    rw [← last]
    exact Bool.not_eq_true _ ▸ dark some
  · intro dark some
    rw [dark _ (List.getLast?_eq_some_getLast some)]
    exact Bool.false_ne_true

theorem exists_trim (text : List Char) :
    ∃ lead trail, (∀ c ∈ lead, isBlank c = true) ∧ (∀ c ∈ trail, isBlank c = true) ∧
      text = lead ++ (trim text ++ trail) := by
  obtain ⟨lead, leadBlank, front⟩ := exists_trimStart text
  obtain ⟨trail, trailBlank, back⟩ := exists_trimEnd (trimStart text)
  exact ⟨lead, trail, leadBlank, trailBlank, by rw [trim, ← back, ← front]⟩

/-- A line ends in the blanks that are taken from its end. -/
theorem trimEnd_eq_self_iff_of_split {lead trail : List Char} (dark : trim text ≠ [])
    (allBlank : ∀ c ∈ trail, isBlank c = true) (split : text = lead ++ (trim text ++ trail)) :
    trimEnd text = text ↔ trail = [] := by
  rw [trimEnd_eq_self_iff]
  cases trail with
  | nil =>
      rw [List.append_nil] at split
      refine iff_of_true ?_ rfl
      intro c last
      rw [split, List.getLast?_append_of_ne_nil _ dark] at last
      exact isBlank_of_getLast?_trim last
  | cons d trail =>
      refine iff_of_false ?_ (List.cons_ne_nil d trail)
      intro kept
      have last : text.getLast? = (d :: trail).getLast? := by
        rw [split, ← List.append_assoc, List.getLast?_append_of_ne_nil _ (List.cons_ne_nil d trail)]
      have final := List.getLast?_eq_some_getLast (List.cons_ne_nil d trail)
      have bright := kept _ (last.trans final)
      rw [allBlank _ (List.getLast_mem _)] at bright
      contradiction

theorem trim_eq_nil_iff (text : List Char) : trim text = [] ↔ isBlankLine text = true := by
  constructor
  · intro empty
    obtain ⟨blanks, allBlank, split⟩ := exists_trimStart text
    obtain ⟨more, moreBlank, rest⟩ := exists_trimEnd (trimStart text)
    rw [← trim, empty, List.nil_append] at rest
    rw [split, rest, isBlankLine, List.all_append, List.all_eq_true.mpr allBlank,
      List.all_eq_true.mpr moreBlank]
    rfl
  · intro blank
    have empty : trimStart text = [] :=
      List.dropWhile_eq_nil_iff.mpr (List.all_eq_true.mp blank)
    rw [trim, empty]
    rfl

theorem mem_of_mem_trim {c : Char} (member : c ∈ trim text) : c ∈ text := by
  obtain ⟨blanks, -, front⟩ := exists_trimStart text
  obtain ⟨more, -, rest⟩ := exists_trimEnd (trimStart text)
  rw [front, rest, ← trim]
  simp [member]

/-! ## Words -/

/-- Whether a word in front of the text would end there. -/
def startsBlank (text : List Char) : Bool :=
  text.head?.all isBlank

/-- The characters of the words, each with whether its word ends behind it. -/
def ink : List Char → List (Char × Bool)
  | [] => []
  | c :: rest => if isBlank c then ink rest else (c, startsBlank rest) :: ink rest

theorem ink_cons_of_blank {c : Char} (blank : isBlank c = true) (rest : List Char) :
    ink (c :: rest) = ink rest := by
  rw [ink, if_pos blank]

theorem ink_append {second : List Char} (first : List Char) (ends : startsBlank second = true) :
    ink (first ++ second) = ink first ++ ink second := by
  induction first with
  | nil => rfl
  | cons c first ih =>
      have same : startsBlank (first ++ second) = startsBlank first := by
        cases first with
        | nil => exact ends
        | cons next more => rfl
      simp only [List.cons_append, ink, same, ih]
      split <;> rfl

theorem ink_eq_nil (allBlank : ∀ c ∈ blanks, isBlank c = true) : ink blanks = [] := by
  induction blanks with
  | nil => rfl
  | cons c blanks ih =>
      rw [ink_cons_of_blank (allBlank c List.mem_cons_self)]
      exact ih fun other member => allBlank other (List.mem_cons_of_mem _ member)

theorem ink_blanks_append (allBlank : ∀ c ∈ blanks, isBlank c = true) (text : List Char) :
    ink (blanks ++ text) = ink text := by
  induction blanks with
  | nil => rfl
  | cons c blanks ih =>
      rw [List.cons_append, ink_cons_of_blank (allBlank c List.mem_cons_self)]
      exact ih fun other member => allBlank other (List.mem_cons_of_mem _ member)

theorem ink_append_blanks (allBlank : ∀ c ∈ blanks, isBlank c = true) (text : List Char) :
    ink (text ++ blanks) = ink text := by
  have ends : startsBlank blanks = true := by
    cases blanks with
    | nil => rfl
    | cons c rest => exact allBlank c List.mem_cons_self
  rw [ink_append text ends, ink_eq_nil allBlank, List.append_nil]

theorem ink_trim (text : List Char) : ink (trim text) = ink text := by
  obtain ⟨blanks, allBlank, front⟩ := exists_trimStart text
  obtain ⟨more, moreBlank, rest⟩ := exists_trimEnd (trimStart text)
  conv_rhs => rw [front, ink_blanks_append allBlank, rest, ink_append_blanks moreBlank]
  rfl

/-- Line feeds end words and are no part of any. -/
theorem ink_terminated (lines : List (List Char)) (last : List Char) :
    ink (terminated lines ++ last) = lines.flatMap ink ++ ink last := by
  induction lines with
  | nil => rfl
  | cons line lines ih =>
      have tail : ink ('\n' :: (terminated lines ++ last)) = ink (terminated lines ++ last) :=
        ink_cons_of_blank (by decide) _
      rw [terminated_cons, List.append_assoc, List.cons_append, ink_append line (by rfl), tail, ih,
        List.flatMap_cons, List.append_assoc]

/-- The words of a text without carriage returns are those of its lines. -/
theorem ink_eq_flatMap_lines (noReturn : '\r' ∉ text) :
    ink text = (Text.lines text).flatMap ink := by
  obtain ⟨lines, last, rfl, -, -, cut⟩ := exists_lines noReturn
  rw [ink_terminated, cut, List.flatMap_append]
  by_cases empty : last = [] <;> simp [empty, ink]

theorem head?_ink (text : List Char) :
    (ink text).head?.map Prod.fst = (trimStart text).head? := by
  induction text with
  | nil => rfl
  | cons c rest ih =>
      by_cases blank : isBlank c = true
      · rw [ink_cons_of_blank blank, ih, trimStart, trimStart, List.dropWhile_cons_of_pos blank]
      · simp [ink, trimStart, blank]

theorem exists_of_ink_cons {c : Char} {ends : Bool} {more : List (Char × Bool)}
    (first : ink text = (c, ends) :: more) :
    ∃ blanks rest, text = blanks ++ c :: rest ∧ isBlank c = false ∧ startsBlank rest = ends ∧
      ink rest = more := by
  induction text with
  | nil => simp [ink] at first
  | cons d rest ih =>
      by_cases blank : isBlank d = true
      · rw [ink_cons_of_blank blank] at first
        obtain ⟨blanks, behind, rfl, found⟩ := ih first
        exact ⟨d :: blanks, behind, rfl, found⟩
      · rw [ink, if_neg blank] at first
        simp only [List.cons.injEq, Prod.mk.injEq] at first
        obtain ⟨⟨rfl, same⟩, tail⟩ := first
        exact ⟨[], rest, rfl, by simpa using blank, same, tail⟩

end InlineScript.Text
