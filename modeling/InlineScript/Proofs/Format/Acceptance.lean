import InlineScript.Format.Settings
import InlineScript.Proofs.Format.Reading

/-!
Which scripts can be laid out, and what is said of the others. A layout reads the lines one by one and
without the blanks around them; that makes no difference to where the reader stands, so the answer is
the one that the grammar gives for the text as a whole.
-/

namespace InlineScript.Format

open Text (terminated)

variable {c : Char} {unit text front rest : List Char} {scan : Scan}

/-! ## The verdict on a text -/

/-- Whether lines can be laid out, and what is wrong if not. -/
def verdict (unit : List Char) (number : Nat) (scan : Scan) (lines : List (List Char)) :
    Except Fault Unit :=
  (rows unit number scan lines).map fun _ => ()

theorem verdict_nil (unit : List Char) (number : Nat) (scan : Scan) :
    verdict unit number scan [] = atEnd scan := by
  rw [verdict, rows]
  cases atEnd scan <;> rfl

theorem verdict_cons (starts : scan.endLine = scan) (number : Nat) (line : List Char)
    (rest : List (List Char)) :
    verdict unit number scan (line :: rest) =
      match scan.runLine line with
      | .error found => .error (.unbalanced number found)
      | .ok next => verdict unit (number + 1) next rest := by
  have read : scan.runLine (rowOf unit scan line).2 = scan.runLine line := by
    rw [snd_rowOf]
    split
    · rfl
    · exact Scan.runLine_trim starts line
  rw [← read, verdict, rows, Scan.runLine]
  cases scan.run (rowOf unit scan line).2 with
  | error found => rfl
  | ok last =>
      simp only [Except.map, verdict]
      cases rows unit (number + 1) last.endLine rest <;> rfl

theorem verdict_of_after? {last : Scan} (starts : scan.endLine = scan)
    (walked : scan.after? text = some last) (number : Nat) :
    verdict unit number scan (Text.lines text) = atEnd last.endLine := by
  obtain ⟨lines, line, rfl, noFeed, lastNoFeed⟩ := Text.exists_terminated text
  induction lines generalizing scan number with
  | nil =>
      simp only [Text.terminated_nil, List.nil_append] at walked ⊢
      rw [Text.lines_of_not_mem lastNoFeed]
      split
      next empty =>
        subst empty
        cases walked
        rw [verdict_nil, starts]
      next some =>
        rw [scan.after?_of_not_mem lastNoFeed] at walked
        cases run : scan.run line with
        | error found => simp [run, Except.toOption] at walked
        | ok stop =>
            simp only [run, Except.toOption, Option.some.injEq] at walked
            subst walked
            rw [verdict_cons starts, Scan.runLine, run]
            exact verdict_nil unit (number + 1) stop.endLine
  | cons first lines ih =>
      obtain ⟨firstNoFeed, later⟩ := List.forall_mem_cons.mp noFeed
      rw [Text.terminated_cons, List.append_assoc, List.cons_append] at walked ⊢
      rw [scan.after?_feed firstNoFeed] at walked
      rw [Text.lines_feed firstNoFeed, verdict_cons starts, Scan.runLine_dropTerminator]
      cases read : scan.runLine first with
      | error found => simp [read, Except.toOption] at walked
      | ok next =>
          simp only [read, Except.toOption, Option.bind_some] at walked
          exact ih (Scan.endLine_of_runLine read) (number + 1) walked later

/-- The line of a text on which the reader stops is the one that the verdict names. -/
theorem verdict_of_misplaced {stop : Scan} (starts : scan.endLine = scan)
    (walked : scan.after? front = some stop) (misplaced : stop.next? c = none)
    (rest : List Char) (number : Nat) :
    verdict unit number scan (Text.lines (front ++ c :: rest)) =
      .error (.unbalanced (number + front.count '\n') c) := by
  have ordinary : c ≠ '\n' := by
    rintro rfl
    simp [Scan.next?_feed] at misplaced
  obtain ⟨lines, line, rfl, noFeed, lastNoFeed⟩ := Text.exists_terminated front
  induction lines generalizing scan number with
  | nil =>
      simp only [Text.terminated_nil, List.nil_append] at walked ⊢
      rw [List.count_eq_zero_of_not_mem lastNoFeed, Nat.add_zero]
      -- the rest of the line, which the reader does not see
      obtain ⟨restLines, restLast, rfl, restNoFeed, restLastNoFeed⟩ := Text.exists_terminated rest
      have stopped (more : List Char) : scan.runLine (line ++ c :: more) = .error c := by
        rw [scan.after?_of_not_mem lastNoFeed] at walked
        cases run : scan.run line with
        | error found => simp [run, Except.toOption] at walked
        | ok last =>
            simp only [run, Except.toOption, Option.some.injEq] at walked
            subst walked
            rw [Scan.next?_of_ne _ ordinary] at misplaced
            rw [Scan.runLine, Scan.run_append, run]
            simp [Except.bind, Scan.run, misplaced, Except.map]
      cases restLines with
      | nil =>
          have whole : '\n' ∉ line ++ c :: restLast := by
            simp [lastNoFeed, restLastNoFeed, Ne.symm ordinary]
          rw [Text.terminated_nil, List.nil_append, Text.lines_of_not_mem whole,
            if_neg (by simp), verdict_cons starts, stopped]
      | cons next restLines =>
          have first : '\n' ∉ line ++ c :: next := by
            have nextNoFeed := restNoFeed next List.mem_cons_self
            simp [lastNoFeed, nextNoFeed, Ne.symm ordinary]
          have split : line ++ c :: (terminated (next :: restLines) ++ restLast) =
              line ++ c :: next ++ '\n' :: (terminated restLines ++ restLast) := by simp
          rw [split, Text.lines_feed first, verdict_cons starts, Scan.runLine_dropTerminator, stopped]
  | cons first lines ih =>
      obtain ⟨firstNoFeed, later⟩ := List.forall_mem_cons.mp noFeed
      have split : terminated (first :: lines) ++ line ++ c :: rest =
          first ++ '\n' :: (terminated lines ++ line ++ c :: rest) := by simp
      have count : (terminated (first :: lines) ++ line).count '\n' =
          (terminated lines ++ line).count '\n' + 1 := by
        simp only [Text.terminated_cons, List.append_assoc, List.cons_append, List.count_append,
          List.count_cons_self, List.count_eq_zero_of_not_mem firstNoFeed]
        omega
      rw [Text.terminated_cons, List.append_assoc, List.cons_append,
        scan.after?_feed firstNoFeed] at walked
      rw [split, count, Text.lines_feed firstNoFeed, verdict_cons starts,
        Scan.runLine_dropTerminator]
      cases read : scan.runLine first with
      | error found => simp [read, Except.toOption] at walked
      | ok next =>
          simp only [read, Except.toOption, Option.bind_some] at walked
          have tail := ih (Scan.endLine_of_runLine read) (number + 1) walked later
          rw [Nat.add_right_comm] at tail
          exact tail

/-! ## The grammar's verdict -/

/-- What is to be said of a text, by the grammar. -/
inductive Judged (text : List Char) : Except Fault Unit → Prop
  | accepted : Derives .code text [] → Judged text (.ok ())
  | misplaced {c : Char} {front rest : List Char} {opened : List Opener} :
      text = front ++ c :: rest → Reaches .code [] text .code opened (c :: rest) →
      Scan.isCloser c = true → (∀ opener ∈ opened.head?, opener.closer ≠ c) →
      Judged text (.error (.unbalanced (front.count '\n' + 1) c))
  | unterminated {part : Part} {opened : List Opener} :
      part = .comment ∨ part = .literal → Reaches .code [] text part opened [] →
      Judged text (.error .unterminated)
  | unclosed {opener : Opener} {opened : List Opener} :
      Reaches .code [] text .code (opener :: opened) [] → Judged text (.error (.unclosed opener))

theorem judged_of_halts {last : Part} {opened : List Opener}
    (reaches : Reaches .code [] text last opened rest) (halts : Halts [] last opened rest) :
    ∃ answer, Judged text answer := by
  cases halts with
  | misplaced closer unfit =>
      obtain ⟨front, split⟩ := reaches.isSuffix
      exact ⟨_, .misplaced split.symm reaches closer unfit⟩
  | unclosed => exact ⟨_, .unclosed reaches⟩
  | inComment => exact ⟨_, .unterminated (.inl rfl) reaches⟩
  | inLiteral => exact ⟨_, .unterminated (.inr rfl) reaches⟩

theorem exists_judged (text : List Char) : ∃ answer, Judged text answer := by
  have read := (readsCode_and_readsLiteral (.inl rfl : IsStop text []) []).1
  rw [ReadsCode, List.append_nil] at read
  rcases read with ⟨left, -, derives, ends⟩ | stuck
  · cases left with
    | nil => exact ⟨_, .accepted derives⟩
    | cons c left =>
        exact judged_of_halts (.here derives) (.misplaced (ends c rfl) (by simp))
  · obtain ⟨last, opened, rest, reaches, halts⟩ := stuck
    exact judged_of_halts reaches halts

/-- The reader, at the end of a text that is read up to there. -/
theorem verdict_of_reaches {last : Part} {opened : List Opener}
    (reaches : Reaches .code [] text last opened []) (unit : List Char) :
    verdict unit 1 .start (Text.lines text) = atEnd (last.reader opened).endLine := by
  have leads := reaches.leads_start
  rw [← List.append_nil text] at leads
  obtain ⟨stop, walked, alike⟩ := leads.exists_after?
  rw [verdict_of_after? rfl walked, alike.ended]

theorem Judged.verdict_eq {answer : Except Fault Unit} (judged : Judged text answer)
    (unit : List Char) : verdict unit 1 .start (Text.lines text) = answer := by
  cases judged with
  | accepted derives => exact verdict_of_reaches (.here derives) unit
  | misplaced split reaches closer unfit =>
      subst split
      obtain ⟨stop, walked, alike⟩ := reaches.leads_start.exists_after?
      have stops := next?_misplaced closer unfit
      rw [← alike.next _ rfl] at stops
      rw [verdict_of_misplaced rfl walked stops, Nat.add_comm]
  | unterminated inside reaches =>
      rw [verdict_of_reaches reaches unit]
      rcases inside with rfl | rfl <;> rfl
  | unclosed reaches => exact verdict_of_reaches reaches unit

theorem verdict_eq_iff (unit text : List Char) (answer : Except Fault Unit) :
    verdict unit 1 .start (Text.lines text) = answer ↔ Judged text answer := by
  constructor
  · intro same
    obtain ⟨other, judged⟩ := exists_judged text
    rwa [← same, judged.verdict_eq unit]
  · intro judged
    exact judged.verdict_eq unit

theorem map_layout (unit text : List Char) :
    (layout unit text).map (fun _ => ()) = verdict unit 1 .start (Text.lines text) := by
  rw [layout, verdict]
  cases rows unit 1 .start (Text.lines text) <;> rfl

theorem layout_eq_error_iff (unit text : List Char) (fault : Fault) :
    layout unit text = .error fault ↔ Judged text (.error fault) := by
  rw [← verdict_eq_iff unit, ← map_layout]
  cases layout unit text <;> simp [Except.map]

theorem exists_layout_iff (unit text : List Char) :
    (∃ out, layout unit text = .ok out) ↔ Judged text (.ok ()) := by
  rw [← verdict_eq_iff unit, ← map_layout]
  cases layout unit text <;> simp [Except.map]

/-- A script is laid out exactly if the grammar derives it as code. If it is not, the fault is the
first closing bracket that does not fit what was opened last, with its line; or if there is none, that
the text ends in a block comment or in the literal part of a template; or else what was opened last. -/
theorem layout_decides_grammar (settings : Settings) (text : List Char) :
    ((∃ out, layout settings.indentUnit text = .ok out) ↔ Derives .code text []) ∧
    (∀ number c, layout settings.indentUnit text = .error (.unbalanced number c) ↔
      ∃ front rest opened, text = front ++ c :: rest ∧ number = front.count '\n' + 1 ∧
        Reaches .code [] text .code opened (c :: rest) ∧ Scan.isCloser c = true ∧
        ∀ opener ∈ opened.head?, opener.closer ≠ c) ∧
    (layout settings.indentUnit text = .error .unterminated ↔
      ∃ part opened, (part = .comment ∨ part = .literal) ∧ Reaches .code [] text part opened []) ∧
    ∀ opener, layout settings.indentUnit text = .error (.unclosed opener) ↔
      ∃ opened, Reaches .code [] text .code (opener :: opened) [] := by
  refine ⟨?_, ?_, ?_, ?_⟩
  · rw [exists_layout_iff]
    exact ⟨fun | .accepted derives => derives, .accepted⟩
  · intro number c
    rw [layout_eq_error_iff]
    constructor
    · rintro (_ | ⟨split, reaches, closer, unfit⟩)
      exact ⟨_, _, _, split, rfl, reaches, closer, unfit⟩
    · rintro ⟨front, rest, opened, split, rfl, reaches, closer, unfit⟩
      exact .misplaced split reaches closer unfit
  · rw [layout_eq_error_iff]
    constructor
    · rintro (_ | _ | ⟨inside, reaches⟩)
      exact ⟨_, _, inside, reaches⟩
    · rintro ⟨part, opened, inside, reaches⟩
      exact .unterminated inside reaches
  · intro opener
    rw [layout_eq_error_iff]
    constructor
    · rintro (_ | _ | _ | reaches)
      exact ⟨_, reaches⟩
    · rintro ⟨opened, reaches⟩
      exact .unclosed reaches

end InlineScript.Format
