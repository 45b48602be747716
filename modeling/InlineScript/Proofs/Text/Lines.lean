import InlineScript.Text.Lines

/-!
Texts and their lines. A text is a number of lines, each with its line feed, and a rest without one;
cutting it gives these lines back.
-/

namespace InlineScript.Text

variable {line rest : List Char} {lines : List (List Char)}

/-- Lines as they stand in a text, each with a line feed. -/
def terminated (lines : List (List Char)) : List Char :=
  lines.flatMap (· ++ ['\n'])

@[simp] theorem terminated_nil : terminated [] = [] := rfl

@[simp] theorem terminated_cons (line : List Char) (lines : List (List Char)) :
    terminated (line :: lines) = line ++ '\n' :: terminated lines := by
  simp [terminated]

theorem terminated_append (lines others : List (List Char)) :
    terminated (lines ++ others) = terminated lines ++ terminated others :=
  List.flatMap_append

/-! ## Pieces -/

/-- Characters in front of a text that hold no line feed belong to its first piece. -/
theorem cutLines_append (noFeed : '\n' ∉ line) (rest : List Char) :
    ∃ piece pieces, cutLines rest = piece :: pieces ∧
      cutLines (line ++ rest) = (line ++ piece) :: pieces := by
  induction line with
  | nil =>
      cases cut : cutLines rest with
      | nil => exact absurd cut (cutLines_ne_nil rest)
      | cons piece pieces => exact ⟨piece, pieces, rfl, by simpa using cut⟩
  | cons c line ih =>
      obtain ⟨piece, pieces, first, cut⟩ := ih (List.not_mem_of_not_mem_cons noFeed)
      have ordinary : c ≠ '\n' := (List.ne_of_not_mem_cons noFeed).symm
      refine ⟨piece, pieces, first, ?_⟩
      simp only [List.cons_append, cutLines, if_neg ordinary, cut]

theorem cutLines_of_not_mem (noFeed : '\n' ∉ line) : cutLines line = [line] := by
  obtain ⟨piece, pieces, first, cut⟩ := cutLines_append noFeed []
  cases first
  simpa using cut

theorem cutLines_feed (noFeed : '\n' ∉ line) (rest : List Char) :
    cutLines (line ++ '\n' :: rest) = (line ++ ['\n']) :: cutLines rest := by
  obtain ⟨piece, pieces, first, cut⟩ := cutLines_append noFeed ('\n' :: rest)
  simp only [cutLines, if_true] at first
  cases first
  exact cut

theorem cutLines_terminated (noFeed : ∀ line ∈ lines, '\n' ∉ line) (last : List Char) :
    cutLines (terminated lines ++ last) = lines.map (· ++ ['\n']) ++ cutLines last := by
  induction lines with
  | nil => rfl
  | cons line lines ih =>
      have tail := ih fun other member => noFeed other (List.mem_cons_of_mem _ member)
      simp only [terminated_cons, List.append_assoc, List.cons_append, List.map_cons]
      rw [cutLines_feed (noFeed line List.mem_cons_self), tail]

/-- Every text is made of lines and a rest. -/
theorem exists_terminated (text : List Char) :
    ∃ lines last, text = terminated lines ++ last ∧ (∀ line ∈ lines, '\n' ∉ line) ∧ '\n' ∉ last := by
  induction text with
  | nil => exact ⟨[], [], rfl, by simp, by simp⟩
  | cons c rest ih =>
      obtain ⟨lines, last, split, noFeed, lastNoFeed⟩ := ih
      by_cases feed : c = '\n'
      · exact ⟨[] :: lines, last, by simp [split, feed], by simpa using noFeed, lastNoFeed⟩
      · cases lines with
        | nil => exact ⟨[], c :: last, by simp [split], by simp, by simp [lastNoFeed, Ne.symm feed]⟩
        | cons line lines =>
            refine ⟨(c :: line) :: lines, last, by simp [split], ?_, lastNoFeed⟩
            simp only [List.mem_cons, forall_eq_or_imp] at noFeed ⊢
            exact ⟨by simp [noFeed.1, Ne.symm feed], noFeed.2⟩

/-! ## Lines -/

theorem map_map_feed {drop : List Char → List Char}
    (drops : ∀ line ∈ lines, drop (line ++ ['\n']) = line) :
    (lines.map (· ++ ['\n'])).map drop = lines := by
  have same : lines.map (drop ∘ (· ++ ['\n'])) = lines.map id := List.map_congr_left drops
  rw [List.map_map, same, List.map_id]

theorem dropTerminator_feed_of_getLast? (kept : line.getLast? ≠ some '\r') :
    dropTerminator (line ++ ['\n']) = line := by
  simp [dropTerminator, kept]

theorem dropTerminator_feed (noReturn : '\r' ∉ line) : dropTerminator (line ++ ['\n']) = line :=
  dropTerminator_feed_of_getLast? fun last => noReturn (List.mem_of_getLast? last)

theorem dropTerminator_of_not_mem (noFeed : '\n' ∉ line) : dropTerminator line = line := by
  have unended : line.getLast? ≠ some '\n' := fun last => noFeed (List.mem_of_getLast? last)
  simp [dropTerminator, unended]

theorem lines_terminated {last : List Char} (noFeed : ∀ line ∈ lines, '\n' ∉ line)
    (noReturn : ∀ line ∈ lines, '\r' ∉ line) (lastNoFeed : '\n' ∉ last) :
    Text.lines (terminated lines ++ last) = lines ++ if last = [] then [] else [last] := by
  have dropped : (lines.map (· ++ ['\n'])).map dropTerminator = lines :=
    map_map_feed fun line member => dropTerminator_feed (noReturn line member)
  unfold Text.lines
  rw [cutLines_terminated noFeed, cutLines_of_not_mem lastNoFeed]
  by_cases empty : last = []
  · simp only [empty, List.getLast?_concat, if_true, List.dropLast_concat, dropped, List.append_nil]
  · have unended : (lines.map (· ++ ['\n']) ++ [last]).getLast? ≠ some [] := by
      simpa using empty
    simp only [if_neg unended, List.map_append, dropped, List.map_cons, List.map_nil, empty,
      if_false, dropTerminator_of_not_mem lastNoFeed]

/-- Lines that hold neither line feeds nor carriage returns. -/
def Unbroken (lines : List (List Char)) : Prop :=
  ∀ line ∈ lines, '\n' ∉ line ∧ '\r' ∉ line

theorem Unbroken.lines_eq (unbroken : Unbroken lines) : Text.lines (terminated lines) = lines := by
  have cut := lines_terminated (fun line listed => (unbroken line listed).1)
    (fun line listed => (unbroken line listed).2) (List.not_mem_nil (a := '\n'))
  simpa using cut

theorem Unbroken.not_mem (unbroken : Unbroken lines) : '\r' ∉ terminated lines := by
  intro member
  obtain ⟨line, listed, inside⟩ := List.mem_flatMap.mp member
  rcases List.mem_append.mp inside with inLine | feed
  · exact (unbroken line listed).2 inLine
  · simp at feed

/-- A text without carriage returns and its lines; a rest that is empty is none of them. -/
theorem exists_lines {text : List Char} (noReturn : '\r' ∉ text) :
    ∃ lines last, text = terminated lines ++ last ∧ Unbroken lines ∧ '\n' ∉ last ∧
      Text.lines text = lines ++ if last = [] then [] else [last] := by
  obtain ⟨lines, last, rfl, noFeed, lastNoFeed⟩ := exists_terminated text
  have linesNoReturn : ∀ line ∈ lines, '\r' ∉ line := by
    intro line listed found
    refine noReturn (List.mem_append_left _ (List.mem_flatMap.mpr ⟨line, listed, ?_⟩))
    exact List.mem_append_left _ found
  exact ⟨lines, last, rfl, fun line listed => ⟨noFeed line listed, linesNoReturn line listed⟩,
    lastNoFeed, lines_terminated noFeed linesNoReturn lastNoFeed⟩

/-- A line that is not the last one of a text has a line feed behind it. -/
theorem exists_of_lines_eq {text : List Char} {fronts backs : List (List Char)}
    (noReturn : '\r' ∉ text) (cut : Text.lines text = fronts ++ line :: backs) (some : backs ≠ []) :
    ∃ rest, text = terminated fronts ++ (line ++ '\n' :: rest) := by
  obtain ⟨lines, last, rfl, -, -, whole⟩ := exists_lines noReturn
  have short : fronts ++ [line] <+: lines := by
    have inAll : fronts ++ [line] <+: lines ++ if last = [] then [] else [last] := by
      rw [← whole, cut]
      exact ⟨backs, by simp⟩
    apply List.prefix_of_prefix_length_le inAll (List.prefix_append _ _)
    have length := congrArg List.length (whole.symm.trans cut)
    have positive := List.length_pos_iff.mpr some
    rw [List.length_append, List.length_append, List.length_cons] at length
    rw [List.length_append, List.length_singleton]
    split at length <;> simp at length <;> omega
  obtain ⟨more, rfl⟩ := short
  exact ⟨terminated more ++ last, by simp [terminated_append]⟩

/-! ## Lines with carriage returns -/

theorem lines_feed (noFeed : '\n' ∉ line) (rest : List Char) :
    Text.lines (line ++ '\n' :: rest) = dropTerminator (line ++ ['\n']) :: Text.lines rest := by
  unfold Text.lines
  rw [cutLines_feed noFeed]
  cases cut : cutLines rest with
  | nil => exact absurd cut (cutLines_ne_nil rest)
  | cons piece pieces =>
      simp only [List.getLast?_cons_cons, List.dropLast_cons_cons]
      split <;> rfl

theorem lines_of_not_mem (noFeed : '\n' ∉ line) :
    Text.lines line = if line = [] then [] else [line] := by
  have cut : Text.lines (terminated [] ++ line) = [] ++ if line = [] then [] else [line] :=
    lines_terminated (by simp) (by simp) noFeed
  simpa using cut

theorem dropTerminator_feed_cases (line : List Char) :
    line = dropTerminator (line ++ ['\n']) ∨ line = dropTerminator (line ++ ['\n']) ++ ['\r'] := by
  by_cases last : line.getLast? = some '\r'
  · obtain ⟨front, rfl⟩ := List.getLast?_eq_some_iff.mp last
    right
    simp [dropTerminator]
  · left
    simp [dropTerminator, last]

theorem not_mem_dropTerminator (noFeed : '\n' ∉ line) : '\n' ∉ dropTerminator (line ++ ['\n']) := by
  intro feed
  apply noFeed
  rcases dropTerminator_feed_cases line with whole | returned
  · rwa [whole]
  · rw [returned]
    exact List.mem_append_left _ feed

theorem lines_terminated_eq_map (noFeed : ∀ line ∈ lines, '\n' ∉ line) :
    Text.lines (terminated lines) = lines.map fun line => dropTerminator (line ++ ['\n']) := by
  induction lines with
  | nil => rfl
  | cons line lines ih =>
      obtain ⟨first, later⟩ := List.forall_mem_cons.mp noFeed
      rw [terminated_cons, lines_feed first, ih later, List.map_cons]

theorem not_mem_of_mem_lines {text : List Char} (member : line ∈ Text.lines text) : '\n' ∉ line := by
  obtain ⟨lines, last, rfl, noFeed, lastNoFeed⟩ := exists_terminated text
  induction lines with
  | nil =>
      rw [terminated_nil, List.nil_append, lines_of_not_mem lastNoFeed] at member
      split at member
      · simp at member
      · rwa [List.mem_singleton.mp member]
  | cons first lines ih =>
      obtain ⟨firstNoFeed, later⟩ := List.forall_mem_cons.mp noFeed
      rw [terminated_cons, List.append_assoc, List.cons_append, lines_feed firstNoFeed,
        List.mem_cons] at member
      rcases member with rfl | listed
      · exact not_mem_dropTerminator firstNoFeed
      · exact ih listed later

/-- Each carriage return stands directly in front of a line feed. -/
def ReturnsPaired (text : List Char) : Prop :=
  ∀ front rest, text = front ++ '\r' :: rest → rest.head? = some '\n'

theorem returnsPaired_cons (c : Char) (rest : List Char) :
    ReturnsPaired (c :: rest) ↔ (c = '\r' → rest.head? = some '\n') ∧ ReturnsPaired rest := by
  constructor
  · intro paired
    refine ⟨?_, ?_⟩
    · rintro rfl
      exact paired [] rest rfl
    · rintro front behind rfl
      exact paired (c :: front) behind rfl
  · rintro ⟨first, later⟩ front behind split
    cases front with
    | nil =>
        obtain ⟨rfl, rfl⟩ := List.cons.inj split
        exact first rfl
    | cons d front =>
        obtain ⟨rfl, rfl⟩ := List.cons.inj split
        exact later front behind rfl

instance decidableReturnsPaired : (text : List Char) → Decidable (ReturnsPaired text)
  | [] => .isTrue (by simp [ReturnsPaired])
  | c :: rest =>
      have := decidableReturnsPaired rest
      decidable_of_iff' _ (returnsPaired_cons c rest)

theorem ReturnsPaired.of_append {front : List Char} (paired : ReturnsPaired (front ++ rest)) :
    ReturnsPaired rest := by
  rintro before behind rfl
  exact paired (front ++ before) behind (List.append_assoc ..).symm

/-- A carriage return in front of a line feed is no part of its line. -/
theorem ReturnsPaired.not_mem_dropTerminator (paired : ReturnsPaired (line ++ '\n' :: rest))
    (noFeed : '\n' ∉ line) : '\r' ∉ dropTerminator (line ++ ['\n']) := by
  intro member
  obtain ⟨front, behind, split⟩ := List.append_of_mem member
  rcases dropTerminator_feed_cases line with same | returned
  · rw [split] at same
    subst same
    cases behind with
    | nil => simp [dropTerminator] at split
    | cons d behind =>
        have feed := paired front (d :: behind ++ '\n' :: rest) (List.append_assoc ..)
        cases feed
        simp at noFeed
  · rw [split] at returned
    subst returned
    have feed := paired front (behind ++ '\r' :: '\n' :: rest) (by simp)
    cases behind with
    | nil => exact absurd (Option.some.inj feed) (by decide)
    | cons d behind =>
        cases feed
        simp at noFeed

theorem unbroken_lines_of_paired {text : List Char} (paired : ReturnsPaired text) :
    Unbroken (Text.lines text) := by
  obtain ⟨lines, last, rfl, noFeed, lastNoFeed⟩ := exists_terminated text
  induction lines with
  | nil =>
      rw [terminated_nil, List.nil_append] at paired ⊢
      rw [lines_of_not_mem lastNoFeed]
      intro line listed
      split at listed
      next => contradiction
      next =>
        cases List.mem_singleton.mp listed
        refine ⟨lastNoFeed, fun member => ?_⟩
        obtain ⟨front, behind, rfl⟩ := List.append_of_mem member
        have feed := List.mem_of_mem_head? (paired front behind rfl)
        exact lastNoFeed (by simp [feed])
  | cons line lines ih =>
      obtain ⟨first, later⟩ := List.forall_mem_cons.mp noFeed
      rw [terminated_cons, List.append_assoc, List.cons_append] at paired ⊢
      rw [lines_feed first]
      refine List.forall_mem_cons.mpr ⟨⟨not_mem_dropTerminator first,
        paired.not_mem_dropTerminator first⟩, ih ?_ later⟩
      exact ((returnsPaired_cons _ _).mp paired.of_append).2

theorem unbroken_lines {text : List Char} (noReturn : '\r' ∉ text) : Unbroken (Text.lines text) := by
  apply unbroken_lines_of_paired
  rintro front rest rfl
  simp at noReturn

/-! ## Starts of lines -/

/-- A text behind which a line starts. -/
def EndsLine (text : List Char) : Prop :=
  text = [] ∨ text.getLast? = some '\n'

theorem endsLine_terminated (lines : List (List Char)) : EndsLine (terminated lines) := by
  induction lines with
  | nil => exact .inl rfl
  | cons line lines ih =>
      right
      rw [terminated_cons, List.getLast?_append]
      rcases ih with empty | feed
      · simp [empty]
      · simp [List.getLast?_cons, feed]

theorem EndsLine.of_isSuffix {text left : List Char} (ends : EndsLine text) (suffix : left <:+ text) :
    EndsLine left := by
  obtain ⟨front, rfl⟩ := suffix
  cases left with
  | nil => exact .inl rfl
  | cons c rest =>
      rcases ends with empty | feed
      · simp at empty
      · rw [List.getLast?_append, List.getLast?_cons, Option.some_or, ← List.getLast?_cons] at feed
        exact .inr feed

theorem EndsLine.exists_lines {text : List Char} (ends : EndsLine text) :
    ∃ lines, text = terminated lines ∧ ∀ line ∈ lines, '\n' ∉ line := by
  obtain ⟨lines, last, rfl, noFeed, lastNoFeed⟩ := exists_terminated text
  rcases ends.of_isSuffix (List.suffix_append _ last) with empty | feed
  · exact ⟨lines, by rw [empty, List.append_nil], noFeed⟩
  · exact absurd (List.mem_of_getLast? feed) lastNoFeed

theorem count_terminated (noFeed : ∀ line ∈ lines, '\n' ∉ line) :
    (terminated lines).count '\n' = lines.length := by
  induction lines with
  | nil => rfl
  | cons line lines ih =>
      obtain ⟨first, later⟩ := List.forall_mem_cons.mp noFeed
      simp [List.count_eq_zero_of_not_mem first, ih later]

theorem EndsLine.length_lines {text : List Char} (ends : EndsLine text) :
    (Text.lines text).length = text.count '\n' := by
  obtain ⟨lines, rfl, noFeed⟩ := ends.exists_lines
  rw [lines_terminated_eq_map noFeed, List.length_map, count_terminated noFeed]

theorem EndsLine.lines_append {text : List Char} (ends : EndsLine text) (rest : List Char) :
    Text.lines (text ++ rest) = Text.lines text ++ Text.lines rest := by
  obtain ⟨lines, rfl, noFeed⟩ := ends.exists_lines
  clear ends
  induction lines with
  | nil => rfl
  | cons line lines ih =>
      obtain ⟨first, later⟩ := List.forall_mem_cons.mp noFeed
      rw [terminated_cons, List.append_assoc, List.cons_append, lines_feed first, lines_feed first,
        ih later, List.cons_append]

/-! ## Splitting and joining -/

theorem splitLines_terminated (noFeed : ∀ line ∈ lines, '\n' ∉ line) :
    splitLines (terminated lines) = lines ++ [[]] := by
  have cut := cutLines_terminated noFeed []
  have dropped : (lines.map (· ++ ['\n'])).map dropLineFeed = lines :=
    map_map_feed fun line _ => by simp [dropLineFeed]
  rw [List.append_nil] at cut
  rw [splitLines, cut, List.map_append, dropped]
  rfl

theorem terminated_inj {others : List (List Char)} (noFeed : ∀ line ∈ lines, '\n' ∉ line)
    (othersNoFeed : ∀ line ∈ others, '\n' ∉ line) (same : terminated lines = terminated others) :
    lines = others := by
  have pieces := splitLines_terminated noFeed
  rw [same, splitLines_terminated othersNoFeed] at pieces
  exact (List.append_cancel_right pieces).symm

/-- Where a line starts in a text, its lines are parted. -/
theorem EndsLine.exists_append_terminated {front : List Char} (ends : EndsLine front)
    (noFeed : ∀ line ∈ lines, '\n' ∉ line) (split : terminated lines = front ++ rest) :
    ∃ fronts backs, lines = fronts ++ backs ∧ front = terminated fronts ∧ rest = terminated backs := by
  have closed : EndsLine rest := (endsLine_terminated lines).of_isSuffix ⟨front, split.symm⟩
  obtain ⟨fronts, rfl, frontsNoFeed⟩ := ends.exists_lines
  obtain ⟨backs, rfl, backsNoFeed⟩ := closed.exists_lines
  rw [← terminated_append] at split
  have joined := List.forall_mem_append.mpr ⟨frontsNoFeed, backsNoFeed⟩
  exact ⟨fronts, backs, terminated_inj noFeed joined split, rfl, rfl⟩

theorem Unbroken.inj {others : List (List Char)} (unbroken : Unbroken lines)
    (othersUnbroken : Unbroken others) : terminated lines = terminated others ↔ lines = others := by
  constructor
  · intro same
    rw [← unbroken.lines_eq, same, othersUnbroken.lines_eq]
  · rintro rfl
    rfl

theorem joinLines_concat_nil (lines : List (List Char)) :
    joinLines (lines ++ [[]]) = terminated lines := by
  induction lines with
  | nil => rfl
  | cons line lines ih =>
      cases lines with
      | nil => simp [joinLines]
      | cons next more =>
          rw [terminated_cons, ← ih]
          rfl

theorem joinLines_feed (some : lines ≠ []) : joinLines lines ++ ['\n'] = terminated lines := by
  induction lines with
  | nil => contradiction
  | cons line lines ih =>
      cases lines with
      | nil => simp [joinLines]
      | cons next more =>
          rw [terminated_cons, ← ih (by simp)]
          simp [joinLines]

end InlineScript.Text
