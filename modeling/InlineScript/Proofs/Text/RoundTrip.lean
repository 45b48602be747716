import Mathlib.Order.Bounds.Basic
import InlineScript.Proofs.Text.LineIndex

/-!
Offsets and positions against each other. Each of the two maps has a closed form: a position tells
how many line feeds stand before an offset and how wide the line is up to it, and an offset tells how
long the text is up to the shortest part of a line that is wide enough. What comes back of an offset
or of a position, and that both maps keep the order, is read off these forms.
-/

namespace InlineScript.Text

variable {text front : List Char} {offset : Nat}

/-! ## Boundaries -/

/-- An offset where a character of the text starts, or where the text ends. -/
def IsBoundary (text : List Char) (offset : Nat) : Prop :=
  ∃ front, front <+: text ∧ byteLength front = offset

theorem byteLength_le_of_isPrefix (isPrefix : front <+: text) : byteLength front ≤ byteLength text := by
  obtain ⟨behind, rfl⟩ := isPrefix
  rw [byteLength_append]
  omega

theorem takeBytes_isPrefix (budget : Nat) (text : List Char) : takeBytes budget text <+: text :=
  ⟨dropBytes budget text, takeBytes_append_dropBytes budget text⟩

theorem isPrefix_takeBytes (isPrefix : front <+: text) (fits : byteLength front ≤ offset) :
    front <+: takeBytes offset text := by
  induction front generalizing text offset with
  | nil => exact List.nil_prefix
  | cons c front ih =>
      cases text with
      | nil => simp at isPrefix
      | cons d text =>
          obtain ⟨rfl, later⟩ := List.cons_prefix_cons.mp isPrefix
          simp only [byteLength] at fits
          have first : c.utf8Size ≤ offset := by omega
          rw [takeBytes, if_pos first]
          exact List.cons_prefix_cons.mpr ⟨rfl, ih later (by omega)⟩

theorem takeBytes_mono {first second : Nat} (ordered : first ≤ second) (text : List Char) :
    takeBytes first text <+: takeBytes second text :=
  isPrefix_takeBytes (takeBytes_isPrefix first text)
    (Nat.le_trans (byteLength_takeBytes_le first text) ordered)

theorem takeBytes_takeBytes (first second : Nat) (text : List Char) :
    takeBytes first (takeBytes second text) = takeBytes (min first second) text := by
  induction text generalizing first second with
  | nil => rfl
  | cons c rest ih =>
      by_cases fits : c.utf8Size ≤ second
      · by_cases fitsFirst : c.utf8Size ≤ first
        · have left : min (first - c.utf8Size) (second - c.utf8Size) =
              min first second - c.utf8Size := by omega
          have fitsBoth : c.utf8Size ≤ min first second := by omega
          simp only [takeBytes, if_pos fits, if_pos fitsFirst, if_pos fitsBoth, ih, left]
        · have fitsNot : ¬ c.utf8Size ≤ min first second := by omega
          simp only [takeBytes, if_pos fits, if_neg fitsFirst, if_neg fitsNot]
      · have fitsNot : ¬ c.utf8Size ≤ min first second := by omega
        simp only [takeBytes, if_neg fits, if_neg fitsNot]

theorem floorBoundary_mono {first second : Nat} (ordered : first ≤ second) (text : List Char) :
    floorBoundary text first ≤ floorBoundary text second :=
  byteLength_le_of_isPrefix (takeBytes_mono ordered text)

theorem isGreatest_takeBytes (text : List Char) (offset : Nat) :
    IsGreatest {b | IsBoundary text b ∧ b ≤ min offset (byteLength text)}
      (byteLength (takeBytes offset text)) := by
  have part := takeBytes_isPrefix offset text
  refine ⟨⟨⟨_, part, rfl⟩, ?_⟩, ?_⟩
  · exact Nat.le_min.mpr ⟨byteLength_takeBytes_le offset text, byteLength_le_of_isPrefix part⟩
  · rintro b ⟨⟨front, isPrefix, rfl⟩, bound⟩
    exact byteLength_le_of_isPrefix (isPrefix_takeBytes isPrefix (Nat.le_min.mp bound).1)

theorem IsBoundary.le_byteLength (boundary : IsBoundary text offset) : offset ≤ byteLength text := by
  obtain ⟨front, isPrefix, rfl⟩ := boundary
  exact byteLength_le_of_isPrefix isPrefix

theorem floorBoundary_of_isBoundary (boundary : IsBoundary text offset) :
    floorBoundary text offset = offset := by
  obtain ⟨front, ⟨behind, rfl⟩, rfl⟩ := boundary
  rw [floorBoundary, takeBytes_byteLength]

theorem takeBytes_append_of_lt {first : List Char} (inside : offset < byteLength first)
    (second : List Char) : takeBytes offset (first ++ second) = takeBytes offset first := by
  induction first generalizing offset with
  | nil => simp [byteLength] at inside
  | cons c first ih =>
      simp only [byteLength] at inside
      rw [List.cons_append, takeBytes, takeBytes]
      by_cases fits : c.utf8Size ≤ offset
      · rw [if_pos fits, if_pos fits, ih (by omega)]
      · rw [if_neg fits, if_neg fits]

theorem takeBytes_append_of_le {first : List Char} (beyond : byteLength first ≤ offset)
    (second : List Char) :
    takeBytes offset (first ++ second) = first ++ takeBytes (offset - byteLength first) second := by
  induction first generalizing offset with
  | nil => simp [byteLength]
  | cons c first ih =>
      simp only [byteLength] at beyond
      have fits : c.utf8Size ≤ offset := by omega
      have left : offset - c.utf8Size - byteLength first =
          offset - (c.utf8Size + byteLength first) := by omega
      rw [List.cons_append, takeBytes, if_pos fits, ih (by omega), left]
      rfl

/-! ## Lines -/

theorem rdropWhile_endsLine (text : List Char) : EndsLine (text.rdropWhile (· != '\n')) := by
  by_cases empty : text.rdropWhile (· != '\n') = []
  · exact .inl empty
  · have last := List.rdropWhile_last_not (· != '\n') text empty
    right
    rw [List.getLast?_eq_some_getLast empty]
    simpa using last

theorem not_mem_lastLine (text : List Char) : '\n' ∉ lastLine text := by
  intro member
  simpa using List.mem_rtakeWhile_imp member

/-- A text gets a longer last line or more line feeds. -/
theorem lastLine_mono {longer : List Char} (isPrefix : front <+: longer) :
    front.count '\n' < longer.count '\n' ∨
      front.count '\n' = longer.count '\n' ∧ lastLine front <+: lastLine longer := by
  obtain ⟨more, rfl⟩ := isPrefix
  by_cases feed : '\n' ∈ more
  · left
    have some := List.count_pos_iff.mpr feed
    rw [List.count_append]
    omega
  · right
    refine ⟨by simp [List.count_eq_zero_of_not_mem feed], more, ?_⟩
    have kept : ∀ c ∈ more.reverse, (c != '\n') = true := by
      intro c member
      rw [List.mem_reverse] at member
      simp only [bne_iff_ne, ne_eq]
      rintro rfl
      exact feed member
    simp only [lastLine, List.rtakeWhile, List.reverse_append, List.takeWhile_append_of_pos kept,
      List.reverse_append, List.reverse_reverse]

/-! ## Widths -/

theorem unitLength_append (first second : List Char) :
    unitLength (first ++ second) = unitLength first + unitLength second := by
  induction first with
  | nil => simp [unitLength]
  | cons c first ih => simp [unitLength, ih, Nat.add_assoc]

theorem unitLength_le_of_isPrefix (isPrefix : front <+: text) : unitLength front ≤ unitLength text := by
  obtain ⟨behind, rfl⟩ := isPrefix
  rw [unitLength_append]
  omega

theorem unitSize_pos (c : Char) : 0 < unitSize c := by
  unfold unitSize
  split <;> omega

theorem unitSize_le_utf8Size (c : Char) : unitSize c ≤ c.utf8Size := by
  have positive := c.utf8Size_pos
  unfold unitSize
  split
  next => exact positive
  next wide =>
    have large : 0xFFFF < c.val.toNat := Nat.lt_of_not_le fun small => wide (Nat.lt_succ_of_le small)
    have notSmall (limit : UInt32) (within : limit.toNat ≤ 0xFFFF) : ¬ c.val ≤ limit :=
      fun le => Nat.not_lt.mpr (Nat.le_trans le within) large
    rw [Char.utf8Size, if_neg (notSmall _ (by decide)), if_neg (notSmall _ (by decide)),
      if_neg (notSmall _ (by decide))]
    decide

theorem unitLength_le_byteLength (text : List Char) : unitLength text ≤ byteLength text := by
  induction text with
  | nil => exact Nat.le_refl 0
  | cons c rest ih =>
      have first := unitSize_le_utf8Size c
      simp only [unitLength, byteLength]
      omega

theorem length_le_byteLength (text : List Char) : text.length ≤ byteLength text := by
  induction text with
  | nil => exact Nat.le_refl 0
  | cons c rest ih =>
      have first := c.utf8Size_pos
      simp only [List.length_cons, byteLength]
      omega

/-- The shortest run of leading characters that is `width` units wide or wider, or the whole text. -/
def takeUnits : Nat → List Char → List Char
  | _, [] => []
  | width, c :: rest => if width = 0 then [] else c :: takeUnits (width - unitSize c) rest

theorem takeUnits_isPrefix (width : Nat) (text : List Char) : takeUnits width text <+: text := by
  induction text generalizing width with
  | nil => exact List.nil_prefix
  | cons c rest ih =>
      rw [takeUnits]
      split
      · exact List.nil_prefix
      · exact List.cons_prefix_cons.mpr ⟨rfl, ih _⟩

/-- Either no part of the text is wide enough, or the one that is taken is the narrowest of them. -/
theorem takeUnits_spec (width : Nat) (text : List Char) :
    unitLength text < width ∧ takeUnits width text = text ∨
      IsLeast {w | (∃ front, front <+: text ∧ unitLength front = w) ∧ width ≤ w}
        (unitLength (takeUnits width text)) := by
  induction text generalizing width with
  | nil =>
      cases width with
      | zero => exact .inr ⟨⟨⟨[], List.nil_prefix, rfl⟩, Nat.le_refl 0⟩, fun w _ => Nat.zero_le w⟩
      | succ width => exact .inl ⟨Nat.succ_pos width, rfl⟩
  | cons c rest ih =>
      rw [takeUnits]
      split
      next zero =>
        subst zero
        exact .inr ⟨⟨⟨[], List.nil_prefix, rfl⟩, Nat.le_refl 0⟩, fun w _ => Nat.zero_le w⟩
      next positive =>
        have wide := unitSize_pos c
        rcases ih (width - unitSize c) with ⟨narrow, whole⟩ | ⟨⟨-, reached⟩, least⟩
        · exact .inl ⟨by simp only [unitLength]; omega, by rw [whole]⟩
        · refine .inr ⟨⟨⟨_, List.cons_prefix_cons.mpr ⟨rfl, takeUnits_isPrefix _ rest⟩, rfl⟩, ?_⟩, ?_⟩
          · simp only [unitLength]
            omega
          · rintro w ⟨⟨front, isPrefix, rfl⟩, enough⟩
            cases front with
            | nil => simp only [unitLength] at enough; omega
            | cons d front =>
                obtain ⟨rfl, later⟩ := List.cons_prefix_cons.mp isPrefix
                simp only [unitLength] at enough ⊢
                have bound := least ⟨⟨front, later, rfl⟩, by omega⟩
                omega

namespace LineIndex

/-! ## From offsets to positions -/

theorem positionAt_eq (text : List Char) (offset : Nat) :
    (ofText text).positionAt offset =
      { line := (takeBytes offset text).count '\n'
        character := unitLength (lastLine (takeBytes offset text)) } := by
  have firstLine {part : List Char} (noFeed : '\n' ∉ part) :
      ({ line := 0, character := unitLength part } : Position) =
        { line := part.count '\n', character := unitLength (lastLine part) } := by
    rw [List.count_eq_zero_of_not_mem noFeed, lastLine_of_not_mem noFeed]
  unfold positionAt ofText
  obtain ⟨lines, last, rfl, noFeed, lastNoFeed⟩ := exists_terminated text
  induction lines generalizing offset with
  | nil =>
      have part := takeBytes_isPrefix offset last
      rw [terminated_nil, List.nil_append, cutLines_of_not_mem lastNoFeed, positionFrom]
      exact firstLine fun member => lastNoFeed (part.subset member)
  | cons line lines ih =>
      obtain ⟨first, later⟩ := List.forall_mem_cons.mp noFeed
      have split : terminated (line :: lines) ++ last =
          line ++ ['\n'] ++ (terminated lines ++ last) := by simp
      have cut : cutLines (line ++ ['\n'] ++ (terminated lines ++ last)) =
          (line ++ ['\n']) :: cutLines (terminated lines ++ last) := by
        rw [List.append_assoc, List.singleton_append, cutLines_feed first]
      have tail := ih (offset - byteLength (line ++ ['\n'])) later
      rw [split, cut]
      cases pieces : cutLines (terminated lines ++ last) with
      | nil => exact absurd pieces (cutLines_ne_nil _)
      | cons next more =>
          rw [positionFrom]
          by_cases inside : offset < byteLength (line ++ ['\n'])
          · rw [if_pos inside, takeBytes_append_of_lt inside]
            -- the line feed does not fit any more
            rcases List.prefix_concat_iff.mp (takeBytes_isPrefix offset (line ++ ['\n'])) with
              whole | part
            · have fits := byteLength_takeBytes_le offset (line ++ ['\n'])
              rw [whole] at fits
              omega
            · exact firstLine fun member => first (part.subset member)
          · rw [if_neg inside, positionFrom_eq, ← pieces, tail,
              takeBytes_append_of_le (Nat.le_of_not_lt inside), List.append_assoc,
              List.singleton_append, lastLine_feed, List.count_append,
              List.count_eq_zero_of_not_mem first, List.count_cons_self]
            simp only [Position.mk.injEq, and_true]
            omega

theorem positionAt_byteLength (front behind : List Char) :
    (ofText (front ++ behind)).positionAt (byteLength front) =
      { line := front.count '\n', character := unitLength (lastLine front) } := by
  rw [positionAt_eq, takeBytes_byteLength]

theorem positionAt_mono {first second : Nat} (ordered : first ≤ second) (text : List Char) :
    (ofText text).positionAt first ≤ (ofText text).positionAt second := by
  rw [positionAt_eq, positionAt_eq]
  rcases lastLine_mono (takeBytes_mono ordered text) with fewer | ⟨same, part⟩
  · exact .inl fewer
  · exact .inr ⟨same, unitLength_le_of_isPrefix part⟩

/-- Neither number of a position is greater than the text is long. -/
theorem positionAt_le_byteLength (text : List Char) (offset : Nat) :
    ((ofText text).positionAt offset).line ≤ byteLength text ∧
      ((ofText text).positionAt offset).character ≤ byteLength text := by
  have part := byteLength_le_of_isPrefix (takeBytes_isPrefix offset text)
  rw [positionAt_eq]
  constructor
  · have feeds := List.count_le_length (a := '\n') (l := takeBytes offset text)
    have bytes := length_le_byteLength (takeBytes offset text)
    simp only
    omega
  · have units := unitLength_le_byteLength (lastLine (takeBytes offset text))
    have line : byteLength (lastLine (takeBytes offset text)) ≤ byteLength (takeBytes offset text) := by
      conv_rhs => rw [← rdropWhile_append_lastLine (takeBytes offset text), byteLength_append]
      exact Nat.le_add_left _ _
    simp only
    omega

/-- An offset that is turned into a position and back is moved to the boundary before it, and from
there to the first carriage return of the line, if one stands in between. -/
theorem offset_roundTrip (text : List Char) (offset : Nat) :
    ∃ before line behind,
      text = before ++ line ++ behind ∧ EndsLine before ∧ '\n' ∉ line ∧
      IsGreatest {b | IsBoundary text b ∧ b ≤ min offset (byteLength text)}
        (byteLength (before ++ line)) ∧
      ('\r' ∉ line →
        (ofText text).offsetAt ((ofText text).positionAt offset) = byteLength (before ++ line)) ∧
      ∀ first rest, line = first ++ '\r' :: rest → '\r' ∉ first →
        (ofText text).offsetAt ((ofText text).positionAt offset) = byteLength (before ++ first) := by
  have front := rdropWhile_append_lastLine (takeBytes offset text)
  have back : (ofText text).offsetAt ((ofText text).positionAt offset) =
      byteLength (upToReturn (takeBytes offset text)) := by
    have there := positionAt_byteLength (takeBytes offset text) (dropBytes offset text)
    have again := offsetAt_positionAt (takeBytes offset text) (dropBytes offset text)
    rw [there, takeBytes_append_dropBytes] at again
    rw [positionAt_eq, again]
  refine ⟨(takeBytes offset text).rdropWhile (· != '\n'), lastLine (takeBytes offset text),
    dropBytes offset text, ?_, rdropWhile_endsLine _, not_mem_lastLine _, ?_, ?_, ?_⟩
  · rw [front, takeBytes_append_dropBytes]
  · rw [front]
    exact isGreatest_takeBytes text offset
  · intro noReturn
    rw [back, (upToReturn_eq_self_iff _).mpr noReturn, front]
  · intro first rest line noReturn
    have stops : (first ++ '\r' :: rest).takeWhile (· != '\r') = first := by
      have kept : ∀ c ∈ first, (c != '\r') = true := by
        intro c member
        simp only [bne_iff_ne, ne_eq]
        rintro rfl
        exact noReturn member
      simp [List.takeWhile_append_of_pos kept]
    rw [back, upToReturn, line, stops]

/-! ## From positions to offsets -/

theorem columnOffset_mono {first second : Nat} (ordered : first ≤ second) (piece : List Char) :
    columnOffset piece first ≤ columnOffset piece second := by
  induction piece generalizing first second with
  | nil => exact Nat.le_refl 0
  | cons c rest ih =>
      rw [columnOffset, columnOffset]
      by_cases stops : first = 0 ∨ c = '\n' ∨ c = '\r'
      · rw [if_pos stops]
        exact Nat.zero_le _
      · have later : ¬ (second = 0 ∨ c = '\n' ∨ c = '\r') := by
          rintro (zero | ends)
          · exact stops (.inl (by omega))
          · exact stops (.inr ends)
        rw [if_neg stops, if_neg later]
        exact Nat.add_le_add_left (ih (Nat.sub_le_sub_right ordered _)) _

theorem columnOffset_le (piece : List Char) (column : Nat) :
    columnOffset piece column ≤ byteLength piece := by
  induction piece generalizing column with
  | nil => exact Nat.le_refl 0
  | cons c rest ih =>
      rw [columnOffset, byteLength]
      split
      · exact Nat.zero_le _
      · exact Nat.add_le_add_left (ih _) _

theorem offsetFrom_mono (pieces : List (List Char)) {first second : Position}
    (ordered : first ≤ second) :
    offsetFrom pieces first.line first.character ≤ offsetFrom pieces second.line second.character := by
  obtain ⟨line, column⟩ := first
  obtain ⟨otherLine, otherColumn⟩ := second
  induction pieces generalizing line otherLine with
  | nil => exact Nat.le_refl 0
  | cons piece rest ih =>
      cases line with
      | zero =>
          cases otherLine with
          | zero =>
              rcases ordered with less | ⟨-, narrower⟩
              · exact absurd less (Nat.lt_irrefl 0)
              · exact columnOffset_mono narrower piece
          | succ otherLine =>
              exact Nat.le_trans (columnOffset_le piece column) (Nat.le_add_right _ _)
      | succ line =>
          cases otherLine with
          | zero =>
              rcases ordered with less | ⟨same, -⟩
              · exact absurd less (Nat.not_lt_zero _)
              · contradiction
          | succ otherLine =>
              apply Nat.add_le_add_left
              apply ih
              rcases ordered with less | ⟨same, narrower⟩
              · exact .inl (Nat.lt_of_succ_lt_succ less)
              · exact .inr ⟨Nat.succ.inj same, narrower⟩

theorem offsetFrom_of_length_le (pieces : List (List Char)) {line : Nat}
    (beyond : pieces.length ≤ line) (column : Nat) :
    offsetFrom pieces line column = byteLength pieces.flatten := by
  induction pieces generalizing line with
  | nil => rfl
  | cons piece rest ih =>
      cases line with
      | zero => simp at beyond
      | succ line =>
          rw [offsetFrom, ih (Nat.le_of_succ_le_succ beyond), List.flatten_cons, byteLength_append]

theorem columnOffset_eq {content tail : List Char} (plain : ∀ c ∈ content, c ≠ '\n' ∧ c ≠ '\r')
    (ends : ∀ c ∈ tail.head?, c = '\n' ∨ c = '\r') (column : Nat) :
    columnOffset (content ++ tail) column = byteLength (takeUnits column content) := by
  induction content generalizing column with
  | nil =>
      cases tail with
      | nil => rfl
      | cons c rest => simp [columnOffset, ends c rfl, takeUnits, byteLength]
  | cons c content ih =>
      obtain ⟨first, later⟩ := List.forall_mem_cons.mp plain
      rw [List.cons_append, columnOffset, takeUnits, ih later]
      by_cases zero : column = 0
      · rw [if_pos (.inl zero), if_pos zero, byteLength]
      · have goesOn : ¬ (column = 0 ∨ c = '\n' ∨ c = '\r') := by
          simp [zero, first.1, first.2]
        rw [if_neg goesOn, if_neg zero, byteLength]

theorem offsetFrom_append (first second : List (List Char)) (line column : Nat) :
    offsetFrom (first ++ second) (first.length + line) column =
      byteLength first.flatten + offsetFrom second line column := by
  induction first with
  | nil => simp [byteLength]
  | cons piece first ih =>
      rw [List.cons_append, List.length_cons, Nat.succ_add, offsetFrom, ih, List.flatten_cons,
        byteLength_append, Nat.add_assoc]

theorem lineCount_ofText (text : List Char) : (ofText text).lineCount = text.count '\n' + 1 := by
  obtain ⟨lines, last, rfl, noFeed, lastNoFeed⟩ := exists_terminated text
  rw [lineCount, ofText, cutLines_terminated noFeed, cutLines_of_not_mem lastNoFeed,
    List.count_append, count_terminated noFeed, List.count_eq_zero_of_not_mem lastNoFeed]
  simp

end LineIndex

/-! ## There and back -/

/-- What stands on a line before its first carriage return or line feed, and all that stands before
that. -/
structure IsContent (text : List Char) (line : Nat) (before content : List Char) : Prop where
  starts : EndsLine before
  line_eq : before.count '\n' = line
  plain : ∀ c ∈ content, c ≠ '\n' ∧ c ≠ '\r'
  ends : ∃ behind, text = before ++ content ++ behind ∧ ∀ c ∈ behind.head?, c = '\n' ∨ c = '\r'

theorem EndsLine.lastLine_append {line : List Char} (ends : EndsLine text) (noFeed : '\n' ∉ line) :
    lastLine (text ++ line) = line := by
  obtain ⟨lines, rfl, -⟩ := ends.exists_lines
  induction lines with
  | nil => exact lastLine_of_not_mem noFeed
  | cons first lines ih =>
      rw [terminated_cons, List.append_assoc, List.cons_append, lastLine_feed]
      exact ih (endsLine_terminated lines)

theorem exists_isContent {line : Nat} (inside : line < (LineIndex.ofText text).lineCount) :
    ∃ before content, IsContent text line before content := by
  obtain ⟨lines, last, rfl, noFeed, lastNoFeed⟩ := exists_terminated text
  have enough : line ≤ lines.length := by
    rw [LineIndex.lineCount_ofText, List.count_append, count_terminated noFeed,
      List.count_eq_zero_of_not_mem lastNoFeed] at inside
    omega
  let isPlain (c : Char) : Bool := c != '\n' && c != '\r'
  let rest := terminated (lines.drop line) ++ last
  refine ⟨terminated (lines.take line), rest.takeWhile isPlain, endsLine_terminated _, ?_, ?_,
    rest.dropWhile isPlain, ?_, ?_⟩
  · rw [count_terminated fun other member => noFeed other (List.mem_of_mem_take member),
      List.length_take, Nat.min_eq_left enough]
  · intro c member
    simpa [isPlain] using List.mem_takeWhile_imp member
  · have whole : terminated lines = terminated (lines.take line) ++ terminated (lines.drop line) := by
      rw [terminated, terminated, terminated, ← List.flatMap_append, List.take_append_drop]
    rw [List.append_assoc, List.takeWhile_append_dropWhile, whole, List.append_assoc]
  · intro c head
    have stops := List.head?_dropWhile_not isPlain rest
    rw [Option.mem_def.mp head] at stops
    simp only [isPlain, Bool.and_eq_false_iff, bne_eq_false_iff_eq] at stops
    exact stops

namespace LineIndex

theorem head?_cutLines {pieces : List (List Char)} {piece : List Char}
    (cut : cutLines text = piece :: pieces) : piece.head? = text.head? := by
  cases text with
  | nil =>
      cases cut
      rfl
  | cons c rest =>
      simp only [cutLines] at cut
      split at cut
      next feed =>
        cases cut
        simp [feed]
      next =>
        split at cut <;> cases cut <;> rfl

theorem offsetAt_of_isContent {position : Position} {before content : List Char}
    (stands : IsContent text position.line before content) :
    (ofText text).offsetAt position = byteLength (before ++ takeUnits position.character content) := by
  obtain ⟨starts, number, plain, behind, rfl, ends⟩ := stands
  obtain ⟨lines, rfl, noFeed⟩ := starts.exists_lines
  have contentNoFeed : '\n' ∉ content := fun member => (plain _ member).1 rfl
  obtain ⟨piece, pieces, first, cut⟩ := cutLines_append contentNoFeed behind
  rw [count_terminated noFeed, ← List.length_map (f := (· ++ ['\n']))] at number
  have column := columnOffset_eq plain (head?_cutLines first ▸ ends) position.character
  rw [offsetAt, ofText, List.append_assoc, cutLines_terminated noFeed, ← number]
  have walked := offsetFrom_append (lines.map (· ++ ['\n'])) (cutLines (content ++ behind)) 0
    position.character
  rw [Nat.add_zero] at walked
  rw [walked, cut, offsetFrom, column, byteLength_append]
  rfl

theorem isBoundary_offsetAt (text : List Char) (position : Position) :
    IsBoundary text ((ofText text).offsetAt position) := by
  by_cases inside : position.line < (ofText text).lineCount
  · obtain ⟨before, content, stands⟩ := exists_isContent inside
    obtain ⟨behind, whole, -⟩ := stands.ends
    rw [offsetAt_of_isContent stands, whole]
    refine ⟨_, List.IsPrefix.trans ?_ (List.prefix_append _ behind), rfl⟩
    exact (List.prefix_append_right_inj before).mpr (takeUnits_isPrefix _ content)
  · rw [offsetAt, offsetFrom_of_length_le _ (Nat.le_of_not_lt inside), ofText, flatten_cutLines]
    exact ⟨text, List.prefix_refl text, rfl⟩

/-- A position that is turned into an offset and back stays on its line and moves to the first
boundary there that is not before it, or to the end of the line. Both maps keep the order. -/
theorem position_roundTrip (text : List Char) :
    (∀ position : Position, position.line < (ofText text).lineCount →
      IsBoundary text ((ofText text).offsetAt position) ∧
      ∃ before content column, IsContent text position.line before content ∧
        (ofText text).positionAt ((ofText text).offsetAt position) =
          { line := position.line, character := column } ∧
        (IsLeast {w | (∃ front, front <+: content ∧ unitLength front = w) ∧ position.character ≤ w}
            column ∨
          unitLength content < position.character ∧ column = unitLength content)) ∧
    (∀ position : Position, (ofText text).lineCount ≤ position.line →
      (ofText text).offsetAt position = byteLength text) ∧
    (∀ first second : Position, first ≤ second →
      (ofText text).offsetAt first ≤ (ofText text).offsetAt second) ∧
    ∀ first second : Nat, first ≤ second →
      (ofText text).positionAt first ≤ (ofText text).positionAt second := by
  refine ⟨?_, ?_, fun first second => offsetFrom_mono _, fun first second ordered =>
    positionAt_mono ordered text⟩
  · intro position inside
    obtain ⟨before, content, stands⟩ := exists_isContent inside
    obtain ⟨behind, whole, -⟩ := stands.ends
    obtain ⟨left, taken⟩ := takeUnits_isPrefix position.character content
    have split : text = before ++ takeUnits position.character content ++ (left ++ behind) := by
      rw [whole]
      conv_lhs => rw [← taken]
      simp only [List.append_assoc]
    have noFeed : '\n' ∉ takeUnits position.character content := fun member =>
      (stands.plain _ (taken ▸ List.mem_append_left _ member)).1 rfl
    have there := positionAt_byteLength (before ++ takeUnits position.character content)
      (left ++ behind)
    rw [← split, ← offsetAt_of_isContent stands, stands.starts.lastLine_append noFeed,
      List.count_append, stands.line_eq, List.count_eq_zero_of_not_mem noFeed] at there
    refine ⟨⟨_, ⟨_, split.symm⟩, (offsetAt_of_isContent stands).symm⟩, before, content, _, stands,
      there, ?_⟩
    rcases takeUnits_spec position.character content with ⟨narrow, all⟩ | least
    · exact .inr ⟨narrow, by rw [all]⟩
    · exact .inl least
  · intro position beyond
    rw [offsetAt, offsetFrom_of_length_le _ beyond, ofText, flatten_cutLines]

end LineIndex

end InlineScript.Text
