import Mathlib.Data.List.DropRight
import InlineScript.Proofs.Text.Lines
import InlineScript.Text.LineIndex

/-!
Offsets that are turned into positions and back. The way back stops at the first carriage return of
a line, while the way there counts carriage returns like other characters; so an offset behind one on
the same line comes back as the offset of that carriage return, and every other offset comes back as
it was.
-/

namespace InlineScript.Text

/-! ## Cuts -/

theorem takeBytes_byteLength (first second : List Char) :
    takeBytes (byteLength first) (first ++ second) = first := by
  induction first with
  | nil =>
      cases second with
      | nil => rfl
      | cons c rest =>
          have wide : ¬ c.utf8Size ≤ 0 := Nat.not_le.mpr c.utf8Size_pos
          simp [byteLength, takeBytes, wide]
  | cons c first ih =>
      have left : c.utf8Size + byteLength first - c.utf8Size = byteLength first := by omega
      simp only [List.cons_append, byteLength, takeBytes, Nat.le_add_right, if_true, left, ih]

theorem dropBytes_byteLength (first second : List Char) :
    dropBytes (byteLength first) (first ++ second) = second := by
  have whole := takeBytes_append_dropBytes (byteLength first) (first ++ second)
  rw [takeBytes_byteLength] at whole
  exact List.append_cancel_left whole

theorem slice?_append (front content behind : List Char) :
    slice? (front ++ (content ++ behind)) (byteLength front)
      (byteLength front + byteLength content) = some content := by
  have upTo : takeBytes (byteLength front + byteLength content)
      (front ++ (content ++ behind)) = front ++ content := by
    rw [← byteLength_append, ← List.append_assoc, takeBytes_byteLength]
  have bounds : byteLength front ≤ byteLength front + byteLength content := Nat.le_add_right _ _
  simp only [slice?, floorBoundary, slice, takeBytes_byteLength, upTo, byteLength_append,
    dropBytes_byteLength, bounds, and_self, if_true]

theorem byteLength_pos {text : List Char} (some : text ≠ []) : 0 < byteLength text := by
  cases text with
  | nil => contradiction
  | cons c rest =>
      have positive := c.utf8Size_pos
      simp only [byteLength]
      omega

/-! ## The last line -/

/-- What stands behind the last line feed of a text. -/
def lastLine (text : List Char) : List Char :=
  text.rtakeWhile (· != '\n')

/-- A text up to the first carriage return of its last line, or the whole of it. -/
def upToReturn (text : List Char) : List Char :=
  text.rdropWhile (· != '\n') ++ (lastLine text).takeWhile (· != '\r')

theorem lastLine_feed (line rest : List Char) : lastLine (line ++ '\n' :: rest) = lastLine rest := by
  have stops (front : List Char) : (front ++ '\n' :: line.reverse).takeWhile (· != '\n') =
      front.takeWhile (· != '\n') := by
    induction front with
    | nil => simp
    | cons c front ih => simp [List.takeWhile_cons, ih]
  simp [lastLine, List.rtakeWhile, stops]

theorem rdropWhile_append_lastLine (text : List Char) :
    text.rdropWhile (· != '\n') ++ lastLine text = text :=
  List.rdropWhile_append_rtakeWhile

theorem upToReturn_feed (line rest : List Char) :
    upToReturn (line ++ '\n' :: rest) = line ++ '\n' :: upToReturn rest := by
  have front : (line ++ '\n' :: rest).rdropWhile (· != '\n') =
      line ++ '\n' :: rest.rdropWhile (· != '\n') := by
    have whole := rdropWhile_append_lastLine (line ++ '\n' :: rest)
    have part : line ++ '\n' :: rest =
        (line ++ '\n' :: rest.rdropWhile (· != '\n')) ++ lastLine rest := by
      simp [rdropWhile_append_lastLine]
    rw [lastLine_feed] at whole
    exact List.append_cancel_right (whole.trans part)
  rw [upToReturn, front, lastLine_feed, upToReturn]
  simp

theorem lastLine_of_not_mem {line : List Char} (noFeed : '\n' ∉ line) : lastLine line = line := by
  rw [lastLine, List.rtakeWhile_eq_self_iff]
  intro c member
  simp only [bne_iff_ne, ne_eq]
  rintro rfl
  exact noFeed member

theorem upToReturn_of_not_mem {line : List Char} (noFeed : '\n' ∉ line) :
    upToReturn line = line.takeWhile (· != '\r') := by
  have front := rdropWhile_append_lastLine line
  rw [lastLine_of_not_mem noFeed] at front
  have empty : line.rdropWhile (· != '\n') = [] := by simpa using front
  rw [upToReturn, empty, lastLine_of_not_mem noFeed, List.nil_append]

theorem upToReturn_isPrefix (text : List Char) : upToReturn text <+: text := by
  have part : (lastLine text).takeWhile (· != '\r') <+: lastLine text := List.takeWhile_prefix _
  obtain ⟨behind, split⟩ := part
  refine ⟨behind, ?_⟩
  rw [upToReturn, List.append_assoc, split, rdropWhile_append_lastLine]

/-- The text stops early at a carriage return of its last line, and only there. -/
theorem upToReturn_eq_self_iff (text : List Char) :
    upToReturn text = text ↔ '\r' ∉ lastLine text := by
  have whole := rdropWhile_append_lastLine text
  constructor
  · intro same
    have kept : (lastLine text).takeWhile (· != '\r') = lastLine text := by
      rw [upToReturn] at same
      exact List.append_cancel_left (same.trans whole.symm)
    intro member
    rw [← kept] at member
    simpa using List.mem_takeWhile_imp member
  · intro noReturn
    have kept : (lastLine text).takeWhile (· != '\r') = lastLine text := by
      rw [List.takeWhile_eq_self_iff]
      intro c member
      simp only [bne_iff_ne, ne_eq]
      rintro rfl
      exact noReturn member
    rw [upToReturn, kept, whole]

theorem upToReturn_of_not_mem_return {text : List Char} (noReturn : '\r' ∉ text) :
    upToReturn text = text := by
  rw [upToReturn_eq_self_iff]
  intro member
  rw [← rdropWhile_append_lastLine text] at noReturn
  exact noReturn (List.mem_append_right _ member)

/-- What is left out starts with the carriage return. -/
theorem exists_upToReturn (text : List Char) :
    upToReturn text = text ∨ ∃ rest, text = upToReturn text ++ '\r' :: rest := by
  cases behind : (lastLine text).dropWhile (· != '\r') with
  | nil =>
      left
      rw [upToReturn_eq_self_iff]
      intro member
      have all := List.dropWhile_eq_nil_iff.mp behind _ member
      simp at all
  | cons c rest =>
      right
      refine ⟨rest, ?_⟩
      have stops : c = '\r' := by
        have first := List.head?_dropWhile_not (· != '\r') (lastLine text)
        simpa [behind] using first
      conv_lhs => rw [← rdropWhile_append_lastLine text]
      conv_lhs => rw [← List.takeWhile_append_dropWhile (p := (· != '\r')) (l := lastLine text)]
      rw [behind, stops, upToReturn, List.append_assoc]

/-! ## There and back -/

namespace LineIndex

/-- Only the last piece of a text can be empty. -/
theorem ne_nil_of_cutLines {text piece next : List Char} {more : List (List Char)}
    (cut : cutLines text = piece :: next :: more) : piece ≠ [] := by
  obtain ⟨lines, last, rfl, noFeed, lastNoFeed⟩ := exists_terminated text
  rw [cutLines_terminated noFeed, cutLines_of_not_mem lastNoFeed] at cut
  cases lines with
  | nil => simp at cut
  | cons line lines =>
      simp only [List.map_cons, List.cons_append, List.cons.injEq] at cut
      simp [← cut.1]

theorem positionFrom_eq (line : Nat) (pieces : List (List Char)) (offset : Nat) :
    positionFrom line pieces offset =
      { line := line + (positionFrom 0 pieces offset).line
        character := (positionFrom 0 pieces offset).character } := by
  induction pieces generalizing line offset with
  | nil => simp [positionFrom]
  | cons piece rest ih =>
      cases rest with
      | nil => simp [positionFrom]
      | cons next more =>
          simp only [positionFrom]
          split
          · simp
          · rw [ih (line + 1), ih (0 + 1)]
            simp only [Position.mk.injEq, and_true]
            omega

theorem columnOffset_append {line : List Char} (noFeed : '\n' ∉ line) (behind : List Char) :
    columnOffset (line ++ behind) (unitLength line) = byteLength (line.takeWhile (· != '\r')) := by
  induction line with
  | nil =>
      cases behind with
      | nil => rfl
      | cons c rest => simp [columnOffset, unitLength, byteLength]
  | cons c line ih =>
      have ordinary : c ≠ '\n' := (List.ne_of_not_mem_cons noFeed).symm
      have tail := ih (List.not_mem_of_not_mem_cons noFeed)
      have wide : 0 < unitSize c := by
        unfold unitSize
        split <;> omega
      by_cases stops : c = '\r'
      · simp [columnOffset, stops, byteLength]
      · have unended : ¬ (unitSize c + unitLength line = 0 ∨ c = '\n' ∨ c = '\r') := by
          rintro (zero | feed | stop)
          · omega
          · exact ordinary feed
          · exact stops stop
        have left : unitSize c + unitLength line - unitSize c = unitLength line := by omega
        simp only [List.cons_append, columnOffset, unitLength, if_neg unended, left, tail]
        simp [stops, byteLength]

/-- The pieces of a text answer for its front: the offset of its end comes back as the end, or as
the first carriage return of its last line. -/
theorem offsetFrom_positionFrom (front behind : List Char) :
    offsetFrom (cutLines (front ++ behind))
        (positionFrom 0 (cutLines (front ++ behind)) (byteLength front)).line
        (positionFrom 0 (cutLines (front ++ behind)) (byteLength front)).character =
      byteLength (upToReturn front) := by
  obtain ⟨lines, last, rfl, noFeed, lastNoFeed⟩ := exists_terminated front
  induction lines with
  | nil =>
      obtain ⟨piece, pieces, first, cut⟩ := cutLines_append lastNoFeed behind
      simp only [terminated_nil, List.nil_append, cut, upToReturn_of_not_mem lastNoFeed]
      have place : positionFrom 0 ((last ++ piece) :: pieces) (byteLength last) =
          { line := 0, character := unitLength last } := by
        cases pieces with
        | nil => simp only [positionFrom, takeBytes_byteLength]
        | cons next more =>
            have ends := byteLength_pos (ne_nil_of_cutLines first)
            have inside : byteLength last < byteLength (last ++ piece) := by
              rw [byteLength_append]
              omega
            simp only [positionFrom, if_pos inside, takeBytes_byteLength]
      rw [place]
      exact columnOffset_append lastNoFeed piece
  | cons line lines ih =>
      have tail := ih fun other member => noFeed other (List.mem_cons_of_mem _ member)
      have cut := cutLines_feed (noFeed line List.mem_cons_self) (terminated lines ++ last ++ behind)
      have split : terminated (line :: lines) ++ last ++ behind =
          line ++ '\n' :: (terminated lines ++ last ++ behind) := by simp
      have length : byteLength (terminated (line :: lines) ++ last) =
          byteLength (line ++ ['\n']) + byteLength (terminated lines ++ last) := by
        rw [← byteLength_append]
        simp
      rw [split, cut, length]
      cases pieces : cutLines (terminated lines ++ last ++ behind) with
      | nil => exact absurd pieces (cutLines_ne_nil _)
      | cons next more =>
          have beyond : ¬ byteLength (line ++ ['\n']) + byteLength (terminated lines ++ last) <
              byteLength (line ++ ['\n']) := by omega
          have left : byteLength (line ++ ['\n']) + byteLength (terminated lines ++ last) -
              byteLength (line ++ ['\n']) = byteLength (terminated lines ++ last) := by omega
          rw [pieces] at tail
          simp only [positionFrom, if_neg beyond, left]
          rw [positionFrom_eq (0 + 1), Nat.zero_add, Nat.add_comm 1]
          simp only [offsetFrom, tail, terminated_cons, List.append_assoc, List.cons_append,
            upToReturn_feed]
          rw [← byteLength_append]
          simp

theorem offsetAt_positionAt (front behind : List Char) :
    (ofText (front ++ behind)).offsetAt
        ((ofText (front ++ behind)).positionAt (byteLength front)) =
      byteLength (upToReturn front) :=
  offsetFrom_positionFrom front behind

end LineIndex

end InlineScript.Text
