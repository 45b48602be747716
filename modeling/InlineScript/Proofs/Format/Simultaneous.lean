import InlineScript.Format.Edit
import InlineScript.Proofs.Text.Slices

/-!
Edits that are made one after the other, from the last in a text to the first, and edits that are
made at once. Edits that stay apart come to the same either way: when one of them is made, all of the
text up to its end is still as it was, so that its offsets are the right ones, and what stands behind
it is not touched again.
-/

namespace InlineScript

open Text

/-! ## Offsets of edits -/

namespace TextEdit

variable (edit : TextEdit) (text : List Char)

/-- The byte offset at which an edit of a text starts. -/
def startIn : Nat :=
  (LineIndex.ofText text).offsetAt edit.range.start

def stopIn : Nat :=
  (LineIndex.ofText text).offsetAt edit.range.stop

def newBytes : List UInt8 :=
  Utf8.encode edit.newText.toList

/-- Whether an edit of a text starts before another one and ends where that starts at the latest. -/
def Before (other : TextEdit) : Prop :=
  edit.startIn text < other.startIn text ∧ edit.stopIn text ≤ other.startIn text

end TextEdit

namespace Format

/-- Edits of a text that run forward, start at different offsets and do not overlap: of any two, one
ends before the other starts, or where it does. -/
structure Apart (text : List Char) (edits : List TextEdit) : Prop where
  forward : ∀ edit ∈ edits, edit.startIn text ≤ edit.stopIn text
  distinct : edits.Pairwise fun first second => first.startIn text ≠ second.startIn text
  disjoint : edits.Pairwise fun first second =>
    first.stopIn text ≤ second.startIn text ∨ second.stopIn text ≤ first.startIn text

theorem Apart.perm {text : List Char} {edits others : List TextEdit} (apart : Apart text edits)
    (perm : others.Perm edits) : Apart text others where
  forward := fun edit member => apart.forward edit (perm.mem_iff.mp member)
  distinct := perm.symm.pairwise apart.distinct Ne.symm
  disjoint := perm.symm.pairwise apart.disjoint Or.symm

/-! ## All at once -/

section

variable (text : List Char) (edits : List TextEdit) (offset : Nat)

/-- The bytes that edits put before the byte at an offset. -/
def newBytesAt : List UInt8 :=
  (edits.filter fun edit => edit.startIn text == offset).flatMap TextEdit.newBytes

/-- Whether an edit takes the byte at an offset away. -/
def isReplaced : Bool :=
  edits.any fun edit => decide (edit.startIn text ≤ offset) && decide (offset < edit.stopIn text)

/-- What stands at an offset after the edits: what they put there, and then the byte that stood
there, unless one of them takes it away. -/
def editedAt : List UInt8 :=
  newBytesAt text edits offset ++
    if isReplaced text edits offset then [] else (Utf8.encode text)[offset]?.toList

/-- The bytes of a text after edits that are all made at once. -/
def editedBytes : List UInt8 :=
  (List.range (byteLength text + 1)).flatMap (editedAt text edits)

end

variable {text : List Char} {edits others : List TextEdit} {edit : TextEdit} {offset : Nat}

theorem newBytesAt_perm (apart : Apart text edits) (perm : others.Perm edits) (offset : Nat) :
    newBytesAt text others offset = newBytesAt text edits offset := by
  have starting := perm.filter fun edit => edit.startIn text == offset
  have distinct := apart.distinct.filter fun edit => edit.startIn text == offset
  have starts : ∀ edit ∈ edits.filter (fun edit => edit.startIn text == offset),
      edit.startIn text = offset := by simp
  rw [newBytesAt, newBytesAt]
  -- at most one edit starts at an offset
  cases found : edits.filter fun edit => edit.startIn text == offset with
  | nil => rw [found] at starting; rw [starting.eq_nil]
  | cons first rest =>
      rw [found] at starting distinct starts
      cases rest with
      | nil => rw [List.perm_singleton.mp starting]
      | cons second rest =>
          have differs := List.rel_of_pairwise_cons distinct List.mem_cons_self
          have one := starts first (by simp)
          have two := starts second (by simp)
          exact absurd (one.trans two.symm) differs

theorem editedBytes_perm (apart : Apart text edits) (perm : others.Perm edits) :
    editedBytes text others = editedBytes text edits := by
  rw [editedBytes, editedBytes]
  apply List.flatMap_congr
  intro offset _
  rw [editedAt, editedAt, newBytesAt_perm apart perm, isReplaced, isReplaced, perm.any_eq]

/-! ## One after the other -/

/-- Edits from the last in a text to the first. -/
def backToFront (text : List Char) (edits : List TextEdit) : List TextEdit :=
  edits.mergeSort fun first second => second.startIn text ≤ first.startIn text

theorem backToFront_perm (text : List Char) (edits : List TextEdit) :
    (backToFront text edits).Perm edits :=
  List.mergeSort_perm edits _

theorem pairwise_backToFront (text : List Char) (edits : List TextEdit) :
    (backToFront text edits).Pairwise fun first second =>
      second.startIn text ≤ first.startIn text := by
  refine (List.pairwise_mergeSort ?_ ?_ edits).imp of_decide_eq_true
  · intro first second third
    simp only [decide_eq_true_eq]
    omega
  · intro first second
    simp only [Bool.or_eq_true, decide_eq_true_eq]
    omega

theorem Apart.pairwise_backToFront (apart : Apart text edits) :
    (backToFront text edits).Pairwise fun first second => second.Before text first := by
  have sorted := apart.perm (backToFront_perm text edits)
  have order := (Format.pairwise_backToFront text edits).and (sorted.distinct.and sorted.disjoint)
  refine order.imp_of_mem ?_
  rintro first second member - ⟨below, differs, ended⟩
  have forward := sorted.forward first member
  exact ⟨by omega, by omega⟩

/-- The order in which edits are made does not depend on the order in which they are given. -/
theorem Apart.backToFront_congr (apart : Apart text edits) (perm : others.Perm edits) :
    backToFront text others = backToFront text edits := by
  have made := (backToFront_perm text others).trans (perm.trans (backToFront_perm text edits).symm)
  refine made.eq_of_pairwise ?_ (apart.perm perm).pairwise_backToFront apart.pairwise_backToFront
  intro first second _ _ below above
  exact absurd below.1 (Nat.lt_asymm above.1)

/-- `splice` between boundaries of a text that are in order. At other offsets nothing can be
replaced. -/
def splice? (text : List Char) (start stop : Nat) (newText : List Char) : Option (List Char) :=
  if start ≤ stop ∧ floorBoundary text start = start ∧ floorBoundary text stop = stop then
    some (splice text start stop newText)
  else
    none

/-- Makes an edit of `text` in what other edits have made of it. -/
def step (text result : List Char) (edit : TextEdit) : List Char :=
  splice result (edit.startIn text) (edit.stopIn text) edit.newText.toList

def step? (text result : List Char) (edit : TextEdit) : Option (List Char) :=
  splice? result (edit.startIn text) (edit.stopIn text) edit.newText.toList

/-- Applies edits as long as their offsets are boundaries of the text they are made in. -/
def applyEdits? (text : List Char) (edits : List TextEdit) : Option (List Char) :=
  (backToFront text edits).foldlM (step? text) text

theorem applyEdits_eq_foldl (text : List Char) (edits : List TextEdit) :
    applyEdits text edits = (backToFront text edits).foldl (step text) text := by
  rw [applyEdits, ← List.map_mergeSort (r := fun first second =>
    decide (TextEdit.startIn second text ≤ TextEdit.startIn first text)), List.foldl_map]
  · rfl
  · intro first _ second _
    rfl

theorem foldl_step_of_foldlM {list : List TextEdit} {before after : List Char}
    (made : list.foldlM (step? text) before = some after) :
    list.foldl (step text) before = after := by
  induction list generalizing before with
  | nil => exact Option.some.inj made
  | cons edit rest ih =>
      rw [List.foldlM_cons] at made
      obtain ⟨next, first, later⟩ := Option.bind_eq_some_iff.mp made
      rw [step?, splice?] at first
      split at first
      · cases first
        exact ih later
      · contradiction

/-! ## Step by step -/

/-- A text that is as it was up to `bound` can be cut at the boundaries up to there. -/
theorem cut_takeBytes_append {bound : Nat} (boundary : IsBoundary text offset) (below : offset ≤ bound)
    (tail : List Char) :
    takeBytes offset (takeBytes bound text ++ tail) = takeBytes offset text ∧
      dropBytes offset (takeBytes bound text ++ tail) = slice text offset bound ++ tail := by
  have length : byteLength (takeBytes offset text) = offset := floorBoundary_of_isBoundary boundary
  have front := takeBytes_byteLength (takeBytes offset text) (slice text offset bound ++ tail)
  have behind := dropBytes_byteLength (takeBytes offset text) (slice text offset bound ++ tail)
  rw [length, ← List.append_assoc, takeBytes_append_slice below] at front behind
  exact ⟨front, behind⟩

theorem splice?_takeBytes_append {start stop bound : Nat} (newText tail : List Char)
    (forward : start ≤ stop) (below : stop ≤ bound) (first : IsBoundary text start)
    (last : IsBoundary text stop) :
    splice? (takeBytes bound text ++ tail) start stop newText =
      some (takeBytes start text ++ (newText ++ (slice text stop bound ++ tail))) := by
  have cutFirst := cut_takeBytes_append first (Nat.le_trans forward below) tail
  have cutLast := cut_takeBytes_append last below tail
  have bounds : start ≤ stop ∧ floorBoundary (takeBytes bound text ++ tail) start = start ∧
      floorBoundary (takeBytes bound text ++ tail) stop = stop := by
    refine ⟨forward, ?_, ?_⟩
    · rw [floorBoundary, cutFirst.1]
      exact floorBoundary_of_isBoundary first
    · rw [floorBoundary, cutLast.1]
      exact floorBoundary_of_isBoundary last
  rw [splice?, if_pos bounds, splice, cutFirst.1, cutLast.2, List.append_assoc]

/-- The bytes from `start` on that are not between `start` and `stop`. -/
theorem flatMap_kept (bytes : List UInt8) {start stop : Nat} (forward : start ≤ stop) (count : Nat) :
    (List.range count).flatMap (fun step =>
        if start + step < stop then [] else bytes[start + step]?.toList) =
      (bytes.take (start + count)).drop stop := by
  induction count with
  | zero => simp [List.drop_eq_nil_iff, forward]
  | succ count ih =>
      rw [List.range_succ, List.flatMap_append, ih, List.flatMap_singleton, ← Nat.add_assoc,
        List.take_add_one, List.drop_append]
      congr 1
      cases found : bytes[start + count]? with
      | none => simp
      | some byte =>
          obtain ⟨inside, -⟩ := List.getElem?_eq_some_iff.mp found
          rw [List.length_take, Nat.min_eq_left (Nat.le_of_lt inside)]
          by_cases taken : start + count < stop
          · rw [if_pos taken, eq_comm, List.drop_eq_nil_iff]
            simp only [Option.toList_some, List.length_singleton]
            omega
          · rw [if_neg taken, Nat.sub_eq_zero_of_le (Nat.le_of_not_lt taken), List.drop_zero]

section

variable {rest : List TextEdit}

theorem editedAt_cons_of_lt (before : offset < edit.startIn text) :
    editedAt text (edit :: rest) offset = editedAt text rest offset := by
  have sameNew : newBytesAt text (edit :: rest) offset = newBytesAt text rest offset := by
    rw [newBytesAt, List.filter_cons_of_neg (by simp only [beq_iff_eq]; omega), newBytesAt]
  have sameReplaced : isReplaced text (edit :: rest) offset = isReplaced text rest offset := by
    rw [isReplaced, List.any_cons, decide_eq_false (Nat.not_le.mpr before), Bool.false_and,
      Bool.false_or, isReplaced]
  rw [editedAt, editedAt, sameNew, sameReplaced]

/-- From the start of an edit on, edits that end before it make no difference. -/
theorem editedAt_cons_of_le (ended : ∀ other ∈ rest, other.Before text edit)
    (reached : edit.startIn text ≤ offset) :
    editedAt text (edit :: rest) offset =
      (if edit.startIn text = offset then edit.newBytes else []) ++
        if offset < edit.stopIn text then [] else (Utf8.encode text)[offset]?.toList := by
  have noStart : rest.filter (fun other => other.startIn text == offset) = [] := by
    rw [List.filter_eq_nil_iff]
    intro other member
    have before := (ended other member).1
    simp only [beq_iff_eq]
    omega
  have noneLeft : isReplaced text rest offset = false := by
    rw [isReplaced, List.any_eq_false]
    intro other member
    have before := (ended other member).2
    simp only [Bool.and_eq_true, decide_eq_true_eq]
    omega
  have own : isReplaced text (edit :: rest) offset = decide (offset < edit.stopIn text) := by
    rw [isReplaced, List.any_cons, ← isReplaced, noneLeft, decide_eq_true reached, Bool.true_and,
      Bool.or_false]
  rw [editedAt, newBytesAt, own, List.filter_cons, noStart]
  by_cases starts : edit.startIn text = offset
  · simp [starts]
  · simp [starts]

/-- What the last edit of a text adds to what those before it make of the text up to its start. -/
theorem flatMap_editedAt_cons {bound : Nat} (forward : edit.startIn text ≤ edit.stopIn text)
    (inside : edit.startIn text < bound) (ended : ∀ other ∈ rest, other.Before text edit) :
    (List.range bound).flatMap (editedAt text (edit :: rest)) =
      (List.range (edit.startIn text)).flatMap (editedAt text rest) ++
        (edit.newBytes ++ ((Utf8.encode text).take bound).drop (edit.stopIn text)) := by
  obtain ⟨count, rfl⟩ := Nat.exists_eq_add_of_lt inside
  rw [Nat.add_assoc, List.range_add, List.flatMap_append, List.flatMap_map]
  congr 1
  · apply List.flatMap_congr
    intro offset member
    exact editedAt_cons_of_lt (List.mem_range.mp member)
  · -- only the first of these offsets gets new bytes
    have there (step : Nat) := editedAt_cons_of_le ended (Nat.le_add_right (edit.startIn text) step)
    have kept := flatMap_kept (Utf8.encode text) forward (count + 1)
    rw [List.range_succ_eq_map, List.flatMap_cons, List.flatMap_map] at kept ⊢
    rw [there 0, if_pos (Nat.add_zero _).symm, List.append_assoc, ← kept]
    congr 2
    apply List.flatMap_congr
    intro step _
    rw [there, if_neg (by omega), List.nil_append]

end

/-- Edits from the last to the first can all be made in a text that is still as it was up to where
they end, and give what they give at once. -/
theorem exists_foldlM_step? {rest : List TextEdit} (bound : Nat) (tail : List Char)
    (sorted : rest.Pairwise fun first second => second.Before text first)
    (forward : ∀ edit ∈ rest, edit.startIn text ≤ edit.stopIn text)
    (below : ∀ edit ∈ rest, edit.startIn text < bound ∧ edit.stopIn text ≤ bound)
    (cut : Utf8.encode (takeBytes bound text) = (Utf8.encode text).take bound) :
    ∃ result, rest.foldlM (step? text) (takeBytes bound text ++ tail) = some result ∧
      Utf8.encode result = (List.range bound).flatMap (editedAt text rest) ++ Utf8.encode tail := by
  induction rest generalizing bound tail with
  | nil =>
      refine ⟨_, rfl, ?_⟩
      have kept := flatMap_kept (Utf8.encode text) (Nat.le_refl 0) bound
      simp only [Nat.zero_add, Nat.not_lt_zero, if_false, List.drop_zero] at kept
      rw [Utf8.encode_append, cut, ← kept]
      rfl
  | cons edit rest ih =>
      obtain ⟨ended, later⟩ := List.pairwise_cons.mp sorted
      obtain ⟨runs, restForward⟩ := List.forall_mem_cons.mp forward
      obtain ⟨inside, stops⟩ := below edit List.mem_cons_self
      have first : IsBoundary text (edit.startIn text) := LineIndex.isBoundary_offsetAt text _
      have last : IsBoundary text (edit.stopIn text) := LineIndex.isBoundary_offsetAt text _
      have made := splice?_takeBytes_append edit.newText.toList tail runs stops first last
      -- the edits that are left find the text as it was up to where this one starts
      obtain ⟨result, more, bytes⟩ := ih (edit.startIn text)
        (edit.newText.toList ++ (slice text (edit.stopIn text) bound ++ tail)) later restForward
        ended (by rw [encode_takeBytes, floorBoundary_of_isBoundary first])
      refine ⟨result, ?_, ?_⟩
      · rw [List.foldlM_cons, step?, made]
        exact more
      · have kept : Utf8.encode (slice text (edit.stopIn text) bound) =
            ((Utf8.encode text).take bound).drop (edit.stopIn text) := by
          rw [encode_slice, Nat.min_eq_left stops, floorBoundary_of_isBoundary last,
            ← encode_takeBytes, cut]
        rw [bytes, flatMap_editedAt_cons runs inside ended, Utf8.encode_append, Utf8.encode_append,
          kept, TextEdit.newBytes]
        simp only [List.append_assoc]

theorem exists_applyEdits? (apart : Apart text edits) :
    ∃ result, applyEdits? text edits = some result ∧ Utf8.encode result = editedBytes text edits := by
  have sorted := apart.perm (backToFront_perm text edits)
  have whole : takeBytes (byteLength text + 1) text = text :=
    takeBytes_of_byteLength_le (Nat.le_succ _)
  have inside (position : Position) := (LineIndex.isBoundary_offsetAt text position).le_byteLength
  obtain ⟨result, made, bytes⟩ := exists_foldlM_step? (byteLength text + 1) []
    apart.pairwise_backToFront sorted.forward
    (fun edit _ => ⟨Nat.lt_succ_of_le (inside _), Nat.le_succ_of_le (inside _)⟩)
    (by rw [whole, List.take_of_length_le (length_encode text ▸ Nat.le_succ _)])
  rw [whole, List.append_nil] at made
  refine ⟨result, made, ?_⟩
  rw [bytes, ← editedBytes_perm apart (backToFront_perm text edits)]
  exact List.append_nil _

/-- Edits that stay apart can be made one after the other, each at boundaries of the text that those
before it left. They come to what all of them make of the text at once, in whichever order they are
given. -/
theorem applyEdits_simultaneous (text : List Char) (edits : List TextEdit)
    (apart : Apart text edits) :
    applyEdits? text edits = some (applyEdits text edits) ∧
    Utf8.encode (applyEdits text edits) = editedBytes text edits ∧
    ∀ others : List TextEdit, others.Perm edits → applyEdits text others = applyEdits text edits := by
  obtain ⟨result, made, bytes⟩ := exists_applyEdits? apart
  have same : applyEdits text edits = result := by
    rw [applyEdits_eq_foldl]
    exact foldl_step_of_foldlM made
  rw [same]
  refine ⟨made, bytes, ?_⟩
  intro others perm
  rw [← same, applyEdits_eq_foldl, applyEdits_eq_foldl, apart.backToFront_congr perm]

private def scatteredText : List Char := "aéb\nc€de".toList

/-- An edit that makes its place in the text longer, one that makes it shorter, one that starts where
another ends, and insertions at the end of an edit and of the text. -/
private def scattered : List TextEdit :=
  [{ range := ⟨⟨1, 1⟩, ⟨1, 2⟩⟩, newText := "" },
   { range := ⟨⟨0, 2⟩, ⟨0, 2⟩⟩, newText := "é" },
   { range := ⟨⟨9, 0⟩, ⟨9, 0⟩⟩, newText := "!" },
   { range := ⟨⟨0, 0⟩, ⟨0, 2⟩⟩, newText := "one" },
   { range := ⟨⟨1, 2⟩, ⟨1, 4⟩⟩, newText := "€€€" }]

theorem applyEdits_simultaneous_scattered :
    Apart scatteredText scattered ∧
    Utf8.encode (applyEdits scatteredText scattered) = Utf8.encode "oneéb\nc€€€!".toList ∧
    applyEdits scatteredText scattered.reverse = applyEdits scatteredText scattered := by
  have apart : Apart scatteredText scattered :=
    ⟨by decide +kernel, by decide +kernel, by decide +kernel⟩
  obtain ⟨-, bytes, same⟩ := applyEdits_simultaneous scatteredText scattered apart
  have computed : editedBytes scatteredText scattered = Utf8.encode "oneéb\nc€€€!".toList := by
    decide +kernel
  exact ⟨apart, bytes.trans computed, same _ scattered.reverse_perm⟩

end Format

end InlineScript
