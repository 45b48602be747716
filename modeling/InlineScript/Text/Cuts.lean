import InlineScript.Text.Bytes

/-!
Texts that are cut often. What stands behind each byte offset is kept, so that a cut need not walk
through the text.
-/

namespace InlineScript.Text

/-- What stands behind each byte offset of a text; for offsets inside a character nothing does. -/
def behindOffsets : List Char → List (Option (List Char))
  | [] => [some []]
  | c :: rest =>
      some (c :: rest) :: (List.replicate (c.utf8Size - 1) none ++ behindOffsets rest)

theorem behindOffsets_getElem? (text : List Char) (offset : Nat) :
    (behindOffsets text)[offset]?.join
      = if floorBoundary text offset = offset then some (dropBytes offset text) else none := by
  induction text generalizing offset with
  | nil =>
      cases offset with
      | zero => rfl
      | succ offset => simp [behindOffsets, floorBoundary, takeBytes, byteLength]
  | cons c rest induction =>
      have positive : 0 < c.utf8Size := c.utf8Size_pos
      cases offset with
      | zero =>
          have wide : ¬ c.utf8Size ≤ 0 := by omega
          simp [behindOffsets, floorBoundary, takeBytes, dropBytes, byteLength, wide]
      | succ offset =>
          simp only [behindOffsets, List.getElem?_cons_succ]
          by_cases inside : c.utf8Size ≤ offset + 1
          · rw [List.getElem?_append_right (by simp; omega)]
            have moved : offset - (List.replicate (c.utf8Size - 1) (none : Option (List Char))).length
                = offset + 1 - c.utf8Size := by simp; omega
            rw [moved, induction]
            have same : floorBoundary (c :: rest) (offset + 1) = offset + 1
                ↔ floorBoundary rest (offset + 1 - c.utf8Size) = offset + 1 - c.utf8Size := by
              simp only [floorBoundary, takeBytes, inside, if_true, byteLength]
              omega
            simp only [same, dropBytes, inside, if_true]
          · rw [List.getElem?_append_left (by simp; omega)]
            have early : ¬ floorBoundary (c :: rest) (offset + 1) = offset + 1 := by
              simp [floorBoundary, takeBytes, inside, byteLength]
            rw [if_neg early, List.getElem?_replicate]
            split <;> rfl

/-- Dropping up to a boundary and taking up to a later offset can change places. -/
theorem dropBytes_takeBytes {text : List Char} {start stop : Nat} (ordered : start ≤ stop)
    (boundary : floorBoundary text start = start) :
    dropBytes start (takeBytes stop text) = takeBytes (stop - start) (dropBytes start text) := by
  induction text generalizing start stop with
  | nil => simp [takeBytes, dropBytes]
  | cons c rest induction =>
      by_cases inside : c.utf8Size ≤ start
      · have reached : c.utf8Size ≤ stop := Nat.le_trans inside ordered
        have later : floorBoundary rest (start - c.utf8Size) = start - c.utf8Size := by
          simp only [floorBoundary, takeBytes, inside, if_true, byteLength] at boundary
          simp only [floorBoundary]
          omega
        have tail := induction (Nat.sub_le_sub_right ordered c.utf8Size) later
        have width : stop - c.utf8Size - (start - c.utf8Size) = stop - start := by omega
        simp only [takeBytes, dropBytes, reached, inside, if_true]
        rw [tail, width]
      · have first : start = 0 := by
          simp only [floorBoundary, takeBytes, inside, if_false, byteLength] at boundary
          exact boundary.symm
        subst first
        rw [dropBytes_zero, dropBytes_zero, Nat.sub_zero]

/-- A text by what stands behind each of its byte offsets. -/
structure Cuts where
  behind : Array (Option (List Char))

namespace Cuts

def ofText (text : List Char) : Cuts where
  behind := (behindOffsets text).toArray

/-- What stands behind an offset, if it is a boundary. -/
def behind? (cuts : Cuts) (offset : Nat) : Option (List Char) :=
  cuts.behind[offset]?.join

/-- The text between two character boundaries, or nothing when they are no such bounds. -/
def slice? (cuts : Cuts) (start stop : Nat) : Option (List Char) :=
  match cuts.behind? start, cuts.behind? stop with
  | some rest, some _ => if start ≤ stop then some (takeBytes (stop - start) rest) else none
  | _, _ => none

theorem behind?_ofText (text : List Char) (offset : Nat) :
    (ofText text).behind? offset
      = if floorBoundary text offset = offset then some (dropBytes offset text) else none := by
  simp only [ofText, behind?, List.getElem?_toArray, behindOffsets_getElem?]

/-- Kept cuts are those of the text. -/
theorem slice?_ofText (text : List Char) (start stop : Nat) :
    (ofText text).slice? start stop = Text.slice? text start stop := by
  simp only [slice?, behind?_ofText, Text.slice?, Text.slice]
  by_cases first : floorBoundary text start = start
  · by_cases last : floorBoundary text stop = stop
    · by_cases ordered : start ≤ stop
      · simp [first, last, ordered, dropBytes_takeBytes ordered first]
      · simp [first, last, ordered]
    · simp [first, last]
  · simp [first]

end Cuts

end InlineScript.Text
