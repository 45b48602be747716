/-!
Texts measured in UTF-8 bytes and in UTF-16 units, and cut at byte offsets. A cut never splits a
character: an offset inside a character stands for the boundary before it, and an offset past the
end for the end.
-/

namespace InlineScript.Text

/-- Length in UTF-8 bytes. -/
def byteLength : List Char → Nat
  | [] => 0
  | c :: rest => c.utf8Size + byteLength rest

/-- UTF-16 units of one character: two beyond the basic plane. -/
def unitSize (c : Char) : Nat :=
  if c.toNat < 0x10000 then 1 else 2

/-- Length in UTF-16 units. -/
def unitLength : List Char → Nat
  | [] => 0
  | c :: rest => unitSize c + unitLength rest

/-- The longest run of leading characters that fits into `budget` bytes. -/
def takeBytes : Nat → List Char → List Char
  | _, [] => []
  | budget, c :: rest =>
      if c.utf8Size ≤ budget then c :: takeBytes (budget - c.utf8Size) rest else []

/-- What `takeBytes` leaves. -/
def dropBytes : Nat → List Char → List Char
  | _, [] => []
  | budget, c :: rest =>
      if c.utf8Size ≤ budget then dropBytes (budget - c.utf8Size) rest else c :: rest

/-- The largest character boundary not after `offset`. -/
def floorBoundary (text : List Char) (offset : Nat) : Nat :=
  byteLength (takeBytes offset text)

/-- The text between two offsets; empty when they are reversed. -/
def slice (text : List Char) (start stop : Nat) : List Char :=
  dropBytes start (takeBytes stop text)

/-- The text between two character boundaries, or nothing when they are no such bounds. -/
def slice? (text : List Char) (start stop : Nat) : Option (List Char) :=
  if start ≤ stop ∧ floorBoundary text start = start ∧ floorBoundary text stop = stop then
    some (slice text start stop)
  else
    none

theorem takeBytes_append_dropBytes (budget : Nat) (text : List Char) :
    takeBytes budget text ++ dropBytes budget text = text := by
  induction text generalizing budget with
  | nil => rfl
  | cons c rest ih =>
      simp only [takeBytes, dropBytes]
      split
      · simp [ih]
      · rfl

theorem takeBytes_of_byteLength_le {budget : Nat} {text : List Char} (fits : byteLength text ≤ budget) :
    takeBytes budget text = text := by
  induction text generalizing budget with
  | nil => rfl
  | cons c rest ih =>
      simp only [byteLength] at fits
      rw [takeBytes, if_pos (by omega), ih (by omega)]

theorem dropBytes_zero (text : List Char) : dropBytes 0 text = text := by
  cases text with
  | nil => rfl
  | cons c rest =>
      have wide : ¬ c.utf8Size ≤ 0 := Nat.not_le.mpr c.utf8Size_pos
      rw [dropBytes, if_neg wide]

theorem byteLength_append (first second : List Char) :
    byteLength (first ++ second) = byteLength first + byteLength second := by
  induction first with
  | nil => simp [byteLength]
  | cons c rest ih => simp [byteLength, ih, Nat.add_assoc]

theorem byteLength_takeBytes_le (budget : Nat) (text : List Char) :
    byteLength (takeBytes budget text) ≤ budget := by
  induction text generalizing budget with
  | nil => simp [takeBytes, byteLength]
  | cons c rest ih =>
      simp only [takeBytes]
      split
      next fits =>
        have tail := ih (budget - c.utf8Size)
        simp only [byteLength]
        omega
      next => simp [byteLength]

end InlineScript.Text
