import InlineScript.Proofs.Text.RoundTrip
import InlineScript.Proofs.Text.Utf8
import InlineScript.Session.Snapshot

/-!
Cuts of a text as its bytes show them. A byte tells by itself whether a character starts with it, so
the boundary that an offset is moved back to can be found among the bytes alone. Whatever the offsets
are, a slice is what stands between two such boundaries, and slices that share an offset share a
boundary.
-/

namespace InlineScript.Text

open Utf8 (encode encode_append encode_cons)

variable {text : List Char} {offset : Nat}

/-! ## Bytes of a cut -/

theorem length_encode (text : List Char) : (encode text).length = byteLength text := by
  induction text with
  | nil => rfl
  | cons c rest ih =>
      rw [encode_cons, List.length_append, String.length_utf8EncodeChar, ih, byteLength]

theorem encode_eq_append (offset : Nat) (text : List Char) :
    encode text = encode (takeBytes offset text) ++ encode (dropBytes offset text) := by
  rw [← encode_append, takeBytes_append_dropBytes]

theorem encode_takeBytes (offset : Nat) (text : List Char) :
    encode (takeBytes offset text) = (encode text).take (floorBoundary text offset) := by
  rw [encode_eq_append offset text, floorBoundary, ← length_encode, List.take_left]

theorem encode_dropBytes (offset : Nat) (text : List Char) :
    encode (dropBytes offset text) = (encode text).drop (floorBoundary text offset) := by
  rw [encode_eq_append offset text, floorBoundary, ← length_encode, List.drop_left]

/-! ## Boundaries -/

/-- An offset where bytes can be cut: the first byte of a character stands there, or they end. -/
def Utf8.IsCut (bytes : List UInt8) (offset : Nat) : Prop :=
  offset = bytes.length ∨ ∃ byte ∈ bytes[offset]?, byte.IsUTF8FirstByte

theorem isBoundary_cons_iff {c : Char} :
    IsBoundary (c :: text) offset ↔
      offset = 0 ∨ c.utf8Size ≤ offset ∧ IsBoundary text (offset - c.utf8Size) := by
  constructor
  · rintro ⟨front, isPrefix, rfl⟩
    cases front with
    | nil => exact .inl rfl
    | cons d front =>
        obtain ⟨rfl, later⟩ := List.cons_prefix_cons.mp isPrefix
        refine .inr ⟨Nat.le_add_right _ _, front, later, ?_⟩
        rw [byteLength, Nat.add_sub_cancel_left]
  · rintro (rfl | ⟨beyond, front, isPrefix, length⟩)
    · exact ⟨[], List.nil_prefix, rfl⟩
    · refine ⟨c :: front, List.cons_prefix_cons.mpr ⟨rfl, isPrefix⟩, ?_⟩
      rw [byteLength, length]
      omega

theorem isBoundary_iff_isCut : IsBoundary text offset ↔ Utf8.IsCut (encode text) offset := by
  induction text generalizing offset with
  | nil => simp [IsBoundary, Utf8.IsCut, encode, byteLength, eq_comm]
  | cons c rest ih =>
      have width := String.length_utf8EncodeChar c
      have positive := c.utf8Size_pos
      rw [isBoundary_cons_iff, ih, encode_cons, Utf8.IsCut, Utf8.IsCut, List.length_append, width]
      -- inside the first character only its first byte is one; behind it the rest decides
      by_cases inside : offset < c.utf8Size
      · have short : offset < (String.utf8EncodeChar c).length := width ▸ inside
        have first := @UInt8.isUTF8FirstByte_getElem_utf8EncodeChar c offset short
        rw [List.getElem?_append_left short, List.getElem?_eq_getElem short]
        simp only [Option.mem_some_iff, exists_eq_left', first, Nat.not_le.mpr inside, false_and,
          or_false]
        omega
      · rw [List.getElem?_append_right (by omega), width]
        have moved : offset = c.utf8Size + (encode rest).length ↔
            offset - c.utf8Size = (encode rest).length := by omega
        rw [moved]
        simp only [Nat.le_of_not_lt inside, true_and, or_iff_right_iff_imp]
        omega

theorem isGreatest_floorBoundary (text : List Char) (offset : Nat) :
    IsGreatest {b | Utf8.IsCut (encode text) b ∧ b ≤ offset} (floorBoundary text offset) := by
  obtain ⟨⟨reached, bound⟩, greatest⟩ := isGreatest_takeBytes text offset
  refine ⟨⟨isBoundary_iff_isCut.mp reached, (Nat.le_min.mp bound).1⟩, ?_⟩
  rintro b ⟨cut, below⟩
  have boundary := isBoundary_iff_isCut.mpr cut
  exact greatest ⟨boundary, Nat.le_min.mpr ⟨below, boundary.le_byteLength⟩⟩

theorem floorBoundary_le_length (text : List Char) (offset : Nat) :
    floorBoundary text offset ≤ (encode text).length := by
  rw [length_encode]
  exact byteLength_le_of_isPrefix (takeBytes_isPrefix offset text)

/-! ## Slices -/

theorem slice_zero (text : List Char) (stop : Nat) : slice text 0 stop = takeBytes stop text :=
  dropBytes_zero (takeBytes stop text)

theorem takeBytes_append_slice {start stop : Nat} (ordered : start ≤ stop) (text : List Char) :
    takeBytes start text ++ slice text start stop = takeBytes stop text := by
  have whole := takeBytes_append_dropBytes start (takeBytes stop text)
  rwa [takeBytes_takeBytes, Nat.min_eq_left ordered] at whole

theorem slice_of_le {start stop : Nat} (reversed : stop ≤ start) (text : List Char) :
    slice text start stop = [] := by
  have whole := takeBytes_append_dropBytes start (takeBytes stop text)
  rw [takeBytes_takeBytes, Nat.min_eq_right reversed] at whole
  exact List.append_right_eq_self.mp whole

theorem encode_slice (text : List Char) (start stop : Nat) :
    encode (slice text start stop) =
      ((encode text).take (floorBoundary text stop)).drop (floorBoundary text (min start stop)) := by
  rw [slice, encode_dropBytes, encode_takeBytes, floorBoundary, takeBytes_takeBytes]
  rfl

end InlineScript.Text

namespace InlineScript.Snapshot

open Text

/-- Two offsets in order divide a text into three slices, and reversed ones have nothing between
them. Each slice has the bytes between the last boundaries that are not behind its offsets, and these
bytes are a text by themselves. -/
theorem slice_partitions (snapshot : Snapshot) {first second last : Nat} (ordered : first ≤ second)
    (whole : snapshot.length ≤ last) :
    snapshot.slice 0 first ++ snapshot.slice first second ++ snapshot.slice second last =
      snapshot.text ∧
    snapshot.slice second first = "" ∧
    ∀ start stop, ∃ low high,
      IsGreatest {b | Utf8.IsCut (Utf8.encode snapshot.text.toList) b ∧ b ≤ min start stop} low ∧
      IsGreatest {b | Utf8.IsCut (Utf8.encode snapshot.text.toList) b ∧ b ≤ stop} high ∧
      low ≤ high ∧ high ≤ (Utf8.encode snapshot.text.toList).length ∧
      Utf8.text? (((Utf8.encode snapshot.text.toList).take high).drop low) =
        some (snapshot.slice start stop).toList := by
  refine ⟨?_, ?_, ?_⟩
  · have third : Text.slice snapshot.text.toList second last = dropBytes second snapshot.text.toList := by
      rw [Text.slice, takeBytes_of_byteLength_le whole]
    simp only [Snapshot.slice]
    rw [← String.ofList_append, ← String.ofList_append, slice_zero, takeBytes_append_slice ordered,
      third, takeBytes_append_dropBytes, String.ofList_toList]
  · rw [Snapshot.slice, slice_of_le ordered]
  · intro start stop
    refine ⟨_, _, isGreatest_floorBoundary _ _, isGreatest_floorBoundary _ _,
      floorBoundary_mono (Nat.min_le_right start stop) _, floorBoundary_le_length _ _, ?_⟩
    rw [Snapshot.slice, String.toList_ofList, Utf8.text?_eq_some_iff, encode_slice]

/-- Offsets inside of characters, and the largest one of 64 bits. -/
theorem slice_partitions_inside_characters :
    let snapshot : Snapshot := { text := "aé€b", dialect := .script, version := 1 }
    (2 ≤ 4 ∧ snapshot.length ≤ 18446744073709551615) ∧
    snapshot.slice 0 2 ++ snapshot.slice 2 4 ++ snapshot.slice 4 18446744073709551615 = "aé€b" ∧
    snapshot.slice 4 2 = "" := by
  intro snapshot
  have bounds : 2 ≤ 4 ∧ snapshot.length ≤ 18446744073709551615 := by decide +kernel
  have met := slice_partitions snapshot bounds.1 bounds.2
  exact ⟨bounds, met.1, met.2.1⟩

end InlineScript.Snapshot
