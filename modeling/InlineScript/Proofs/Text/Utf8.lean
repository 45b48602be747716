import InlineScript.Text.Utf8

/-!
Bytes of a text are read as that text, so bytes are a text exactly if they are the bytes of one, and
a text is cut at a sign wherever its bytes are.
-/

namespace InlineScript.Text.Utf8

/-! ## One character -/

theorem continues_last {least greatest value byte : Nat} (low : least ≤ byte)
    (high : byte ≤ greatest) :
    continues ⟨1, least, greatest, value⟩ byte = ([Char.ofNat (value * 64 + (byte - 0x80))], none) := by
  simp [continues, low, high]

theorem continues_more {owed least greatest value byte : Nat} (low : least ≤ byte)
    (high : byte ≤ greatest) :
    continues ⟨owed + 2, least, greatest, value⟩ byte =
      ([], some ⟨owed + 1, 0x80, 0xBF, value * 64 + (byte - 0x80)⟩) := by
  simp [continues, low, high]

theorem begins_two {value : Nat} (low : 0x80 ≤ value) (high : value ≤ 0x7FF) :
    begins (value / 64 % 0x20 + 0xC0) = ([], some ⟨1, 0x80, 0xBF, value / 64⟩) := by
  rw [begins, if_neg (by omega), if_pos (by omega)]
  simp only [Prod.mk.injEq, Option.some.injEq, Pending.mk.injEq, true_and]
  omega

/-- The first byte tells what the second one may be. -/
theorem begins_three (value : Nat) (low : 0x800 ≤ value) (high : value ≤ 0xFFFF)
    (whole : value < 0xD800 ∨ 0xDFFF < value) :
    ∃ least greatest, begins (value / 4096 % 0x10 + 0xE0) =
        ([], some ⟨2, least, greatest, value / 4096⟩) ∧
      least ≤ value / 64 % 0x40 + 0x80 ∧ value / 64 % 0x40 + 0x80 ≤ greatest := by
  have first : value / 4096 % 0x10 = value / 4096 := by omega
  rw [first, begins, if_neg (by omega), if_neg (by omega)]
  by_cases zero : value / 4096 = 0
  · exact ⟨0xA0, 0xBF, by rw [if_pos (by omega), zero], by omega, by omega⟩
  · rw [if_neg (by omega)]
    by_cases surrogate : value / 4096 = 0xD
    · exact ⟨0x80, 0x9F, by rw [if_pos (by omega), surrogate], by omega, by omega⟩
    · refine ⟨0x80, 0xBF, ?_, by omega, by omega⟩
      rw [if_neg (by omega), if_pos (by omega), Nat.add_sub_cancel]

theorem begins_four (value : Nat) (low : 0x10000 ≤ value) (high : value < 0x110000) :
    ∃ least greatest, begins (value / 262144 % 0x08 + 0xF0) =
        ([], some ⟨3, least, greatest, value / 262144⟩) ∧
      least ≤ value / 4096 % 0x40 + 0x80 ∧ value / 4096 % 0x40 + 0x80 ≤ greatest := by
  have first : value / 262144 % 0x08 = value / 262144 := by omega
  rw [first, begins, if_neg (by omega), if_neg (by omega), if_neg (by omega), if_neg (by omega),
    if_neg (by omega)]
  by_cases zero : value / 262144 = 0
  · exact ⟨0x90, 0xBF, by rw [if_pos (by omega), zero], by omega, by omega⟩
  · rw [if_neg (by omega)]
    by_cases last : value / 262144 = 4
    · exact ⟨0x80, 0x8F, by rw [if_pos (by omega), last], by omega, by omega⟩
    · refine ⟨0x80, 0xBF, ?_, by omega, by omega⟩
      rw [if_neg (by omega), if_pos (by omega), Nat.add_sub_cancel]

theorem toNat_ofNat_of_lt {value : Nat} (small : value < 256) : (UInt8.ofNat value).toNat = value := by
  rw [UInt8.toNat_ofNat', Nat.mod_eq_of_lt small]

theorem decodeFrom_utf8EncodeChar (c : Char) (rest : List UInt8) :
    decodeFrom none (String.utf8EncodeChar c ++ rest) = c :: decodeFrom none rest := by
  have valid : c.val.toNat < 0xD800 ∨ 0xDFFF < c.val.toNat ∧ c.val.toNat < 0x110000 := c.valid
  have read : Char.ofNat c.val.toNat = c := Char.ofNat_toNat c
  rw [String.utf8EncodeChar]
  generalize c.val.toNat = value at valid read
  split
  · rename_i one
    simp only [List.cons_append, List.nil_append, decodeFrom,
      toNat_ofNat_of_lt (show value < 256 by omega), begins, if_pos (show value < 0x80 by omega), read]
  split
  · rename_i _ two
    simp only [List.cons_append, List.nil_append, decodeFrom]
    rw [toNat_ofNat_of_lt (by omega), begins_two (by omega) two]
    simp only [decodeFrom]
    rw [toNat_ofNat_of_lt (by omega), continues_last (by omega) (by omega)]
    have whole : value / 64 * 64 + (value % 0x40 + 0x80 - 0x80) = value := by omega
    rw [whole, read]
    rfl
  split
  · rename_i _ _ three
    obtain ⟨least, greatest, first, low, high⟩ := begins_three value (by omega) three (by omega)
    simp only [List.cons_append, List.nil_append, decodeFrom]
    rw [toNat_ofNat_of_lt (by omega), first]
    simp only [decodeFrom]
    rw [toNat_ofNat_of_lt (by omega), continues_more low high]
    simp only [decodeFrom]
    rw [toNat_ofNat_of_lt (by omega), continues_last (by omega) (by omega)]
    have whole : (value / 4096 * 64 + (value / 64 % 0x40 + 0x80 - 0x80)) * 64 +
        (value % 0x40 + 0x80 - 0x80) = value := by omega
    rw [whole, read]
    rfl
  · obtain ⟨least, greatest, first, low, high⟩ := begins_four value (by omega) (by omega)
    simp only [List.cons_append, List.nil_append, decodeFrom]
    rw [toNat_ofNat_of_lt (by omega), first]
    simp only [decodeFrom]
    rw [toNat_ofNat_of_lt (by omega), continues_more low high]
    simp only [decodeFrom]
    rw [toNat_ofNat_of_lt (by omega), continues_more (by omega) (by omega)]
    simp only [decodeFrom]
    rw [toNat_ofNat_of_lt (by omega), continues_last (by omega) (by omega)]
    have whole : ((value / 262144 * 64 + (value / 4096 % 0x40 + 0x80 - 0x80)) * 64 +
        (value / 64 % 0x40 + 0x80 - 0x80)) * 64 + (value % 0x40 + 0x80 - 0x80) = value := by omega
    rw [whole, read]
    rfl

/-! ## Texts -/

theorem decode_encode (text : List Char) : decode (encode text) = text := by
  induction text with
  | nil => rfl
  | cons c rest ih =>
      rw [decode, encode, List.flatMap_cons, decodeFrom_utf8EncodeChar]
      exact congrArg (c :: ·) ih

theorem text?_eq_some_iff {bytes : List UInt8} {text : List Char} :
    text? bytes = some text ↔ encode text = bytes := by
  rw [text?]
  constructor
  · intro read
    split at read
    · rename_i same
      cases read
      exact same
    · cases read
  · intro same
    rw [← same, decode_encode, if_pos rfl]

/-! ## Signs -/

/-- A byte below 128 stands for a character by itself. -/
theorem utf8EncodeChar_of_mem {c : Char} {byte : UInt8} (small : byte.toNat < 0x80)
    (member : byte ∈ String.utf8EncodeChar c) :
    String.utf8EncodeChar c = [byte] ∧ c = Char.ofNat byte.toNat := by
  have own : Char.ofNat c.val.toNat = c := Char.ofNat_toNat c
  rw [String.utf8EncodeChar] at member ⊢
  generalize c.val.toNat = value at member own ⊢
  split at member
  · rename_i one
    obtain rfl : byte = UInt8.ofNat value := List.mem_singleton.mp member
    rw [if_pos one, toNat_ofNat_of_lt (by omega), own]
    exact ⟨rfl, rfl⟩
  · -- All bytes of a longer character are larger.
    have differs : ∀ large, 0x80 ≤ large → large < 0x100 → byte ≠ UInt8.ofNat large := by
      intro large low high same
      rw [same, toNat_ofNat_of_lt high] at small
      omega
    exfalso
    split at member
    · simp only [List.mem_cons, List.not_mem_nil, or_false] at member
      rcases member with first | second
      · exact differs _ (by omega) (by omega) first
      · exact differs _ (by omega) (by omega) second
    · split at member
      · simp only [List.mem_cons, List.not_mem_nil, or_false] at member
        rcases member with first | second | third
        · exact differs _ (by omega) (by omega) first
        · exact differs _ (by omega) (by omega) second
        · exact differs _ (by omega) (by omega) third
      · simp only [List.mem_cons, List.not_mem_nil, or_false] at member
        rcases member with first | second | third | fourth
        · exact differs _ (by omega) (by omega) first
        · exact differs _ (by omega) (by omega) second
        · exact differs _ (by omega) (by omega) third
        · exact differs _ (by omega) (by omega) fourth

theorem encode_append (front back : List Char) :
    encode (front ++ back) = encode front ++ encode back :=
  List.flatMap_append

theorem encode_cons (c : Char) (rest : List Char) :
    encode (c :: rest) = String.utf8EncodeChar c ++ encode rest :=
  List.flatMap_cons

/-- Where the bytes of a text are cut at a sign, the text is. -/
theorem exists_of_encode_eq {text : List Char} {before after : List UInt8} {byte : UInt8}
    (small : byte.toNat < 0x80) (bytes : encode text = before ++ byte :: after) :
    ∃ front back, text = front ++ Char.ofNat byte.toNat :: back ∧ encode front = before ∧
      encode back = after := by
  induction text generalizing before with
  | nil => simp [encode] at bytes
  | cons c rest ih =>
      rw [encode_cons] at bytes
      -- The byte stands in the rest, or else it is the first character.
      rcases List.append_eq_append_iff.mp bytes with ⟨middle, rfl, later⟩ | ⟨middle, own, later⟩
      · obtain ⟨front, back, rfl, cut, rest⟩ := ih later
        exact ⟨c :: front, back, rfl, by rw [encode_cons, cut], rest⟩
      · cases middle with
        | nil =>
            obtain ⟨front, back, rfl, cut, rest⟩ := @ih [] later.symm
            refine ⟨c :: front, back, rfl, ?_, rest⟩
            rw [encode_cons, cut, own, List.append_nil, List.append_nil]
        | cons first others =>
            obtain ⟨rfl, rfl⟩ := List.cons.inj later
            obtain ⟨single, rfl⟩ := utf8EncodeChar_of_mem small (by rw [own]; simp)
            obtain ⟨rfl, rfl⟩ : before = [] ∧ others = [] := by
              have length := congrArg List.length (single.symm.trans own)
              simp only [List.length_append, List.length_cons, List.length_nil] at length
              constructor <;> apply List.eq_nil_of_length_eq_zero <;> omega
            exact ⟨[], rest, rfl, rfl, rfl⟩

end InlineScript.Text.Utf8
