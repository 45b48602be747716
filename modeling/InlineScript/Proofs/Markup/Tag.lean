import Mathlib.Data.List.Forall2
import InlineScript.Markup.Block
import InlineScript.Proofs.Text.Ink

/-!
Tags of script blocks. A tag is found by what stands up to its `>`, whatever follows; and whether a
text holds a closing tag is decided by its words.
-/

namespace InlineScript.Markup

open Text (ink startsBlank isBlank)

/-! ## Tag names -/

theorem toLower_cases (c : Char) :
    c.toLower = c ∨ 65 ≤ c.toNat ∧ c.toNat ≤ 90 ∧ c.toLower.toNat = c.toNat + 32 := by
  unfold Char.toLower
  split
  next large =>
    have lower : 65 ≤ c.toNat := large.1
    have upper : c.toNat ≤ 90 := large.2
    have moved : (c.toNat + 32) % 4294967296 = c.toNat + 32 := Nat.mod_eq_of_lt (by omega)
    exact .inr ⟨lower, upper, moved⟩
  next => exact .inl rfl

theorem toLower_eq_sign_iff {sign : Char} (small : sign.toLower = sign) (below : sign.toNat < 97)
    (c : Char) : c.toLower = sign ↔ c = sign := by
  constructor
  · intro found
    cases toLower_cases c with
    | inl same => exact same.symm.trans found
    | inr moved =>
        rw [found] at moved
        omega
  · intro same
    rw [same, small]

theorem foldsTo_angle {c : Char} (folds : foldsTo '<' c = true) : c = '<' := by
  have lowered : c.toLower = '<' := by simpa [foldsTo] using folds
  exact (toLower_eq_sign_iff rfl (by decide) c).mp lowered

/-- A letter that is no blank has none for its other case either. -/
theorem isBlank_of_foldsTo {letter c : Char} (dark : isBlank letter = false)
    (folds : foldsTo letter c = true) : isBlank c = false := by
  simp only [foldsTo, Bool.or_eq_true, beq_iff_eq, Bool.and_eq_true] at folds
  rcases folds with lowered | ⟨-, rfl⟩
  · rcases toLower_cases c with same | ⟨lower, upper, -⟩
    · rw [← same, lowered, dark]
    · simp only [isBlank, Bool.or_eq_false_iff, Bool.and_eq_false_iff, decide_eq_false_iff_not,
        beq_eq_false_iff_ne]
      omega
  · decide

/-- The name is the text's start, a character for each letter. -/
theorem tagName?_eq_some_iff {letters text name rest : List Char} :
    tagName? letters text = some (name, rest) ↔
      text = name ++ rest ∧ List.Forall₂ (fun letter c => foldsTo letter c = true) letters name := by
  induction letters generalizing text name with
  | nil =>
      simp only [tagName?, Option.some.injEq, Prod.mk.injEq, List.forall₂_nil_left_iff]
      constructor
      · rintro ⟨rfl, rfl⟩
        exact ⟨rfl, rfl⟩
      · rintro ⟨rfl, rfl⟩
        exact ⟨rfl, rfl⟩
  | cons letter letters ih =>
      constructor
      · intro found
        cases text with
        | nil => simp [tagName?] at found
        | cons c text =>
            simp only [tagName?] at found
            split at found
            next folds =>
              obtain ⟨⟨tail, behind⟩, inner, same⟩ := Option.map_eq_some_iff.mp found
              cases same
              obtain ⟨rfl, all⟩ := ih.mp inner
              exact ⟨rfl, .cons folds all⟩
            next => contradiction
      · rintro ⟨rfl, all⟩
        cases all with
        | cons folds all => simp [tagName?, folds, ih.mpr ⟨rfl, all⟩]

theorem not_mem_name {letters name : List Char} {c : Char}
    (all : List.Forall₂ (fun letter d => foldsTo letter d = true) letters name)
    (foreign : (letters.any fun letter => foldsTo letter c) = false) : c ∉ name := by
  induction all with
  | nil => simp
  | @cons letter d letters name folds all ih =>
      rw [List.any_cons, Bool.or_eq_false_iff] at foreign
      have other : c ≠ d := by
        rintro rfl
        rw [foreign.1] at folds
        contradiction
      simp [other, ih foreign.2]

/-- Names are found by the words of a text. -/
theorem tagName?_of_ink {letters text other name rest : List Char}
    (dark : letters.any isBlank = false)
    (same : ink text = ink other) (ends : startsBlank text = startsBlank other)
    (found : tagName? letters text = some (name, rest)) :
    ∃ behind, tagName? letters other = some (name, behind) ∧ ink behind = ink rest := by
  induction letters generalizing text other name rest with
  | nil =>
      simp only [tagName?, Option.some.injEq, Prod.mk.injEq] at found
      exact ⟨other, by simp [tagName?, found.1], by rw [← found.2, same]⟩
  | cons letter letters ih =>
      cases text with
      | nil => simp [tagName?] at found
      | cons c text =>
          simp only [tagName?] at found
          split at found
          next folds =>
            obtain ⟨⟨name, rest⟩, inner, split⟩ := Option.map_eq_some_iff.mp found
            simp only [Prod.mk.injEq] at split
            obtain ⟨rfl, rfl⟩ := split
            rw [List.any_cons, Bool.or_eq_false_iff] at dark
            have darkHead : isBlank c = false := isBlank_of_foldsTo dark.1 folds
            cases other with
            | nil => simp [startsBlank, darkHead] at ends
            | cons d other =>
                have alsoDark : isBlank d = false := by simpa [startsBlank, darkHead] using ends.symm
                simp only [ink, darkHead, alsoDark, Bool.false_eq_true, if_false, List.cons.injEq,
                  Prod.mk.injEq] at same
                obtain ⟨⟨rfl, tailEnds⟩, tailSame⟩ := same
                obtain ⟨behind, found, words⟩ := ih dark.2 tailSame tailEnds inner
                exact ⟨behind, by simp [tagName?, folds, found], words⟩
          next => contradiction

namespace Block

variable {text rest content closing : List Char}

/-! ## Closing tags -/

theorem closing?_isSome_iff (text : List Char) :
    (closing? text).isSome = true ↔
      ∃ name behind, tagName? ['<', '/', 's', 'c', 'r', 'i', 'p', 't'] text = some (name, behind) ∧
        (behind.dropWhile isBlank).head? = some '>' := by
  unfold closing?
  cases named : tagName? ['<', '/', 's', 'c', 'r', 'i', 'p', 't'] text with
  | none => simp
  | some found =>
      obtain ⟨name, behind⟩ := found
      cases left : behind.dropWhile isBlank with
      | nil => simp [left]
      | cons c more =>
          by_cases ends : c = '>'
          · simp [left, ends]
          · simp [left, ends]

/-- A closing tag: the name, blanks and `>`. -/
theorem closing?_eq_some_iff :
    closing? text = some (closing, rest) ↔
      ∃ name blanks, (∀ c ∈ blanks, isBlank c = true) ∧ closing = name ++ blanks ++ ['>'] ∧
        tagName? ['<', '/', 's', 'c', 'r', 'i', 'p', 't'] text =
          some (name, blanks ++ '>' :: rest) := by
  unfold closing?
  constructor
  · intro found
    split at found
    next => contradiction
    next name behind named =>
      split at found
      next after left =>
        have whole : behind.takeWhile isBlank ++ '>' :: after = behind := by
          rw [← left, List.takeWhile_append_dropWhile]
        cases found
        exact ⟨name, behind.takeWhile isBlank, fun c member => List.mem_takeWhile_imp member, rfl,
          by rw [named, whole]⟩
      next => contradiction
  · rintro ⟨name, blanks, allBlank, rfl, named⟩
    have ends : isBlank '>' = false := by decide
    simp [named, List.takeWhile_append_of_pos allBlank, List.dropWhile_append_of_pos allBlank, ends]

theorem closing?_eq (found : closing? text = some (closing, rest)) : text = closing ++ rest := by
  obtain ⟨name, blanks, -, rfl, named⟩ := closing?_eq_some_iff.mp found
  simp [(tagName?_eq_some_iff.mp named).1]

/-- A closing tag is found again in front of another text. -/
theorem closing?_exchange (found : closing? text = some (closing, rest)) (other : List Char) :
    closing? (closing ++ other) = some (closing, other) := by
  obtain ⟨name, blanks, allBlank, rfl, named⟩ := closing?_eq_some_iff.mp found
  refine closing?_eq_some_iff.mpr ⟨name, blanks, allBlank, rfl, ?_⟩
  exact tagName?_eq_some_iff.mpr ⟨by simp, (tagName?_eq_some_iff.mp named).2⟩

/-- A closing tag starts with `<` and has no other. -/
theorem exists_angle (found : closing? text = some (closing, rest)) :
    ∃ tail, closing = '<' :: tail ∧ '<' ∉ tail := by
  obtain ⟨name, blanks, allBlank, rfl, named⟩ := closing?_eq_some_iff.mp found
  obtain ⟨-, all⟩ := tagName?_eq_some_iff.mp named
  cases all with
  | @cons _ c _ name folds all =>
      refine ⟨name ++ blanks ++ ['>'], by simp [foldsTo_angle folds], ?_⟩
      have inName : '<' ∉ name := not_mem_name all (by decide)
      have inBlanks : '<' ∉ blanks := fun member => absurd (allBlank _ member) (by decide)
      simp [inName, inBlanks]

/-- A closing tag that begins in front of another tag ends there too. -/
theorem closing?_append_angle {front : List Char} (some : front ≠ []) (behind : List Char) :
    closing? (front ++ '<' :: behind) = none ↔ closing? front = none := by
  constructor
  · intro unclosed
    cases found : closing? front with
    | none => rfl
    | some parts =>
        have longer := closing?_exchange found (parts.2 ++ '<' :: behind)
        rw [← List.append_assoc, ← closing?_eq found, unclosed] at longer
        contradiction
  · intro unclosed
    cases found : closing? (front ++ '<' :: behind) with
    | none => rfl
    | some parts =>
        obtain ⟨closing, rest⟩ := parts
        obtain ⟨tail, rfl, once⟩ := exists_angle found
        have split := closing?_eq found
        obtain ⟨c, front, rfl⟩ := List.exists_cons_of_ne_nil some
        simp only [List.cons_append, List.cons.injEq] at split
        obtain ⟨rfl, split⟩ := split
        -- the tag cannot reach the second `<`, so it is a start of `front`
        have inside : ∃ more, front = tail ++ more := by
          rcases List.append_eq_append_iff.mp split with ⟨more, reaches, same⟩ | ⟨more, within, -⟩
          · cases more with
            | nil => exact ⟨[], by simp [reaches]⟩
            | cons d more =>
                simp only [List.cons_append, List.cons.injEq] at same
                simp [reaches, ← same.1] at once
          · exact ⟨more, within⟩
        obtain ⟨more, rfl⟩ := inside
        have shorter := closing?_exchange found more
        rw [List.cons_append, unclosed] at shorter
        contradiction

theorem closing?_isSome_of_ink {other : List Char} (same : ink text = ink other)
    (ends : startsBlank text = startsBlank other) (found : (closing? text).isSome = true) :
    (closing? other).isSome = true := by
  obtain ⟨name, left, named, stops⟩ := (closing?_isSome_iff text).mp found
  obtain ⟨behind, alsoNamed, words⟩ := tagName?_of_ink (by decide) same ends named
  refine (closing?_isSome_iff other).mpr ⟨name, behind, alsoNamed, ?_⟩
  rw [← stops, ← Text.trimStart, ← Text.head?_ink, words, Text.head?_ink, Text.trimStart]

/-! ## Contents -/

theorem content?_cons_isSome (c : Char) (text : List Char) :
    (content? (c :: text)).isSome = ((closing? (c :: text)).isSome || (content? text).isSome) := by
  rw [content?]
  cases closing? (c :: text) with
  | some found => rfl
  | none => cases content? text <;> rfl

theorem content?_cons_eq_none_iff (c : Char) (text : List Char) :
    content? (c :: text) = none ↔ closing? (c :: text) = none ∧ content? text = none := by
  rw [← Option.not_isSome_iff_eq_none, content?_cons_isSome]
  simp

theorem content?_isSome_append (front : List Char) (found : (content? text).isSome = true) :
    (content? (front ++ text)).isSome = true := by
  induction front with
  | nil => exact found
  | cons c front ih => rw [List.cons_append, content?_cons_isSome, ih, Bool.or_true]

/-- Whether a text holds a closing tag is decided by its words. -/
theorem content?_isSome_of_ink {other : List Char} (same : ink text = ink other)
    (found : (content? text).isSome = true) : (content? other).isSome = true := by
  induction text generalizing other with
  | nil => simp [content?] at found
  | cons c text ih =>
      rw [content?_cons_isSome, Bool.or_eq_true] at found
      by_cases blank : isBlank c = true
      · rw [Text.ink_cons_of_blank blank] at same
        rcases found with closed | later
        · obtain ⟨⟨closing, rest⟩, closed⟩ := Option.isSome_iff_exists.mp closed
          obtain ⟨tail, rfl, -⟩ := exists_angle closed
          cases closing?_eq closed
          contradiction
        · exact ih same later
      · rw [ink, if_neg blank] at same
        obtain ⟨blanks, rest, rfl, dark, ends, words⟩ := Text.exists_of_ink_cons same.symm
        apply content?_isSome_append
        rw [content?_cons_isSome, Bool.or_eq_true]
        rcases found with closed | later
        · have alike : ink (c :: text) = ink (c :: rest) := by simp [ink, dark, ends, words]
          exact .inl (closing?_isSome_of_ink alike rfl closed)
        · exact .inr (ih words.symm later)

/-- A content holds no closing tag, and one follows it. -/
theorem content?_spec (found : content? text = some (content, closing, rest)) :
    text = content ++ (closing ++ rest) ∧ content? content = none ∧
      closing? (closing ++ rest) = some (closing, rest) := by
  induction text generalizing content with
  | nil => simp [content?] at found
  | cons c text ih =>
      rw [content?] at found
      split at found
      next closed =>
        cases found
        have split := closing?_eq closed
        exact ⟨split, rfl, split ▸ closed⟩
      next unclosed =>
        split at found
        next inner closing rest more =>
          cases found
          obtain ⟨rfl, clear, closed⟩ := ih more
          obtain ⟨tail, rfl, -⟩ := exists_angle closed
          refine ⟨rfl, ?_, closed⟩
          rw [content?_cons_eq_none_iff, ← closing?_append_angle (by simp) (tail ++ rest)]
          exact ⟨unclosed, clear⟩
        next => contradiction

/-- A content without closing tags is found in front of one. -/
theorem content?_append (clear : content? content = none)
    (closed : closing? (closing ++ rest) = some (closing, rest)) :
    content? (content ++ (closing ++ rest)) = some (content, closing, rest) := by
  obtain ⟨tail, rfl, -⟩ := exists_angle closed
  induction content with
  | nil =>
      rw [List.cons_append] at closed
      simp only [List.nil_append, List.cons_append, content?, closed]
  | cons c content ih =>
      rw [content?_cons_eq_none_iff] at clear
      have some : c :: content ≠ [] := List.cons_ne_nil c content
      have unclosed := (closing?_append_angle some (tail ++ rest)).mpr clear.1
      rw [← List.cons_append] at unclosed
      simp only [List.cons_append] at unclosed ih ⊢
      simp only [content?, unclosed, ih clear.2]

/-! ## Opening tags -/

variable {opening attributes after : List Char}

/-- An opening tag: the name, which ends where a word does, and all up to the next `>`. -/
theorem opening?_eq_some_iff :
    opening? text = some (opening, attributes, after) ↔
      ∃ name, opening = name ++ attributes ++ ['>'] ∧ '>' ∉ attributes ∧
        Text.isWord (attributes.head?.getD '>') = false ∧
        tagName? ['<', 's', 'c', 'r', 'i', 'p', 't'] text =
          some (name, attributes ++ '>' :: after) := by
  have follows (attributes after : List Char) :
      ((attributes ++ '>' :: after).head?.map Text.isWord).getD false =
        Text.isWord (attributes.head?.getD '>') := by
    cases attributes <;> simp
  unfold opening?
  constructor
  · intro found
    split at found
    next => contradiction
    next name rest named =>
      split at found
      next => contradiction
      next separate =>
        split at found
        next => contradiction
        next stop behind left =>
          cases found
          have stops : stop = '>' := by
            have first := List.head?_dropWhile_not (· != '>') rest
            simpa [left] using first
          have whole : rest.takeWhile (· != '>') ++ '>' :: after = rest := by
            rw [stops] at left
            rw [← left, List.takeWhile_append_dropWhile]
          refine ⟨name, rfl, ?_, ?_, by rw [named, whole]⟩
          · intro member
            simpa using List.mem_takeWhile_imp member
          · rw [← follows _ after, whole]
            simpa using separate
  · rintro ⟨name, rfl, clear, separate, named⟩
    have kept : ∀ c ∈ attributes, (c != '>') = true := by
      intro c member
      simp only [bne_iff_ne, ne_eq]
      rintro rfl
      exact clear member
    simp only [named, follows, separate, List.takeWhile_append_of_pos kept,
      List.dropWhile_append_of_pos kept]
    simp

theorem opening?_eq (found : opening? text = some (opening, attributes, after)) :
    text = opening ++ after := by
  obtain ⟨name, rfl, -, -, named⟩ := opening?_eq_some_iff.mp found
  simp [(tagName?_eq_some_iff.mp named).1]

/-- An opening tag is found again in front of another text. -/
theorem opening?_exchange (found : opening? text = some (opening, attributes, after))
    (other : List Char) : opening? (opening ++ other) = some (opening, attributes, other) := by
  obtain ⟨name, rfl, clear, separate, named⟩ := opening?_eq_some_iff.mp found
  refine opening?_eq_some_iff.mpr ⟨name, rfl, clear, separate, ?_⟩
  exact tagName?_eq_some_iff.mpr ⟨by simp, (tagName?_eq_some_iff.mp named).2⟩

/-- An opening tag ends with `>` and has no other. -/
theorem exists_closing_angle (found : opening? text = some (opening, attributes, after)) :
    ∃ front, opening = front ++ ['>'] ∧ '>' ∉ front := by
  obtain ⟨name, rfl, clear, -, named⟩ := opening?_eq_some_iff.mp found
  have inName : '>' ∉ name := not_mem_name (tagName?_eq_some_iff.mp named).2 (by decide)
  exact ⟨name ++ attributes, rfl, by simp [inName, clear]⟩

/-- An opening tag goes no further than the first `>`. -/
theorem opening?_reach {front behind : List Char}
    (found : opening? (front ++ '>' :: behind) = some (opening, attributes, after)) :
    ∃ more, front ++ ['>'] = opening ++ more ∧ after = more ++ behind := by
  have split := opening?_eq found
  obtain ⟨start, rfl, clear⟩ := exists_closing_angle found
  rw [List.append_assoc, List.singleton_append] at split
  rcases List.append_eq_append_iff.mp split with ⟨more, rfl, same⟩ | ⟨more, rfl, same⟩
  · cases more with
    | nil =>
        cases same
        exact ⟨[], by simp, rfl⟩
    | cons c more =>
        simp only [List.cons_append, List.cons.injEq] at same
        simp [← same.1] at clear
  · cases more with
    | nil =>
        cases same
        exact ⟨[], by simp, rfl⟩
    | cons c more =>
        cases same
        exact ⟨more ++ ['>'], by simp, by simp⟩

end Block

end InlineScript.Markup
