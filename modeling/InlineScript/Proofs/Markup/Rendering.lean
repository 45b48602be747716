import InlineScript.Markup.Attributes

/-!
Attributes that are written out and read again. An attribute is a name that stands alone or with a
value, which is quoted in either way or plain; blanks stand before it and may stand around `=`. What
is read from a row of written attributes is, for each name in lower case, the value that was written
for it last.
-/

namespace InlineScript.Markup

open Text (isBlank)

/-! ## Written attributes -/

def IsNameLetter (c : Char) : Prop :=
  ('A' ≤ c ∧ c ≤ 'Z') ∨ ('a' ≤ c ∧ c ≤ 'z') ∨ c = '_' ∨ c = ':'

def IsNameSign (c : Char) : Prop :=
  IsNameLetter c ∨ ('0' ≤ c ∧ c ≤ '9') ∨ c = '-' ∨ c = '.'

structure Blanks where
  text : List Char
  allBlank : ∀ c ∈ text, isBlank c = true

structure Name where
  first : Char
  others : List Char
  isLetter : IsNameLetter first
  areSigns : ∀ c ∈ others, IsNameSign c

namespace Name

def text (name : Name) : List Char :=
  name.first :: name.others

/-- The name under which a value is kept. -/
def key (name : Name) : String :=
  (String.ofList name.text).toLower

end Name

/-- A value as it is written. -/
inductive Value where
  | double (text : List Char) (clear : '"' ∉ text)
  | single (text : List Char) (clear : '\'' ∉ text)
  | plain (text : List Char) (some : text ≠ [])
      (clear : ∀ c ∈ text, isBlank c = false ∧ c ∉ ['"', '\'', '=', '<', '>', '\x60'])

namespace Value

def text : Value → List Char
  | double text _ => text
  | single text _ => text
  | plain text _ _ => text

def render : Value → List Char
  | double text _ => '"' :: text ++ ['"']
  | single text _ => '\'' :: text ++ ['\'']
  | plain text _ _ => text

end Value

/-- An attribute as it is written. A value stands behind `=` with blanks on either side. -/
structure Attribute where
  lead : Blanks
  leads : lead.text ≠ []
  name : Name
  assigned : Option (Blanks × Blanks × Value)

namespace Attribute

def value (written : Attribute) : List Char :=
  match written.assigned with
  | none => []
  | some (_, _, value) => value.text

def assignment (written : Attribute) : List Char :=
  match written.assigned with
  | none => []
  | some (before, after, value) => before.text ++ '=' :: (after.text ++ value.render)

def render (written : Attribute) : List Char :=
  written.lead.text ++ (written.name.text ++ written.assignment)

end Attribute

/-! ## Characters -/

theorem isNameStart_iff (c : Char) : isNameStart c = true ↔ IsNameLetter c := by
  have upper : c.isUpper = decide ('A' ≤ c ∧ c ≤ 'Z') := rfl
  have lower : c.isLower = (decide ('a' ≤ c) && decide (c ≤ 'z')) := rfl
  have letter : c.isAlpha = (c.isUpper || c.isLower) := rfl
  simp only [isNameStart, IsNameLetter, letter, upper, lower, Bool.or_eq_true, Bool.and_eq_true,
    decide_eq_true_eq, beq_iff_eq, or_assoc]

theorem isNamePart_iff (c : Char) : isNamePart c = true ↔ IsNameSign c := by
  simp only [isNamePart, IsNameSign, Char.isDigit, isNameStart_iff, Bool.or_eq_true,
    Bool.and_eq_true, decide_eq_true_eq, beq_iff_eq, or_assoc]
  rfl

theorem isPlain_iff (c : Char) :
    isPlain c = true ↔ isBlank c = false ∧ c ∉ ['"', '\'', '=', '<', '>', '\x60'] := by
  simp [isPlain, and_assoc]

theorem isBlank_of_isNameSign {c : Char} (isSign : IsNameSign c) : isBlank c = false := by
  have code (d : Char) : c ≤ d ↔ c.toNat ≤ d.toNat := Iff.rfl
  have code' (d : Char) : d ≤ c ↔ d.toNat ≤ c.toNat := Iff.rfl
  simp only [IsNameSign, IsNameLetter, code, code'] at isSign
  have range : 45 ≤ c.toNat ∧ c.toNat ≤ 122 := by
    rcases isSign with (⟨low, high⟩ | ⟨low, high⟩ | rfl | rfl) | ⟨low, high⟩ | rfl | rfl
    · exact ⟨Nat.le_trans (by decide) low, Nat.le_trans high (by decide)⟩
    · exact ⟨Nat.le_trans (by decide) low, Nat.le_trans high (by decide)⟩
    · decide
    · decide
    · exact ⟨Nat.le_trans (by decide) low, Nat.le_trans high (by decide)⟩
    · decide
    · decide
  simp only [isBlank, Bool.or_eq_false_iff, Bool.and_eq_false_iff, decide_eq_false_iff_not,
    beq_eq_false_iff_ne]
  omega

theorem isNamePart_of_isBlank {c : Char} (blank : isBlank c = true) : isNamePart c = false := by
  cases sign : isNamePart c with
  | false => rfl
  | true =>
      rw [isBlank_of_isNameSign ((isNamePart_iff c).mp sign)] at blank
      contradiction

theorem isNameStart_of_isBlank {c : Char} (blank : isBlank c = true) : isNameStart c = false := by
  have noSign := isNamePart_of_isBlank blank
  simp only [isNamePart, Bool.or_eq_false_iff] at noSign
  exact noSign.1.1.1

/-! ## Runs -/

section Runs

variable {p : Char → Bool} {body rest : List Char}

theorem takeWhile_run (inside : ∀ c ∈ body, p c = true) (stops : ∀ c ∈ rest.head?, p c = false) :
    (body ++ rest).takeWhile p = body := by
  rw [List.takeWhile_append_of_pos inside]
  cases rest with
  | nil => simp
  | cons c rest => simp [stops c rfl]

theorem dropWhile_run (inside : ∀ c ∈ body, p c = true) (stops : ∀ c ∈ rest.head?, p c = false) :
    (body ++ rest).dropWhile p = rest := by
  rw [List.dropWhile_append_of_pos inside]
  cases rest with
  | nil => rfl
  | cons c rest => simp [stops c rfl]

end Runs

theorem Blanks.trimStart_append (blanks : Blanks) {rest : List Char}
    (stops : ∀ c ∈ rest.head?, isBlank c = false) : Text.trimStart (blanks.text ++ rest) = rest :=
  dropWhile_run blanks.allBlank stops

theorem quoted?_append {mark : Char} {text : List Char} (clear : mark ∉ text) (rest : List Char) :
    quoted? mark (text ++ mark :: rest) = some (text, rest) := by
  have inside : ∀ c ∈ text, (c != mark) = true := by
    intro c member
    simp only [bne_iff_ne, ne_eq]
    intro same
    exact clear (same ▸ member)
  have stops : ∀ c ∈ (mark :: rest).head?, (c != mark) = false := by simp
  simp only [quoted?, takeWhile_run inside stops, dropWhile_run inside stops]

/-! ## Values -/

/-- What may follow a written attribute: nothing, or blanks and the next name. -/
def MayFollow (rest : List Char) : Prop :=
  rest = [] ∨ ∃ (blanks : Blanks) (c : Char) (more : List Char),
    blanks.text ≠ [] ∧ IsNameLetter c ∧ rest = blanks.text ++ c :: more

theorem MayFollow.head_isBlank {rest : List Char} (follows : MayFollow rest) :
    ∀ c ∈ rest.head?, isBlank c = true := by
  cases follows with
  | inl empty => simp [empty]
  | inr next =>
      obtain ⟨blanks, c, more, some, -, rfl⟩ := next
      obtain ⟨blank, others, split⟩ := List.exists_cons_of_ne_nil some
      intro d first
      apply blanks.allBlank
      rw [split, List.cons_append, List.head?_cons, Option.mem_some_iff] at first
      rw [split, first]
      exact List.mem_cons_self

theorem value?_of_mayFollow {rest : List Char} (follows : MayFollow rest) : value? rest = none := by
  cases follows with
  | inl empty =>
      rw [empty]
      rfl
  | inr next =>
      obtain ⟨blanks, c, more, -, isLetter, rfl⟩ := next
      have dark : isBlank c = false := isBlank_of_isNameSign (.inl isLetter)
      have other : c ≠ '=' := by
        rintro rfl
        unfold IsNameLetter at isLetter
        exact absurd isLetter (by decide)
      rw [value?, blanks.trimStart_append (by simpa using dark)]
      split
      next same =>
        cases same
        contradiction
      next => rfl

theorem bareValue?_run {text rest : List Char} (some : text ≠ [])
    (unquoted : ∀ c ∈ text, c ∉ ['"', '\'', '=', '<', '>', '\x60'])
    (inside : ∀ c ∈ text, isPlain c = true) (stops : ∀ c ∈ rest.head?, isPlain c = false) :
    bareValue? (text ++ rest) = .some (text, rest) := by
  have whole := takeWhile_run inside stops
  have left := dropWhile_run inside stops
  obtain ⟨c, tail, rfl⟩ := List.exists_cons_of_ne_nil some
  have unmarked := unquoted c List.mem_cons_self
  unfold bareValue?
  split
  next same =>
    cases same
    simp at unmarked
  next same =>
    cases same
    simp at unmarked
  next => rw [whole, left, List.isEmpty_cons, if_neg Bool.false_ne_true]

theorem Value.bareValue?_render (value : Value) {rest : List Char} (follows : MayFollow rest) :
    bareValue? (value.render ++ rest) = some (value.text, rest) := by
  cases value with
  | double text clear =>
      simp only [render, List.cons_append, List.append_assoc, List.nil_append, bareValue?]
      exact quoted?_append clear rest
  | single text clear =>
      simp only [render, List.cons_append, List.append_assoc, List.nil_append, bareValue?]
      exact quoted?_append clear rest
  | plain text some clear =>
      have inside : ∀ c ∈ text, isPlain c = true := fun c member =>
        (isPlain_iff c).mpr (clear c member)
      have stops : ∀ c ∈ rest.head?, isPlain c = false := by
        intro c first
        simp [isPlain, follows.head_isBlank c first]
      exact bareValue?_run some (fun c member => (clear c member).2) inside stops

theorem Value.head_not_isBlank (value : Value) (rest : List Char) :
    ∀ c ∈ (value.render ++ rest).head?, isBlank c = false := by
  cases value with
  | double text clear => simp [render, isBlank]
  | single text clear => simp [render, isBlank]
  | plain text some clear =>
      obtain ⟨c, tail, rfl⟩ := List.exists_cons_of_ne_nil some
      simpa [render] using (clear c List.mem_cons_self).1

theorem value?_assigned (before after : Blanks) (value : Value) {rest : List Char}
    (follows : MayFollow rest) :
    value? (before.text ++ '=' :: (after.text ++ value.render) ++ rest) = some (value.text, rest) := by
  have equals : ∀ c ∈ ('=' :: (after.text ++ (value.render ++ rest))).head?, isBlank c = false := by
    simp [isBlank]
  rw [List.append_assoc, List.cons_append, List.append_assoc, value?,
    before.trimStart_append equals]
  simp only
  rw [after.trimStart_append (value.head_not_isBlank rest)]
  exact value.bareValue?_render follows

/-! ## Attributes -/

theorem attributePairs_blanks (blanks : Blanks) (rest : List Char) :
    attributePairs (blanks.text ++ rest) = attributePairs rest := by
  obtain ⟨text, allBlank⟩ := blanks
  induction text with
  | nil => rfl
  | cons c text ih =>
      have noLetter := isNameStart_of_isBlank (allBlank c List.mem_cons_self)
      simp only [List.cons_append]
      rw [attributePairs, if_neg (by simp [noLetter])]
      exact ih fun d member => allBlank d (List.mem_cons_of_mem c member)

theorem attributePairs_name (name : Name) {rest : List Char}
    (stops : ∀ c ∈ rest.head?, isNamePart c = false) :
    attributePairs (name.text ++ rest) =
      match value? rest with
      | some (value, remaining) => (name.text, value) :: attributePairs remaining
      | none => (name.text, []) :: attributePairs rest := by
  have starts : isNameStart name.first = true := (isNameStart_iff _).mpr name.isLetter
  have inside : ∀ c ∈ name.others, isNamePart c = true := fun c member =>
    (isNamePart_iff c).mpr (name.areSigns c member)
  rw [Name.text, List.cons_append, attributePairs, if_pos starts]
  simp only [takeWhile_run inside stops]
  split
  next found =>
    rw [dropWhile_run inside stops] at found
    rw [found]
  next found =>
    rw [dropWhile_run inside stops] at found
    rw [found, dropWhile_run inside stops]

theorem attributePairs_render (written : Attribute) {rest : List Char} (follows : MayFollow rest) :
    attributePairs (written.render ++ rest) =
      (written.name.text, written.value) :: attributePairs rest := by
  rw [Attribute.render, List.append_assoc, attributePairs_blanks, List.append_assoc]
  cases assigned : written.assigned with
  | none =>
      have stops : ∀ c ∈ rest.head?, isNamePart c = false := fun c first =>
        isNamePart_of_isBlank (follows.head_isBlank c first)
      simp only [Attribute.assignment, Attribute.value, assigned, List.nil_append]
      rw [attributePairs_name _ stops, value?_of_mayFollow follows]
  | some parts =>
      obtain ⟨before, after, value⟩ := parts
      have stops : ∀ c ∈ (before.text ++ '=' :: (after.text ++ value.render) ++ rest).head?,
          isNamePart c = false := by
        cases split : before.text with
        | nil => simp [isNamePart, isNameStart]
        | cons blank others =>
            have blanks := before.allBlank blank (split ▸ List.mem_cons_self)
            simpa using isNamePart_of_isBlank blanks
      simp only [Attribute.assignment, Attribute.value, assigned]
      rw [attributePairs_name _ stops, value?_assigned before after value follows]

theorem mayFollow_render (attributes : List Attribute) :
    MayFollow (attributes.flatMap Attribute.render) := by
  cases attributes with
  | nil => exact .inl rfl
  | cons written others =>
      refine .inr ⟨written.lead, written.name.first, ?_, written.leads, written.name.isLetter, ?_⟩
      · exact written.name.others ++ (written.assignment ++ others.flatMap Attribute.render)
      · simp [Attribute.render, Name.text]

theorem attributePairs_flatMap_render (attributes : List Attribute) :
    attributePairs (attributes.flatMap Attribute.render) =
      attributes.map fun written => (written.name.text, written.value) := by
  induction attributes with
  | nil => simp [attributePairs]
  | cons written others ih =>
      rw [List.flatMap_cons, attributePairs_render written (mayFollow_render others), ih,
        List.map_cons]

/-- Of entries under one name the last one counts. -/
theorem getElem?_foldl_insert {α : Type} (key : α → String) (value : α → String) (entries : List α)
    (before : Attributes) (name : String) :
    (entries.foldl (fun attributes entry => attributes.insert (key entry) (value entry)) before)[name]? =
      ((entries.reverse.find? (key · == name)).map value).or before[name]? := by
  induction entries generalizing before with
  | nil => simp
  | cons entry entries ih =>
      rw [List.foldl_cons, ih, Std.TreeMap.getElem?_insert, List.reverse_cons, List.find?_append]
      cases entries.reverse.find? (key · == name) with
      | some later => rfl
      | none =>
          by_cases same : key entry = name
          · simp [same]
          · simp [same]

/-- Under each name in lower case stands the value that was written last, and nothing under any
other name. -/
theorem parseAttributes_render (attributes : List Attribute) (name : String) :
    (parseAttributes (attributes.flatMap Attribute.render))[name]? =
      (attributes.reverse.find? (·.name.key == name)).map fun written =>
        String.ofList written.value := by
  rw [parseAttributes, attributePairs_flatMap_render, List.foldl_map]
  have inserted := getElem?_foldl_insert (fun written : Attribute => written.name.key)
    (fun written => String.ofList written.value) attributes ∅ name
  exact inserted.trans (by simp)

end InlineScript.Markup
