import InlineScript.Proofs.Markup.Tag

/-!
Script blocks whose content is exchanged. Other content changes nothing about the blocks of a text
and their order, as long as it holds no closing tag.
-/

namespace InlineScript.Markup

namespace Block

variable {text rest content opening attributes after : List Char} {block : Block}

theorem atStart?_eq_some_iff :
    atStart? text = some (block, rest) ↔
      opening? text =
          some (block.opening, block.attributes, block.content ++ (block.closing ++ rest)) ∧
        content? block.content = none ∧
        closing? (block.closing ++ rest) = some (block.closing, rest) := by
  unfold atStart?
  constructor
  · intro found
    split at found
    next => contradiction
    next opening attributes after opened =>
      split at found
      next => contradiction
      next content closing last inner =>
        cases found
        obtain ⟨rfl, clear, closed⟩ := content?_spec inner
        exact ⟨opened, clear, closed⟩
  · rintro ⟨opened, clear, closed⟩
    simp only [opened, content?_append clear closed]

theorem atStart?_eq (found : atStart? text = some (block, rest)) : text = block.text ++ rest := by
  obtain ⟨opened, -, -⟩ := atStart?_eq_some_iff.mp found
  simp [opening?_eq opened, Block.text]

/-- A block is found again with another content and in front of another text. -/
theorem atStart?_exchange (found : atStart? text = some (block, rest))
    (clear : content? content = none) (other : List Char) :
    atStart? ({ block with content }.text ++ other) = some ({ block with content }, other) := by
  obtain ⟨opened, -, closed⟩ := atStart?_eq_some_iff.mp found
  refine atStart?_eq_some_iff.mpr ⟨?_, clear, closing?_exchange closed other⟩
  simpa [Block.text] using opening?_exchange opened (content ++ (block.closing ++ other))

/-- An opening tag in front of a block, or one that reaches into its opening tag, opens a block: the
closing tag of the block is there for it. -/
theorem atStart?_isSome_of_opening? {front behind : List Char}
    (found : atStart? (block.text ++ behind) = some (block, behind))
    (content : List Char)
    (opened : opening? (front ++ ({ block with content }.text ++ behind)) =
      some (opening, attributes, after)) :
    (atStart? (front ++ (block.text ++ behind))).isSome = true := by
  obtain ⟨own, clear, closed⟩ := atStart?_eq_some_iff.mp found
  obtain ⟨start, ends, -⟩ := exists_closing_angle own
  have split (inner : List Char) : front ++ ({ block with content := inner }.text ++ behind) =
      front ++ start ++ '>' :: (inner ++ (block.closing ++ behind)) := by
    simp [Block.text, ends]
  rw [split] at opened
  obtain ⟨more, reached, -⟩ := opening?_reach opened
  have whole : front ++ (block.text ++ behind) =
      opening ++ (more ++ (block.content ++ (block.closing ++ behind))) := by
    rw [← List.append_assoc opening, ← reached]
    simpa using split block.content
  have closes : (content? (more ++ (block.content ++ (block.closing ++ behind)))).isSome = true := by
    apply content?_isSome_append
    rw [content?_append clear closed]
    rfl
  obtain ⟨⟨inner, closing, rest⟩, inside⟩ := Option.isSome_iff_exists.mp closes
  rw [whole, atStart?, opening?_exchange opened]
  simp [inside]

theorem all_of_atStart? (found : atStart? text = some (block, rest)) (offset : Nat) :
    all offset text =
      (offset + Text.byteLength block.opening, block) ::
        all (offset + Text.byteLength block.text) rest := by
  cases text with
  | nil => simp [atStart?, opening?, tagName?] at found
  | cons c text =>
      rw [all]
      split
      next other behind other_found =>
        rw [found] at other_found
        cases other_found
        rfl
      next none =>
        rw [found] at none
        contradiction

theorem all_of_none {c : Char} (none : atStart? (c :: text) = none) (offset : Nat) :
    all offset (c :: text) = all (offset + c.utf8Size) text := by
  rw [all]
  split
  next found =>
    rw [none] at found
    contradiction
  next => rfl

theorem map_snd_all (offset other : Nat) (text : List Char) :
    (all offset text).map Prod.snd = (all other text).map Prod.snd := by
  fun_induction all offset text generalizing other with
  | case1 => simp [all]
  | case2 offset c text block rest found ih =>
      rw [all_of_atStart? found, List.map_cons, List.map_cons, ih]
  | case3 offset c text none ih => rw [all_of_none none, ih]

/-- A listed block stands in the text, and with another content it is listed in its place. -/
theorem exists_of_all_eq {offset start : Nat} {firsts lasts : List (Nat × Block)}
    (listed : all offset text = firsts ++ (start, block) :: lasts) :
    ∃ front behind, text = front ++ (block.text ++ behind) ∧
      start = offset + Text.byteLength (front ++ block.opening) ∧
      atStart? (block.text ++ behind) = some (block, behind) ∧
      ∀ content, content? content = none →
        ∃ others, others.map Prod.snd = lasts.map Prod.snd ∧
          all offset (front ++ ({ block with content }.text ++ behind)) =
            firsts ++ (start, { block with content }) :: others := by
  fun_induction all offset text generalizing firsts with
  | case1 => simp at listed
  | case2 offset c text first rest found ih =>
      have clear := (atStart?_eq_some_iff.mp found).2.1
      cases firsts with
      | nil =>
          simp only [List.nil_append, List.cons.injEq, Prod.mk.injEq] at listed
          obtain ⟨⟨rfl, rfl⟩, rfl⟩ := listed
          refine ⟨[], rest, atStart?_eq found, rfl, atStart?_exchange found clear rest, ?_⟩
          intro content clear
          have again := atStart?_exchange found clear rest
          exact ⟨_, map_snd_all _ _ rest, all_of_atStart? again offset⟩
      | cons head firsts =>
          simp only [List.cons_append, List.cons.injEq] at listed
          obtain ⟨rfl, listed⟩ := listed
          obtain ⟨front, behind, rfl, rfl, own, exchanged⟩ := ih listed
          refine ⟨first.text ++ front, behind, ?_, ?_, own, ?_⟩
          · rw [atStart?_eq found, List.append_assoc]
          · simp only [Text.byteLength_append]
            omega
          · intro content clearContent
            obtain ⟨others, same, after⟩ := exchanged content clearContent
            refine ⟨others, same, ?_⟩
            rw [List.append_assoc, all_of_atStart? (atStart?_exchange found clear _), after]
            rfl
  | case3 offset c text none ih =>
      obtain ⟨front, behind, rfl, rfl, own, exchanged⟩ := ih listed
      refine ⟨c :: front, behind, rfl, ?_, own, ?_⟩
      · simp only [List.cons_append, Text.byteLength]
        omega
      · intro content clear
        obtain ⟨others, same, after⟩ := exchanged content clear
        refine ⟨others, same, ?_⟩
        -- an opening tag here would have the closing tag of the block for its own
        have unopened : opening? (c :: front ++ ({ block with content }.text ++ behind)) =
            .none := by
          cases opened : opening? (c :: front ++ ({ block with content }.text ++ behind)) with
          | none => rfl
          | some parts =>
              have starts := atStart?_isSome_of_opening? own content opened
              rw [List.cons_append, none] at starts
              contradiction
        have still : atStart? (c :: (front ++ ({ block with content }.text ++ behind))) = .none := by
          rw [List.cons_append] at unopened
          simp only [atStart?, unopened]
        rw [List.cons_append, all_of_none still, after]

end Block

namespace Fragment

/-- Whether a block belongs to the module. -/
def ofModule (block : Block) : Bool :=
  (ofBlock 0 block).isModule

theorem isModule_ofBlock (start : Nat) (block : Block) :
    (ofBlock start block).isModule = ofModule block := rfl

/-- Whether a block between others is the script: the first that does not belong to the module, or
the first one if all do. -/
def IsChosen (firsts : List Block) (block : Block) (lasts : List Block) : Prop :=
  ofModule block = false ∧ (∀ other ∈ firsts, ofModule other = true) ∨
    firsts = [] ∧ ofModule block = true ∧ ∀ other ∈ lasts, ofModule other = true

theorem find?_eq_some_iff {markup : List Char} {fragment : Fragment} :
    find? markup = some fragment ↔
      ∃ firsts start block lasts, Block.all 0 markup = firsts ++ (start, block) :: lasts ∧
        fragment = ofBlock start block ∧
        IsChosen (firsts.map Prod.snd) block (lasts.map Prod.snd) := by
  unfold find?
  generalize Block.all 0 markup = blocks
  simp only [List.find?_map, List.head?_map, Option.or_eq_some_iff, Option.map_eq_some_iff,
    Option.map_eq_none_iff]
  constructor
  · rintro (⟨⟨start, block⟩, first, rfl⟩ | ⟨none, ⟨start, block⟩, first, rfl⟩)
    · obtain ⟨own, firsts, lasts, rfl, before⟩ := List.find?_eq_some_iff_append.mp first
      refine ⟨firsts, start, block, lasts, rfl, rfl, .inl ⟨?_, ?_⟩⟩
      · simpa [isModule_ofBlock] using own
      · intro other member
        obtain ⟨entry, listed, rfl⟩ := List.mem_map.mp member
        simpa [isModule_ofBlock] using before entry listed
    · obtain ⟨lasts, rfl⟩ := List.head?_eq_some_iff.mp first
      have modules := List.find?_eq_none.mp none
      refine ⟨[], start, block, lasts, rfl, rfl, .inr ⟨rfl, ?_, ?_⟩⟩
      · simpa [isModule_ofBlock] using modules (start, block) List.mem_cons_self
      · intro other member
        obtain ⟨entry, listed, rfl⟩ := List.mem_map.mp member
        simpa [isModule_ofBlock] using modules entry (List.mem_cons_of_mem _ listed)
  · rintro ⟨firsts, start, block, lasts, rfl, rfl, ⟨own, before⟩ | ⟨empty, own, behind⟩⟩
    · refine .inl ⟨(start, block), ?_, rfl⟩
      rw [List.find?_eq_some_iff_append]
      refine ⟨by simp [isModule_ofBlock, own], firsts, lasts, rfl, ?_⟩
      intro entry listed
      simpa [isModule_ofBlock] using before entry.2 (List.mem_map_of_mem listed)
    · rw [List.map_eq_nil_iff] at empty
      subst empty
      refine .inr ⟨?_, (start, block), rfl, rfl⟩
      rw [List.nil_append, List.find?_eq_none]
      intro entry listed
      rcases List.mem_cons.mp listed with rfl | listed
      · simp [isModule_ofBlock, own]
      · simpa [isModule_ofBlock] using behind entry.2 (List.mem_map_of_mem listed)

/-- The script of a markup text, and that of the text with another content in its place. -/
theorem find?_exchange {markup : List Char} {fragment : Fragment}
    (found : find? markup = some fragment) :
    ∃ front behind, markup = front ++ (fragment.content ++ behind) ∧
      fragment.start = Text.byteLength front ∧
      Block.content? fragment.content = none ∧
      ∀ content, Block.content? content = none →
        find? (front ++ (content ++ behind)) = some { fragment with content } := by
  obtain ⟨firsts, start, block, lasts, listed, rfl, chosen⟩ := find?_eq_some_iff.mp found
  obtain ⟨front, behind, rfl, place, own, exchanged⟩ := Block.exists_of_all_eq listed
  refine ⟨front ++ block.opening, block.closing ++ behind, ?_, ?_, ?_, ?_⟩
  · simp [ofBlock, Block.text]
  · simp [ofBlock, place]
  · exact (Block.atStart?_eq_some_iff.mp own).2.1
  · intro content clear
    obtain ⟨others, same, after⟩ := exchanged content clear
    rw [find?_eq_some_iff]
    refine ⟨firsts, start, { block with content }, others, ?_, rfl, ?_⟩
    · simpa [Block.text] using after
    · rw [same]
      exact chosen

end Fragment

end InlineScript.Markup
