import InlineScript.Proofs.Markup.Block
import InlineScript.Proofs.Text.LineIndex

/-!
Which script of a markup text is taken. A block is described by how it is spelled and where it
stands; the blocks of a text are then those met from left to right, each at the first place behind
the one before it. The script is the first of them that does not belong to the module, or else the
first one.
-/

namespace InlineScript.Text

/-- Of two cuts of a text the one at the larger offset goes on where the other stops. -/
theorem exists_append_of_byteLength_le {front other behind rest : List Char}
    (same : front ++ behind = other ++ rest) (ordered : byteLength front ≤ byteLength other) :
    ∃ more, other = front ++ more ∧ behind = more ++ rest := by
  rcases List.append_eq_append_iff.mp same with ⟨more, longer, split⟩ | ⟨more, longer, split⟩
  · exact ⟨more, longer, split⟩
  · have empty : more = [] := by
      by_contra some
      have positive := byteLength_pos some
      rw [longer, byteLength_append] at ordered
      omega
    subst empty
    exact ⟨[], by simpa using longer.symm, by simpa using split.symm⟩

end InlineScript.Text

namespace InlineScript.Markup

open Text (byteLength isBlank isWord exists_append_of_byteLength_le)

/-! ## Spelling -/

/-- The characters that may stand for each letter of `script`, in either case. -/
def scriptLetters : List (List Char) :=
  [['s', 'S', 'ſ'], ['c', 'C'], ['r', 'R'], ['i', 'I'], ['p', 'P'], ['t', 'T']]

def Spells (choices : List (List Char)) (name : List Char) : Prop :=
  List.Forall₂ (fun choice c => c ∈ choice) choices name

/-- A place with a word character on exactly one side. -/
def IsWordBoundary (before after : List Char) : Prop :=
  before.getLast?.any isWord ≠ after.head?.any isWord

/-- `</script`, blanks and `>`. -/
def IsClosingTag (tag : List Char) : Prop :=
  ∃ name blanks, Spells (['<'] :: ['/'] :: scriptLetters) name ∧
    (∀ c ∈ blanks, isBlank c = true) ∧ tag = name ++ blanks ++ ['>']

def StartsWithClosingTag (text : List Char) : Prop :=
  ∃ tag rest, IsClosingTag tag ∧ text = tag ++ rest

/-- `<script` up to the end of a word, and all up to the next `>`. -/
def IsOpeningTag (tag attributes : List Char) : Prop :=
  ∃ name, Spells (['<'] :: scriptLetters) name ∧ IsWordBoundary name (attributes ++ ['>']) ∧
    '>' ∉ attributes ∧ tag = name ++ attributes ++ ['>']

/-- A block that stands at a byte offset of a markup text. Its content is the shortest that a
closing tag follows. -/
structure IsBlockAt (markup : List Char) (place : Nat) (block : Block) : Prop where
  opening : IsOpeningTag block.opening block.attributes
  closing : IsClosingTag block.closing
  stands : ∃ front behind, byteLength front = place ∧
    markup = front ++ (block.opening ++ (block.content ++ (block.closing ++ behind))) ∧
    ∀ inner rest, block.content = inner ++ rest → rest ≠ [] →
      ¬ StartsWithClosingTag (rest ++ (block.closing ++ behind))

/-- The blocks met from an offset on, each at the first place behind the one before it. -/
inductive Enumerates (markup : List Char) : Nat → List (Nat × Block) → Prop
  | done {start : Nat} (clear : ∀ place block, start ≤ place → ¬ IsBlockAt markup place block) :
      Enumerates markup start []
  | next {start place : Nat} {block : Block} {entries : List (Nat × Block)}
      (ordered : start ≤ place) (stands : IsBlockAt markup place block)
      (first : ∀ earlier other, start ≤ earlier → earlier < place →
        ¬ IsBlockAt markup earlier other)
      (rest : Enumerates markup (place + byteLength block.text) entries) :
      Enumerates markup start ((place, block) :: entries)

def BelongsToModule (block : Block) : Prop :=
  (parseAttributes block.attributes)["context"]? = some "module"

/-- The script that a block at an offset holds. -/
def scriptOf (entry : Nat × Block) : Fragment where
  start := entry.1 + byteLength entry.2.opening
  content := entry.2.content
  attributes := parseAttributes entry.2.attributes

/-- Which script is taken of the blocks that are met. -/
inductive Takes : List (Nat × Block) → Option Fragment → Prop
  | own {modules others : List (Nat × Block)} {entry : Nat × Block}
      (before : ∀ other ∈ modules, BelongsToModule other.2) (own : ¬ BelongsToModule entry.2) :
      Takes (modules ++ entry :: others) (some (scriptOf entry))
  | first {entries : List (Nat × Block)} (all : ∀ other ∈ entries, BelongsToModule other.2) :
      Takes entries (entries.head?.map scriptOf)

/-! ## Tags as they are found -/

theorem toLower_eq_letter_iff {letter upper : Char} (small : letter.toLower = letter)
    (lowered : upper.toLower = letter) (paired : upper.toNat + 32 = letter.toNat) (c : Char) :
    c.toLower = letter ↔ c = letter ∨ c = upper := by
  constructor
  · intro found
    cases toLower_cases c with
    | inl same => exact .inl (same.symm.trans found)
    | inr moved =>
        right
        rw [found] at moved
        apply Char.toNat_inj.mp
        omega
  · intro listed
    cases listed with
    | inl same => rw [same, small]
    | inr same => rw [same, lowered]

/-- The letters of a tag name and the characters that are found for them. -/
def FoldTo (letters : List Char) (choices : List (List Char)) : Prop :=
  List.Forall₂ (fun letter choice => ∀ c, foldsTo letter c = true ↔ c ∈ choice) letters choices

theorem foldTo_script : FoldTo ['s', 'c', 'r', 'i', 'p', 't'] scriptLetters := by
  have plain {letter upper : Char} (other : letter ≠ 's') (small : letter.toLower = letter)
      (lowered : upper.toLower = letter) (paired : upper.toNat + 32 = letter.toNat) (c : Char) :
      foldsTo letter c = true ↔ c ∈ [letter, upper] := by
    simp [foldsTo, other, toLower_eq_letter_iff small lowered paired]
  have long (c : Char) : foldsTo 's' c = true ↔ c ∈ ['s', 'S', 'ſ'] := by
    have lowered : c.toLower = 's' ↔ c = 's' ∨ c = 'S' :=
      toLower_eq_letter_iff (by decide) (by decide) (by decide) c
    simp [foldsTo, lowered, or_assoc]
  refine .cons long (.cons ?_ (.cons ?_ (.cons ?_ (.cons ?_ (.cons ?_ .nil)))))
  all_goals exact plain (by decide) rfl rfl rfl

theorem FoldTo.sign {letters : List Char} {choices : List (List Char)} {sign : Char}
    (small : sign.toLower = sign) (below : sign.toNat < 97) (rest : FoldTo letters choices) :
    FoldTo (sign :: letters) ([sign] :: choices) := by
  have other : sign ≠ 's' := by
    rintro rfl
    exact absurd below (by decide)
  refine .cons (fun c => ?_) rest
  simp [foldsTo, other, toLower_eq_sign_iff small below]

theorem FoldTo.spells_iff {letters : List Char} {choices : List (List Char)}
    (folds : FoldTo letters choices) (name : List Char) :
    List.Forall₂ (fun letter c => foldsTo letter c = true) letters name ↔ Spells choices name := by
  unfold Spells
  induction folds generalizing name with
  | nil => simp
  | cons own _ ih =>
      cases name with
      | nil => simp
      | cons c name => simp only [List.forall₂_cons, own, ih]

theorem Spells.exists_getLast? (choices : List (List Char)) {choice name : List Char}
    (spells : Spells (choices ++ [choice]) name) : ∃ c ∈ choice, name.getLast? = some c := by
  induction choices generalizing name with
  | nil =>
      cases spells with
      | cons listed rest =>
          cases rest
          exact ⟨_, listed, rfl⟩
  | cons _ choices ih =>
      cases spells with
      | cons _ rest =>
          obtain ⟨c, listed, last⟩ := ih rest
          exact ⟨c, listed, by simp [List.getLast?_cons, last]⟩

theorem foldTo_closing :
    FoldTo ['<', '/', 's', 'c', 'r', 'i', 'p', 't'] (['<'] :: ['/'] :: scriptLetters) :=
  .sign rfl (by decide) (.sign rfl (by decide) foldTo_script)

theorem foldTo_opening :
    FoldTo ['<', 's', 'c', 'r', 'i', 'p', 't'] (['<'] :: scriptLetters) :=
  .sign rfl (by decide) foldTo_script

namespace Block

variable {markup text rest : List Char} {block : Block} {place : Nat}

theorem closing?_iff_isClosingTag (tag rest : List Char) :
    closing? (tag ++ rest) = some (tag, rest) ↔ IsClosingTag tag := by
  rw [closing?_eq_some_iff, IsClosingTag]
  constructor
  · intro found
    obtain ⟨name, blanks, allBlank, spelled, named⟩ := found
    obtain ⟨-, letters⟩ := tagName?_eq_some_iff.mp named
    exact ⟨name, blanks, (foldTo_closing.spells_iff name).mp letters, allBlank, spelled⟩
  · intro isTag
    obtain ⟨name, blanks, letters, allBlank, spelled⟩ := isTag
    refine ⟨name, blanks, allBlank, spelled, tagName?_eq_some_iff.mpr ⟨?_, ?_⟩⟩
    · simp [spelled]
    · exact (foldTo_closing.spells_iff name).mpr letters

theorem startsWithClosingTag_iff (text : List Char) :
    StartsWithClosingTag text ↔ closing? text ≠ none := by
  constructor
  · intro starts
    obtain ⟨tag, rest, isTag, split⟩ := starts
    rw [split, (closing?_iff_isClosingTag tag rest).mpr isTag]
    exact Option.some_ne_none _
  · intro found
    obtain ⟨⟨tag, rest⟩, closed⟩ := Option.ne_none_iff_exists'.mp found
    have split := closing?_eq closed
    rw [split] at closed
    exact ⟨tag, rest, (closing?_iff_isClosingTag tag rest).mp closed, split⟩

/-- The name ends with a letter, so the place behind it is a boundary where no word goes on. -/
theorem isWordBoundary_name {name : List Char} (spells : Spells (['<'] :: scriptLetters) name)
    (after : List Char) : IsWordBoundary name after ↔ after.head?.any isWord = false := by
  obtain ⟨c, ends, last⟩ : ∃ c ∈ ['t', 'T'], name.getLast? = some c :=
    Spells.exists_getLast? (['<'] :: scriptLetters.dropLast) spells
  have isLetter : isWord c = true := by
    cases List.mem_pair.mp ends with
    | inl same =>
        rw [same]
        decide
    | inr same =>
        rw [same]
        decide
  rw [IsWordBoundary, last, Option.any_some, isLetter]
  simp

theorem opening?_iff_isOpeningTag (tag attributes after : List Char) :
    opening? (tag ++ after) = some (tag, attributes, after) ↔ IsOpeningTag tag attributes := by
  have follows : (attributes ++ ['>']).head?.any isWord = isWord (attributes.head?.getD '>') := by
    cases attributes <;> simp
  rw [opening?_eq_some_iff, IsOpeningTag]
  constructor
  · intro found
    obtain ⟨name, spelled, clear, separate, named⟩ := found
    have letters := (foldTo_opening.spells_iff name).mp (tagName?_eq_some_iff.mp named).2
    refine ⟨name, letters, (isWordBoundary_name letters _).mpr ?_, clear, spelled⟩
    rw [follows, separate]
  · intro isTag
    obtain ⟨name, letters, boundary, clear, spelled⟩ := isTag
    have separate := (isWordBoundary_name letters _).mp boundary
    rw [follows] at separate
    refine ⟨name, spelled, clear, separate, tagName?_eq_some_iff.mpr ⟨?_, ?_⟩⟩
    · simp [spelled]
    · exact (foldTo_opening.spells_iff name).mpr letters

theorem content?_eq_none_iff (content : List Char) :
    content? content = none ↔ ∀ inner rest, content = inner ++ rest → closing? rest = none := by
  induction content with
  | nil =>
      refine ⟨fun _ inner rest split => ?_, fun _ => rfl⟩
      rw [(List.append_eq_nil_iff.mp split.symm).2]
      rfl
  | cons c content ih =>
      rw [content?_cons_eq_none_iff, ih]
      constructor
      · intro clear inner rest split
        cases inner with
        | nil =>
            rw [List.nil_append] at split
            rw [← split, clear.1]
        | cons d inner =>
            rw [List.cons_append, List.cons.injEq] at split
            exact clear.2 inner rest split.2
      · intro clear
        refine ⟨clear [] (c :: content) rfl, fun inner rest split => ?_⟩
        exact clear (c :: inner) rest (by rw [split, List.cons_append])

/-- A content is the shortest in front of a closing tag if it holds none itself. -/
theorem content?_eq_none_iff_shortest {content closing behind : List Char}
    (closed : closing? (closing ++ behind) = some (closing, behind)) :
    content? content = none ↔ ∀ inner rest, content = inner ++ rest → rest ≠ [] →
      ¬ StartsWithClosingTag (rest ++ (closing ++ behind)) := by
  obtain ⟨tail, rfl, -⟩ := exists_angle closed
  have same {rest : List Char} (some : rest ≠ []) :
      ¬ StartsWithClosingTag (rest ++ ('<' :: tail ++ behind)) ↔ closing? rest = none := by
    rw [startsWithClosingTag_iff, not_not, List.cons_append]
    exact closing?_append_angle some (tail ++ behind)
  rw [content?_eq_none_iff]
  constructor
  · intro clear inner rest split some
    exact (same some).mpr (clear inner rest split)
  · intro shortest inner rest split
    by_cases empty : rest = []
    · rw [empty]
      rfl
    · exact (same empty).mp (shortest inner rest split empty)

theorem isBlockAt_iff :
    IsBlockAt markup place block ↔ ∃ front behind, byteLength front = place ∧
      markup = front ++ (block.text ++ behind) ∧
      atStart? (block.text ++ behind) = some (block, behind) := by
  have parts (behind : List Char) : block.text ++ behind =
      block.opening ++ (block.content ++ (block.closing ++ behind)) := by simp [Block.text]
  constructor
  · intro isBlock
    obtain ⟨front, behind, atPlace, split, shortest⟩ := isBlock.stands
    have closed := (closing?_iff_isClosingTag _ behind).mpr isBlock.closing
    refine ⟨front, behind, atPlace, by rw [split, parts], atStart?_eq_some_iff.mpr ⟨?_, ?_, closed⟩⟩
    · rw [parts]
      exact (opening?_iff_isOpeningTag _ _ _).mpr isBlock.opening
    · exact (content?_eq_none_iff_shortest closed).mpr shortest
  · intro found
    obtain ⟨front, behind, atPlace, split, starts⟩ := found
    obtain ⟨opened, clear, closed⟩ := atStart?_eq_some_iff.mp starts
    rw [parts] at opened split
    exact {
      opening := (opening?_iff_isOpeningTag _ _ _).mp opened
      closing := (closing?_iff_isClosingTag _ _).mp closed
      stands := ⟨front, behind, atPlace, split, (content?_eq_none_iff_shortest closed).mp clear⟩ }

/-! ## Blocks as they are met -/

theorem isBlockAt_byteLength_iff {front : List Char} :
    IsBlockAt (front ++ text) (byteLength front) block ↔
      ∃ rest, atStart? text = some (block, rest) := by
  rw [isBlockAt_iff]
  constructor
  · intro found
    obtain ⟨other, behind, atPlace, split, starts⟩ := found
    obtain ⟨more, rfl, rest⟩ := exists_append_of_byteLength_le split (by omega)
    have empty : more = [] := by
      by_contra some
      have positive := Text.byteLength_pos some
      rw [Text.byteLength_append] at atPlace
      omega
    subst empty
    exact ⟨behind, by rw [rest, List.nil_append, starts]⟩
  · intro found
    obtain ⟨rest, starts⟩ := found
    have split := atStart?_eq starts
    exact ⟨front, rest, rfl, by rw [split], by rw [← split, starts]⟩

theorem text_ne_nil (found : atStart? text = some (block, rest)) : block.text ≠ [] := by
  intro empty
  have shorter := atStart?_length found
  rw [atStart?_eq found, empty] at shorter
  simp at shorter

/-- Blocks stand at the start of a character. -/
theorem not_isBlockAt_inside {front : List Char} {c : Char} (inside : byteLength front < place)
    (beyond : place < byteLength front + c.utf8Size) : ¬ IsBlockAt (front ++ c :: text) place block := by
  intro isBlock
  obtain ⟨other, behind, atPlace, split, -⟩ := isBlockAt_iff.mp isBlock
  obtain ⟨more, rfl, rest⟩ := exists_append_of_byteLength_le split (by omega)
  rw [Text.byteLength_append] at atPlace
  cases more with
  | nil =>
      simp only [byteLength] at atPlace
      omega
  | cons d more =>
      rw [List.cons_append, List.cons.injEq] at rest
      rw [← rest.1] at atPlace
      simp only [byteLength] at atPlace
      omega

theorem not_isBlockAt_end (ordered : byteLength markup ≤ place) : ¬ IsBlockAt markup place block := by
  intro isBlock
  obtain ⟨front, behind, atPlace, split, starts⟩ := isBlockAt_iff.mp isBlock
  have positive := Text.byteLength_pos (text_ne_nil starts)
  rw [split, Text.byteLength_append, Text.byteLength_append] at ordered
  omega

end Block

open Block

theorem IsBlockAt.unique {markup : List Char} {place : Nat} {block other : Block}
    (stands : IsBlockAt markup place block) (otherStands : IsBlockAt markup place other) :
    block = other := by
  obtain ⟨front, behind, atPlace, split, starts⟩ := isBlockAt_iff.mp stands
  rw [split, ← atPlace, isBlockAt_byteLength_iff, starts] at otherStands
  obtain ⟨rest, same⟩ := otherStands
  cases same
  rfl

theorem IsBlockAt.slice?_content {markup : List Char} {place : Nat} {block : Block}
    (stands : IsBlockAt markup place block) :
    Text.slice? markup (place + byteLength block.opening)
      (place + byteLength block.opening + byteLength block.content) = some block.content := by
  obtain ⟨front, behind, atPlace, split, -⟩ := stands.stands
  rw [split, ← atPlace, ← List.append_assoc, ← Text.byteLength_append]
  exact Text.slice?_append _ _ _

/-- No closing tag starts inside the content of a block, not even one that would end behind it. -/
theorem IsBlockAt.content_clear {markup front behind : List Char} {place : Nat} {block : Block}
    (stands : IsBlockAt markup place block) (cut : markup = front ++ behind)
    (inside : place + byteLength block.opening ≤ byteLength front)
    (beyond : byteLength front < place + byteLength block.opening + byteLength block.content) :
    ¬ StartsWithClosingTag behind := by
  obtain ⟨before, rest, atPlace, split, shortest⟩ := stands.stands
  have whole : (before ++ block.opening) ++ (block.content ++ (block.closing ++ rest)) =
      front ++ behind := by
    rw [← cut, split, List.append_assoc]
  have start : byteLength (before ++ block.opening) = place + byteLength block.opening := by
    rw [Text.byteLength_append, atPlace]
  obtain ⟨inner, reached, left⟩ := exists_append_of_byteLength_le whole (by omega)
  have shorter : byteLength inner < byteLength block.content := by
    rw [reached, Text.byteLength_append, start] at beyond
    omega
  obtain ⟨more, content, behindMore⟩ := exists_append_of_byteLength_le left.symm (by omega)
  rw [behindMore]
  apply shortest inner more content
  intro empty
  rw [content, empty, List.append_nil] at shorter
  omega

namespace Enumerates

variable {markup : List Char} {start : Nat} {entries : List (Nat × Block)}

theorem skip {sooner : Nat} (ordered : sooner ≤ start)
    (between : ∀ place block, sooner ≤ place → place < start → ¬ IsBlockAt markup place block)
    (later : Enumerates markup start entries) : Enumerates markup sooner entries := by
  cases later with
  | done clear =>
      apply done
      intro place block behind
      by_cases early : place < start
      · exact between place block behind early
      · exact clear place block (by omega)
  | next behind stands first rest =>
      refine next (by omega) stands (fun earlier other notSooner before => ?_) rest
      by_cases early : earlier < start
      · exact between earlier other notSooner early
      · exact first earlier other (by omega) before

theorem isBlockAt {entry : Nat × Block} (enumerated : Enumerates markup start entries)
    (member : entry ∈ entries) : IsBlockAt markup entry.1 entry.2 := by
  induction enumerated with
  | done => contradiction
  | next ordered stands first rest ih =>
      cases List.mem_cons.mp member with
      | inl same =>
          rw [same]
          exact stands
      | inr later => exact ih later

theorem unique {others : List (Nat × Block)} (one : Enumerates markup start entries)
    (other : Enumerates markup start others) : entries = others := by
  induction one generalizing others with
  | done clear =>
      cases other with
      | done => rfl
      | next ordered stands => exact absurd stands (clear _ _ ordered)
  | next ordered stands first rest ih =>
      cases other with
      | done clear => exact absurd stands (clear _ _ ordered)
      | next otherOrdered otherStands otherFirst otherRest =>
          rename_i place block entries otherPlace otherBlock others
          have samePlace : place = otherPlace := by
            have notBefore : ¬ otherPlace < place := fun before =>
              first _ _ otherOrdered before otherStands
            have notBehind : ¬ place < otherPlace := fun before =>
              otherFirst _ _ ordered before stands
            omega
          subst samePlace
          have sameBlock := stands.unique otherStands
          subst sameBlock
          rw [ih otherRest]

end Enumerates

namespace Fragment

/-- The blocks that the search finds are those that are met. -/
theorem exists_enumerates (front text : List Char) :
    ∃ entries, Enumerates (front ++ text) (byteLength front) entries ∧
      (Block.all (byteLength front) text).map (fun (start, block) => ofBlock start block) =
        entries.map scriptOf := by
  generalize atFront : byteLength front = offset
  fun_induction Block.all offset text generalizing front with
  | case1 offset =>
      refine ⟨[], .done fun place block ordered => ?_, rfl⟩
      apply not_isBlockAt_end
      simpa [atFront] using ordered
  | case2 offset c text block rest found ih =>
      subst atFront
      have split := atStart?_eq found
      obtain ⟨entries, enumerated, same⟩ := ih (front ++ block.text) (Text.byteLength_append _ _)
      refine ⟨(byteLength front, block) :: entries, .next (Nat.le_refl _) ?_ ?_ ?_, ?_⟩
      · exact isBlockAt_byteLength_iff.mpr ⟨rest, found⟩
      · intro earlier other ordered before
        omega
      · rw [split, ← List.append_assoc]
        exact enumerated
      · rw [List.map_cons, List.map_cons, same]
        rfl
  | case3 offset c text none ih =>
      subst atFront
      obtain ⟨entries, enumerated, same⟩ := ih (front ++ [c]) (by
        simp [Text.byteLength_append, byteLength])
      rw [List.append_assoc, List.singleton_append] at enumerated
      refine ⟨entries, enumerated.skip (Nat.le_add_right _ _) ?_, same⟩
      intro place block ordered before
      by_cases here : place = byteLength front
      · subst here
        rw [isBlockAt_byteLength_iff, none]
        simp
      · exact not_isBlockAt_inside (by omega) before

theorem isModule_scriptOf (entry : Nat × Block) :
    (scriptOf entry).isModule = true ↔ BelongsToModule entry.2 := by
  simp [isModule, scriptOf, BelongsToModule]

theorem takes_scripts (entries : List (Nat × Block)) :
    Takes entries
      (((entries.map scriptOf).find? (!·.isModule)).or (entries.map scriptOf).head?) := by
  rw [List.find?_map, List.head?_map]
  cases found : entries.find? ((!·.isModule) ∘ scriptOf) with
  | none =>
      apply Takes.first
      intro other member
      have notOwn := List.find?_eq_none.mp found other member
      apply (isModule_scriptOf other).mp
      simpa using notOwn
  | some entry =>
      obtain ⟨own, modules, others, split, before⟩ := List.find?_eq_some_iff_append.mp found
      rw [split]
      apply Takes.own
      · intro other member
        have notOwn := before other member
        apply (isModule_scriptOf other).mp
        simpa using notOwn
      · rw [← isModule_scriptOf]
        simpa using own

theorem exists_of_takes {entries : List (Nat × Block)} {fragment : Fragment}
    (takes : Takes entries (some fragment)) : ∃ entry ∈ entries, fragment = scriptOf entry := by
  generalize taken : some fragment = result at takes
  cases takes with
  | own before own =>
      cases taken
      exact ⟨_, by simp, rfl⟩
  | first all =>
      obtain ⟨entry, first, same⟩ := Option.map_eq_some_iff.mp taken.symm
      exact ⟨entry, List.mem_of_head? first, same.symm⟩

/-- The script of a markup text, from the blocks that are met in it. -/
theorem find?_takes_first_own (markup : List Char) :
    ∃ entries, (∀ others, Enumerates markup 0 others ↔ others = entries) ∧
      Takes entries (find? markup) ∧
      ∀ fragment, find? markup = some fragment →
        Text.slice? markup fragment.start fragment.stop = some fragment.content ∧
        ∀ front behind, markup = front ++ behind → fragment.start ≤ byteLength front →
          byteLength front < fragment.stop → ¬ StartsWithClosingTag behind := by
  obtain ⟨entries, enumerated, same⟩ := exists_enumerates [] markup
  have takes : Takes entries (find? markup) := by
    have fragments := takes_scripts entries
    rw [← same] at fragments
    exact fragments
  refine ⟨entries, fun others => ⟨fun met => met.unique enumerated, ?_⟩, takes, ?_⟩
  · intro equal
    rw [equal]
    exact enumerated
  · intro fragment found
    rw [found] at takes
    obtain ⟨entry, member, script⟩ := exists_of_takes takes
    have stands := enumerated.isBlockAt member
    rw [script]
    exact ⟨stands.slice?_content, fun front behind => stands.content_clear⟩

end Fragment

end InlineScript.Markup
