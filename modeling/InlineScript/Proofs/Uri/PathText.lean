import InlineScript.Proofs.Path.NormalForm
import InlineScript.Uri.Reader

/-!
Paths of URIs as they are read. A path has no mark of a query or a fragment, and a path that starts
with a slash has no dot behind its first slash.
-/

namespace InlineScript.Uri

/-! ## Marks -/

/-- The characters that divide the parts of a URI. -/
def marks : List Char := ['/', '?', '#', '@', ':', '[']

/-- A text without some characters. -/
def Lacks (chars text : List Char) : Prop :=
  ∀ char ∈ text, char ∉ chars

instance (chars text : List Char) : Decidable (Lacks chars text) :=
  decidable_of_iff (text.all (!chars.contains ·) = true) (by simp [Lacks])

section

variable {chars first second text : List Char}

theorem Lacks.nil : Lacks chars [] :=
  fun _ member => absurd member List.not_mem_nil

theorem Lacks.cons {char : Char} (allowed : char ∉ chars) (lacks : Lacks chars text) :
    Lacks chars (char :: text) := by
  intro other member
  rcases List.mem_cons.mp member with rfl | later
  · exact allowed
  · exact lacks other later

theorem Lacks.append (inFirst : Lacks chars first) (inSecond : Lacks chars second) :
    Lacks chars (first ++ second) := by
  intro char member
  rcases List.mem_append.mp member with here | there
  · exact inFirst char here
  · exact inSecond char there

theorem Lacks.of_subset (lacks : Lacks chars text) (subset : first ⊆ text) : Lacks chars first :=
  fun char member => lacks char (subset member)

theorem Lacks.fewer {others : List Char} (lacks : Lacks chars text) (subset : others ⊆ chars) :
    Lacks others text :=
  fun char member isOther => lacks char member (subset isOther)

theorem Lacks.take (lacks : Lacks chars text) (count : Nat) : Lacks chars (text.take count) :=
  lacks.of_subset (List.take_subset count text)

theorem Lacks.drop (lacks : Lacks chars text) (count : Nat) : Lacks chars (text.drop count) :=
  lacks.of_subset (List.drop_subset count text)

end

theorem hexDigit_not_mem_marks {value : Nat} (small : value < 16) : hexDigit value ∉ marks := by
  have all : ∀ value < 16, hexDigit value ∉ marks := by decide
  exact all value small

theorem escapeByte_lacks_marks (byte : UInt8) : Lacks marks (escapeByte byte) := by
  intro char member
  have bound := byte.toNat_lt
  simp only [escapeByte, List.mem_cons, List.not_mem_nil, or_false] at member
  rcases member with rfl | rfl | rfl
  · decide
  · exact hexDigit_not_mem_marks (by omega)
  · exact hexDigit_not_mem_marks (by omega)

/-- Characters that are written by their values bring in no mark. -/
theorem escape_lacks {plain : Char → Bool} {chars text : List Char} (areMarks : chars ⊆ marks)
    (kept : ∀ char ∈ text, plain char = true → char ∉ chars) : Lacks chars (escape plain text) := by
  intro char member
  obtain ⟨source, inText, written⟩ := List.mem_flatMap.mp member
  split at written
  · rename_i isPlain
    rw [List.mem_singleton.mp written]
    exact kept source inText isPlain
  · obtain ⟨byte, _, inByte⟩ := List.mem_flatMap.mp written
    exact fun inChars => escapeByte_lacks_marks byte char inByte (areMarks inChars)

/-! ## Segments -/

theorem plainInPath_lacks {char : Char} (plain : plainInPath char = true) : char ∉ ['?', '#'] := by
  intro member
  simp only [List.mem_cons, List.not_mem_nil, or_false] at member
  rcases member with rfl | rfl <;> revert plain <;> decide

theorem openLast_isPrefix (text : List Char) : openLast text <+: text := by
  unfold openLast
  dsimp only
  split
  · exact List.dropLast_prefix text
  · exact List.prefix_rfl

theorem goUp_isPrefix (kind : SchemeKind) (text : List Char) : goUp kind text <+: text := by
  unfold goUp
  dsimp only
  split
  · exact openLast_isPrefix text
  · have taken : throughSlash (openLast text) <+: openLast text := List.take_prefix _ _
    exact taken.trans (openLast_isPrefix text)

section

variable (kind : SchemeKind) {path : PathText}

theorem lacks_closeWithSlash {text : List Char} (lacks : Lacks ['?', '#'] text) :
    Lacks ['?', '#'] (closeWithSlash text) := by
  unfold closeWithSlash
  split
  · exact lacks
  · exact lacks.append (by decide)

theorem lacks_addPart (lacks : Lacks ['?', '#'] path.text) (part : List Char) :
    Lacks ['?', '#'] (addPart kind path part).text := by
  have written : Lacks ['?', '#'] (escape plainInPath part) :=
    escape_lacks (by decide) fun char _ plain => plainInPath_lacks plain
  unfold addPart
  dsimp only
  split
  · exact (lacks.append (by decide)).append written
  · exact lacks.append written

theorem lacks_addParts (lacks : Lacks ['?', '#'] path.text) (parts : List (List Char)) :
    Lacks ['?', '#'] (parts.foldl (addPart kind) path).text := by
  induction parts generalizing path with
  | nil => exact lacks
  | cons part rest ih => exact ih (lacks_addPart kind lacks part)

theorem lacks_addSegment (lacks : Lacks ['?', '#'] path.text) (slashed : Bool)
    (segment : List Char) : Lacks ['?', '#'] (addSegment kind path slashed segment).text := by
  have lacksAdded := lacks_addParts kind lacks (solidParts segment)
  have slash : Lacks ['?', '#'] (if slashed then ['/'] else []) := by cases slashed <;> decide
  have colon : Lacks ['?', '#'] [':'] := by decide
  unfold addSegment
  generalize (solidParts segment).foldl (addPart kind) path = added at lacksAdded ⊢
  dsimp only
  split
  · have upper := (lacksAdded.take added.start).of_subset (goUp_isPrefix kind _).subset
    split
    · exact lacks_closeWithSlash upper
    · exact upper
  · split
    · exact lacks_closeWithSlash (lacksAdded.take added.start)
    · split
      · exact (((lacksAdded.take _).append ((lacksAdded.drop _).take 1)).append colon).append slash
      · exact lacksAdded.append slash

theorem lacks_addSegments (lacks : Lacks ['?', '#'] path.text) (segments : List (List Char)) :
    Lacks ['?', '#'] (addSegments kind path segments).text := by
  induction segments generalizing path with
  | nil => exact lacks
  | cons segment rest ih =>
      have placed : Lacks ['?', '#'] ({ path with start := path.text.length } : PathText).text :=
        lacks
      cases rest with
      | nil => exact lacks_addSegment kind placed false segment
      | cons next others => exact ih (lacks_addSegment kind placed true segment)

end

theorem lacks_readPath (kind : SchemeKind) {front : List Char} (lacks : Lacks ['?', '#'] front)
    (text : List Char) : Lacks ['?', '#'] (readPath kind front text).text := by
  have read : Lacks ['?', '#']
      (addSegments kind ⟨front, 0, false⟩ (text.splitOnP kind.divides)).text :=
    lacks_addSegments kind lacks _
  unfold readPath
  dsimp only
  split
  · intro char member
    rcases List.mem_cons.mp member with rfl | rest
    · decide
    · exact read char ((List.dropWhile_suffix _).subset rest)
  · exact read

theorem lacks_readPathAfterHost (kind : SchemeKind) (text : List Char) :
    Lacks ['?', '#'] (readPathAfterHost kind text).text := by
  have slash : Lacks ['?', '#'] ['/'] := by decide
  have empty : Lacks ['?', '#'] [] := by decide
  unfold readPathAfterHost
  split
  · split
    · exact lacks_readPath kind slash _
    · exact empty
  · split
    · split <;> exact lacks_readPath kind slash _
    · split
      · exact lacks_readPath kind empty _
      · exact lacks_readPath kind slash _

/-! ## Starts of paths -/

/-- A path that starts with a slash and has no dot behind it. -/
structure Opens (text : List Char) : Prop where
  slash : text.head? = some '/'
  dotless : ¬ ['/', '.', '/'] <+: text

theorem head?_of_isPrefix {part text : List Char} (isPrefix : part <+: text) (nonempty : part ≠ []) :
    part.head? = text.head? := by
  obtain ⟨rest, rfl⟩ := isPrefix
  obtain ⟨first, others, rfl⟩ := List.exists_cons_of_ne_nil nonempty
  rfl

theorem Opens.of_isPrefix {part text : List Char} (opens : Opens text) (isPrefix : part <+: text)
    (nonempty : part ≠ []) : Opens part where
  slash := (head?_of_isPrefix isPrefix nonempty).trans opens.slash
  dotless dotted := opens.dotless (dotted.trans isPrefix)

theorem Opens.slash_mem {text : List Char} (opens : Opens text) : '/' ∈ text :=
  List.mem_of_head? opens.slash

/-- A segment behind a slash that is no dot puts no dot behind the first slash. -/
theorem Opens.append {text written : List Char} (opens : Opens text)
    (closed : text.getLast? = some '/') (noSlash : Lacks ['/'] written) (notHere : written ≠ ['.'])
    (slashed : Bool) : Opens (text ++ written ++ if slashed then ['/'] else []) where
  slash := by rw [List.append_assoc, List.head?_append, opens.slash]; rfl
  dotless := by
    have dotless := opens.dotless
    obtain ⟨tail, rfl⟩ : ∃ tail, text = '/' :: tail := List.head?_eq_some_iff.mp opens.slash
    match tail with
    | [] =>
        -- The segment itself would have to be the dot.
        match written with
        | [] => cases slashed <;> decide
        | [only] =>
            have other : only ≠ '.' := fun same => notHere (by rw [same])
            cases slashed <;> simp [List.cons_prefix_cons, other.symm]
        | first :: second :: rest =>
            have plain : second ≠ '/' := by
              have lacks := noSlash second (by simp)
              simpa using lacks
            simp [List.cons_prefix_cons, plain.symm]
    | [last] =>
        obtain rfl : last = '/' := by simpa using closed
        simp [List.cons_prefix_cons]
    | second :: third :: rest =>
        simpa [List.cons_prefix_cons] using dotless

theorem throughSlash_spec {text : List Char} (slashed : '/' ∈ text) :
    ∃ front, throughSlash text = front ++ ['/'] := by
  have cut := List.takeWhile_append_dropWhile (p := (· != '/')) (l := text.reverse)
  cases rest : text.reverse.dropWhile (· != '/') with
  | nil =>
      rw [rest, List.append_nil] at cut
      have all := List.all_takeWhile (p := (· != '/')) (l := text.reverse)
      rw [cut, List.all_eq_true] at all
      have different := all '/' (List.mem_reverse.mpr slashed)
      simp at different
  | cons first others =>
      have isSlash : first = '/' := by
        have stops := List.head_dropWhile_not (· != '/') (l := text.reverse) (by rw [rest]; simp)
        simpa [rest] using stops
      subst first
      have whole : text = (others.reverse ++ ['/']) ++ lastSegment text := by
        have reversed := congrArg List.reverse cut
        rw [rest, List.reverse_reverse] at reversed
        simpa [lastSegment] using reversed.symm
      refine ⟨others.reverse, ?_⟩
      have length := congrArg List.length whole
      rw [List.length_append] at length
      unfold throughSlash
      rw [length, Nat.add_sub_cancel]
      exact (congrArg (List.take _) whole).trans List.take_left

theorem slash_mem_openLast {text : List Char} (slashed : '/' ∈ text) : '/' ∈ openLast text := by
  unfold openLast
  dsimp only
  split
  · rename_i opened
    simp only [Bool.and_eq_true, List.contains_iff_mem] at opened
    exact opened.1.2
  · exact slashed

/-- Going up from a path that starts with a slash leads to the end of a segment. -/
theorem goUp_spec {kind : SchemeKind} (notFile : kind ≠ .file) {text : List Char}
    (slashed : '/' ∈ text) : ∃ front, goUp kind text = front ++ ['/'] := by
  unfold goUp
  simp only [notFile, decide_false, Bool.false_and, Bool.false_eq_true, if_false]
  exact throughSlash_spec (slash_mem_openLast slashed)

theorem closeWithSlash_of_closed {text : List Char} (closed : text.getLast? = some '/') :
    closeWithSlash text = text := by
  simp [closeWithSlash, endsWithSlash, closed]

/-- What is written for a segment. -/
def writtenSegment (segment : List Char) : List Char :=
  (solidParts segment).flatMap (escape plainInPath)

theorem foldl_addPart {kind : SchemeKind} (notFile : kind ≠ .file) (parts : List (List Char))
    (path : PathText) :
    parts.foldl (addPart kind) path =
      { path with text := path.text ++ parts.flatMap (escape plainInPath) } := by
  induction parts generalizing path with
  | nil => simp
  | cons part rest ih =>
      have added : addPart kind path part =
          { path with text := path.text ++ escape plainInPath part } := by
        simp [addPart, notFile]
      rw [List.foldl_cons, ih, added, List.flatMap_cons, List.append_assoc]

/-- A segment at the end of a path, where drives do not count. -/
theorem addSegment_text {kind : SchemeKind} (notFile : kind ≠ .file) (text : List Char)
    (hasDrive slashed : Bool) (segment : List Char) :
    (addSegment kind ⟨text, text.length, hasDrive⟩ slashed segment).text =
      if isUp (writtenSegment segment) then
        if slashed then closeWithSlash (goUp kind text) else goUp kind text
      else if isHere (writtenSegment segment) then closeWithSlash text
      else text ++ writtenSegment segment ++ if slashed then ['/'] else [] := by
  unfold addSegment
  rw [foldl_addPart notFile]
  simp only [List.take_left, List.drop_left, notFile, decide_false, Bool.false_and,
    Bool.false_eq_true, if_false]
  rw [← writtenSegment]
  split
  · rfl
  · split <;> rfl

/-- No slash is written for a segment. -/
theorem writtenSegment_lacks {kind : SchemeKind} {text segment : List Char}
    (member : segment ∈ text.splitOnP kind.divides) : Lacks ['/'] (writtenSegment segment) := by
  intro char written
  obtain ⟨part, isPart, inPart⟩ := List.mem_flatMap.mp written
  refine escape_lacks (by decide) ?_ char inPart
  intro source inSource _ isSlash
  rw [List.mem_singleton.mp isSlash] at inSource
  have inSegment := (Text.mem_of_mem_splitOnP (List.mem_filter.mp isPart).1 '/' inSource).1
  have divided := (Text.mem_of_mem_splitOnP member '/' inSegment).2
  simp [SchemeKind.divides] at divided

theorem isHere_dot : isHere ['.'] = true := by decide

/-- Reading on behind a slash keeps the start of a path. -/
theorem Opens.addSegment {kind : SchemeKind} (notFile : kind ≠ .file) {text segment : List Char}
    (opens : Opens text) (closed : text.getLast? = some '/')
    (noSlash : Lacks ['/'] (writtenSegment segment)) (hasDrive slashed : Bool) :
    Opens (Uri.addSegment kind ⟨text, text.length, hasDrive⟩ slashed segment).text ∧
      (slashed = true →
        (Uri.addSegment kind ⟨text, text.length, hasDrive⟩ slashed segment).text.getLast? =
          some '/') := by
  rw [addSegment_text notFile]
  split
  · obtain ⟨front, upper⟩ := goUp_spec notFile opens.slash_mem
    have upperClosed : (goUp kind text).getLast? = some '/' := by
      rw [upper]
      exact List.getLast?_concat
    rw [closeWithSlash_of_closed upperClosed, ite_self]
    exact ⟨opens.of_isPrefix (goUp_isPrefix kind text) (by simp [upper]), fun _ => upperClosed⟩
  · split
    · rw [closeWithSlash_of_closed closed]
      exact ⟨opens, fun _ => closed⟩
    · rename_i notHere
      refine ⟨opens.append closed noSlash ?_ slashed, ?_⟩
      · intro dot
        exact notHere (by rw [dot]; exact isHere_dot)
      · rintro rfl
        exact List.getLast?_concat

theorem Opens.addSegments {kind : SchemeKind} (notFile : kind ≠ .file) (path : PathText)
    (opens : Opens path.text) (closed : path.text.getLast? = some '/') {segments : List (List Char)}
    (noSlash : ∀ segment ∈ segments, Lacks ['/'] (writtenSegment segment)) :
    Opens (Uri.addSegments kind path segments).text := by
  induction segments generalizing path with
  | nil => exact opens
  | cons segment rest ih =>
      have step := opens.addSegment notFile closed (noSlash segment List.mem_cons_self) path.hasDrive
      cases rest with
      | nil => exact (step false).1
      | cons next others =>
          obtain ⟨stepOpens, stepClosed⟩ := step true
          exact ih _ stepOpens (stepClosed rfl) fun other member =>
            noSlash other (List.mem_cons_of_mem _ member)

theorem opens_slash : Opens ['/'] where
  slash := rfl
  dotless := by decide

theorem opens_readPath {kind : SchemeKind} (notFile : kind ≠ .file) (text : List Char) :
    Opens (readPath kind ['/'] text).text := by
  unfold readPath
  rw [if_neg notFile]
  exact Opens.addSegments notFile ⟨['/'], 0, false⟩ opens_slash rfl fun segment member =>
    writtenSegment_lacks member

theorem head?_readPath_file (front text : List Char) :
    (readPath .file front text).text.head? = some '/' := by
  unfold readPath
  rw [if_pos rfl]
  rfl

theorem head?_readPath (kind : SchemeKind) (text : List Char) :
    (readPath kind ['/'] text).text.head? = some '/' := by
  by_cases isFile : kind = .file
  · subst kind
    exact head?_readPath_file _ _
  · exact (opens_readPath isFile text).slash

/-- Nothing is written for breaks. -/
theorem writtenSegment_eq_nil {segment : List Char}
    (breaks : ∀ char ∈ segment, isBreak char = true) : writtenSegment segment = [] := by
  have noParts : solidParts segment = [] := by
    refine List.filter_eq_nil_iff.mpr fun part isPart => ?_
    have empty : part = [] := List.eq_nil_iff_forall_not_mem.mpr fun char inPart => by
      obtain ⟨inSegment, kept⟩ := Text.mem_of_mem_splitOnP isPart char inPart
      rw [breaks char inSegment] at kept
      contradiction
    simp [empty]
  rw [writtenSegment, noParts, List.flatMap_nil]

theorem divides_of_isBreak (kind : SchemeKind) {char : Char} (breaks : isBreak char = true) :
    kind.divides char = false := by
  simp only [isBreak, Bool.or_eq_true, beq_iff_eq] at breaks
  rcases breaks with (rfl | rfl) | rfl <;> simp [SchemeKind.divides]

/-- The first segment of a path that starts with a slash is empty. -/
theorem opens_readPath_slashed {kind : SchemeKind} (notFile : kind ≠ .file) {text rest : List Char}
    (slashed : text.dropWhile isBreak = '/' :: rest) : Opens (readPath kind [] text).text := by
  have breaks : ∀ char ∈ text.takeWhile isBreak, isBreak char = true :=
    List.all_eq_true.mp List.all_takeWhile
  have cut : text.splitOnP kind.divides =
      text.takeWhile isBreak :: rest.splitOnP kind.divides := by
    have whole := List.takeWhile_append_dropWhile (p := isBreak) (l := text)
    rw [slashed] at whole
    conv => lhs; rw [← whole]
    exact List.splitOnP_append_cons_of_forall_mem
      (fun char inside => divides_of_isBreak kind (breaks char inside)) '/' rfl rest
  obtain ⟨next, others, more⟩ :=
    List.exists_cons_of_ne_nil (List.splitOnP_ne_nil kind.divides rest)
  have first : (Uri.addSegment kind ⟨[], 0, false⟩ true (text.takeWhile isBreak)).text = ['/'] := by
    have added := addSegment_text notFile [] false true (text.takeWhile isBreak)
    rw [writtenSegment_eq_nil breaks] at added
    exact added
  have read : (readPath kind [] text).text =
      (Uri.addSegments kind (Uri.addSegment kind ⟨[], 0, false⟩ true (text.takeWhile isBreak))
        (rest.splitOnP kind.divides)).text := by
    rw [readPath, if_neg notFile, cut, more]
    rfl
  rw [read]
  exact Opens.addSegments notFile _ (first ▸ opens_slash) (first ▸ rfl) fun segment member =>
    writtenSegment_lacks member

/-- A path behind a machine is empty or starts with a slash. -/
theorem head?_readPathAfterHost (kind : SchemeKind) (text : List Char)
    (present : (readPathAfterHost kind text).text ≠ []) :
    (readPathAfterHost kind text).text.head? = some '/' := by
  revert present
  unfold readPathAfterHost
  split
  · split
    · exact fun _ => head?_readPath _ _
    · exact fun present => absurd rfl present
  · rename_i slashed
    split
    · split <;> exact fun _ => head?_readPath _ _
    · rename_i plain
      have notFile : kind ≠ .file := by
        rintro rfl
        exact plain rfl
      split
      · rename_i isSlash
        subst isSlash
        exact fun _ => (opens_readPath_slashed notFile slashed).slash
      · exact fun _ => head?_readPath _ _

end InlineScript.Uri
