import Mathlib.Data.List.TakeDrop
import Mathlib.Data.List.TakeWhile
import InlineScript.Proofs.Path.Relative
import InlineScript.Proofs.Text.Utf8
import InlineScript.Script.Kind

/-!
Names of files. The name of a path is its last component, wherever the bytes of that stand: behind it
there may be idle segments. A name is cut at its last dot.
-/

namespace InlineScript

open Component (slash dot)

theorem Text.Utf8.mem_of_mem_encode {text : List Char} {byte : UInt8} (small : byte.toNat < 0x80)
    (member : byte ∈ encode text) : Char.ofNat byte.toNat ∈ text := by
  obtain ⟨char, found, inside⟩ := List.mem_flatMap.mp member
  obtain ⟨-, rfl⟩ := utf8EncodeChar_of_mem small inside
  exact found

theorem Text.Utf8.dot_mem_encode_iff {text : List Char} : dot ∈ encode text ↔ '.' ∈ text := by
  constructor
  · exact mem_of_mem_encode (by decide)
  · intro member
    exact List.mem_flatMap.mpr ⟨'.', member, by decide⟩

namespace Path

variable {path dir other : Path} {name label before after : List UInt8}

/-! ## What is cut off a name -/

theorem cutName?_eq_some_iff :
    cutName? name = some (before, after) ↔
      name = before ++ dot :: after ∧ dot ∉ after ∧ before ≠ [] := by
  rw [cutName?, List.span_eq_takeWhile_dropWhile]
  constructor
  · intro cut
    have whole := List.takeWhile_append_dropWhile (p := (· != dot)) (l := name.reverse)
    have free : dot ∉ name.reverse.takeWhile (· != dot) := by
      intro member
      simpa using List.mem_takeWhile_imp member
    split at cut
    next => contradiction
    next => contradiction
    next reversed head rest more pieces =>
      obtain ⟨rfl, remaining⟩ := Prod.mk.inj pieces
      obtain ⟨rfl, rfl⟩ := Prod.mk.inj (Option.some.inj cut)
      have stop : head = dot := by
        have first := List.head?_dropWhile_not (· != dot) name.reverse
        simpa [remaining] using first
      subst head
      have name_eq : name = (name.reverse.takeWhile (· != dot) ++ dot :: rest).reverse := by
        rw [← remaining, whole, List.reverse_reverse]
      refine ⟨by simpa using name_eq, by simpa using free, ?_⟩
      exact mt List.reverse_eq_nil_iff.mp more
  · rintro ⟨rfl, free, nonempty⟩
    have run : ∀ byte ∈ after.reverse, (byte != dot) = true := by
      intro byte member
      simp only [bne_iff_ne]
      rintro rfl
      exact free (List.mem_reverse.mp member)
    have reversed : (before ++ dot :: after).reverse = after.reverse ++ dot :: before.reverse := by
      simp
    rw [reversed, List.takeWhile_append_of_pos run, List.dropWhile_append_of_pos run]
    obtain ⟨last, front, shape⟩ := List.exists_cons_of_ne_nil (mt List.reverse_eq_nil_iff.mp nonempty)
    have unfolded : (after.reverse ++ (dot :: before.reverse).takeWhile (· != dot),
        (dot :: before.reverse).dropWhile (· != dot)) = (after.reverse, dot :: last :: front) := by
      simp [shape]
    rw [unfolded, ← List.reverse_reverse before, shape]
    simp

theorem extension?_eq_some {extension : String} :
    path.extension? = some extension ↔
      ∃ label before, path.label? = some label ∧
        cutName? label = some (before, Text.Utf8.encode extension.toList) := by
  have read (bytes : List UInt8) : (Text.Utf8.text? bytes).map String.ofList = some extension ↔
      Text.Utf8.encode extension.toList = bytes := by
    rw [← Text.Utf8.text?_eq_some_iff]
    constructor
    · intro found
      obtain ⟨chars, text, rfl⟩ := Option.map_eq_some_iff.mp found
      rw [text, String.toList_ofList]
    · intro text
      rw [text, Option.map_some, String.ofList_toList]
  constructor
  · intro found
    obtain ⟨⟨before, after⟩, cut, text⟩ := Option.bind_eq_some_iff.mp found
    obtain ⟨label, named, pieces⟩ := Option.bind_eq_some_iff.mp cut
    exact ⟨label, before, named, by rw [(read after).mp text, pieces]⟩
  · intro ⟨label, before, named, cut⟩
    rw [extension?, named, Option.bind_some, cut]
    exact (read _).mpr rfl

/-- A text is the extension of a name if it follows the last dot, and something stands before that. -/
theorem extension?_eq_some_iff {text extension : String}
    (named : path.label? = some (Text.Utf8.encode text.toList)) :
    path.extension? = some extension ↔
      ∃ stem : String, stem ≠ "" ∧ text = stem ++ "." ++ extension ∧ '.' ∉ extension.toList := by
  rw [extension?_eq_some]
  constructor
  · intro ⟨label, before, same, cut⟩
    obtain rfl := Option.some.inj (named.symm.trans same)
    obtain ⟨bytes, free, nonempty⟩ := cutName?_eq_some_iff.mp cut
    obtain ⟨front, back, chars, first, second⟩ := Text.Utf8.exists_of_encode_eq (by decide) bytes
    obtain rfl := Text.Utf8.encode_injective second
    refine ⟨String.ofList front, ?_, ?_, mt Text.Utf8.dot_mem_encode_iff.mpr free⟩
    · intro empty
      apply nonempty
      rw [← first, String.ofList_eq_empty_iff.mp empty]
      rfl
    · apply String.toList_injective
      rw [chars, String.toList_append, String.toList_append, String.toList_ofList, List.append_assoc]
      rfl
  · rintro ⟨stem, nonempty, rfl, free⟩
    refine ⟨_, Text.Utf8.encode stem.toList, named, cutName?_eq_some_iff.mpr ⟨?_, ?_, ?_⟩⟩
    · rw [String.toList_append, String.toList_append, Text.Utf8.encode_append,
        Text.Utf8.encode_append, List.append_assoc]
      rfl
    · exact mt Text.Utf8.dot_mem_encode_iff.mp free
    · intro empty
      apply nonempty
      apply String.toList_injective
      exact Text.Utf8.encode_injective (empty.trans rfl)

/-! ## Where a name stands -/

theorem label?_eq_some_iff :
    path.label? = some label ↔
      (path.segments.filterMap Component.ofSegment?).getLast? = some (.name label) := by
  have lead (start : Path) (label : List UInt8) :
      (if start.isAbsolute then [Component.root]
        else if start.segments.head? = some [dot] then [Component.here]
        else []).getLast? ≠ some (.name label) := by
    repeat' split
    all_goals simp
  rw [label?, components, List.getLast?_append]
  cases (path.segments.filterMap Component.ofSegment?).getLast? with
  | none =>
      rw [Option.none_or]
      split
      next found => exact absurd found (lead path _)
      next => simp
  | some component => cases component <;> simp

theorem isIdle_iff {segment : List UInt8} :
    isIdle segment = true ↔ segment = [] ∨ segment = [dot] := by
  simp [isIdle]

theorem ofSegment?_eq_none_iff {segment : List UInt8} :
    Component.ofSegment? segment = none ↔ isIdle segment = true := by
  rw [isIdle_iff, Component.ofSegment?]
  repeat' split
  all_goals simp_all

/-- Bytes behind which a segment starts. -/
def Opens (front : List UInt8) : Prop :=
  front = [] ∨ ∃ rest, front = rest ++ [slash]

/-- Idle segments, each with the slash before it. -/
inductive IsIdleTail : List UInt8 → Prop where
  | nil : IsIdleTail []
  | slash {tail : List UInt8} (idle : IsIdleTail tail) : IsIdleTail (tail ++ [slash])
  | dot {tail : List UInt8} (idle : IsIdleTail tail) : IsIdleTail (tail ++ [slash, dot])

theorem IsIdleTail.take {tail : List UInt8} (idle : IsIdleTail tail) (count : Nat) :
    IsIdleTail (tail.take count) := by
  induction idle with
  | nil => rw [List.take_nil]; exact .nil
  | @slash tail idle ih =>
      rcases Nat.lt_or_ge tail.length count with long | short
      · rw [List.take_of_length_le (by simp; omega)]
        exact idle.slash
      · rw [List.take_append_of_le_length short]
        exact ih
  | @dot tail idle ih =>
      rcases Nat.lt_or_ge tail.length count with long | short
      · rcases Nat.eq_or_lt_of_le long with one | more
        · rw [← one, Nat.succ_eq_add_one, List.take_length_add_append]
          exact idle.slash
        · rw [List.take_of_length_le (by simp; omega)]
          exact idle.dot
      · rw [List.take_append_of_le_length short]
        exact ih

theorem IsIdleTail.exists_segments {tail : List UInt8} (idle : IsIdleTail tail)
    (front : List UInt8) :
    ∃ idles : List (List UInt8), (front ++ tail).splitOn Component.slash =
        front.splitOn Component.slash ++ idles ∧ ∀ segment ∈ idles, isIdle segment = true := by
  induction idle with
  | nil => exact ⟨[], by simp, by simp⟩
  | @slash tail _ ih =>
      obtain ⟨idles, segments, idle⟩ := ih
      refine ⟨idles ++ [[]], ?_, ?_⟩
      · rw [← List.append_assoc, List.splitOn_append_cons_self, segments, List.append_assoc]
        rfl
      · simpa [or_imp, forall_and, isIdle] using idle
  | @dot tail _ ih =>
      obtain ⟨idles, segments, idle⟩ := ih
      refine ⟨idles ++ [[Component.dot]], ?_, ?_⟩
      · rw [← List.append_assoc, List.splitOn_append_cons_self, segments, List.append_assoc]
        rfl
      · simpa [or_imp, forall_and, isIdle] using idle

theorem IsIdleTail.append {tail : List UInt8} (idle : IsIdleTail tail) {idles : List (List UInt8)}
    (all : ∀ segment ∈ idles, isIdle segment = true) :
    IsIdleTail (tail ++ idles.flatMap (Component.slash :: ·)) := by
  induction idles generalizing tail with
  | nil =>
      rw [List.flatMap_nil, List.append_nil]
      exact idle
  | cons first rest ih =>
      rw [List.flatMap_cons, ← List.append_assoc]
      apply ih _ fun segment member => all segment (List.mem_cons_of_mem _ member)
      rcases isIdle_iff.mp (all first List.mem_cons_self) with rfl | rfl
      · exact idle.slash
      · exact idle.dot

/-- The bytes of a path that has a name: what stands before the name, the name, and the rest. -/
structure Ends (path : Path) (front label tail : List UInt8) : Prop where
  bytes : path.bytes = front ++ label ++ tail
  opens : Opens front
  spelled : (Component.name label).IsSpelled
  idle : IsIdleTail tail

theorem Opens.exists_segments {front : List UInt8} (opens : Opens front) (free : slash ∉ label) :
    ∃ others, (front ++ label).splitOn slash = others ++ [label] := by
  rcases opens with rfl | ⟨rest, rfl⟩
  · exact ⟨[], List.splitOn_eq_singleton free⟩
  · refine ⟨rest.splitOn slash, ?_⟩
    rw [List.append_assoc, List.singleton_append, List.splitOn_append_cons_self,
      List.splitOn_eq_singleton free]

variable {front tail : List UInt8}

theorem Ends.exists_segments (ends : path.Ends front label tail) :
    ∃ others idles, path.segments = others ++ label :: idles ∧
      (∀ segment ∈ idles, isIdle segment = true) ∧
      ofSegments (others ++ [label]) = ⟨front ++ label⟩ := by
  have free : slash ∉ label := ends.spelled.1
  obtain ⟨others, opened⟩ := ends.opens.exists_segments free
  obtain ⟨idles, whole, idle⟩ := ends.idle.exists_segments (front ++ label)
  refine ⟨others, idles, ?_, idle, ?_⟩
  · rw [segments, ends.bytes, whole, opened, List.append_assoc]
    rfl
  · rw [ofSegments, ← opened, List.intercalate_splitOn]

theorem segments_head?_of_isAbsolute (absolute : path.isAbsolute = true) :
    path.segments.head? = some [] := by
  obtain ⟨rest, bytes⟩ := List.head?_eq_some_iff.mp (eq_of_beq absolute)
  have cut : (slash :: rest).splitOn slash = [].splitOn slash ++ rest.splitOn slash :=
    List.splitOn_append_cons_self [] rest
  rw [segments, bytes, cut]
  rfl

theorem Ends.label? (ends : path.Ends front label tail) : path.label? = some label := by
  obtain ⟨others, idles, whole, idle, -⟩ := ends.exists_segments
  have none : idles.filterMap Component.ofSegment? = [] := by
    rw [List.filterMap_eq_nil_iff]
    exact fun segment member => ofSegment?_eq_none_iff.mpr (idle segment member)
  have own : Component.ofSegment? label = some (.name label) := ends.spelled.2
  rw [label?_eq_some_iff, whole, List.filterMap_append, List.filterMap_cons_some own, none,
    List.getLast?_concat]

theorem Ends.trimmed (ends : path.Ends front label tail) :
    path.trimmed = ⟨front ++ label⟩ := by
  obtain ⟨others, idles, whole, idle, trimmed⟩ := ends.exists_segments
  have busy : isIdle label = false := by
    have own : Component.ofSegment? label = some (.name label) := ends.spelled.2
    by_contra idle
    rw [ofSegment?_eq_none_iff.mpr (by simpa using idle)] at own
    contradiction
  have dropped : ∀ segment ∈ idles.reverse, isIdle segment = true := by
    simpa using idle
  rw [← trimmed, Path.trimmed, whole]
  cases others with
  | nil =>
      have relative : path.isAbsolute = false := by
        by_contra absolute
        have first := segments_head?_of_isAbsolute (by simpa using absolute)
        rw [whole] at first
        exact ends.spelled.label_ne_nil (Option.some.inj first)
      simp only [List.nil_append, ofReversed]
      rw [List.dropWhile_eq_nil_iff.mpr dropped, relative]
      rfl
  | cons first others =>
      simp only [List.cons_append, ofReversed, List.reverse_append, List.reverse_cons,
        List.append_assoc]
      rw [List.dropWhile_append_of_pos dropped]
      simp [busy]

theorem intercalate_slash_cons (first : List UInt8) (rest : List (List UInt8)) :
    [slash].intercalate (first :: rest) = first ++ rest.flatMap (slash :: ·) := by
  induction rest generalizing first with
  | nil => simp
  | cons second others ih => simp [List.intercalate_cons_cons, ih]

theorem intercalate_slash_append {pieces : List (List UInt8)} (nonempty : pieces ≠ [])
    (others : List (List UInt8)) :
    [slash].intercalate (pieces ++ others) =
      [slash].intercalate pieces ++ others.flatMap (slash :: ·) := by
  obtain ⟨first, rest, rfl⟩ := List.exists_cons_of_ne_nil nonempty
  rw [List.cons_append, intercalate_slash_cons, intercalate_slash_cons, List.flatMap_append,
    List.append_assoc]

theorem exists_opens_intercalate (others : List (List UInt8)) (last : List UInt8) :
    ∃ front, Opens front ∧ [slash].intercalate (others ++ [last]) = front ++ last := by
  by_cases alone : others = []
  · exact ⟨[], .inl rfl, by simp [alone]⟩
  · refine ⟨[slash].intercalate others ++ [slash], .inr ⟨_, rfl⟩, ?_⟩
    simp [intercalate_slash_append alone]

/-- Every path that has a name spells it somewhere. -/
theorem exists_ends (named : path.label? = some label) :
    ∃ front tail, path.Ends front label tail := by
  rw [label?_eq_some_iff] at named
  obtain ⟨before, whole⟩ := List.getLast?_eq_some_iff.mp named
  obtain ⟨others, rest, segments_eq, -, last⟩ := List.filterMap_eq_append_iff.mp whole
  obtain ⟨more, segment, idles, rfl, -, own, idle⟩ := List.filterMap_eq_cons_iff.mp last
  obtain rfl : label = segment := Component.label_of_ofSegment? own
  have member : label ∈ path.bytes.splitOn slash := by
    rw [← segments, segments_eq]
    simp
  have spelled : (Component.name label).IsSpelled :=
    Component.isSpelled_of_ofSegment? (slash_not_mem_segment member) own
  obtain ⟨front, opens, spelling⟩ := exists_opens_intercalate (others ++ more) label
  have bytes : path.bytes = front ++ label ++ idles.flatMap (slash :: ·) := by
    have joined : [slash].intercalate path.segments = path.bytes := List.intercalate_splitOn slash
    rw [← joined, segments_eq, ← spelling, ← intercalate_slash_append (by simp)]
    simp
  exact ⟨front, _, bytes, opens, spelled,
    IsIdleTail.nil.append fun segment member =>
      ofSegment?_eq_none_iff.mp (List.filterMap_eq_nil_iff.mp idle segment member)⟩

theorem Ends.stem (ends : path.Ends front label tail)
    (cut : cutName? label = some (before, after)) : path.stem = ⟨front ++ before⟩ := by
  obtain ⟨whole, -, -⟩ := cutName?_eq_some_iff.mp cut
  rw [Path.stem, ends.label?]
  simp only [cut, Option.map_some, Option.getD_some, ends.trimmed, Path.mk.injEq]
  have kept : (front ++ label).length - (label.length - before.length) =
      (front ++ before).length := by
    simp [whole]
    omega
  rw [kept, whole, ← List.append_assoc, List.take_left]

theorem label?_of_opens (opens : Opens front) (spelled : (Component.name label).IsSpelled) :
    label? ⟨front ++ label⟩ = some label :=
  Ends.label? ⟨by simp, opens, spelled, .nil⟩

theorem label?_of_opens_up (opens : Opens front) : label? ⟨front ++ [dot, dot]⟩ = none := by
  have free : slash ∉ [dot, dot] := by decide
  obtain ⟨others, whole⟩ := opens.exists_segments free
  have read : Component.ofSegment? [dot, dot] = some .up := rfl
  rw [Option.eq_none_iff_forall_ne_some]
  intro label named
  rw [label?_eq_some_iff, segments, whole, List.filterMap_append, List.filterMap_cons_some read,
    List.filterMap_nil, List.getLast?_concat] at named
  cases named

/-- What is cut at a dot is what stands before it, except that a dot before a last dot keeps it:
the two name the directory above. -/
theorem exists_stem {kept : List UInt8} (opens : Opens front) (free : slash ∉ before ++ dot :: kept)
    (single : dot ∉ kept) (nonempty : before ≠ []) :
    ∃ body, stem ⟨front ++ (before ++ dot :: kept)⟩ = ⟨front ++ body⟩ ∧
      (body = before ∨ before = [dot] ∧ body = [dot, dot]) := by
  by_cases up : before ++ dot :: kept = [dot, dot]
  · have alone : before = [dot] := by
      obtain ⟨first, rest, rfl⟩ := List.exists_cons_of_ne_nil nonempty
      rw [List.cons_append, List.cons.injEq, List.append_eq_singleton_iff] at up
      obtain ⟨rfl, ⟨rfl, -⟩ | ⟨-, none⟩⟩ := up
      · rfl
      · contradiction
    refine ⟨[dot, dot], ?_, .inr ⟨alone, rfl⟩⟩
    rw [up, Path.stem, label?_of_opens_up opens]
  · have read : Component.ofSegment? (before ++ dot :: kept) =
        some (.name (before ++ dot :: kept)) := by
      rw [Component.ofSegment?, if_neg (by simp [List.append_eq_singleton_iff, nonempty]),
        if_neg up]
    have ends : Path.Ends ⟨front ++ (before ++ dot :: kept)⟩ front (before ++ dot :: kept) [] :=
      ⟨by simp, opens, ⟨free, read⟩, .nil⟩
    exact ⟨before, ends.stem (cutName?_eq_some_iff.mpr ⟨rfl, single, nonempty⟩), .inl rfl⟩

/-- What is left of a path without its extension ends with what is cut at the last dot of the name,
whether the bytes are taken from the extension or from what follows the name. -/
theorem Ends.exists_withoutExtension (ends : path.Ends front label tail)
    (cut : cutName? label = some (before, after)) :
    ∃ body, path.withoutExtension = ⟨front ++ body⟩ ∧
      (body = before ∨ before = [dot] ∧ body = [dot, dot]) := by
  obtain ⟨whole, single, nonempty⟩ := cutName?_eq_some_iff.mp cut
  have free : slash ∉ label := ends.spelled.1
  rw [withoutExtension, ends.label?, Option.bind_some, cut]
  simp only [ends.bytes, List.length_append]
  rcases Nat.lt_or_ge tail.length after.length with inside | behind
  · have taken : (front ++ label ++ tail).take
        (front.length + label.length + tail.length - after.length) =
          front ++ (before ++ dot :: after.take tail.length) := by
      have regroup : front ++ label ++ tail = (front ++ before ++ [dot]) ++ (after ++ tail) := by
        simp [whole]
      have count : front.length + label.length + tail.length - after.length =
          (front ++ before ++ [dot]).length + tail.length := by
        simp [whole]
        omega
      rw [regroup, count, List.take_length_add_append, List.take_append_of_le_length (by omega)]
      simp
    have part : before ++ dot :: after.take tail.length <+: label := by
      rw [whole]
      exact (List.prefix_append_right_inj _).mpr
        (List.cons_prefix_cons.mpr ⟨rfl, List.take_prefix _ _⟩)
    obtain ⟨body, stem, shape⟩ := exists_stem ends.opens (fun member => free (part.subset member))
      (fun member => single (List.mem_of_mem_take member)) nonempty
    exact ⟨body, by rw [taken, stem], shape⟩
  · have taken : (front ++ label ++ tail).take
        (front.length + label.length + tail.length - after.length) =
          front ++ label ++ tail.take (tail.length - after.length) := by
      rw [← List.take_length_add_append, List.length_append]
      congr 1
      omega
    have rest : Path.Ends ⟨front ++ label ++ tail.take (tail.length - after.length)⟩ front label
        (tail.take (tail.length - after.length)) :=
      ⟨rfl, ends.opens, ends.spelled, ends.idle.take _⟩
    exact ⟨before, by rw [taken, rest.stem cut], .inl rfl⟩

/-! ## Names in a directory -/

theorem filterMap_segments_join (relative : other.isAbsolute = false) :
    (dir.join other).segments.filterMap Component.ofSegment? =
      dir.segments.filterMap Component.ofSegment? ++
        other.segments.filterMap Component.ofSegment? := by
  have idle : Component.ofSegment? [] = none := rfl
  unfold join
  rw [if_neg (by simp [relative])]
  split
  · rename_i opened
    by_cases empty : dir.bytes = []
    · simp [segments, empty, idle]
    · have closed : dir.bytes.getLast? = some slash := by simpa [empty] using opened
      obtain ⟨front, bytes⟩ := List.getLast?_eq_some_iff.mp closed
      simp [segments, bytes, List.splitOn_append_cons_self, idle]
  · simp [segments, List.splitOn_append_cons_self]

theorem segments_ofText (text : String) :
    (ofText text).segments = (text.toList.splitOn '/').map Text.Utf8.encode := by
  have free : ∀ segment ∈ (text.toList.splitOn '/').map Text.Utf8.encode, slash ∉ segment := by
    intro segment member inside
    obtain ⟨piece, found, rfl⟩ := List.mem_map.mp member
    rw [List.splitOn_eq_splitOnP] at found
    have kept := (Text.mem_of_mem_splitOnP found '/'
      (Text.Utf8.mem_of_mem_encode (by decide) inside)).2
    simp at kept
  have divider : [slash] = Text.Utf8.encode ['/'] := by decide
  have bytes : (ofText text).bytes =
      [slash].intercalate ((text.toList.splitOn '/').map Text.Utf8.encode) := by
    rw [divider, ← Text.Utf8.encode_intercalate, List.intercalate_splitOn]
    rfl
  rw [segments, bytes, List.splitOn_intercalate slash free (by simp [List.splitOn_ne_nil])]

theorem label?_ofText {text : String} (named : (ofText text).label? = some label) :
    ∃ piece, Text.Utf8.encode piece = label := by
  rw [label?_eq_some_iff, segments_ofText] at named
  obtain ⟨segment, member, read⟩ := List.mem_filterMap.mp (List.mem_of_getLast? named)
  obtain ⟨piece, -, rfl⟩ := List.mem_map.mp member
  exact ⟨piece, (Component.label_of_ofSegment? read).symm⟩

/-- The name of a path below a directory is a text, or that of the directory. -/
theorem label?_child {text : String} (named : (dir.child text).label? = some label) :
    (∃ piece, Text.Utf8.encode piece = label) ∨
      dir.label? = some label ∧ (ofText text).segments.filterMap Component.ofSegment? = [] := by
  cases absolute : (ofText text).isAbsolute with
  | true =>
      rw [child, join, if_pos absolute] at named
      exact .inl (label?_ofText named)
  | false =>
      rw [label?_eq_some_iff, child, filterMap_segments_join absolute, List.getLast?_append,
        Option.or_eq_some_iff] at named
      rcases named with own | ⟨none, outer⟩
      · exact .inl (label?_ofText (label?_eq_some_iff.mpr own))
      · exact .inr ⟨label?_eq_some_iff.mpr outer, List.getLast?_eq_none_iff.mp none⟩

theorem Opens.cons_slash (opens : Opens front) : Opens (slash :: front) := by
  rcases opens with rfl | ⟨rest, rfl⟩
  · exact .inr ⟨[], rfl⟩
  · exact .inr ⟨slash :: rest, rfl⟩

theorem label?_eq_some_iff_getLast? :
    path.label? = some label ↔ path.components.getLast? = some (.name label) := by
  unfold label?
  split
  next found => simp [found]
  next other => simpa using other label

/-- The name at the end of a path stays there. -/
theorem label?_normalize (named : path.label? = some label) : path.normalize.label? = some label := by
  rw [label?_eq_some_iff_getLast?] at named ⊢
  rw [components_normalize]
  exact getLast?_normalComponents named

/-- Nothing stands behind the name of a path in normal form. -/
theorem exists_ends_normalize (named : path.normalize.label? = some label) :
    ∃ front, path.normalize.Ends front label [] := by
  have last := label?_eq_some_iff_getLast?.mp named
  have spelled : (Component.name label).IsSpelled := by
    rcases components_cases (List.mem_of_getLast? last) with root | here | spelled
    · contradiction
    · contradiction
    · exact spelled
  obtain ⟨above, components⟩ := List.getLast?_eq_some_iff.mp last
  have bytes : ∃ front, Opens front ∧
      (ofComponents (above ++ [.name label])).bytes = front ++ label := by
    have labels (components : List Component) :
        (components ++ [Component.name label]).map Component.label =
          components.map Component.label ++ [label] :=
      List.map_append
    have relative := exists_opens_intercalate (above.map Component.label) label
    rw [← labels] at relative
    match above with
    | [] => exact relative
    | .root :: names =>
        obtain ⟨front, opens, spelling⟩ :=
          exists_opens_intercalate (names.map Component.label) label
        rw [← labels] at spelling
        exact ⟨slash :: front, opens.cons_slash, congrArg (slash :: ·) spelling⟩
    | .here :: _ => exact relative
    | .up :: _ => exact relative
    | .name _ :: _ => exact relative
  obtain ⟨front, opens, spelling⟩ := bytes
  refine ⟨front, ?_, opens, spelled, .nil⟩
  rw [← ofComponents_normalize, components, spelling, List.append_nil]

end Path

end InlineScript
