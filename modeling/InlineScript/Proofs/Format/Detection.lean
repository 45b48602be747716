import Mathlib.Data.List.Nodup
import Mathlib.Data.Prod.Lex
import InlineScript.Format.Indent

/-!
The indentation that is detected in a text. Each unit has one tally, and of two tallies one beats the
other, so that the unit does not depend on the order in which tallies are looked at. A unit is found
exactly if some line is indented, and it divides evenly into what divides all lines.
-/

namespace InlineScript.Format

/-! ## Preference -/

namespace Tally

variable {first second picked : Tally} {tallies : List Tally}

/-- What tallies are compared by: uses, weight, the smaller amount, blanks before tabs. -/
def rank (tally : Tally) : ℕ ×ₗ ℕ ×ₗ ℕᵒᵈ ×ₗ ℕ :=
  toLex (tally.uses, toLex (tally.weight, toLex (OrderDual.toDual tally.unit.amount,
    if tally.unit.kind = .space then 1 else 0)))

theorem beats_iff_rank_lt : first.beats second = true ↔ second.rank < first.rank := by
  have kinds : second.unit.kind = .space ∨ second.unit.kind = .tab := by
    cases second.unit.kind <;> simp
  simp only [rank, Prod.Lex.toLex_lt_toLex, OrderDual.toDual_lt_toDual, EmbeddingLike.apply_eq_iff_eq]
  unfold beats
  grind

theorem not_beats_iff_rank_le : first.beats second = false ↔ first.rank ≤ second.rank := by
  rw [← Bool.not_eq_true, beats_iff_rank_lt, not_lt]

theorem unit_eq_of_rank_eq (same : first.rank = second.rank) : first.unit = second.unit := by
  obtain ⟨⟨firstKind, firstAmount⟩, firstUses, firstWeight⟩ := first
  obtain ⟨⟨secondKind, secondAmount⟩, secondUses, secondWeight⟩ := second
  simp only [rank, EmbeddingLike.apply_eq_iff_eq, Prod.mk.injEq] at same
  cases firstKind <;> cases secondKind <;> simp_all

theorem best?_cons_cons (first second : Tally) (rest : List Tally) :
    best? (first :: second :: rest) =
      best? ((if second.beats first then second else first) :: rest) := by
  unfold best?
  simp only [List.foldl_cons]
  split <;> rfl

theorem best?_cons_spec (first : Tally) (rest : List Tally) :
    ∃ picked ∈ first :: rest, best? (first :: rest) = some picked ∧
      ∀ other ∈ first :: rest, other.rank ≤ picked.rank := by
  induction rest generalizing first with
  | nil => exact ⟨first, List.mem_cons_self, rfl, by simp⟩
  | cons second rest ih =>
      rw [best?_cons_cons]
      by_cases beaten : second.beats first = true
      · obtain ⟨picked, listed, isBest, greatest⟩ := ih second
        rw [if_pos beaten]
        refine ⟨picked, List.mem_cons_of_mem _ listed, isBest, List.forall_mem_cons.mpr ⟨?_, greatest⟩⟩
        exact (beats_iff_rank_lt.mp beaten).le.trans (greatest second List.mem_cons_self)
      · obtain ⟨picked, listed, isBest, greatest⟩ := ih first
        rw [if_neg beaten]
        have ofFirst := greatest first List.mem_cons_self
        have ofSecond := (not_beats_iff_rank_le.mp (eq_false_of_ne_true beaten)).trans ofFirst
        refine ⟨picked, ?_, isBest, ?_⟩
        · rw [List.mem_cons] at listed ⊢
          exact listed.imp_right (List.mem_cons_of_mem _)
        · rw [List.forall_mem_cons] at greatest
          simpa using ⟨ofFirst, ofSecond, greatest.2⟩

theorem best?_eq_none_iff : best? tallies = none ↔ tallies = [] := by
  cases tallies with
  | nil => simp [best?]
  | cons first rest =>
      obtain ⟨picked, -, isBest, -⟩ := best?_cons_spec first rest
      simp [isBest]

theorem mem_of_best? (isBest : best? tallies = some picked) : picked ∈ tallies := by
  cases tallies with
  | nil => contradiction
  | cons first rest =>
      obtain ⟨other, listed, found, -⟩ := best?_cons_spec first rest
      rwa [Option.some.inj (isBest.symm.trans found)]

/-- Where each unit has one tally, the one that none beats is picked. -/
theorem best?_eq_of_unbeaten (distinct : (tallies.map Tally.unit).Nodup) (listed : picked ∈ tallies)
    (unbeaten : ∀ other ∈ tallies, other.beats picked = false) : best? tallies = some picked := by
  cases tallies with
  | nil => contradiction
  | cons first rest =>
      obtain ⟨best, isListed, isBest, greatest⟩ := best?_cons_spec first rest
      have sameRank : best.rank = picked.rank :=
        (not_beats_iff_rank_le.mp (unbeaten best isListed)).antisymm (greatest picked listed)
      rw [isBest, List.inj_on_of_nodup_map distinct isListed listed (unit_eq_of_rank_eq sameRank)]

theorem best?_perm {order : List Tally} (distinct : (tallies.map Tally.unit).Nodup)
    (perm : order.Perm tallies) : best? order = best? tallies := by
  cases order with
  | nil => rw [perm.nil_eq]
  | cons first rest =>
      obtain ⟨picked, listed, isBest, greatest⟩ := best?_cons_spec first rest
      rw [isBest, best?_eq_of_unbeaten distinct (perm.mem_iff.mp listed)]
      intro other isListed
      exact not_beats_iff_rank_le.mpr (greatest other (perm.mem_iff.mpr isListed))

theorem map_unit_add (unit : Indent) (uses weight : Nat) (tallies : List Tally) :
    (add unit uses weight tallies).map Tally.unit =
      if unit ∈ tallies.map Tally.unit then tallies.map Tally.unit
      else tallies.map Tally.unit ++ [unit] := by
  induction tallies with
  | nil => simp [add]
  | cons tally rest ih =>
      rw [add]
      by_cases here : tally.unit = unit
      · simp [here]
      · have elsewhere : unit ≠ tally.unit := Ne.symm here
        rw [if_neg here, List.map_cons, ih]
        simp only [List.map_cons, List.mem_cons, elsewhere, false_or]
        split <;> rfl

theorem mem_map_unit_add {unit other : Indent} {uses weight : Nat} :
    other ∈ (add unit uses weight tallies).map Tally.unit ↔
      other ∈ tallies.map Tally.unit ∨ other = unit := by
  rw [map_unit_add]
  split
  next listed => exact ⟨.inl, fun either => either.elim id fun same => same ▸ listed⟩
  next => simp only [List.mem_append, List.mem_singleton]

theorem nodup_map_unit_add (unit : Indent) (uses weight : Nat)
    (distinct : (tallies.map Tally.unit).Nodup) :
    ((add unit uses weight tallies).map Tally.unit).Nodup := by
  rw [map_unit_add]
  split
  next => exact distinct
  next absent =>
    refine List.nodup_append.mpr ⟨distinct, List.nodup_singleton unit, ?_⟩
    intro other listed new isNew same
    exact absent (List.mem_singleton.mp isNew ▸ same ▸ listed)

theorem add_ne_nil (unit : Indent) (uses weight : Nat) (tallies : List Tally) :
    add unit uses weight tallies ≠ [] := by
  intro empty
  have listed : unit ∈ (add unit uses weight tallies).map Tally.unit := mem_map_unit_add.mpr (.inr rfl)
  rw [empty] at listed
  contradiction

end Tally

/-! ## Lines -/

namespace Indent

theorem ofLine?_eq_none_iff {line : List Char} :
    ofLine? line = none ↔ line.head? ≠ some ' ' ∧ line.head? ≠ some '\t' := by
  unfold ofLine?
  split
  next => simp
  next => simp
  next notSpace notTab =>
    cases line with
    | nil => simp
    | cons c rest =>
        refine iff_of_true rfl ⟨?_, ?_⟩
        · intro first
          exact notSpace rest (by rw [Option.some.inj first])
        · intro first
          exact notTab rest (by rw [Option.some.inj first])

theorem amount_pos_of_ofLine? {line : List Char} {indent : Indent} (found : ofLine? line = some indent) :
    0 < indent.amount := by
  unfold ofLine? at found
  split at found
  next => cases found; simp
  next => cases found; simp
  next => contradiction

theorem amount_of_ofLine? {line : List Char} {indent : Indent} (found : ofLine? line = some indent)
    (noTab : line.head? ≠ some '\t') : indent.amount = (line.takeWhile (· == ' ')).length := by
  unfold ofLine? at found
  split at found
  next => cases found; rfl
  next => exact absurd rfl noTab
  next => contradiction

end Indent

namespace IndentScan

variable {scan next : IndentScan} {skipSingle : Bool} {line : List Char} {indent : Indent}

/-- Whether a line is passed over: it is not indented, or by one blank where such lines do not count. -/
def Passes (skipSingle : Bool) (line : List Char) : Prop :=
  ∀ indent, Indent.ofLine? line = some indent → skipSingle = true ∧ indent = ⟨.space, 1⟩

/-- What a line can do to a scan. -/
inductive Reads (skipSingle : Bool) (scan : IndentScan) (line : List Char) : IndentScan → Prop where
  | skipped (passes : Passes skipSingle line) : Reads skipSingle scan line scan
  | unindented (passes : Passes skipSingle line) :
      Reads skipSingle scan line { scan with previous := none }
  /-- The line is indented as the one before it, which counts for the unit seen last. -/
  | repeated (indent : Indent) (found : Indent.ofLine? line = some indent)
      (counts : ¬ Passes skipSingle line)
      (same : scan.previousSize indent.kind = indent.amount) :
      Reads skipSingle scan line
        { scan with
          previous := some indent
          tallies :=
            match scan.unit with
            | none => scan.tallies
            | some unit => Tally.add unit 0 1 scan.tallies }
  /-- The line differs from the one before it, which is a use of the difference. -/
  | differs (indent : Indent) (found : Indent.ofLine? line = some indent)
      (counts : ¬ Passes skipSingle line) (difference : Nat) (positive : 0 < difference)
      (apart : difference = indent.amount - scan.previousSize indent.kind +
        (scan.previousSize indent.kind - indent.amount)) :
      Reads skipSingle scan line
        { previous := some indent
          unit := some ⟨indent.kind, difference⟩
          tallies := Tally.add ⟨indent.kind, difference⟩ 1 0 scan.tallies }

theorem reads_step (skipSingle : Bool) (scan : IndentScan) (line : List Char) :
    Reads skipSingle scan line (scan.step skipSingle line) := by
  have emptyPasses (empty : line.isEmpty = true) : Passes skipSingle line := by
    rw [List.isEmpty_iff.mp empty]
    intro indent found
    contradiction
  unfold step
  split
  next empty => exact .skipped (emptyPasses empty)
  next =>
    split
    next missing => exact .unindented (by intro indent found; cases missing.symm.trans found)
    next indent found =>
      by_cases single : skipSingle = true ∧ indent = ⟨.space, 1⟩
      · have passes : Passes skipSingle line := by
          intro other foundOther
          rwa [Option.some.inj (foundOther.symm.trans found)]
        rw [if_pos (by simp [single.1, single.2])]
        exact .skipped passes
      · have counts : ¬ Passes skipSingle line := fun passes => single (passes indent found)
        rw [if_neg (by obtain ⟨kind, amount⟩ := indent; simpa [and_assoc] using single)]
        simp only
        split
        next same => exact .repeated indent found counts (by omega)
        next apart => exact .differs indent found counts _ (Nat.pos_of_ne_zero apart) rfl

/-! ## Each unit has one tally -/

theorem Reads.nodup (reads : Reads skipSingle scan line next)
    (distinct : (scan.tallies.map Tally.unit).Nodup) : (next.tallies.map Tally.unit).Nodup := by
  cases reads with
  | skipped => exact distinct
  | unindented => exact distinct
  | repeated =>
      simp only
      split
      · exact distinct
      · exact Tally.nodup_map_unit_add _ _ _ distinct
  | differs => exact Tally.nodup_map_unit_add _ _ _ distinct

/-! ## Indented lines are seen -/

/-- Whether a line before was indented only if something was counted. -/
def Attentive (scan : IndentScan) : Prop :=
  scan.tallies = [] → scan.previous = none

theorem previousSize_of_none (missing : scan.previous = none) (kind : IndentKind) :
    scan.previousSize kind = 0 := by
  simp only [previousSize, missing]

theorem Reads.tallies_eq_nil_iff (reads : Reads skipSingle scan line next)
    (attentive : scan.Attentive) :
    next.tallies = [] ↔ scan.tallies = [] ∧ Passes skipSingle line := by
  cases reads with
  | skipped passes => exact (and_iff_left passes).symm
  | unindented passes => exact (and_iff_left passes).symm
  | repeated indent found counts same =>
      have counted : scan.tallies ≠ [] := by
        -- a line as the one before it needs one before it that counted
        intro empty
        rw [previousSize_of_none (attentive empty)] at same
        exact Nat.ne_of_lt (Indent.amount_pos_of_ofLine? found) same
      refine iff_of_false ?_ fun both => counts both.2
      simp only
      split
      · exact counted
      · exact Tally.add_ne_nil _ _ _ _
  | differs indent found counts =>
      exact iff_of_false (Tally.add_ne_nil _ _ _ _) fun both => counts both.2

theorem Reads.attentive (reads : Reads skipSingle scan line next) (attentive : scan.Attentive) :
    next.Attentive := by
  intro empty
  obtain ⟨before, passes⟩ := (reads.tallies_eq_nil_iff attentive).mp empty
  cases reads with
  | skipped => exact attentive before
  | unindented => rfl
  | repeated _ _ counts => exact absurd passes counts
  | differs _ _ counts => exact absurd passes counts

theorem foldl_step_tallies_eq_nil_iff (lines : List (List Char)) (attentive : scan.Attentive) :
    (lines.foldl (step skipSingle) scan).tallies = [] ↔
      scan.tallies = [] ∧ ∀ line ∈ lines, Passes skipSingle line := by
  induction lines generalizing scan with
  | nil => simp
  | cons line rest ih =>
      have reads := reads_step skipSingle scan line
      rw [List.foldl_cons, ih (reads.attentive attentive), reads.tallies_eq_nil_iff attentive,
        List.forall_mem_cons, and_assoc]

/-! ## Units divide evenly -/

/-- Whether all that was seen is made of indentation by multiples of a width. -/
structure Multiples (width : Nat) (scan : IndentScan) : Prop where
  previous : ∀ kind, width ∣ scan.previousSize kind
  unit : ∀ unit ∈ scan.unit, 0 < unit.amount ∧ width ∣ unit.amount
  tallies : ∀ unit ∈ scan.tallies.map Tally.unit, 0 < unit.amount ∧ width ∣ unit.amount

theorem dvd_previousSize {width : Nat} (found : scan.previous = some indent)
    (divides : width ∣ indent.amount) (kind : IndentKind) : width ∣ scan.previousSize kind := by
  simp only [previousSize, found]
  split
  · exact divides
  · exact Nat.dvd_zero width

theorem Reads.multiples {width : Nat} (reads : Reads skipSingle scan line next)
    (multiples : scan.Multiples width)
    (divides : ∀ indent, Indent.ofLine? line = some indent → width ∣ indent.amount) :
    next.Multiples width := by
  cases reads with
  | skipped => exact multiples
  | unindented =>
      refine ⟨fun kind => ?_, multiples.unit, multiples.tallies⟩
      rw [previousSize_of_none rfl]
      exact Nat.dvd_zero width
  | repeated indent found =>
      refine ⟨dvd_previousSize rfl (divides indent found), multiples.unit, ?_⟩
      simp only
      split
      next => exact multiples.tallies
      next unit seen =>
        intro other listed
        cases Tally.mem_map_unit_add.mp listed with
        | inl before => exact multiples.tallies other before
        | inr same => exact same ▸ multiples.unit unit seen
  | differs indent found _ difference positive apart =>
      have fits : 0 < difference ∧ width ∣ difference := by
        refine ⟨positive, apart ▸ Nat.dvd_add ?_ ?_⟩
        · exact Nat.dvd_sub (divides indent found) (multiples.previous _)
        · exact Nat.dvd_sub (multiples.previous _) (divides indent found)
      refine ⟨dvd_previousSize rfl (divides indent found), ?_, ?_⟩
      · intro unit seen
        cases seen
        exact fits
      · intro other listed
        cases Tally.mem_map_unit_add.mp listed with
        | inl before => exact multiples.tallies other before
        | inr same => exact same ▸ fits

end IndentScan

/-! ## All lines -/

variable {skipSingle : Bool} {lines : List (List Char)} {text : List Char}

theorem nodup_tallies (skipSingle : Bool) (lines : List (List Char)) :
    ((tallies skipSingle lines).map Tally.unit).Nodup :=
  List.foldlRecOn (motive := fun scan => (scan.tallies.map Tally.unit).Nodup) lines _ List.nodup_nil
    fun scan distinct line _ => (IndentScan.reads_step skipSingle scan line).nodup distinct

theorem tallies_eq_nil_iff :
    tallies skipSingle lines = [] ↔ ∀ line ∈ lines, IndentScan.Passes skipSingle line := by
  rw [tallies, IndentScan.foldl_step_tallies_eq_nil_iff lines fun _ => rfl]
  exact and_iff_right rfl

theorem dvd_of_mem_tallies (width : Nat)
    (divides : ∀ line ∈ lines, ∀ indent, Indent.ofLine? line = some indent → width ∣ indent.amount)
    {tally : Tally} (listed : tally ∈ tallies skipSingle lines) :
    0 < tally.unit.amount ∧ width ∣ tally.unit.amount := by
  have start : IndentScan.start.Multiples width :=
    ⟨fun _ => Nat.dvd_zero width, by simp [IndentScan.start], by simp [IndentScan.start]⟩
  have multiples : (lines.foldl (IndentScan.step skipSingle) .start).Multiples width :=
    List.foldlRecOn lines _ start fun scan multiples line member =>
      (IndentScan.reads_step skipSingle scan line).multiples multiples (divides line member)
  exact multiples.tallies _ (List.mem_map_of_mem listed)

/-- The tallies of a text among which the unit of indentation is chosen. -/
def candidates (text : List Char) : List Tally :=
  if (tallies true (Text.lines text)).isEmpty then tallies false (Text.lines text)
  else tallies true (Text.lines text)

theorem detectIndent?_eq (text : List Char) :
    detectIndent? text = (Tally.best? (candidates text)).map Tally.unit :=
  rfl

theorem exists_candidates_eq (text : List Char) :
    ∃ skipSingle, candidates text = tallies skipSingle (Text.lines text) := by
  unfold candidates
  split
  · exact ⟨false, rfl⟩
  · exact ⟨true, rfl⟩

theorem nodup_candidates (text : List Char) : ((candidates text).map Tally.unit).Nodup := by
  obtain ⟨skipSingle, same⟩ := exists_candidates_eq text
  rw [same]
  exact nodup_tallies skipSingle _

theorem candidates_eq_nil_iff :
    candidates text = [] ↔ ∀ line ∈ Text.lines text, Indent.ofLine? line = none := by
  have all : tallies false (Text.lines text) = [] ↔
      ∀ line ∈ Text.lines text, Indent.ofLine? line = none := by
    simp only [tallies_eq_nil_iff, IndentScan.Passes, Bool.false_eq_true, false_and, imp_false,
      Option.eq_none_iff_forall_ne_some]
  unfold candidates
  split
  next => exact all
  next counted =>
    -- what counts in the first pass is indented
    refine iff_of_false (fun empty => counted (List.isEmpty_iff.mpr empty)) fun unindented => counted ?_
    rw [List.isEmpty_iff, tallies_eq_nil_iff]
    intro line member indent found
    cases (unindented line member).symm.trans found

theorem dvd_amount_of_detectIndent? (width : Nat) {indent : Indent}
    (divides : ∀ line ∈ Text.lines text, ∀ indent,
      Indent.ofLine? line = some indent → width ∣ indent.amount)
    (detected : detectIndent? text = some indent) : 0 < indent.amount ∧ width ∣ indent.amount := by
  obtain ⟨picked, isBest, rfl⟩ := Option.map_eq_some_iff.mp detected
  obtain ⟨skipSingle, same⟩ := exists_candidates_eq text
  have listed : picked ∈ tallies skipSingle (Text.lines text) := same ▸ Tally.mem_of_best? isBest
  exact dvd_of_mem_tallies width divides listed

/-- Each unit has one tally, and in whatever order the tallies are looked at, the same unit comes out as
the one that no other beats. There is none exactly if no line starts with a blank or a tab; otherwise its
text is a positive number of blanks or of tabs. Where all lines are indented by multiples of a number of
blanks, it is such a multiple, too. -/
theorem detectIndent?_determined (text : List Char) :
    ((candidates text).map Tally.unit).Nodup ∧
    (∀ order, order.Perm (candidates text) →
      (Tally.best? order).map Tally.unit = detectIndent? text ∧
      ∀ picked ∈ order, (∀ other ∈ order, other.beats picked = false) →
        detectIndent? text = some picked.unit) ∧
    (detectIndent? text = none ↔
      ∀ line ∈ Text.lines text, line.head? ≠ some ' ' ∧ line.head? ≠ some '\t') ∧
    (∀ indent, detectIndent? text = some indent → 1 ≤ indent.amount ∧
      (indent.kind = .space ∧ indent.text = List.replicate indent.amount ' ' ∨
        indent.kind = .tab ∧ indent.text = List.replicate indent.amount '\t')) ∧
    ∀ width, (∀ line ∈ Text.lines text, line.head? ≠ some '\t' ∧
        width ∣ (line.takeWhile (· == ' ')).length) →
      width ∣ ((detectIndent? text).map Indent.amount).getD 0 := by
  refine ⟨nodup_candidates text, ?_, ?_, ?_, ?_⟩
  · intro order perm
    rw [detectIndent?_eq, ← Tally.best?_perm (nodup_candidates text) perm]
    refine ⟨rfl, fun picked listed unbeaten => ?_⟩
    have distinct := (perm.map Tally.unit).nodup_iff.mpr (nodup_candidates text)
    rw [Tally.best?_eq_of_unbeaten distinct listed unbeaten, Option.map_some]
  · rw [detectIndent?_eq, Option.map_eq_none_iff, Tally.best?_eq_none_iff, candidates_eq_nil_iff]
    simp only [Indent.ofLine?_eq_none_iff]
  · intro indent detected
    have positive := (dvd_amount_of_detectIndent? 1 (by simp) detected).1
    refine ⟨positive, ?_⟩
    cases kind : indent.kind with
    | space => exact .inl ⟨rfl, by rw [Indent.text, kind]; rfl⟩
    | tab => exact .inr ⟨rfl, by rw [Indent.text, kind]; rfl⟩
  · intro width multiples
    cases detected : detectIndent? text with
    | none => exact Nat.dvd_zero width
    | some indent =>
        refine (dvd_amount_of_detectIndent? width ?_ detected).2
        intro line member indent found
        obtain ⟨noTab, divides⟩ := multiples line member
        rwa [Indent.amount_of_ofLine? found noTab]

end InlineScript.Format
