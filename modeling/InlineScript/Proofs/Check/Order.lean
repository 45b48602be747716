import InlineScript.Check.Finding

/-!
Findings by their start. Those with the same start keep their order, so that two lists are sorted
alike as soon as they agree for each start by itself.
-/

namespace InlineScript.Finding

theorem start_trans (first second third : Finding) :
    decide (first.span.start ≤ second.span.start) = true →
      decide (second.span.start ≤ third.span.start) = true →
      decide (first.span.start ≤ third.span.start) = true := by
  simp only [decide_eq_true_eq]
  exact Nat.le_trans

theorem start_total (first second : Finding) :
    (decide (first.span.start ≤ second.span.start) ||
      decide (second.span.start ≤ first.span.start)) = true := by
  simpa using Nat.le_total _ _

/-- Whether findings stand in the order of their starts. -/
def InOrder (findings : List Finding) : Prop :=
  findings.Pairwise fun first second => first.span.start ≤ second.span.start

instance (findings : List Finding) : Decidable (InOrder findings) :=
  inferInstanceAs (Decidable (List.Pairwise _ findings))

theorem inOrder_sort (findings : List Finding) : InOrder (sort findings) :=
  (List.pairwise_mergeSort start_trans start_total findings).imp of_decide_eq_true

theorem sort_of_inOrder {findings : List Finding} (order : InOrder findings) :
    sort findings = findings :=
  List.mergeSort_of_pairwise (order.imp decide_eq_true)

theorem sort_sort (findings : List Finding) : sort (sort findings) = sort findings :=
  sort_of_inOrder (inOrder_sort findings)

theorem sort_perm (findings : List Finding) : (sort findings).Perm findings :=
  List.mergeSort_perm findings _

/-- The findings that start at an offset. -/
def startingAt (offset : Nat) (findings : List Finding) : List Finding :=
  findings.filter fun finding => finding.span.start == offset

/-- Findings that start at one offset keep their order. -/
theorem startingAt_sort (offset : Nat) (findings : List Finding) :
    startingAt offset (sort findings) = startingAt offset findings := by
  have same : (startingAt offset findings).Pairwise fun first second =>
      decide (first.span.start ≤ second.span.start) = true := by
    apply List.pairwise_iff_forall_sublist.mpr
    intro first second pair
    have starts (finding : Finding) (member : finding ∈ [first, second]) :
        finding.span.start = offset :=
      eq_of_beq (List.mem_filter.mp (pair.subset member)).2
    rw [starts first (by simp), starts second (by simp)]
    simp
  have kept : (startingAt offset findings).Sublist (startingAt offset (sort findings)) := by
    have sublist := List.sublist_mergeSort start_trans start_total same List.filter_sublist
    have again := sublist.filter fun finding => finding.span.start == offset
    simpa only [startingAt, sort, List.filter_filter, Bool.and_self] using again
  exact (kept.eq_of_length ((sort_perm findings).filter _).length_eq.symm).symm

theorem startingAt_cons_self (finding : Finding) (rest : List Finding) :
    startingAt finding.span.start (finding :: rest) =
      finding :: startingAt finding.span.start rest := by
  simp [startingAt]

/-- The first of findings in order starts no later than any that another list has at its start. -/
theorem start_le_of_startingAt {finding other : Finding} {rest others : List Finding}
    (order : InOrder (other :: others))
    (same : startingAt finding.span.start (finding :: rest) =
      startingAt finding.span.start (other :: others)) :
    other.span.start ≤ finding.span.start := by
  have member : finding ∈ startingAt finding.span.start (other :: others) := by
    rw [← same, startingAt_cons_self]
    exact List.mem_cons_self
  rcases List.mem_cons.mp (List.mem_filter.mp member).1 with rfl | later
  · exact Nat.le_refl _
  · exact List.rel_of_pairwise_cons order later

/-- Findings in order are determined by those that start at each offset. -/
theorem eq_of_startingAt {first second : List Finding} (firstOrder : InOrder first)
    (secondOrder : InOrder second)
    (same : ∀ offset, startingAt offset first = startingAt offset second) : first = second := by
  induction first generalizing second with
  | nil =>
      cases second with
      | nil => rfl
      | cons other others =>
          have own := same other.span.start
          rw [startingAt_cons_self] at own
          contradiction
  | cons finding rest ih =>
      cases second with
      | nil =>
          have own := same finding.span.start
          rw [startingAt_cons_self] at own
          contradiction
      | cons other others =>
          have start : finding.span.start = other.span.start :=
            Nat.le_antisymm (start_le_of_startingAt firstOrder (same _).symm)
              (start_le_of_startingAt secondOrder (same _))
          have own := same finding.span.start
          rw [startingAt_cons_self, start, startingAt_cons_self, List.cons.injEq] at own
          obtain ⟨rfl, ownRest⟩ := own
          have sameRest (offset : Nat) : startingAt offset rest = startingAt offset others := by
            by_cases here : finding.span.start = offset
            · rw [← here]
              exact ownRest
            · simpa [startingAt, here] using same offset
          rw [ih firstOrder.of_cons secondOrder.of_cons sameRest]

/-- Sorting forgets how findings with different starts stand to each other, and nothing else. -/
theorem sort_congr {first second : List Finding}
    (same : ∀ offset, startingAt offset first = startingAt offset second) :
    sort first = sort second := by
  apply eq_of_startingAt (inOrder_sort first) (inOrder_sort second)
  intro offset
  rw [startingAt_sort, startingAt_sort, same]

end InlineScript.Finding
