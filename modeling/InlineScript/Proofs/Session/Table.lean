import InlineScript.Proofs.Path.NormalForm
import InlineScript.Session.Files

/-!
What a table says about a path, and what it says after a script was stored. All spellings of a path
with one normal form have one entry.
-/

namespace InlineScript.Table

variable {table : Table} {path other : Path} {snapshot : Snapshot}

/-! ## Entries -/

@[simp] theorem snapshot?_normalize : table.snapshot? path.normalize = table.snapshot? path := by
  simp only [snapshot?, Path.normalize_normalize]

@[simp] theorem dialect?_normalize : table.dialect? path.normalize = table.dialect? path := by
  simp only [dialect?, Path.normalize_normalize]

@[simp] theorem version_normalize : table.version path.normalize = table.version path := by
  simp only [version, snapshot?_normalize]

theorem snapshot?_congr (same : path.normalize = other.normalize) :
    table.snapshot? path = table.snapshot? other := by
  simp only [snapshot?, same]

theorem version_of_snapshot? (found : table.snapshot? path = some snapshot) :
    table.version path = snapshot.version := by
  simp only [version, found]

theorem snapshot?_put :
    (table.put path snapshot).2.snapshot? other =
      if path.normalize = other.normalize then some snapshot else table.snapshot? other := by
  simp only [put, snapshot?, Std.TreeMap.getElem?_insert, Path.order_normalize_eq_iff]

theorem dialect?_put :
    (table.put path snapshot).2.dialect? other =
      if path.normalize = other.normalize then some snapshot.dialect else table.dialect? other := by
  simp only [put, dialect?, Std.TreeMap.getElem?_insert, Path.order_normalize_eq_iff]

theorem version_put :
    (table.put path snapshot).2.version other =
      if path.normalize = other.normalize then snapshot.version else table.version other := by
  simp only [version, snapshot?_put]
  by_cases same : path.normalize = other.normalize
  · simp only [if_pos same]
  · simp only [if_neg same]

theorem snapshot?_ofProjectFiles (paths : List Path) :
    (ofProjectFiles paths).snapshot? path = none := by
  simp [ofProjectFiles, snapshot?]

theorem isTracked_eq (table : Table) (path : Path) :
    table.isTracked path = (table.snapshot? path).isSome := by
  simp only [isTracked, snapshot?, Std.TreeMap.contains_eq_isSome_getElem?]

/-- A script in memory is one of the files of the program. -/
theorem any_files_of_snapshot? (found : table.snapshot? path = some snapshot) :
    table.files.any path.normalize.same = true := by
  let : BEq Path := ⟨Path.same⟩
  have : Std.LawfulBEqCmp Path.order := Path.lawful_same
  have tracked : table.snapshots.contains path.normalize = true := by
    have isTracked := isTracked_eq table path
    rw [found] at isTracked
    exact isTracked
  have listed : table.files.contains path.normalize = true := by
    rw [files, Std.TreeSet.contains_toList, Std.TreeSet.contains_insertMany_list,
      Std.TreeMap.contains_keys, tracked, Bool.or_true]
  rw [List.contains_eq_any_beq] at listed
  exact listed

/-! ## Versions -/

/-- A script gets a greater version each time it is stored, unless it has the largest already. -/
theorem version_lt_nextVersion (below : table.version path < versionLimit) (requested : Nat) :
    table.version path < table.nextVersion path requested := by
  unfold version at below
  unfold version nextVersion
  cases found : table.snapshot? path with
  | none =>
      simp only []
      omega
  | some previous =>
      simp only [found] at below ⊢
      omega

theorem nextVersion_le (table : Table) (path : Path) {requested bound : Nat} (asked : requested ≤ bound)
    (small : table.version path < bound) : table.nextVersion path requested ≤ bound := by
  unfold version at small
  unfold nextVersion
  cases found : table.snapshot? path with
  | none =>
      simp only []
      omega
  | some previous =>
      simp only [found] at small ⊢
      omega

/-! ## Dialects -/

/-- The dialects are those of the states that are held. -/
def Consistent (table : Table) : Prop :=
  ∀ path, table.dialect? path = (table.snapshot? path).map Snapshot.dialect

theorem consistent_ofProjectFiles (paths : List Path) : (ofProjectFiles paths).Consistent := by
  intro path
  simp [ofProjectFiles, snapshot?, dialect?]

theorem Consistent.put (consistent : table.Consistent) : (table.put path snapshot).2.Consistent := by
  intro other
  rw [dialect?_put, snapshot?_put]
  split
  · rfl
  · exact consistent other

end InlineScript.Table
