import Mathlib.Data.List.Perm.Basic
import InlineScript.Check.Meaning
import InlineScript.Proofs.Check.Order
import InlineScript.Proofs.Tree.Walk

/-!
Names that are declared twice, collected through a map from texts to names. Whatever order the map
gives its texts in, the same names are found; and where no two names of a block start at the same
byte, sorting makes the lists the same, too.
-/

namespace InlineScript.Check

variable {text : Text.Cuts} {names : List Tree} {keys : List (List Char)} {block : Tree}

/-- Whether texts are those of some names, each once, in the order in which a map from texts to names
happens to give them. -/
def Iterates (text : Text.Cuts) (names : List Tree) (keys : List (List Char)) : Prop :=
  keys.Nodup ∧ ∀ key, key ∈ keys ↔ ∃ name ∈ names, name.textIn text = key

/-- The names that a map has under a text, in the order in which they were added. -/
def namesUnder (text : Text.Cuts) (names : List Tree) (key : List Char) : List Tree :=
  names.filter fun name => name.textIn text == key

/-- The names of which a map has more than one under a text. -/
def repeatedBy (text : Text.Cuts) (keys : List (List Char)) (names : List Tree) : List Tree :=
  keys.flatMap fun key =>
    let group := namesUnder text names key
    if group.length < 2 then [] else group

/-- The findings for names declared twice, with the order in which each block's map gives its
texts. -/
def redeclarationsBy (text : Text.Cuts) (keys : Site → List (List Char)) (root : Tree) :
    List Finding :=
  root.sites.flatMap fun site =>
    if isBlock site.tree then
      (repeatedBy text (keys site) (blockNames site.tree)).map (redeclared text)
    else
      []

/-- The problems of a file by their start, with names declared twice found through maps. -/
def semanticBy (keys : Site → List (List Char))
    (resolve : List String → List (Option Module.Resolved)) (file : SourceFile) : List Finding :=
  match file.tree with
  | none => []
  | some root =>
      let text := file.cuts
      Finding.sort
        (unresolvedImports text resolve root ++ redeclarationsBy text keys root
          ++ if file.isTyped then mismatches text root else [])

/-! ## The same names -/

theorem repeatedNames_eq (text : Text.Cuts) (block : Tree) :
    repeatedNames text block = (blockNames block).filter fun name =>
      1 < (namesUnder text (blockNames block) (name.textIn text)).length := by
  simp only [repeatedNames, List.filter_map, List.map_map, List.countP_map, namesUnder,
    ← List.countP_eq_length_filter]
  exact List.map_id _

/-- The names under different texts are those with one of the texts. -/
theorem flatMap_namesUnder_perm (distinct : keys.Nodup) :
    (keys.flatMap (namesUnder text names)).Perm
      (names.filter fun name => keys.contains (name.textIn text)) := by
  induction keys with
  | nil => simp
  | cons key rest ih =>
      obtain ⟨fresh, restDistinct⟩ := List.nodup_cons.mp distinct
      -- Names with one of the texts have the first one, or another.
      have split := List.filter_append_perm (fun name : Tree => name.textIn text == key)
        (names.filter fun name => (key :: rest).contains (name.textIn text))
      have first : (names.filter fun name => (key :: rest).contains (name.textIn text)).filter
          (fun name => name.textIn text == key) = namesUnder text names key := by
        rw [List.filter_filter]
        apply List.filter_congr
        intro name _
        by_cases same : name.textIn text = key <;> simp [same]
      have others : (names.filter fun name => (key :: rest).contains (name.textIn text)).filter
          (fun name => !(name.textIn text == key)) =
            names.filter fun name => rest.contains (name.textIn text) := by
        rw [List.filter_filter]
        apply List.filter_congr
        intro name _
        by_cases same : name.textIn text = key
        · simp [same, fresh]
        · simp [same]
      rw [first, others] at split
      exact ((ih restDistinct).append_left _).trans split

theorem repeatedBy_eq (text : Text.Cuts) (keys : List (List Char)) (names : List Tree) :
    repeatedBy text keys names = (keys.flatMap (namesUnder text names)).filter fun name =>
      1 < (namesUnder text names (name.textIn text)).length := by
  rw [List.filter_flatMap, repeatedBy]
  congr 1
  funext key
  -- All names under a text are as many.
  have alike : (namesUnder text names key).filter
      (fun name => 1 < (namesUnder text names (name.textIn text)).length) =
        (namesUnder text names key).filter fun _ => 1 < (namesUnder text names key).length := by
    apply List.filter_congr
    intro name member
    rw [eq_of_beq (List.mem_filter.mp member).2]
  rw [alike]
  by_cases few : (namesUnder text names key).length < 2
  · have one : ¬1 < (namesUnder text names key).length := by omega
    simp only [few, one, decide_false, List.filter_false, if_true]
  · have more : 1 < (namesUnder text names key).length := by omega
    simp only [few, more, decide_true, List.filter_true, if_false]

theorem repeatedBy_perm (iterates : Iterates text (blockNames block) keys) :
    (repeatedBy text keys (blockNames block)).Perm (repeatedNames text block) := by
  have all : (blockNames block).filter (fun name => keys.contains (name.textIn text)) =
      blockNames block := by
    apply List.filter_eq_self.mpr
    intro name member
    simpa using (iterates.2 _).mpr ⟨name, member, rfl⟩
  have grouped : (keys.flatMap (namesUnder text (blockNames block))).Perm _ :=
    flatMap_namesUnder_perm iterates.1
  rw [all] at grouped
  rw [repeatedBy_eq, repeatedNames_eq]
  exact grouped.filter _

/-! ## The same order -/

/-- Whether the names that a block declares start at different bytes. -/
def StartApart (block : Tree) : Prop :=
  (blockNames block).Pairwise fun first second => first.start ≠ second.start

instance (block : Tree) : Decidable (StartApart block) :=
  inferInstanceAs (Decidable (List.Pairwise _ _))

/-- Of names that start at different bytes, at most one starts at an offset. -/
theorem length_filter_start_le_one
    (apart : names.Pairwise fun first second => first.start ≠ second.start) (offset : Nat) :
    (names.filter fun name => name.start == offset).length ≤ 1 := by
  have starts {name : Tree} (member : name ∈ names.filter fun name => name.start == offset) :
      name.start = offset := eq_of_beq (List.mem_filter.mp member).2
  have differ := apart.filter fun name => name.start == offset
  generalize names.filter (fun name => name.start == offset) = found at starts differ
  match found with
  | [] => exact Nat.zero_le 1
  | [_] => exact Nat.le_refl 1
  | first :: second :: rest =>
      have same := (starts (by simp : first ∈ _)).trans (starts (by simp : second ∈ _)).symm
      exact absurd same (List.rel_of_pairwise_cons differ List.mem_cons_self)

theorem startingAt_map_redeclared (text : Text.Cuts) (offset : Nat) (names : List Tree) :
    Finding.startingAt offset (names.map (redeclared text)) =
      (names.filter fun name => name.start == offset).map (redeclared text) := by
  rw [Finding.startingAt, List.filter_map]
  rfl

theorem startingAt_repeatedBy (iterates : Iterates text (blockNames block) keys)
    (apart : StartApart block) (offset : Nat) :
    Finding.startingAt offset ((repeatedBy text keys (blockNames block)).map (redeclared text)) =
      Finding.startingAt offset ((repeatedNames text block).map (redeclared text)) := by
  rw [startingAt_map_redeclared, startingAt_map_redeclared]
  have same := (repeatedBy_perm iterates).filter fun name => name.start == offset
  have short : ((repeatedNames text block).filter fun name => name.start == offset).length ≤ 1 := by
    rw [repeatedNames_eq]
    exact length_filter_start_le_one (apart.filter _) offset
  generalize (repeatedNames text block).filter (fun name => name.start == offset) = found
    at same short
  -- There is one order only for a list with no two elements.
  match found with
  | [] => rw [same.eq_nil]
  | [name] => rw [List.perm_singleton.mp same]
  | _ :: _ :: _ => simp at short

theorem startingAt_redeclarationsBy {order : Site → List (List Char)} {root : Tree}
    (iterates : ∀ site, Iterates text (blockNames site.tree) (order site))
    (apart : ∀ site, root.HasNamedSite site → isBlock site.tree = true → StartApart site.tree)
    (offset : Nat) :
    Finding.startingAt offset (redeclarationsBy text order root) =
      Finding.startingAt offset (redeclarations text root) := by
  simp only [redeclarationsBy, redeclarations, Finding.startingAt, List.filter_flatMap]
  apply List.flatMap_congr
  intro site member
  split
  · exact startingAt_repeatedBy (iterates site)
      (apart site (Tree.mem_sites_iff.mp member) ‹_›) offset
  · rfl

theorem semanticBy_perm {file : SourceFile} {order : Site → List (List Char)}
    (iterates : ∀ site, Iterates file.cuts (blockNames site.tree) (order site))
    (resolve : List String → List (Option Module.Resolved)) :
    (semanticBy order resolve file).Perm (semantic resolve file) := by
  cases parsed : file.tree with
  | none =>
      simp only [semanticBy, semantic, parsed]
      exact .refl _
  | some root =>
      have names : (redeclarationsBy file.cuts order root).Perm (redeclarations file.cuts root) := by
        apply List.Perm.flatMap_left
        intro site _
        split
        · exact (repeatedBy_perm (iterates site)).map _
        · exact .refl _
      simp only [semanticBy, semantic, parsed]
      exact ((Finding.sort_perm _).trans ((names.append_left _).append_right _)).trans
        (Finding.sort_perm _).symm

theorem inOrder_semanticBy (order : Site → List (List Char))
    (resolve : List String → List (Option Module.Resolved)) (file : SourceFile) :
    Finding.InOrder (semanticBy order resolve file) := by
  unfold semanticBy
  split
  · exact .nil
  · exact Finding.inOrder_sort _

/-- Where names start apart in each block, the problems of a file do not show in which order a map
gives its texts. -/
theorem semanticBy_eq {file : SourceFile} {root : Tree} {order : Site → List (List Char)}
    (parsed : file.tree = some root)
    (iterates : ∀ site, Iterates file.cuts (blockNames site.tree) (order site))
    (apart : ∀ site, root.HasNamedSite site → isBlock site.tree = true → StartApart site.tree)
    (resolve : List String → List (Option Module.Resolved)) :
    semanticBy order resolve file = semantic resolve file := by
  simp only [semanticBy, semantic, parsed]
  apply Finding.sort_congr
  intro offset
  have same := startingAt_redeclarationsBy iterates apart offset
  simp only [Finding.startingAt, List.filter_append] at same ⊢
  rw [same]

end InlineScript.Check
