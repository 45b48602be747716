import InlineScript.Proofs.Path.NormalForm

/-!
The way from a directory to a file, and what it is for a file below the directory: the names that
lead down to it.
-/

namespace InlineScript

open Component (slash)

theorem Text.Utf8.encode_injective {text other : List Char}
    (bytes : Text.Utf8.encode text = Text.Utf8.encode other) : text = other := by
  apply String.ofList_injective
  apply String.toByteArray_inj.mp
  simp only [String.toByteArray_ofList, List.utf8Encode]
  exact congrArg List.toByteArray bytes

theorem Text.Utf8.encode_intercalate (between : List Char) (texts : List (List Char)) :
    Text.Utf8.encode (between.intercalate texts) =
      (Text.Utf8.encode between).intercalate (texts.map Text.Utf8.encode) := by
  induction texts with
  | nil => rfl
  | cons first rest ih =>
      cases rest with
      | nil => simp
      | cons second others =>
          rw [List.intercalate_cons_cons, List.map_cons, List.map_cons, List.intercalate_cons_cons,
            ← List.map_cons, ← ih]
          simp only [Text.Utf8.encode, List.flatMap_append]

namespace Component

instance (component : Component) : Decidable component.IsSpelled :=
  inferInstanceAs (Decidable (_ ∧ _))

def isName : Component → Bool
  | name _ => true
  | _ => false

/-- The component that a text spells between slashes. -/
def ofName (text : String) : Component :=
  .name (Text.Utf8.encode text.toList)

/-- Two lists of components without those that both begin with. -/
def apart : List Component → List Component → List Component × List Component
  | first :: rest, other :: others =>
      if first = other then apart rest others else (first :: rest, other :: others)
  | rest, others => (rest, others)

theorem apart_append (front rest : List Component) : apart front (front ++ rest) = ([], rest) := by
  induction front with
  | nil => cases rest <;> rfl
  | cons first front ih => rw [List.cons_append, apart, if_pos rfl, ih]

end Component

namespace Path

/-- The way from a directory to a path: up to the last directory above both, and down from there.
There is none between a relative path and an absolute one, and none back from above the place where
relative paths start: only a disk knows the names on it. -/
def wayFrom? (path dir : Path) : Option Path :=
  let (left, entered) := Component.apart dir.normalize.components path.normalize.components
  if left.all Component.isName ∧ Component.root ∉ entered then
    some (ofComponents (left.map (fun _ => .up) ++ entered))
  else
    none

example : (ofText "/app/gen/x.ts").wayFrom? (ofText "/base/./lib") =
    some (ofText "../../app/gen/x.ts") := by decide +kernel

/-! ## Down from a directory -/

variable {dir : Path} {names : List String}

theorem components_foldl_child (named : ∀ name ∈ names, (Component.ofName name).IsSpelled) :
    (names.foldl child dir).components = dir.components ++ names.map Component.ofName := by
  induction names generalizing dir with
  | nil => simp
  | cons first rest ih =>
      have firstNamed := named first List.mem_cons_self
      rw [List.foldl_cons, ih fun name member => named name (List.mem_cons_of_mem _ member), child,
        ofText, components_join_name dir firstNamed, List.append_assoc]
      rfl

theorem normalComponents_append_names (components : List Component) (names : List String) :
    normalComponents (components ++ names.map Component.ofName) =
      normalComponents components ++ names.map Component.ofName := by
  induction names generalizing components with
  | nil => simp
  | cons first rest ih =>
      rw [List.map_cons, List.append_cons, ih, Component.ofName, normalComponents_concat_name,
        List.append_assoc]
      rfl

theorem ofComponents_names (named : ∀ name ∈ names, (Component.ofName name).IsSpelled) :
    ofComponents (names.map Component.ofName) = ofText ("/".intercalate names) := by
  have spelled : ∀ component ∈ names.map Component.ofName, component.IsSpelled := by
    intro component member
    obtain ⟨name, found, rfl⟩ := List.mem_map.mp member
    exact named name found
  have divider : [slash] = Text.Utf8.encode "/".toList := by decide
  rw [ofComponents_of_spelled spelled, ofText, String.toList_intercalate,
    Text.Utf8.encode_intercalate, divider, List.map_map, List.map_map]
  rfl

/-- To a file below a directory, the way is the names that lead down to it. -/
theorem wayFrom?_foldl_child (named : ∀ name ∈ names, (Component.ofName name).IsSpelled) :
    (names.foldl child dir).normalize.wayFrom? dir = some (ofText ("/".intercalate names)) := by
  have below : (names.foldl child dir).normalize.components =
      dir.normalize.components ++ names.map Component.ofName := by
    rw [components_normalize, components_foldl_child named, normalComponents_append_names,
      components_normalize]
  have down : Component.root ∉ names.map Component.ofName := by
    simp [Component.ofName]
  simp only [wayFrom?, normalize_normalize, below, Component.apart_append]
  rw [if_pos ⟨rfl, down⟩, List.map_nil, List.nil_append, ofComponents_names named]

end Path

end InlineScript
