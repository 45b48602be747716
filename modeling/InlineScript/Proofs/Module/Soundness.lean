import InlineScript.Proofs.Module.Redirection

/-!
What is found for an import. The file is there, its name says what it is, it is no markup, and it
belongs to a package exactly if the import was looked up among the packages.
-/

namespace InlineScript.Module

open Component (slash dot)

variable {options : CompilerOptions} {host : Host} {path dir : Path} {name : String}
  {isExternal : Bool} {found : Resolved}

/-! ## Names -/

/-- Bytes end with a stretch that starts behind a slash, or is all of them. -/
theorem exists_opens (bytes : List UInt8) :
    ∃ front body, bytes = front ++ body ∧ Path.Opens front ∧ slash ∉ body := by
  rcases List.eq_nil_or_concat (bytes.splitOn slash) with empty | ⟨others, body, cut⟩
  · exact absurd empty (List.splitOn_ne_nil slash bytes)
  · rw [List.concat_eq_append] at cut
    obtain ⟨front, opens, spelling⟩ := Path.exists_opens_intercalate others body
    have member : body ∈ bytes.splitOn slash := by simp [cut]
    refine ⟨front, body, ?_, opens, Path.slash_not_mem_segment member⟩
    rw [← spelling, ← cut, List.intercalate_splitOn]

theorem extension?_of_markup (markup : Extension.ofPath? path = some .markup) :
    ∃ extension ∈ ["svelte", "html"], path.extension? = some extension := by
  unfold Extension.ofPath? at markup
  split at markup
  · contradiction
  · split at markup
    · contradiction
    · split at markup
      all_goals first
        | contradiction
        | exact ⟨"svelte", by decide, ‹_›⟩
        | exact ⟨"html", by decide, ‹_›⟩

theorem getLast?_label {label : List UInt8} {extension : String}
    (named : path.label? = some label) (read : path.extension? = some extension) :
    label.getLast? = (dot :: Text.Utf8.encode extension.toList).getLast? := by
  obtain ⟨own, before, same, cut⟩ := Path.extension?_eq_some.mp read
  obtain rfl := Option.some.inj (named.symm.trans same)
  obtain ⟨whole, -, -⟩ := Path.cutName?_eq_some_iff.mp cut
  rw [whole, List.getLast?_append, List.getLast?_cons]
  rfl

/-- A name that gets an ending is no markup; its last byte tells. -/
theorem ofPath?_appendText_ne_markup (path : Path) {ending : String}
    (member : ending ∈ endings options) :
    Extension.ofPath? (path.appendText ending) ≠ some .markup := by
  intro markup
  obtain ⟨front, body, bytes, opens, free⟩ := exists_opens path.bytes
  have named : (path.appendText ending).label? = some (body ++ Text.Utf8.encode ending.toList) := by
    rw [← label?_appendText opens free member, ← bytes]
  obtain ⟨extension, markups, read⟩ := extension?_of_markup markup
  have last := getLast?_label named read
  have apart : (typedEndings ++ [".js", ".jsx"]).all (fun ending =>
      ["svelte", "html"].all fun extension => (Text.Utf8.encode ending.toList).getLast?.isSome &&
        (Text.Utf8.encode ending.toList).getLast? !=
          (dot :: Text.Utf8.encode extension.toList).getLast?) = true := by decide
  have differs := List.all_eq_true.mp
    (List.all_eq_true.mp apart ending (mem_of_mem_endings member)) extension markups
  obtain ⟨some, other⟩ := Bool.and_eq_true_iff.mp differs
  rw [List.getLast?_append, Option.or_of_isSome some] at last
  simp [last] at other

/-! ## What is found -/

/-- A module that stands for a file: the file is there, and its name says what it is. -/
structure Stands (host : Host) (isExternal : Bool) (found : Resolved) : Prop where
  isFile : host.fileExists found.fileName = true
  classified : Extension.ofPath? found.fileName = some found.extension
  notMarkup : found.extension ≠ .markup
  origin : found.isExternal = isExternal

theorem stands_of_ofFile? (isFile : host.fileExists path = true)
    (script : Extension.ofPath? path ≠ some .markup)
    (module : ofFile? isExternal path = some found) : Stands host isExternal found := by
  obtain ⟨known, rfl, origin⟩ := ofFile?_eq_some module
  refine ⟨isFile, known, ?_, origin⟩
  intro markup
  exact script (by rw [known, markup])

theorem ofPath?_ne_markup_of_isScriptName (script : isScriptName path = true) :
    Extension.ofPath? path ≠ some .markup := by
  intro markup
  simp [isScriptName, markup] at script

theorem stands_of_withKnownEnding?
    (module : withKnownEnding? options host isExternal path = some found) :
    Stands host isExternal found := by
  obtain ⟨candidate, member, read⟩ := List.exists_of_findSome?_eq_some module
  obtain ⟨ending, known, rfl⟩ := List.mem_map.mp member
  split at read
  next isFile => exact stands_of_ofFile? isFile (ofPath?_appendText_ne_markup path known) read
  next => contradiction

theorem exists_of_typedInstead? {typed : Path} (instead : typedInstead? host path = some typed) :
    host.fileExists typed = true ∧
      ∃ ending ∈ typedEndings, typed = path.withoutExtension.appendText ending := by
  unfold typedInstead? at instead
  split at instead
  next =>
    obtain ⟨ending, member, same⟩ := List.mem_map.mp (List.mem_of_find?_eq_some instead)
    exact ⟨List.find?_some instead, ending, member, same.symm⟩
  next => contradiction

theorem stands_of_asFile? (module : asFile? options host isExternal path = some found) :
    Stands host isExternal found := by
  by_cases own : (isScriptName path && host.fileExists path) = true
  · rw [asFile?_of_own own] at module
    obtain ⟨script, isFile⟩ := Bool.and_eq_true_iff.mp own
    exact stands_of_ofFile? isFile (ofPath?_ne_markup_of_isScriptName script) module
  · cases instead : typedInstead? host path with
    | some typed =>
        rw [asFile?_of_typed own instead] at module
        obtain ⟨isFile, ending, member, rfl⟩ := exists_of_typedInstead? instead
        have known : ending ∈ endings options := List.mem_append_left _ member
        exact stands_of_ofFile? isFile (ofPath?_appendText_ne_markup _ known) module
    | none =>
        rw [asFile?_of_none own instead] at module
        exact stands_of_withKnownEnding? module

theorem stands_of_asFileOrDirectory?
    (module : asFileOrDirectory? options host isExternal path = some found) :
    Stands host isExternal found := by
  rcases Option.or_eq_some_iff.mp module with file | ⟨-, directory⟩
  · exact stands_of_asFile? file
  · rcases Option.or_eq_some_iff.mp directory with entry | ⟨-, index⟩
    · obtain ⟨_, -, file⟩ := Option.bind_eq_some_iff.mp entry
      exact stands_of_asFile? file
    · exact stands_of_asFile? index

theorem stands_of_belowBase? (module : belowBase? options host name = some found) :
    Stands host false found := by
  obtain ⟨_, -, lookup⟩ := Option.bind_eq_some_iff.mp module
  exact stands_of_asFileOrDirectory? lookup

theorem stands_of_inDirectoriesAbove?
    (module : inDirectoriesAbove? options host name dir = some found) : Stands host false found := by
  obtain ⟨_, -, file⟩ := List.exists_of_findSome?_eq_some module
  exact stands_of_asFile? file

theorem stands_of_inPackages? (module : inPackages? options host name dir = some found) :
    Stands host true found := by
  obtain ⟨_, -, lookup⟩ := List.exists_of_findSome?_eq_some module
  exact stands_of_asFileOrDirectory? lookup

/-! ## Where it is found -/

/-- A name that is looked up from the directory of the importing file. -/
def IsDotted (name : String) : Prop :=
  name = "." ∨ name = ".." ∨ "./".toList <+: name.toList ∨ "../".toList <+: name.toList

/-- A name that is looked up from the root. -/
def IsRooted (name : String) : Prop :=
  "/".toList <+: name.toList

theorem isAbsolute_ofText_iff : (Path.ofText name).isAbsolute = true ↔ IsRooted name := by
  constructor
  · intro absolute
    obtain ⟨rest, bytes⟩ := List.head?_eq_some_iff.mp (eq_of_beq absolute)
    have cut : Text.Utf8.encode name.toList = [] ++ slash :: rest := bytes
    obtain ⟨front, back, chars, first, -⟩ := Text.Utf8.exists_of_encode_eq (by decide) cut
    obtain rfl : front = [] := Text.Utf8.encode_injective (first.trans rfl)
    exact ⟨back, chars.symm⟩
  · rintro ⟨rest, chars⟩
    rw [Path.isAbsolute, Path.ofText, ← chars]
    rfl

theorem isRelative_iff : isRelative name = true ↔ IsDotted name ∨ IsRooted name := by
  simp only [isRelative, Bool.or_eq_true, beq_iff_eq, List.isPrefixOf_iff_prefix,
    isAbsolute_ofText_iff, IsDotted, or_assoc]
  rfl

theorem belowBase?_eq_none_iff :
    belowBase? options host name = none ↔ ∀ base, options.baseUrl = some base →
      asFileOrDirectory? options host false (base.child name).normalize = none := by
  rw [belowBase?, Option.bind_eq_none_iff]

/-- The file that an import is resolved to is there, its extension is that of its name and not that
of markup, and it belongs to a package exactly if the name starts neither with a dot segment nor at
the root, nothing is found for it below the base directory, and packages are looked into at all. -/
theorem resolve?_finds_script (options : CompilerOptions) (host : Host) (importer : Path) (name : String)
    (found : Resolved) (resolved : resolve? options host importer name = some found) :
    host.fileExists found.fileName = true ∧
      Extension.ofPath? found.fileName = some found.extension ∧
      found.extension ≠ .markup ∧
      (found.isExternal = true ↔
        ¬ IsDotted name ∧ ¬ IsRooted name ∧
          (∀ base, options.baseUrl = some base →
            asFileOrDirectory? options host false (base.child name).normalize = none) ∧
          (options.moduleResolution = .node ∨ options.moduleResolution = .bundler)) := by
  rw [← belowBase?_eq_none_iff]
  suffices sound : ∃ isExternal, Stands host isExternal found ∧
      (isExternal = true ↔ ¬ IsDotted name ∧ ¬ IsRooted name ∧ belowBase? options host name = none ∧
        (options.moduleResolution = .node ∨ options.moduleResolution = .bundler)) by
    obtain ⟨isExternal, stands, packaged⟩ := sound
    rw [stands.origin]
    exact ⟨stands.isFile, stands.classified, stands.notMarkup, packaged⟩
  unfold resolve? at resolved
  split at resolved
  next relative =>
    have beside := isRelative_iff.mp relative
    exact ⟨false, stands_of_asFileOrDirectory? resolved, by grind⟩
  next bare =>
    obtain ⟨undotted, unrooted⟩ := not_or.mp (mt isRelative_iff.mpr bare)
    rcases Option.or_eq_some_iff.mp resolved with below | ⟨nothing, elsewhere⟩
    · exact ⟨false, stands_of_belowBase? below, by simp [below]⟩
    · cases resolution : options.moduleResolution with
      | classic =>
          rw [resolution] at elsewhere
          exact ⟨false, stands_of_inDirectoriesAbove? elsewhere, by simp⟩
      | node =>
          rw [resolution] at elsewhere
          exact ⟨true, stands_of_inPackages? elsewhere, by simp [undotted, unrooted, nothing]⟩
      | bundler =>
          rw [resolution] at elsewhere
          exact ⟨true, stands_of_inPackages? elsewhere, by simp [undotted, unrooted, nothing]⟩

private def typedPackage : Std.TreeMap Path String Path.order :=
  .ofList [(.ofText "/p/node_modules/@types/scope__lib/package.json",
      "\x7b\"types\": \"./dist/../lib.js\"\x7d"),
    (.ofText "/p/node_modules/@types/scope__lib/lib.d.ts", "")] Path.order

theorem resolve?_finds_script_typedPackage :
    let options : CompilerOptions := { baseUrl := some (.ofText "/p/base") }
    let host : Host := .ofFiles typedPackage
    let found : Resolved :=
      { fileName := .ofText "/p/node_modules/@types/scope__lib/lib.d.ts", extension := .dts,
        isExternal := true }
    resolve? options host (.ofText "/p/src/main.ts") "@scope/lib" = some found ∧
      host.fileExists found.fileName = true ∧ Extension.ofPath? found.fileName = some .dts ∧
      ¬ IsDotted "@scope/lib" ∧
      asFileOrDirectory? options host false (.ofText "/p/base/@scope/lib") = none := by
  intro options host found
  have resolved : resolve? options host (.ofText "/p/src/main.ts") "@scope/lib" = some found := by
    decide +kernel
  obtain ⟨isFile, classified, -, packaged⟩ :=
    resolve?_finds_script options host (.ofText "/p/src/main.ts") "@scope/lib" found resolved
  obtain ⟨undotted, -, nothing, -⟩ := packaged.mp rfl
  have normal : ((Path.ofText "/p/base").child "@scope/lib").normalize =
      .ofText "/p/base/@scope/lib" := by decide +kernel
  exact ⟨resolved, isFile, classified, undotted, normal ▸ nothing _ rfl⟩

end InlineScript.Module
