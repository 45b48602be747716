import Std.Data.TreeMap
import InlineScript.Proofs.Module.Agreement

/-!
What one file more changes. An import means what it meant before, or it means that file; only where
the file stands in the place of an untyped one whose name is no text, it can hide another.
-/

namespace InlineScript.Module

open Component (slash dot)

variable {options : CompilerOptions} {host more : Host} {path file dir : Path} {name : String}
  {isExternal : Bool}

/-! ## Hosts with one file more -/

/-- The host that a map of files gives. -/
def Host.ofFiles (files : Std.TreeMap Path String Path.order) : Host where
  fileExists := files.contains
  fileText := files.get?

/-- A host that has the files of another, and may have one more. -/
structure Host.Extends (more host : Host) (file : Path) : Prop where
  keeps : ∀ path, host.fileExists path = true → more.fileExists path = true
  adds : ∀ path, more.fileExists path = true →
    host.fileExists path = true ∨ path.same file = true
  texts : ∀ path, path.same file = false → more.fileText path = host.fileText path

theorem Host.extends_insert (files : Std.TreeMap Path String Path.order) (file : Path)
    (text : String) : (ofFiles (files.insert file text)).Extends (ofFiles files) file where
  keeps path found := by
    simp only [ofFiles, Std.TreeMap.contains_insert, Bool.or_eq_true] at found ⊢
    exact .inr found
  adds path found := by
    simp only [ofFiles, Std.TreeMap.contains_insert, Bool.or_eq_true, beq_iff_eq,
      Path.order_eq_iff_same, Path.same_comm file path] at found ⊢
    exact found.symm
  texts path other := by
    have different : Path.order file path ≠ .eq := by
      simp [Path.order_eq_iff_same, Path.same_comm file path, other]
    simp only [ofFiles, Std.TreeMap.get?_eq_getElem?, Std.TreeMap.getElem?_insert, if_neg different]

theorem Host.extends_erase (files : Std.TreeMap Path String Path.order) (file : Path) :
    (ofFiles files).Extends (ofFiles (files.erase file)) file where
  keeps path found := by
    simp only [ofFiles, Std.TreeMap.contains_erase, Bool.and_eq_true] at found ⊢
    exact found.2
  adds path found := by
    simp only [ofFiles, Std.TreeMap.contains_erase, Bool.and_eq_true, bne_iff_ne, ne_eq,
      Path.order_eq_iff_same, Path.same_comm file path] at found ⊢
    by_cases same : path.same file = true
    · exact .inr same
    · exact .inl ⟨same, found⟩
  texts path other := by
    have different : Path.order file path ≠ .eq := by
      simp [Path.order_eq_iff_same, Path.same_comm file path, other]
    simp only [ofFiles, Std.TreeMap.get?_eq_getElem?, Std.TreeMap.getElem?_erase, if_neg different]

theorem fileExists_extends (larger : more.Extends host file) (path : Path) :
    more.fileExists path = host.fileExists path ∨
      more.fileExists path = true ∧ host.fileExists path = false ∧ path.same file = true := by
  cases now : more.fileExists path with
  | true =>
      cases before : host.fileExists path with
      | true => exact .inl rfl
      | false =>
          refine .inr ⟨rfl, rfl, (larger.adds path now).resolve_left ?_⟩
          simp [before]
  | false =>
      cases before : host.fileExists path with
      | true => rw [larger.keeps path before] at now; contradiction
      | false => exact .inl rfl

theorem find?_extends (larger : more.Extends host file) (candidates : List Path) :
    candidates.find? more.fileExists = candidates.find? host.fileExists ∨
      ∃ found ∈ candidates, candidates.find? more.fileExists = some found ∧
        found.same file = true := by
  induction candidates with
  | nil => exact .inl rfl
  | cons first rest ih =>
      rcases fileExists_extends larger first with same | ⟨now, -, same⟩
      · rw [List.find?_cons, List.find?_cons, same]
        cases host.fileExists first with
        | true => exact .inl rfl
        | false =>
            apply ih.imp_right
            intro ⟨found, member, rest⟩
            exact ⟨found, List.mem_cons_of_mem _ member, rest⟩
      · exact .inr ⟨first, List.mem_cons_self, List.find?_cons_of_pos now, same⟩

/-! ## Results that can differ -/

/-- Two results are the same, or the later one is the file, or the earlier one is lost. -/
def Redirects (file : Path) (lost : Resolved → Prop) (before after : Option Resolved) : Prop :=
  after = before ∨ (∃ found, after = some found ∧ found.fileName.same file = true) ∨
    ∃ found, before = some found ∧ lost found

variable {lost : Resolved → Prop} {before after : Option Resolved}

theorem Redirects.refl (result : Option Resolved) : Redirects file lost result result :=
  .inl rfl

theorem Redirects.or (first : Redirects file lost before after) {early late : Option Resolved}
    (second : Redirects file lost early late) :
    Redirects file lost (before.or early) (after.or late) := by
  rcases first with rfl | ⟨found, rfl, same⟩ | ⟨found, rfl, gone⟩
  · cases after with
    | none => simpa using second
    | some found => exact .refl _
  · exact .inr (.inl ⟨found, rfl, same⟩)
  · exact .inr (.inr ⟨found, rfl, gone⟩)

theorem Redirects.findSome? {α : Type} {early late : α → Option Resolved} {candidates : List α}
    (each : ∀ candidate ∈ candidates, Redirects file lost (early candidate) (late candidate)) :
    Redirects file lost (candidates.findSome? early) (candidates.findSome? late) := by
  induction candidates with
  | nil => exact .refl _
  | cons first rest ih =>
      have unfolded (search : α → Option Resolved) :
          (first :: rest).findSome? search = (search first).or (rest.findSome? search) := by
        rw [List.findSome?_cons]
        cases search first <;> rfl
      rw [unfolded, unfolded]
      exact (each first List.mem_cons_self).or
        (ih fun candidate member => each candidate (List.mem_cons_of_mem _ member))

/-! ## Names that are texts -/

/-- Bytes that spell a text. -/
def IsText (bytes : List UInt8) : Prop :=
  ∃ text, Text.Utf8.encode text = bytes

theorem isText_append_dot_iff {front back : List UInt8} :
    IsText (front ++ dot :: back) ↔ IsText front ∧ IsText back := by
  constructor
  · intro ⟨text, bytes⟩
    obtain ⟨first, second, -, head, tail⟩ := Text.Utf8.exists_of_encode_eq (by decide) bytes
    exact ⟨⟨first, head⟩, ⟨second, tail⟩⟩
  · rintro ⟨⟨first, rfl⟩, ⟨second, rfl⟩⟩
    exact ⟨first ++ '.' :: second, by rw [Text.Utf8.encode_append, Text.Utf8.encode_cons]; rfl⟩

theorem isSome_fileName?_iff {label : List UInt8} (named : path.label? = some label) :
    path.fileName?.isSome = true ↔ IsText label := by
  rw [Path.fileName?, named, Option.bind_some, Option.isSome_map, Option.isSome_iff_exists]
  simp only [Text.Utf8.text?_eq_some_iff, IsText]

/-- The extension of a path depends on its name only. -/
theorem ofPath?_congr {other : Path} (same : path.label? = other.label?) :
    Extension.ofPath? path = Extension.ofPath? other := by
  have names : path.fileName? = other.fileName? := by rw [Path.fileName?, same, Path.fileName?]
  have extensions : path.extension? = other.extension? := by
    rw [Path.extension?, same, Path.extension?]
  rw [Extension.ofPath?, names, extensions, Extension.ofPath?]

theorem ofPath?_of_fileName?_none (unnamed : path.fileName? = none) :
    Extension.ofPath? path = none := by
  rw [Extension.ofPath?, unnamed]

/-- An ending makes a name of what stands behind a slash. -/
theorem label?_appendText {front body : List UInt8} (opens : Path.Opens front)
    (free : slash ∉ body) {ending : String} (member : ending ∈ endings options) :
    (Path.appendText ⟨front ++ body⟩ ending).label? =
      some (body ++ Text.Utf8.encode ending.toList) := by
  have spelled := (isEnding_of_mem (mem_of_mem_endings member)).isSpelled free
  rw [Path.appendText, List.append_assoc]
  exact Path.label?_of_opens opens spelled

/-- The typed files in the place of an untyped one have a name each that is a text if and only if
the name of the untyped one is. -/
theorem exists_typed_name (untyped : isUntypedName path = true) :
    ∃ body, body ≠ [] ∧ (path.fileName?.isSome = true ↔ IsText body) ∧
      ∀ ending ∈ typedEndings, (path.withoutExtension.appendText ending).label? =
        some (body ++ Text.Utf8.encode ending.toList) := by
  obtain ⟨label, stem, extension, named, cut⟩ := exists_of_isUntypedName untyped
  obtain ⟨whole, -, nonempty⟩ := Path.cutName?_eq_some_iff.mp cut
  obtain ⟨front, _, ends⟩ := Path.exists_ends named
  obtain ⟨body, rest, shape⟩ := ends.exists_withoutExtension cut
  have kept : body ≠ [] := by
    rcases shape with rfl | ⟨-, rfl⟩
    · exact nonempty
    · decide
  have free : slash ∉ body := by
    rcases shape with rfl | ⟨-, rfl⟩
    · intro member
      exact ends.spelled.1 (by simp [Component.label, whole, member])
    · decide
  refine ⟨body, kept, ?_, ?_⟩
  · rw [isSome_fileName?_iff named, whole, isText_append_dot_iff]
    have text : IsText (Text.Utf8.encode extension) := ⟨extension, rfl⟩
    rcases shape with rfl | ⟨rfl, rfl⟩
    · simp [text]
    · have single : IsText [dot] := ⟨['.'], by decide⟩
      have double : IsText [dot, dot] := ⟨['.', '.'], by decide⟩
      simp [text, single, double]
  · intro ending member
    have known : ending ∈ endings {} := List.mem_append_left _ member
    rw [rest]
    exact label?_appendText ends.opens free known

/-- A typed file whose name is a text has a module in it. -/
theorem isSome_ofPath?_of_typed {stem : List Char} (nonempty : stem ≠ []) {ending : String}
    (member : ending ∈ typedEndings)
    (named : path.label? = some (Text.Utf8.encode (stem ++ ending.toList))) :
    (Extension.ofPath? path).isSome = true := by
  have text : path.fileName? = some (String.ofList (stem ++ ending.toList)) := by
    rw [Path.fileName?, named, Option.bind_some, Text.Utf8.text?_eq_some_iff.mpr rfl,
      Option.map_some]
  have behind (extension : String) (free : '.' ∉ extension.toList)
      (same : ending.toList = '.' :: extension.toList) : path.extension? = some extension := by
    have label : path.label? =
        some (Text.Utf8.encode (String.ofList stem ++ "." ++ extension).toList) := by
      simp [named, same]
    refine (Path.extension?_eq_some_iff label).mpr ⟨String.ofList stem, ?_, rfl, free⟩
    exact mt String.ofList_eq_empty_iff.mp nonempty
  simp only [Extension.ofPath?, text, String.toList_ofList]
  simp only [typedEndings, List.mem_cons, List.not_mem_nil, or_false] at member
  rcases member with rfl | rfl | rfl
  · rw [behind "ts" (by decide) (by decide)]
    split <;> rfl
  · rw [behind "tsx" (by decide) (by decide)]
    split <;> rfl
  · have declares : Extension.declarationEndings.any
        (fun ending => ending.toList.isSuffixOf (stem ++ ".d.ts".toList)) = true := by
      simp [Extension.declarationEndings]
    rw [if_pos declares]
    rfl

/-! ## One path as a file -/

/-- The file stands in the place of an untyped one whose name is no text: no module is in it. -/
structure Shadows (file path : Path) : Prop where
  untyped : isUntypedName path = true
  unnamed : path.fileName? = none
  typed : ∃ ending ∈ typedEndings, (path.withoutExtension.appendText ending).same file = true

theorem ofFile?_eq_some {found : Resolved} (module : ofFile? isExternal path = some found) :
    Extension.ofPath? path = some found.extension ∧ found.fileName = path ∧
      found.isExternal = isExternal := by
  obtain ⟨extension, known, rfl⟩ := Option.map_eq_some_iff.mp module
  exact ⟨known, rfl, rfl⟩

theorem ofFile?_of_ofPath?_none (unknown : Extension.ofPath? path = none) :
    ofFile? isExternal path = none := by
  rw [ofFile?, unknown, Option.map_none]

/-- Where the file is found, the result is that file or none. -/
theorem Redirects.of_same (same : path.same file = true) (before : Option Resolved) :
    Redirects file lost before (ofFile? isExternal path) ∨ ofFile? isExternal path = none := by
  cases module : ofFile? isExternal path with
  | none => exact .inr rfl
  | some found =>
      obtain ⟨-, rfl, -⟩ := ofFile?_eq_some module
      exact .inl (.inr (.inl ⟨found, rfl, same⟩))

theorem typedInstead?_extends (larger : more.Extends host file) (path : Path) :
    typedInstead? more path = typedInstead? host path ∨
      isUntypedName path = true ∧ ∃ ending ∈ typedEndings,
        typedInstead? more path = some (path.withoutExtension.appendText ending) ∧
          (path.withoutExtension.appendText ending).same file = true := by
  unfold typedInstead?
  split
  next untyped =>
    rcases find?_extends larger (typedEndings.map path.withoutExtension.appendText) with
      same | ⟨found, member, first, same⟩
    · exact .inl same
    · obtain ⟨ending, known, rfl⟩ := List.mem_map.mp member
      exact .inr ⟨untyped, ending, known, first, same⟩
  next => exact .inl rfl

theorem isSome_ofFile?_typed (untyped : isUntypedName path = true)
    (named : path.fileName?.isSome = true) {ending : String} (member : ending ∈ typedEndings) :
    (ofFile? isExternal (path.withoutExtension.appendText ending)).isSome = true := by
  obtain ⟨body, nonempty, texts, names⟩ := exists_typed_name untyped
  obtain ⟨stem, rfl⟩ := texts.mp named
  rw [ofFile?, Option.isSome_map]
  apply isSome_ofPath?_of_typed _ member
  · rw [names ending member, Text.Utf8.encode_append]
  · rintro rfl
    exact nonempty rfl

/-- The module in a path with one of the endings that are tried. -/
def withKnownEnding? (options : CompilerOptions) (host : Host) (isExternal : Bool) (path : Path) :
    Option Resolved :=
  ((endings options).map path.appendText).findSome? fun candidate =>
    if host.fileExists candidate then ofFile? isExternal candidate else none

theorem asFile?_of_own (own : (isScriptName path && host.fileExists path) = true) :
    asFile? options host isExternal path = ofFile? isExternal path := by
  rw [asFile?, if_pos own]

theorem asFile?_of_typed (missing : ¬(isScriptName path && host.fileExists path) = true)
    {typed : Path} (found : typedInstead? host path = some typed) :
    asFile? options host isExternal path = ofFile? isExternal typed := by
  rw [asFile?, if_neg missing, found]

theorem asFile?_of_none (missing : ¬(isScriptName path && host.fileExists path) = true)
    (none : typedInstead? host path = none) :
    asFile? options host isExternal path = withKnownEnding? options host isExternal path := by
  rw [asFile?, if_neg missing, none]
  rfl

theorem isSome_ofFile?_of_isScriptName (script : isScriptName path = true) :
    (ofFile? isExternal path).isSome = true := by
  rw [ofFile?, Option.isSome_map]
  unfold isScriptName at script
  split at script
  · contradiction
  · contradiction
  next known => rw [known]; rfl

theorem withKnownEnding?_redirects (larger : more.Extends host file) :
    Redirects file lost (withKnownEnding? options host isExternal path)
      (withKnownEnding? options more isExternal path) := by
  apply Redirects.findSome?
  intro candidate _
  rcases fileExists_extends larger candidate with same | ⟨now, before, same⟩
  · rw [same]
    exact .refl _
  · rw [if_pos now, if_neg (by simp [before])]
    rcases Redirects.of_same same none with redirects | unknown
    · exact redirects
    · rw [unknown]
      exact .refl _

/-- With one file more, a path means the same file or that one, unless it is shadowed. -/
theorem asFile?_extends (larger : more.Extends host file) :
    Redirects file lost (asFile? options host isExternal path)
        (asFile? options more isExternal path) ∨
      Shadows file path ∧ asFile? options more isExternal path = none := by
  by_cases own : (isScriptName path && more.fileExists path) = true
  · rcases fileExists_extends larger path with same | ⟨-, -, same⟩
    · rw [asFile?_of_own own, asFile?_of_own (by rw [← same]; exact own)]
      exact .inl (.refl _)
    · rw [asFile?_of_own own]
      rcases Redirects.of_same same _ with redirects | unknown
      · exact .inl redirects
      · have known : (ofFile? isExternal path).isSome = true :=
          isSome_ofFile?_of_isScriptName (Bool.and_eq_true_iff.mp own).1
        rw [unknown] at known
        contradiction
  · have missing : ¬(isScriptName path && host.fileExists path) = true := by
      simp only [Bool.and_eq_true, not_and] at own ⊢
      exact fun script before => own script (larger.keeps path before)
    rcases typedInstead?_extends larger path with same | ⟨untyped, ending, member, found, same⟩
    · left
      cases before : typedInstead? host path with
      | some typed =>
          rw [asFile?_of_typed missing before, asFile?_of_typed own (same.trans before)]
          exact .refl _
      | none =>
          rw [asFile?_of_none missing before, asFile?_of_none own (same.trans before)]
          exact withKnownEnding?_redirects larger
    · rw [asFile?_of_typed own found]
      rcases Redirects.of_same same _ with redirects | unknown
      · exact .inl redirects
      · refine .inr ⟨⟨untyped, ?_, ending, member, same⟩, unknown⟩
        rw [← Option.not_isSome_iff_eq_none]
        intro named
        have known : (ofFile? isExternal (path.withoutExtension.appendText ending)).isSome = true :=
          isSome_ofFile?_typed untyped named member
        rw [unknown] at known
        contradiction

/-! ## Paths that are shadowed -/

/-- A path whose name, if it has one, is a text. -/
def IsLegible (path : Path) : Prop :=
  ∀ label, path.label? = some label → IsText label

theorem Shadows.exists_label (shadows : Shadows file path) :
    ∃ label, path.label? = some label ∧ ¬ IsText label := by
  obtain ⟨label, _, _, named, _⟩ := exists_of_isUntypedName shadows.untyped
  refine ⟨label, named, ?_⟩
  rw [← isSome_fileName?_iff named, shadows.unnamed]
  decide

theorem asFile?_redirects (larger : more.Extends host file) (legible : IsLegible path) :
    Redirects file lost (asFile? options host isExternal path)
      (asFile? options more isExternal path) := by
  refine (asFile?_extends larger).resolve_right fun ⟨shadows, _⟩ => ?_
  obtain ⟨label, named, illegible⟩ := shadows.exists_label
  exact illegible (legible label named)

theorem ofPath?_of_not_isText {label : List UInt8} (named : path.label? = some label)
    (illegible : ¬ IsText label) : Extension.ofPath? path = none := by
  apply ofPath?_of_fileName?_none
  rw [← Option.not_isSome_iff_eq_none, isSome_fileName?_iff named]
  exact illegible

/-- Every ending begins with a dot, so what stands before it in a text is a text. -/
theorem isText_of_append_ending {front : List UInt8} {ending : String}
    (member : ending ∈ endings options)
    (text : IsText (front ++ Text.Utf8.encode ending.toList)) : IsText front := by
  have dotted : (typedEndings ++ [".js", ".jsx"]).all
      (fun text => (Text.Utf8.encode text.toList).head? == some dot) = true := by decide
  obtain ⟨rest, bytes⟩ := List.head?_eq_some_iff.mp
    (eq_of_beq (List.all_eq_true.mp dotted ending (mem_of_mem_endings member)))
  rw [bytes, isText_append_dot_iff] at text
  exact text.1

/-- What is found for a shadowed path is the path with an ending. -/
theorem Shadows.exists_ending (shadows : Shadows file path) {found : Resolved}
    (module : asFile? options host isExternal path = some found) :
    ∃ ending ∈ endings options, ofFile? isExternal (path.appendText ending) = some found := by
  have missing : ¬(isScriptName path && host.fileExists path) = true := by
    simp [isScriptName, ofPath?_of_fileName?_none shadows.unnamed]
  cases instead : typedInstead? host path with
  | none =>
      rw [asFile?_of_none missing instead] at module
      obtain ⟨candidate, member, read⟩ := List.exists_of_findSome?_eq_some module
      obtain ⟨ending, known, rfl⟩ := List.mem_map.mp member
      split at read
      · exact ⟨ending, known, read⟩
      · contradiction
  | some typed =>
      rw [asFile?_of_typed missing instead] at module
      rw [typedInstead?, if_pos shadows.untyped] at instead
      obtain ⟨ending, member, rfl⟩ := List.mem_map.mp (List.mem_of_find?_eq_some instead)
      obtain ⟨body, -, texts, names⟩ := exists_typed_name shadows.untyped
      have known : ending ∈ endings options := List.mem_append_left _ member
      have illegible : ¬ IsText (body ++ Text.Utf8.encode ending.toList) := by
        intro text
        have named := texts.mpr (isText_of_append_ending known text)
        rw [shadows.unnamed] at named
        contradiction
      rw [ofFile?_of_ofPath?_none (ofPath?_of_not_isText (names ending member) illegible)] at module
      contradiction

/-- No ending gives a path in normal form a name that is a text, if its own is none. -/
theorem asFile?_normalize_redirects (larger : more.Extends host file) :
    Redirects file lost (asFile? options host isExternal path.normalize)
      (asFile? options more isExternal path.normalize) := by
  rcases asFile?_extends larger with redirects | ⟨shadows, after⟩
  · exact redirects
  · left
    rw [after, eq_comm, Option.eq_none_iff_forall_ne_some]
    intro found module
    obtain ⟨ending, member, read⟩ := shadows.exists_ending module
    obtain ⟨label, named, illegible⟩ := shadows.exists_label
    obtain ⟨front, ends⟩ := Path.exists_ends_normalize named
    have spelling : path.normalize = ⟨front ++ label⟩ := by
      rw [← List.append_nil (front ++ label), ← ends.bytes]
    have free : slash ∉ label := ends.spelled.1
    have longer := label?_appendText ends.opens free member
    rw [← spelling] at longer
    have unknown := ofPath?_of_not_isText longer (mt (isText_of_append_ending member) illegible)
    rw [ofFile?_of_ofPath?_none unknown] at read
    contradiction

/-- With an ending alone for its name, a module is in `.d.ts` only. -/
theorem ofPath?_appendText_of_opens {front : List UInt8} (opens : Path.Opens front)
    {ending : String} (member : ending ∈ endings options) {extension : Extension}
    (known : Extension.ofPath? (Path.appendText ⟨front⟩ ending) = some extension) :
    ending = ".d.ts" ∧ extension = .dts := by
  have all : (typedEndings ++ [".js", ".jsx"]).all (fun text =>
      Extension.ofPath? (Path.empty.appendText text) ==
        if text = ".d.ts" then some .dts else none) = true := by decide +kernel
  have nameless : slash ∉ ([] : List UInt8) := List.not_mem_nil
  have own := label?_appendText opens nameless member
  have alone := label?_appendText (.inl rfl) nameless member
  rw [List.append_nil] at own
  rw [ofPath?_congr (own.trans alone.symm)] at known
  have read := eq_of_beq (List.all_eq_true.mp all ending (mem_of_mem_endings member))
  have same := read.symm.trans known
  split at same
  next declares => exact ⟨declares, (Option.some.inj same).symm⟩
  next => contradiction

theorem opens_child_nameless (dir : Path) : Path.Opens (dir.child "").bytes := by
  have relative : (Path.ofText "").isAbsolute = false := by decide
  have nothing : (Path.ofText "").bytes = [] := by decide
  rw [Path.child, Path.join, if_neg (by simp [relative])]
  split
  next ended =>
    rw [nothing, List.append_nil]
    rcases Bool.or_eq_true_iff.mp ended with empty | last
    · exact .inl (List.isEmpty_iff.mp empty)
    · exact .inr (List.getLast?_eq_some_iff.mp (eq_of_beq last))
  next =>
    rw [nothing]
    exact .inr ⟨dir.bytes, rfl⟩

/-- In a directory that is shadowed, only `.d.ts` is lost. -/
theorem asFile?_nameless_redirects (larger : more.Extends host file)
    (uncovers : Shadows file (dir.child "") →
      lost { fileName := (dir.child "").appendText ".d.ts", extension := .dts, isExternal }) :
    Redirects file lost (asFile? options host isExternal (dir.child ""))
      (asFile? options more isExternal (dir.child "")) := by
  rcases asFile?_extends larger with redirects | ⟨shadows, after⟩
  · exact redirects
  · cases before : asFile? options host isExternal (dir.child "") with
    | none => exact .inl after
    | some found =>
        obtain ⟨ending, member, read⟩ := shadows.exists_ending before
        obtain ⟨known, own, external⟩ := ofFile?_eq_some read
        obtain ⟨rfl, declares⟩ :=
          ofPath?_appendText_of_opens (opens_child_nameless dir) member known
        refine .inr (.inr ⟨found, rfl, ?_⟩)
        have whole : found =
            { fileName := (dir.child "").appendText ".d.ts", extension := .dts, isExternal } := by
          rw [← own, ← declares, ← external]
        rw [whole]
        exact uncovers shadows

/-! ## Where imports are looked up -/

theorem isLegible_child {text : String} (legible : IsLegible dir) : IsLegible (dir.child text) := by
  intro label named
  rcases Path.label?_child named with ⟨piece, bytes⟩ | ⟨outer, -⟩
  · exact ⟨piece, bytes⟩
  · exact legible label outer

theorem isLegible_child_of_named {text : String}
    (named : (Path.ofText text).segments.filterMap Component.ofSegment? ≠ []) :
    IsLegible (dir.child text) := by
  intro label found
  rcases Path.label?_child found with ⟨piece, bytes⟩ | ⟨-, unnamed⟩
  · exact ⟨piece, bytes⟩
  · contradiction

/-- A name that is not looked up next to the importing file begins with a name of a file. -/
theorem named_of_not_isRelative (bare : isRelative name = false) (nonempty : name ≠ "") :
    (Path.ofText name).segments.filterMap Component.ofSegment? ≠ [] := by
  intro unnamed
  obtain ⟨first, rest, pieces⟩ :=
    List.exists_cons_of_ne_nil (List.splitOn_ne_nil '/' name.toList)
  have whole : ['/'].intercalate (first :: rest) = name.toList := by
    rw [← pieces, List.intercalate_splitOn]
  rw [Path.segments_ofText, pieces, List.map_cons, List.filterMap_eq_nil_iff] at unnamed
  have idle := Path.isIdle_iff.mp
    (Path.ofSegment?_eq_none_iff.mp (unnamed _ List.mem_cons_self))
  have start : first = [] ∨ first = ['.'] :=
    idle.imp (fun bytes => Text.Utf8.encode_injective (bytes.trans rfl))
      (fun bytes => Text.Utf8.encode_injective (bytes.trans (by decide)))
  -- Then the name is empty or a dot, or begins with a slash or a dot and a slash.
  have relative : isRelative name = true := by
    cases rest with
    | nil =>
        rw [List.intercalate_singleton] at whole
        rcases start with rfl | rfl
        · exact absurd (String.toList_injective (whole.symm.trans rfl)) nonempty
        · have dotted : name = "." := String.toList_injective (whole.symm.trans (by decide))
          rw [dotted]
          decide
    | cons second others =>
        rw [List.intercalate_cons_cons] at whole
        rcases start with rfl | rfl
        · have absolute : (Path.ofText name).isAbsolute = true := by
            rw [Path.isAbsolute, Path.ofText, ← whole]
            rfl
          simp [isRelative, absolute]
        · simp [isRelative, ← whole]
  rw [bare] at relative
  contradiction

theorem fileName?_child_manifest (dir : Path) :
    (dir.child "package.json").fileName? = some "package.json" := by
  rw [Path.fileName?, label?_child_manifest, Option.bind_some, Text.Utf8.text?_eq_some_iff.mpr rfl,
    Option.map_some, String.ofList_toList]

theorem packageFile?_extends (larger : more.Extends host file)
    (ordinary : file.fileName? ≠ some "package.json") (dir : Path) :
    packageFile? more dir = packageFile? host dir := by
  have other : (dir.child "package.json").same file = false := by
    rw [← Bool.not_eq_true]
    intro same
    apply ordinary
    rw [← fileName?_child_manifest dir, Path.fileName?, Path.fileName?, Path.label?, Path.label?,
      eq_of_beq same]
  rw [packageFile?, larger.texts _ other]
  rfl

theorem asFileOrDirectory?_redirects (larger : more.Extends host file)
    (ordinary : file.fileName? ≠ some "package.json")
    (own : Redirects file lost (asFile? options host isExternal path)
      (asFile? options more isExternal path)) :
    Redirects file lost (asFileOrDirectory? options host isExternal path)
      (asFileOrDirectory? options more isExternal path) := by
  have entry : Redirects file lost
      ((packageFile? host path).bind (asFile? options host isExternal))
      ((packageFile? more path).bind (asFile? options more isExternal)) := by
    rw [packageFile?_extends larger ordinary]
    cases found : packageFile? host path with
    | none =>
        rw [Option.bind_none, Option.bind_none]
        exact .refl none
    | some entry =>
        obtain ⟨path, rfl⟩ := exists_normalize_of_packageFile? found
        exact asFile?_normalize_redirects larger
  have index : Redirects file lost (asFile? options host isExternal (path.child "index"))
      (asFile? options more isExternal (path.child "index")) :=
    asFile?_redirects larger (isLegible_child_of_named (by decide))
  exact own.or (entry.or index)

/-- A module that the file hides: `.d.ts` in a directory above the importing file, found for the empty
name where the name of the directory is no text. -/
structure Hides (options : CompilerOptions) (importer : Path) (name : String) (file : Path)
    (found : Resolved) : Prop where
  classic : options.moduleResolution = .classic
  nameless : name = ""
  shadowed : ∃ dir ∈ importer.directory.ancestors, Shadows file (dir.child "") ∧
    found = { fileName := (dir.child "").appendText ".d.ts", extension := .dts, isExternal := false }

theorem inDirectoriesAbove?_redirects (larger : more.Extends host file) {importer : Path}
    (bare : isRelative name = false) (classic : options.moduleResolution = .classic) :
    Redirects file (Hides options importer name file)
      (inDirectoriesAbove? options host name importer.directory)
      (inDirectoriesAbove? options more name importer.directory) := by
  apply Redirects.findSome?
  intro candidate member
  obtain ⟨dir, above, rfl⟩ := List.mem_map.mp member
  by_cases nameless : name = ""
  · subst nameless
    exact asFile?_nameless_redirects larger
      fun shadows => ⟨classic, rfl, dir, above, shadows, rfl⟩
  · exact asFile?_redirects larger
      (isLegible_child_of_named (named_of_not_isRelative bare nameless))

theorem inPackages?_redirects (larger : more.Extends host file)
    (ordinary : file.fileName? ≠ some "package.json") :
    Redirects file lost (inPackages? options host name dir) (inPackages? options more name dir) := by
  apply Redirects.findSome?
  intro candidate member
  obtain ⟨ancestor, -, places⟩ := List.mem_flatMap.mp member
  have packages : IsLegible (ancestor.child "node_modules") := isLegible_child_of_named (by decide)
  apply asFileOrDirectory?_redirects larger ordinary
  apply asFile?_redirects larger
  simp only [List.mem_cons, List.not_mem_nil, or_false] at places
  rcases places with rfl | rfl
  · exact isLegible_child packages
  · exact isLegible_child (isLegible_child packages)

theorem resolve?_redirects (larger : more.Extends host file)
    (ordinary : file.fileName? ≠ some "package.json") (importer : Path) (name : String) :
    Redirects file (Hides options importer name file) (resolve? options host importer name)
      (resolve? options more importer name) := by
  have normal {path : Path} : Redirects file (Hides options importer name file)
      (asFileOrDirectory? options host false path.normalize)
      (asFileOrDirectory? options more false path.normalize) :=
    asFileOrDirectory?_redirects larger ordinary (asFile?_normalize_redirects larger)
  unfold resolve?
  cases bare : isRelative name with
  | true => exact normal
  | false =>
      apply Redirects.or
      · rw [belowBase?, belowBase?]
        cases options.baseUrl with
        | none =>
            rw [Option.bind_none, Option.bind_none]
            exact .refl none
        | some base => exact normal
      · cases resolution : options.moduleResolution with
        | classic => exact inDirectoriesAbove?_redirects larger bare resolution
        | node => exact inPackages?_redirects larger ordinary
        | bundler => exact inPackages?_redirects larger ordinary

/-- With a file more that is no package manifest, an import means what it meant, or that file, or
loses a module that the file hides; without a file, only imports that meant it mean something else,
or find a module that it hid. -/
theorem resolve_redirects_to_added (files : Std.TreeMap Path String Path.order) (file : Path)
    (ordinary : file.fileName? ≠ some "package.json") (options : CompilerOptions) (importer : Path)
    (name : String) :
    ∀ resolve ∈ [@resolve?, @resolveWithMarkup?],
      (∀ text, Redirects file (Hides options importer name file)
        (resolve options (.ofFiles files) importer name)
        (resolve options (.ofFiles (files.insert file text)) importer name)) ∧
      Redirects file (Hides options importer name file)
        (resolve options (.ofFiles (files.erase file)) importer name)
        (resolve options (.ofFiles files) importer name) := by
  have both {host more : Host} (larger : more.Extends host file) :
      ∀ resolve ∈ [@resolve?, @resolveWithMarkup?],
        Redirects file (Hides options importer name file) (resolve options host importer name)
          (resolve options more importer name) := by
    simp only [List.forall_mem_cons]
    refine ⟨resolve?_redirects larger ordinary importer name,
      (resolve?_redirects larger ordinary importer name).or (.refl _), by simp⟩
  intro resolve member
  exact ⟨fun text => both (Host.extends_insert files file text) resolve member,
    both (Host.extends_erase files file) resolve member⟩

private def oneSibling : Std.TreeMap Path String Path.order :=
  .ofList [(.ofText "/p/util.js", "")] Path.order

theorem resolve_redirects_to_added_sibling :
    (Path.ofText "/p/util.ts").fileName? ≠ some "package.json" ∧
      Redirects (.ofText "/p/util.ts") (Hides {} (.ofText "/p/a.ts") "./util" (.ofText "/p/util.ts"))
        (some { fileName := .ofText "/p/util.js", extension := .js, isExternal := false })
        (some { fileName := .ofText "/p/util.ts", extension := .ts, isExternal := false }) := by
  have ordinary : (Path.ofText "/p/util.ts").fileName? ≠ some "package.json" := by decide +kernel
  have before : resolve? {} (.ofFiles oneSibling) (.ofText "/p/a.ts") "./util" =
      some { fileName := .ofText "/p/util.js", extension := .js, isExternal := false } := by
    decide +kernel
  have after : resolve? {} (.ofFiles (oneSibling.insert (.ofText "/p/util.ts") ""))
      (.ofText "/p/a.ts") "./util" =
      some { fileName := .ofText "/p/util.ts", extension := .ts, isExternal := false } := by
    decide +kernel
  refine ⟨ordinary, ?_⟩
  rw [← before, ← after]
  exact (resolve_redirects_to_added oneSibling _ ordinary _ _ _ _ List.mem_cons_self).1 ""

/-- The path of a file in `/p` whose name is no text. -/
private def illegibleName : Path :=
  (Path.ofText "/p").join ⟨[0xFF]⟩

private def shadowedFiles : Std.TreeMap Path String Path.order :=
  .ofList [((illegibleName.appendText ".js").child ".d.ts", "")] Path.order

/-- A file that no module can be in takes the place of a directory, and what the directory holds is
found no more. -/
theorem resolve?_none_of_added :
    shadowedFiles.contains (illegibleName.appendText ".ts") = false ∧
      (illegibleName.appendText ".ts").fileName? ≠ some "package.json" ∧
      resolve? { moduleResolution := .classic } (.ofFiles shadowedFiles)
          ((illegibleName.appendText ".js").child "main.js") "" =
        some { fileName := (illegibleName.appendText ".js").child ".d.ts", extension := .dts,
               isExternal := false } ∧
      resolve? { moduleResolution := .classic }
          (.ofFiles (shadowedFiles.insert (illegibleName.appendText ".ts") ""))
          ((illegibleName.appendText ".js").child "main.js") "" = none := by
  decide +kernel

end InlineScript.Module
