import InlineScript.Disk.Tree
import InlineScript.Proofs.Document.Exchange
import InlineScript.Proofs.Format.Layout
import InlineScript.Proofs.Format.Replacement

/-!
Formatting a file that has been formatted. The script is found again, for its words are the same, and
its layout is the same but for the lines of templates. What may differ is the indentation that is
found in it: the first run looks at the script as it was written, the second at what the first made
of it.
-/

namespace InlineScript.Format

open Text

variable {settings : Settings} {body new : List Char}

/-- The indentation that a script is placed at. -/
def indentOf (body : List Char) : List Char :=
  ((detectIndent? body).map Indent.text).getD []

/-- Whether a script stays as it is once it is formatted: nothing is in it, or the indentation found
in it then is the one that it was placed at, and that is none or moves no line of a template. -/
def Settles (settings : Settings) (body : List Char) : Prop :=
  ∀ new ∈ replacement? settings body,
    new = ['\n'] ∨
      indentOf new = indentOf body ∧
        (indentOf body = [] ∨ literalLines .start (Text.lines body) = [])

instance (settings : Settings) (body : List Char) : Decidable (Settles settings body) :=
  inferInstanceAs (Decidable (∀ new ∈ replacement? settings body, _))

theorem isIndent_indentOf (body : List Char) : IsIndent (indentOf body) := by
  unfold indentOf
  cases detectIndent? body with
  | none => simp [IsIndent]
  | some found =>
      apply isIndent_replicate
      cases found.kind with
      | space => exact .inl rfl
      | tab => exact .inr rfl

/-! ## The replacement of a script -/

theorem replacement?_eq_some_iff (noReturn : '\r' ∉ body) :
    replacement? settings body = some new ↔
      body ≠ [] ∧ ∃ result, LaidOut settings.indentUnit false .start (Text.lines body) result ∧
        new = terminated (placedLines (indentOf body) result) := by
  have isUnit := isIndent_indentUnit settings
  have unbroken := unbroken_lines noReturn
  unfold replacement?
  constructor
  · intro found
    split at found
    next => contradiction
    next some =>
      split at found
      next => contradiction
      next formatted ok =>
        obtain ⟨result, laid, rfl⟩ := (layout_eq_ok_iff isUnit).mp ok
        cases found
        have inPlace := placed_terminated (indentOf body) (laid.unbroken isUnit unbroken)
        exact ⟨by simpa using some, result, laid, inPlace⟩
  · rintro ⟨some, result, laid, rfl⟩
    have ok := (layout_eq_ok_iff isUnit).mpr ⟨result, laid, rfl⟩
    have inPlace := placed_terminated (indentOf body) (laid.unbroken isUnit unbroken)
    simp only [List.isEmpty_iff, some, if_false, ok, ← inPlace]
    rfl

/-- What a first run puts in the place of a script, and what a second makes of that. -/
theorem replacement?_again (noReturn : '\r' ∉ body) (found : replacement? settings body = some new) :
    '\r' ∉ new ∧ ink new = ink body ∧
      ∃ again, replacement? settings new = some again ∧
        (again = new ↔ new = ['\n'] ∨ indentOf new = indentOf body ∧
          (indentOf body = [] ∨ literalLines .start (Text.lines body) = [])) := by
  obtain ⟨-, result, laid, same⟩ := (replacement?_eq_some_iff noReturn).mp found
  have isUnit := isIndent_indentUnit settings
  have isIndent := isIndent_indentOf body
  have unbroken : Unbroken (placedLines (indentOf body) result) :=
    unbroken_placedLines isIndent (laid.unbroken isUnit (unbroken_lines noReturn))
  have newNoReturn : '\r' ∉ new := same ▸ unbroken.not_mem
  have newLines : Text.lines new = placedLines (indentOf body) result := same ▸ unbroken.lines_eq
  refine ⟨newNoReturn, ?_, ?_⟩
  · rw [ink_eq_flatMap_lines newNoReturn, newLines, ink_placedLines isIndent,
      ink_eq_flatMap_lines noReturn, laid.ink_eq isUnit]
  · -- the second run lays out the first one's lines as they stand in their place
    have relaid := laid.placedLines isUnit isIndent
    have againUnbroken := unbroken_placedLines (isIndent_indentOf new)
      (relaid.unbroken isUnit unbroken)
    rw [← newLines] at relaid
    have some : new ≠ [] := by simp [same, placedLines]
    refine ⟨_, (replacement?_eq_some_iff newNoReturn).mpr ⟨some, _, relaid, rfl⟩, ?_⟩
    have empty : new = ['\n'] ↔ result = [] := by
      cases result <;> simp [same, placedLines]
    rw [empty, ← laid.placedLines_eq_iff isUnit, ← againUnbroken.inj unbroken, ← same]

/-! ## Two runs -/

variable {disk : Disk} {path : Path} {text : List Char}

theorem formatFile_of_replacement?_none
    (none : replacement? (Settings.discover disk path) (Document.ofHost path text 1).body = none) :
    formatFile disk path text = text := by
  apply formatFile_of_edits_nil
  simp only [edits, Document.path_ofHost, none]

theorem formatFile_of_replacement? (noReturn : '\r' ∉ text)
    (found : replacement? (Settings.discover disk path) (Document.ofHost path text 1).body =
      some new) :
    formatFile disk path text =
      (Document.ofHost path text 1).before ++ new ++ (Document.ofHost path text 1).after := by
  have host : (Document.ofHost path text 1).host = text := Document.host_ofHost
  have place : (Document.ofHost path text 1).path = path := Document.path_ofHost
  generalize whole : Document.ofHost path text 1 = doc at found host place ⊢
  have listed : { range := doc.hostRange 0 doc.textLength, newText := String.ofList new } ∈
      edits disk (Document.ofHost path text 1) := by
    simp only [edits, whole, place, found, List.mem_singleton]
  have formatted := formatFile_of_mem_edits listed
  obtain ⟨front, inBody, -⟩ := Document.not_mem_ofHost noReturn path 1
  simp only [whole, String.toList_ofList] at formatted front inBody
  have script : '\r' ∉ doc.before ++ doc.body := by simp [front, inBody]
  rw [formatted, upToReturn_of_not_mem_return front, upToReturn_of_not_mem_return script, splice,
    ← host, ← doc.stop_eq, doc.dropBytes_stop]
  have start := doc.takeBytes_start
  rw [Document.start] at start
  rw [start]

/-- The script of a file that has been formatted. -/
theorem ofHost_formatFile (noReturn : '\r' ∉ text)
    (found : replacement? (Settings.discover disk path) (Document.ofHost path text 1).body =
      some new) :
    '\r' ∉ formatFile disk path text ∧
      Document.ofHost path (formatFile disk path text) 1 =
        { Document.ofHost path text 1 with body := new } := by
  obtain ⟨inBefore, inBody, inAfter⟩ := Document.not_mem_ofHost noReturn path 1
  obtain ⟨inNew, words, -⟩ := replacement?_again inBody found
  have script := ((replacement?_eq_some_iff inBody).mp found).1
  rw [formatFile_of_replacement? noReturn found]
  exact ⟨by simp [inBefore, inNew, inAfter], Document.ofHost_exchange script words⟩

/-- A file without carriage returns that is formatted twice is what it is when it is formatted once,
if and only if its script settles. -/
theorem formatFile_twice_eq_iff (disk : Disk) (path : Path) (text : List Char)
    (noReturn : '\r' ∉ text) :
    formatFile disk path (formatFile disk path text) = formatFile disk path text ↔
      Settles (Settings.discover disk path) (Document.ofHost path text 1).body := by
  cases found : replacement? (Settings.discover disk path) (Document.ofHost path text 1).body with
  | none =>
      rw [formatFile_of_replacement?_none found, formatFile_of_replacement?_none found]
      simp [Settles, found]
  | some new =>
      have inBody := (Document.not_mem_ofHost noReturn path 1).2.1
      obtain ⟨-, -, again, foundAgain, settled⟩ := replacement?_again inBody found
      obtain ⟨outNoReturn, exchanged⟩ := ofHost_formatFile noReturn found
      have twice := formatFile_of_replacement? outNoReturn (by rw [exchanged]; exact foundAgain)
      rw [exchanged] at twice
      rw [twice, formatFile_of_replacement? noReturn found]
      simp [Settles, found, settled]

/-- A disk that asks for four blanks. -/
private def wideDisk : Disk :=
  (FileTree.dir [(".prettierrc.json", .file (some "\x7b\"tabWidth\": 4\x7d"))]).disk Path.root

/-- A script indented by four blanks, with a template that spans lines in a group only. -/
private def widePage : List Char :=
  "<h1>é</h1>\n<script>\n    if (a) \x7b\n    b(\x60$\x7b\nc\x7d\x60)\n    \x7d\n</script>\n".toList

theorem formatFile_twice_eq_iff_widePage :
    let page := Path.ofText "/page.html"
    '\r' ∉ widePage ∧ formatFile wideDisk page widePage ≠ widePage ∧
      formatFile wideDisk page (formatFile wideDisk page widePage) =
        formatFile wideDisk page widePage := by
  intro page
  have noReturn : '\r' ∉ widePage := by decide +kernel
  refine ⟨noReturn, by decide +kernel, ?_⟩
  exact (formatFile_twice_eq_iff wideDisk page widePage noReturn).mpr (by decide +kernel)

/-- The unit of indentation that a first run brings into a script is what a second one indents it
by as a whole. -/
theorem formatFile_twice_ne_once :
    let main := Path.ofText "/main.js"
    formatFile wideDisk main "a(\nb)\n".toList = "\na(\n    b)\n".toList ∧
      formatFile wideDisk main (formatFile wideDisk main "a(\nb)\n".toList) =
        "\n    a(\n        b)\n".toList := by
  decide +kernel

end InlineScript.Format
