import InlineScript.Disk.Tree
import InlineScript.Format.Edit
import InlineScript.Proofs.Document.Script
import InlineScript.Proofs.Text.LineIndex

/-!
What formatting does to a file. The bounds of the script are told as positions and read back as
offsets, and on that way a carriage return ends a line for the reader only. So the script is replaced
exactly where no carriage return stands before one of its bounds on the same line.
-/

namespace InlineScript

open Text

namespace Document

theorem takeBytes_start (doc : Document) : takeBytes doc.start doc.host = doc.before := by
  rw [start, host, List.append_assoc, takeBytes_byteLength]

theorem stop_eq (doc : Document) : doc.stop = byteLength (doc.before ++ doc.body) := by
  rw [stop, start, byteLength_append]

theorem takeBytes_stop (doc : Document) : takeBytes doc.stop doc.host = doc.before ++ doc.body := by
  rw [stop_eq, host, takeBytes_byteLength]

theorem dropBytes_stop (doc : Document) : dropBytes doc.stop doc.host = doc.after := by
  rw [stop_eq, host, dropBytes_byteLength]

/-- The first bound of a script, read back. -/
theorem offsetAt_hostRange_start (doc : Document) :
    doc.index.offsetAt (doc.hostRange 0 doc.textLength).start =
      byteLength (upToReturn doc.before) := by
  have back := LineIndex.offsetAt_positionAt doc.before (doc.body ++ doc.after)
  rw [← List.append_assoc] at back
  simpa only [hostRange, positionAt, index, host, start, Nat.zero_min, Nat.add_zero] using back

/-- The second bound of a script, read back. -/
theorem offsetAt_hostRange_stop (doc : Document) :
    doc.index.offsetAt (doc.hostRange 0 doc.textLength).stop =
      byteLength (upToReturn (doc.before ++ doc.body)) := by
  have back := LineIndex.offsetAt_positionAt (doc.before ++ doc.body) doc.after
  rw [← stop_eq] at back
  simpa only [hostRange, positionAt, index, host, stop, textLength, Nat.zero_add, Nat.min_self]
    using back

end Document

namespace Format

variable {disk : Disk} {path : Path} {text : List Char}

/-- There is one edit at most. It covers the script and starts on a new line. -/
theorem mem_edits {doc : Document} {edit : TextEdit} (member : edit ∈ edits disk doc) :
    edits disk doc = [edit] ∧ edit.range = doc.hostRange 0 doc.textLength ∧
      ∃ rest, edit.newText.toList = '\n' :: rest := by
  unfold edits at member ⊢
  cases found : replacement? (Settings.discover disk doc.path) doc.body with
  | none => simp [found] at member
  | some new =>
      simp only [found, List.mem_singleton] at member
      subst member
      refine ⟨rfl, rfl, ?_⟩
      unfold replacement? at found
      split at found
      · contradiction
      · split at found
        · contradiction
        · cases found
          exact ⟨_, String.toList_ofList⟩

theorem formatFile_of_edits_nil (none : edits disk (Document.ofHost path text 1) = []) :
    formatFile disk path text = text := by
  simp [formatFile, none, applyEdits]

/-- What an edit makes of a file: it replaces what lies between the bounds as they are read back. -/
theorem formatFile_of_mem_edits {edit : TextEdit}
    (member : edit ∈ edits disk (Document.ofHost path text 1)) :
    let doc := Document.ofHost path text 1
    formatFile disk path text =
      splice text (byteLength (upToReturn doc.before))
        (byteLength (upToReturn (doc.before ++ doc.body))) edit.newText.toList := by
  intro doc
  obtain ⟨alone, range, -⟩ := mem_edits member
  have start := doc.offsetAt_hostRange_start
  have stop := doc.offsetAt_hostRange_stop
  rw [Document.index, Document.host_ofHost] at start stop
  simp only [formatFile, alone, applyEdits, range, List.map_cons, List.map_nil,
    List.mergeSort_singleton, List.foldl_cons, List.foldl_nil]
  rw [start, stop]

/-- A text that starts with a line feed comes to stand between `before` and `after` exactly if both
bounds are read back as they were. Where the first is not, a carriage return stands there instead;
where only the second is not, something of `body` is left. -/
theorem splice_upToReturn_eq_iff (before body after rest : List Char) :
    splice (before ++ body ++ after) (byteLength (upToReturn before))
        (byteLength (upToReturn (before ++ body))) ('\n' :: rest) =
      before ++ '\n' :: rest ++ after ↔
    upToReturn before = before ∧ upToReturn (before ++ body) = before ++ body := by
  obtain ⟨missed, front⟩ := upToReturn_isPrefix before
  obtain ⟨left, script⟩ := upToReturn_isPrefix (before ++ body)
  have kept : takeBytes (byteLength (upToReturn before)) (before ++ body ++ after) =
      upToReturn before := by
    have whole : before ++ body ++ after = upToReturn before ++ (missed ++ body ++ after) := by
      simp only [← List.append_assoc, front]
    rw [whole, takeBytes_byteLength]
  have behind : dropBytes (byteLength (upToReturn (before ++ body))) (before ++ body ++ after) =
      left ++ after := by
    have whole : before ++ body ++ after = upToReturn (before ++ body) ++ (left ++ after) := by
      rw [← List.append_assoc, script]
    rw [whole, dropBytes_byteLength]
  rw [splice, kept, behind]
  constructor
  · intro same
    have firstBound : upToReturn before = before := by
      obtain settled | ⟨more, cut⟩ := exists_upToReturn before
      · exact settled
      · have missedReturn : missed = '\r' :: more := List.append_cancel_left (front.trans cut)
        have tails : '\n' :: rest ++ (left ++ after) = missed ++ ('\n' :: rest ++ after) := by
          rw [List.append_assoc, List.append_assoc] at same
          conv_rhs at same => rw [← front, List.append_assoc]
          exact List.append_cancel_left same
        -- the carriage return would have to be the line feed that the new text starts with
        rw [missedReturn] at tails
        simp at tails
    have leftNothing : left = [] := by
      rw [firstBound, List.append_assoc, List.append_assoc] at same
      have tails := List.append_cancel_left (List.append_cancel_left same)
      simpa using tails
    exact ⟨firstBound, by rwa [leftNothing, List.append_nil] at script⟩
  · rintro ⟨firstBound, secondBound⟩
    rw [secondBound] at script
    have leftNothing : left = [] := by simpa using script
    rw [firstBound, leftNothing, List.nil_append]

/-- Formatting leaves a file as it is if it finds no edit. An edit replaces exactly the script, with
all that stands around it kept, if and only if no carriage return stands before the script on the
line where it starts and none before its end on the line where it ends. -/
theorem formatFile_replaces_script_iff (disk : Disk) (path : Path) (text : List Char) :
    let doc := Document.ofHost path text 1
    (edits disk doc = [] → formatFile disk path text = text) ∧
    ∀ edit ∈ edits disk doc,
      (formatFile disk path text =
          takeBytes doc.start text ++ edit.newText.toList ++ dropBytes doc.stop text ↔
        '\r' ∉ lastLine (takeBytes doc.start text) ∧
          '\r' ∉ lastLine (takeBytes doc.stop text)) := by
  intro doc
  refine ⟨formatFile_of_edits_nil, ?_⟩
  intro edit member
  have host : doc.host = text := Document.host_ofHost
  obtain ⟨-, -, rest, new⟩ := mem_edits member
  have front : takeBytes doc.start text = doc.before := host ▸ doc.takeBytes_start
  have script : takeBytes doc.stop text = doc.before ++ doc.body := host ▸ doc.takeBytes_stop
  have behind : dropBytes doc.stop text = doc.after := host ▸ doc.dropBytes_stop
  rw [formatFile_of_mem_edits member, new, front, script, behind, ← upToReturn_eq_self_iff,
    ← upToReturn_eq_self_iff]
  have met := splice_upToReturn_eq_iff doc.before doc.body doc.after rest
  rwa [← Document.host, host] at met

/-- Lines that end in a carriage return and a line feed, in a script and before it. -/
private def pagedScript : List Char :=
  "é\r\n<script>\r\n  a(\r\nb)\r\n</script>\r".toList

/-- A disk that asks for tabs. -/
private def tabbedDisk : Disk :=
  (FileTree.dir [(".prettierrc", .file (some "\x7b\"useTabs\": true\x7d"))]).disk Path.root

theorem formatFile_replaces_script_iff_pagedScript :
    let doc := Document.ofHost (Path.ofText "/page.html") pagedScript 1
    let edit : TextEdit := { range := ⟨⟨1, 8⟩, ⟨4, 0⟩⟩, newText := "\n  a(\n  \tb)\n" }
    edit ∈ edits tabbedDisk doc ∧
    formatFile tabbedDisk (Path.ofText "/page.html") pagedScript =
      takeBytes doc.start pagedScript ++ edit.newText.toList ++ dropBytes doc.stop pagedScript := by
  intro doc edit
  have member : edit ∈ edits tabbedDisk doc := by decide +kernel
  have met := (formatFile_replaces_script_iff tabbedDisk (Path.ofText "/page.html")
    pagedScript).2 edit member
  exact ⟨member, met.mpr (by decide +kernel)⟩

/-- A carriage return in the last line of a script: what follows it comes to stand twice. -/
theorem formatFile_leaves_behind_return :
    let doc := Document.ofHost (Path.ofText "/cr.js") "a\rb".toList 1
    ∃ edit ∈ edits tabbedDisk doc,
      takeBytes doc.start "a\rb".toList ++ edit.newText.toList ++ dropBytes doc.stop "a\rb".toList =
        "\na\rb\n".toList ∧
      formatFile tabbedDisk (Path.ofText "/cr.js") "a\rb".toList = "\na\rb\n\rb".toList := by
  decide +kernel

end Format

end InlineScript
