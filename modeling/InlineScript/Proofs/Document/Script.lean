import InlineScript.Document.Basic

/-!
The script of a file: where a file is cut nothing is lost, and the version of a file plays no part
in how it is cut.
-/

namespace InlineScript

namespace Document

variable {path : Path} {host : List Char} {version : Nat}

theorem host_ofBounds (start stop : Nat) (attributes : Attributes) :
    (ofBounds path host start stop version attributes).host = host := by
  simp only [Document.host, ofBounds, Text.slice, Text.takeBytes_append_dropBytes]

theorem host_ofHost : (ofHost path host version).host = host := by
  unfold ofHost
  split
  · split <;> exact host_ofBounds _ _ _
  · exact host_ofBounds _ _ _

theorem not_mem_ofHost {c : Char} (absent : c ∉ host) (path : Path) (version : Nat) :
    c ∉ (ofHost path host version).before ∧ c ∉ (ofHost path host version).body ∧
      c ∉ (ofHost path host version).after := by
  have whole : (ofHost path host version).host = host := host_ofHost
  rw [← whole, Document.host] at absent
  simpa [and_assoc] using absent

theorem path_ofHost : (ofHost path host version).path = path := by
  unfold ofHost
  split
  · split <;> rfl
  · rfl

theorem version_ofHost : (ofHost path host version).version = version := by
  unfold ofHost
  split
  · split <;> rfl
  · rfl

/-- Files that differ in their version only are cut in the same way. -/
theorem ofHost_version (other : Nat) :
    ofHost path host version = { ofHost path host other with version } := by
  unfold ofHost
  split
  · split <;> rfl
  · rfl

/-- A file that is no markup is a script as a whole. -/
theorem text_ofHost (script : Dialect.ofPath path ≠ .markup) :
    (ofHost path host version).text = String.ofList host := by
  unfold ofHost
  split
  · contradiction
  · simp only [Document.text, ofBounds, Text.slice, Text.dropBytes_zero,
      Text.takeBytes_of_byteLength_le (Nat.le_refl _)]

end Document

end InlineScript
