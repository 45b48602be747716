import InlineScript.Proofs.Document.Script
import InlineScript.Proofs.Markup.Block
import InlineScript.Proofs.Text.LineIndex

/-!
A file in which the script is exchanged for another one of the same words: the other one is the
script of the file then, and all else about the file is as before.
-/

namespace InlineScript.Document

open Text

theorem ofBounds_append (path : Path) (front body behind : List Char) (version : Nat)
    (attributes : Attributes) :
    ofBounds path (front ++ (body ++ behind)) (byteLength front)
        (byteLength front + byteLength body) version attributes =
      { path, before := front, body, after := behind, version, attributes } := by
  have first : takeBytes (byteLength front + byteLength body) (front ++ (body ++ behind)) =
      front ++ body := by
    rw [← byteLength_append, ← List.append_assoc, takeBytes_byteLength]
  have last : dropBytes (byteLength front + byteLength body) (front ++ (body ++ behind)) =
      behind := by
    rw [← byteLength_append, ← List.append_assoc, dropBytes_byteLength]
  simp only [ofBounds, slice, first, last, takeBytes_byteLength, dropBytes_byteLength]

variable {path : Path} {host body : List Char}

theorem ofHost_of_find? {front behind : List Char} {attributes : Attributes}
    (markup : Dialect.ofPath path = .markup)
    (found : Markup.Fragment.find? (front ++ (body ++ behind)) =
      some { start := byteLength front, content := body, attributes }) (version : Nat) :
    ofHost path (front ++ (body ++ behind)) version =
      { path, before := front, body, after := behind, version, attributes } := by
  have parts := ofBounds_append path front body behind version attributes
  simp only [ofHost, markup, found, Markup.Fragment.stop, parts]

theorem ofHost_of_ne_markup (script : Dialect.ofPath path ≠ .markup) (host : List Char)
    (version : Nat) :
    ofHost path host version =
      { path, before := [], body := host, after := [], version,
        attributes := (ofHost path [] version).attributes } := by
  unfold ofHost
  split
  · contradiction
  · have parts := ofBounds_append path [] host [] version
    simp only [List.nil_append, List.append_nil, byteLength, Nat.zero_add] at parts
    exact parts _

theorem body_ofHost_of_find?_none (markup : Dialect.ofPath path = .markup)
    (none : Markup.Fragment.find? host = none) (version : Nat) :
    (ofHost path host version).body = [] := by
  have empty : takeBytes 0 host = [] := takeBytes_byteLength [] host
  simp only [ofHost, markup, none, ofBounds, slice, empty, dropBytes]

theorem ofHost_exchange {version : Nat} (some : (ofHost path host version).body ≠ [])
    (words : ink body = ink (ofHost path host version).body) :
    ofHost path ((ofHost path host version).before ++ body ++ (ofHost path host version).after)
        version =
      { ofHost path host version with body } := by
  by_cases markup : Dialect.ofPath path = .markup
  · cases found : Markup.Fragment.find? host with
    | none => exact absurd (body_ofHost_of_find?_none markup found version) some
    | some fragment =>
        obtain ⟨start, content, attributes⟩ := fragment
        obtain ⟨front, behind, rfl, rfl, clear, exchanged⟩ := Markup.Fragment.find?_exchange found
        rw [ofHost_of_find? markup found version] at words ⊢
        -- the other script has no closing tag either, as it has the same words
        have stillClear : Markup.Block.content? body = none := by
          rw [← Option.not_isSome_iff_eq_none] at clear ⊢
          exact fun closed => clear (Markup.Block.content?_isSome_of_ink words closed)
        rw [List.append_assoc, ofHost_of_find? markup (exchanged body stillClear) version]
  · rw [ofHost_of_ne_markup markup host, List.nil_append, List.append_nil]
    exact ofHost_of_ne_markup markup body version

end InlineScript.Document
