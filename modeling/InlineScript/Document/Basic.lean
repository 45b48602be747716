import InlineScript.Markup.Block
import InlineScript.Text.LineIndex

/-!
A document: one script and the file it stands in. Offsets count bytes of the script, positions lie
in the file.
-/

namespace InlineScript

open Text (Position Range LineIndex)

/-- A file, cut into what stands before its script, the script, and what stands behind it. -/
structure Document where
  path : Path
  before : List Char
  body : List Char
  after : List Char
  version : Nat
  attributes : Attributes

namespace Document

/-- The file as a whole. -/
def host (doc : Document) : List Char :=
  doc.before ++ doc.body ++ doc.after

/-- The script. -/
def text (doc : Document) : String :=
  String.ofList doc.body

/-- Byte offset of the script in the file. -/
def start (doc : Document) : Nat :=
  Text.byteLength doc.before

/-- Byte offset behind the script in the file. -/
def stop (doc : Document) : Nat :=
  doc.start + Text.byteLength doc.body

/-- Length of the script in bytes. -/
def textLength (doc : Document) : Nat :=
  Text.byteLength doc.body

def dialect (doc : Document) : Dialect :=
  Dialect.ofAttributes doc.attributes

def index (doc : Document) : LineIndex :=
  LineIndex.ofText doc.host

/-- The script between two byte offsets of a file. Offsets are moved back to the end of the file and
to character boundaries, and the first one to the second. -/
def ofBounds (path : Path) (host : List Char) (start stop : Nat) (version : Nat)
    (attributes : Attributes) : Document where
  path := path
  before := Text.takeBytes start (Text.takeBytes stop host)
  body := Text.slice host start stop
  after := Text.dropBytes stop host
  version := version
  attributes := attributes

/-- The script of a file. In markup it is the text of a script block, or empty where there is none;
any other file is a script as a whole, of the type that its name implies. -/
def ofHost (path : Path) (host : List Char) (version : Nat) : Document :=
  match Dialect.ofPath path with
  | .markup =>
      match Markup.Fragment.find? host with
      | some fragment =>
          ofBounds path host fragment.start fragment.stop version fragment.attributes
      | none => ofBounds path host 0 0 version ∅
  | dialect =>
      let attributes : Attributes :=
        match dialect.impliedType? with
        | some type => (∅ : Attributes).insert "type" type
        | none => ∅
      ofBounds path host 0 (Text.byteLength host) version attributes

/-- Offset in the script of a position in the file, moved into the script. -/
def offsetAt (doc : Document) (position : Position) : Nat :=
  min (max (doc.index.offsetAt position) doc.start) doc.stop - doc.start

/-- Whether a position lies in the script or at one of its ends. -/
def contains (doc : Document) (position : Position) : Bool :=
  let offset := doc.index.offsetAt position
  doc.start ≤ offset && offset ≤ doc.stop

/-- Position in the file of an offset in the script; offsets past its end count as its end. -/
def positionAt (doc : Document) (offset : Nat) : Position :=
  doc.index.positionAt (doc.start + min offset doc.textLength)

/-- The range of `length` bytes of the script from an offset on. -/
def hostRange (doc : Document) (start length : Nat) : Range where
  start := doc.positionAt start
  stop := doc.positionAt (start + length)

end Document

end InlineScript
