import InlineScript.Shape.Basic

/-!
What the messages of an editor are made of: places in texts, documents, edits, findings, commands.
-/

namespace InlineScript.Protocol

open Shape

/-- A count or a place in a text. -/
def unsigned : Shape := .integer "u32" 0 4294967295

/-- A version, a number from a list of kinds, or the number of something. -/
def signed : Shape := .integer "i32" (-2147483648) 2147483647

/-- A field that may be left out. -/
def maybe (name : String) (shape : Shape) : String × Shape :=
  (name, .optional shape)

/-- A switch that may be left out. -/
def flag (name : String) : String × Shape :=
  maybe name .truth

/-! ## Places -/

def position : Shape :=
  .record "Position" [("line", unsigned), ("character", unsigned)]

def range : Shape :=
  .record "Range" [("start", position), ("end", position)]

def location : Shape :=
  .record "Location" [("uri", .uri), ("range", range)]

/-! ## Documents -/

def document : Shape :=
  .record "TextDocumentIdentifier" [("uri", .uri)]

def documentField : String × Shape := ("textDocument", document)

def versionedDocument : Shape :=
  .record "VersionedTextDocumentIdentifier" [("uri", .uri), ("version", signed)]

def documentItem : Shape :=
  .record "TextDocumentItem"
    [("uri", .uri), ("languageId", .text), ("version", signed), ("text", .text)]

def contentChange : Shape :=
  .record "TextDocumentContentChangeEvent"
    [maybe "range" range, maybe "rangeLength" unsigned, ("text", .text)]

def folder : Shape :=
  .record "WorkspaceFolder" [("uri", .uri), ("name", .text)]

/-! ## Fields that many messages share -/

def token : Shape :=
  .choice "NumberOrString" [signed, .text]

/-- The document and the place that a message is about. -/
def placeGroup : List (String × Shape) :=
  [documentField, ("position", position)]

def progressGroup : List (String × Shape) :=
  [maybe "workDoneToken" token]

def partialGroup : List (String × Shape) :=
  [maybe "partialResultToken" token]

/-! ## Edits -/

def textEdit : Shape :=
  .record "TextEdit" [("range", range), ("newText", .text)]

def insertReplaceEdit : Shape :=
  .record "InsertReplaceEdit" [("newText", .text), ("insert", range), ("replace", range)]

def labelledEdit : Shape :=
  .merged "AnnotatedTextEdit" [("annotationId", .text)]
    [[("range", range), ("newText", .text)]] none

def documentEdit : Shape :=
  .record "TextDocumentEdit"
    [("textDocument",
       .record "OptionalVersionedTextDocumentIdentifier" [("uri", .uri), maybe "version" signed]),
     ("edits", .list (.choice "OneOf" [textEdit, labelledEdit]))]

def overwriteOptions (name : String) : Shape :=
  .record name [flag "overwrite", flag "ignoreIfExists"]

def fileChange : Shape :=
  .tagged "kind"
    [("create",
       .record "CreateFile"
        [("uri", .uri), maybe "options" (overwriteOptions "CreateFileOptions"),
         maybe "annotationId" .text]),
     ("rename",
       .record "RenameFile"
        [("oldUri", .uri), ("newUri", .uri),
         maybe "options" (overwriteOptions "RenameFileOptions"), maybe "annotationId" .text]),
     ("delete",
       .record "DeleteFile"
        [("uri", .uri),
         maybe "options"
          (.record "DeleteFileOptions"
            [flag "recursive", flag "ignoreIfNotExists", maybe "annotationId" .text])])]

def workspaceEdit : Shape :=
  .record "WorkspaceEdit"
    [("changes", .defaulted (.optional (.uriTable (.list textEdit)))),
     maybe "documentChanges"
      (.choice "DocumentChanges"
        [.list documentEdit,
         .list (.choice "DocumentChangeOperation" [fileChange, documentEdit])]),
     maybe "changeAnnotations"
      (.table
        (.record "ChangeAnnotation"
          [("label", .text), flag "needsConfirmation", maybe "description" .text]))]

def command : Shape :=
  .record "Command"
    [("title", .text), ("command", .text), maybe "arguments" (.list .anything)]

/-! ## Findings and documentation -/

def finding : Shape :=
  .record "Diagnostic"
    [("range", range), maybe "severity" signed, maybe "code" token,
     maybe "codeDescription" (.record "CodeDescription" [("href", .uri)]),
     maybe "source" .text, ("message", .text),
     maybe "relatedInformation"
      (.list
        (.record "DiagnosticRelatedInformation" [("location", location), ("message", .text)])),
     maybe "tags" (.list signed), maybe "data" .anything]

def markupKind : Shape := .word ["plaintext", "markdown"]

def markup : Shape :=
  .record "MarkupContent" [("kind", markupKind), ("value", .text)]

/-- Documentation, plain or marked up; the name is that of the place where it stands. -/
def documentation (name : String) : Shape :=
  .choice name [.text, markup]

/-! ## Formatting -/

def formattingOptions : Shape :=
  .merged "FormattingOptions"
    [("tabSize", unsigned), ("insertSpaces", .truth), flag "trimTrailingWhitespace",
     flag "insertFinalNewline", flag "trimFinalNewlines"]
    [] (some (.choice "FormattingProperty" [.truth, signed, .text]))

end InlineScript.Protocol
