import InlineScript.Protocol.Capabilities

/-!
The parameters of messages.
-/

namespace InlineScript.Protocol

/-! ## Messages that are heeded -/

def start : Shape :=
  .record "InitializeParams"
    [maybe "processId" unsigned,
     maybe "rootPath" .text,
     ("rootUri", .defaulted (.optional .uri)),
     maybe "initializationOptions" .anything,
     ("capabilities", capabilities),
     ("trace", .defaulted (.optional (.word ["off", "messages", "verbose"]))),
     maybe "workspaceFolders" (.list folder),
     maybe "clientInfo" (.record "ClientInfo" [("name", .text), maybe "version" .text]),
     maybe "locale" .text]

def ready : Shape :=
  .record "InitializedParams" []

def opened : Shape :=
  .record "DidOpenTextDocumentParams" [("textDocument", documentItem)]

def changed : Shape :=
  .record "DidChangeTextDocumentParams"
    [("textDocument", versionedDocument), ("contentChanges", .list contentChange)]

def closed : Shape :=
  .record "DidCloseTextDocumentParams" [documentField]

def hover : Shape :=
  .merged "HoverParams" [] [placeGroup, progressGroup] none

def format : Shape :=
  .merged "DocumentFormattingParams" [documentField, ("options", formattingOptions)]
    [progressGroup] none

/-! ## Places and documents that calls are about -/

/-- A call about a place. -/
def placeCall (name : String) : Shape :=
  .merged name [] [placeGroup, progressGroup] none

/-- A call about a place whose result may come in parts. -/
def placesCall (name : String) : Shape :=
  .merged name [] [placeGroup, progressGroup, partialGroup] none

/-- A call with fields of its own. -/
def fieldsCall (name : String) (fields : List (String × Shape)) : Shape :=
  .merged name fields [progressGroup] none

/-- A call with fields of its own whose result may come in parts. -/
def partsCall (name : String) (fields : List (String × Shape)) : Shape :=
  .merged name fields [progressGroup, partialGroup] none

/-! ## Things that calls are about -/

/-- A function or a type with the place where it stands. -/
def hierarchyItem (name : String) (tags : Shape) : Shape :=
  .record name
    [("name", .text), ("kind", signed), maybe "tags" tags, maybe "detail" .text, ("uri", .uri),
     ("range", range), ("selectionRange", range), maybe "data" .anything]

def callItem : Shape := hierarchyItem "CallHierarchyItem" (.list signed)

def typeItem : Shape := hierarchyItem "TypeHierarchyItem" signed

def documentLink : Shape :=
  .record "DocumentLink"
    [("range", range), maybe "target" .uri, maybe "tooltip" .text, maybe "data" .anything]

def codeLens : Shape :=
  .record "CodeLens" [("range", range), maybe "command" command, maybe "data" .anything]

def inlayHint : Shape :=
  .record "InlayHint"
    [("position", position),
     ("label",
       .choice "InlayHintLabel"
        [.text,
         .list
          (.record "InlayHintLabelPart"
            [("value", .text), maybe "tooltip" (documentation "InlayHintLabelPartTooltip"),
             maybe "location" location, maybe "command" command])]),
     maybe "kind" signed,
     maybe "textEdits" (.list textEdit),
     maybe "tooltip" (documentation "InlayHintTooltip"),
     flag "paddingLeft", flag "paddingRight",
     maybe "data" .anything]

def completionItem : Shape :=
  .record "CompletionItem"
    [("label", .text),
     maybe "labelDetails"
      (.record "CompletionItemLabelDetails" [maybe "detail" .text, maybe "description" .text]),
     maybe "kind" signed,
     maybe "detail" .text,
     maybe "documentation" (documentation "Documentation"),
     flag "deprecated", flag "preselect",
     maybe "sortText" .text, maybe "filterText" .text, maybe "insertText" .text,
     maybe "insertTextFormat" signed, maybe "insertTextMode" signed,
     maybe "textEdit" (.choice "CompletionTextEdit" [textEdit, insertReplaceEdit]),
     maybe "additionalTextEdits" (.list textEdit),
     maybe "command" command,
     maybe "commitCharacters" (.list .text),
     maybe "data" .anything,
     maybe "tags" (.list signed)]

def completionContext : Shape :=
  .record "CompletionContext" [("triggerKind", signed), maybe "triggerCharacter" .text]

def signatureHelp : Shape :=
  .record "SignatureHelp"
    [("signatures",
       .list
        (.record "SignatureInformation"
          [("label", .text),
           maybe "documentation" (documentation "Documentation"),
           maybe "parameters"
            (.list
              (.record "ParameterInformation"
                [("label", .choice "ParameterLabel" [.text, .pair unsigned]),
                 maybe "documentation" (documentation "Documentation")])),
           maybe "activeParameter" unsigned])),
     maybe "activeSignature" unsigned, maybe "activeParameter" unsigned]

def signatureContext : Shape :=
  .record "SignatureHelpContext"
    [("triggerKind", signed), maybe "triggerCharacter" .text, ("isRetrigger", .truth),
     maybe "activeSignatureHelp" signatureHelp]

def codeAction : Shape :=
  .record "CodeAction"
    [("title", .text),
     maybe "kind" .text,
     maybe "diagnostics" (.list finding),
     maybe "edit" workspaceEdit,
     maybe "command" command,
     flag "isPreferred",
     maybe "disabled" (.record "CodeActionDisabled" [("reason", .text)]),
     maybe "data" .anything]

def codeActionContext : Shape :=
  .record "CodeActionContext"
    [("diagnostics", .list finding), maybe "only" (.list .text), maybe "triggerKind" signed]

def color : Shape :=
  .record "Color"
    [("red", .real "f32"), ("green", .real "f32"), ("blue", .real "f32"), ("alpha", .real "f32")]

def workspaceSymbol : Shape :=
  .record "WorkspaceSymbol"
    [("name", .text), ("kind", signed), maybe "tags" (.list signed),
     maybe "containerName" .text,
     ("location", .choice "OneOf" [location, .record "WorkspaceLocation" [("uri", .uri)]]),
     maybe "data" .anything]

/-- Files that are named one by one. -/
def files (name itemName : String) (fields : List String) : Shape :=
  .record name [("files", .list (.record itemName (fields.map fun field => (field, .text))))]

/-! ## Calls that are known but not answered -/

def documentCalls : List (String × Shape) :=
  [("textDocument/willSaveWaitUntil",
     .record "WillSaveTextDocumentParams" [documentField, ("reason", signed)]),
   ("textDocument/documentLink", partsCall "DocumentLinkParams" [documentField]),
   ("documentLink/resolve", documentLink),
   ("textDocument/codeLens", partsCall "CodeLensParams" [documentField]),
   ("codeLens/resolve", codeLens),
   ("textDocument/foldingRange", partsCall "FoldingRangeParams" [documentField]),
   ("textDocument/selectionRange",
     partsCall "SelectionRangeParams" [documentField, ("positions", .list position)]),
   ("textDocument/documentSymbol", partsCall "DocumentSymbolParams" [documentField]),
   ("textDocument/semanticTokens/full", partsCall "SemanticTokensParams" [documentField]),
   ("textDocument/semanticTokens/full/delta",
     partsCall "SemanticTokensDeltaParams" [documentField, ("previousResultId", .text)]),
   ("textDocument/semanticTokens/range",
     partsCall "SemanticTokensRangeParams" [documentField, ("range", range)]),
   ("textDocument/inlineValue",
     fieldsCall "InlineValueParams"
      [documentField, ("range", range),
       ("context",
         .record "InlineValueContext" [("frameId", signed), ("stoppedLocation", range)])]),
   ("textDocument/inlayHint", fieldsCall "InlayHintParams" [documentField, ("range", range)]),
   ("inlayHint/resolve", inlayHint),
   ("textDocument/diagnostic",
     partsCall "DocumentDiagnosticParams"
      [documentField, maybe "identifier" .text, maybe "previousResultId" .text]),
   ("textDocument/codeAction",
     partsCall "CodeActionParams"
      [documentField, ("range", range), ("context", codeActionContext)]),
   ("codeAction/resolve", codeAction),
   ("textDocument/documentColor", partsCall "DocumentColorParams" [documentField]),
   ("textDocument/colorPresentation",
     partsCall "ColorPresentationParams" [documentField, ("color", color), ("range", range)]),
   ("textDocument/rangeFormatting",
     fieldsCall "DocumentRangeFormattingParams"
      [documentField, ("range", range), ("options", formattingOptions)])]

def positionCalls : List (String × Shape) :=
  [("textDocument/declaration", placesCall "GotoDefinitionParams"),
   ("textDocument/definition", placesCall "GotoDefinitionParams"),
   ("textDocument/typeDefinition", placesCall "GotoDefinitionParams"),
   ("textDocument/implementation", placesCall "GotoDefinitionParams"),
   ("textDocument/references",
     .merged "ReferenceParams"
      [("context", .record "ReferenceContext" [("includeDeclaration", .truth)])]
      [placeGroup, progressGroup, partialGroup] none),
   ("textDocument/prepareCallHierarchy", placeCall "CallHierarchyPrepareParams"),
   ("textDocument/prepareTypeHierarchy", placeCall "TypeHierarchyPrepareParams"),
   ("textDocument/documentHighlight", placesCall "DocumentHighlightParams"),
   ("textDocument/moniker", placesCall "MonikerParams"),
   ("textDocument/completion",
     .merged "CompletionParams" [maybe "context" completionContext]
      [placeGroup, progressGroup, partialGroup] none),
   ("completionItem/resolve", completionItem),
   ("textDocument/signatureHelp",
     .merged "SignatureHelpParams" [maybe "context" signatureContext]
      [placeGroup, progressGroup] none),
   ("textDocument/onTypeFormatting",
     .merged "DocumentOnTypeFormattingParams" [("ch", .text), ("options", formattingOptions)]
      [placeGroup] none),
   ("textDocument/rename",
     .merged "RenameParams" [("newName", .text)] [placeGroup, progressGroup] none),
   ("textDocument/prepareRename", .record "TextDocumentPositionParams" placeGroup),
   ("textDocument/linkedEditingRange", placeCall "LinkedEditingRangeParams")]

def workspaceCalls : List (String × Shape) :=
  [("callHierarchy/incomingCalls",
     partsCall "CallHierarchyIncomingCallsParams" [("item", callItem)]),
   ("callHierarchy/outgoingCalls",
     partsCall "CallHierarchyOutgoingCallsParams" [("item", callItem)]),
   ("typeHierarchy/supertypes", partsCall "TypeHierarchySupertypesParams" [("item", typeItem)]),
   ("typeHierarchy/subtypes", partsCall "TypeHierarchySubtypesParams" [("item", typeItem)]),
   ("workspace/diagnostic",
     partsCall "WorkspaceDiagnosticParams"
      [maybe "identifier" .text,
       ("previousResultIds",
         .list (.record "PreviousResultId" [("uri", .uri), ("value", .text)]))]),
   ("workspace/symbol",
     .merged "WorkspaceSymbolParams" [("query", .text)] [partialGroup, progressGroup] none),
   ("workspaceSymbol/resolve", workspaceSymbol),
   ("workspace/willCreateFiles", files "CreateFilesParams" "FileCreate" ["uri"]),
   ("workspace/willRenameFiles", files "RenameFilesParams" "FileRename" ["oldUri", "newUri"]),
   ("workspace/willDeleteFiles", files "DeleteFilesParams" "FileDelete" ["uri"]),
   ("workspace/executeCommand",
     fieldsCall "ExecuteCommandParams"
      [("command", .text), ("arguments", .defaulted (.list .anything))])]

def otherCalls : List (String × Shape) :=
  documentCalls ++ positionCalls ++ workspaceCalls

/-- Messages that are known but not heeded. -/
def otherNotes : List String :=
  ["textDocument/willSave", "textDocument/didSave", "workspace/didChangeWorkspaceFolders",
   "workspace/didChangeConfiguration", "workspace/didChangeWatchedFiles",
   "workspace/didCreateFiles", "workspace/didRenameFiles", "workspace/didDeleteFiles"]

end InlineScript.Protocol
