import InlineScript.Protocol.Basic

/-!
What an editor can do, as it tells with its first message.
-/

namespace InlineScript.Protocol

/-- Capabilities that say only whether they can be asked for later. -/
def plainCapability : Shape :=
  .record "DynamicRegistrationClientCapabilities" [flag "dynamicRegistration"]

/-- Capabilities that say only whether they can be asked for again. -/
def refreshCapability (name : String) : Shape :=
  .record name [flag "refreshSupport"]

def linkCapability : Shape :=
  .record "GotoCapability" [flag "dynamicRegistration", flag "linkSupport"]

/-- The properties that can be asked for one by one. -/
def resolveCapability (name : String) : Shape :=
  .record name [("properties", .list .text)]

/-- The tags that are known; some editors only say whether there are any. -/
def tagsField : String × Shape :=
  ("tagSupport", .defaulted (.switch (.record "TagSupport" [("valueSet", .list signed)])))

def symbolKinds : String × Shape :=
  maybe "symbolKind" (.record "SymbolKindCapability" [maybe "valueSet" (.list signed)])

/-! ## The workspace -/

def workspaceEditCapability : Shape :=
  .record "WorkspaceEditClientCapabilities"
    [flag "documentChanges",
     maybe "resourceOperations" (.list (.word ["create", "rename", "delete"])),
     maybe "failureHandling"
      (.word ["abort", "transactional", "textOnlyTransactional", "undo"]),
     flag "normalizesLineEndings",
     maybe "changeAnnotationSupport"
      (.record "ChangeAnnotationWorkspaceEditClientCapabilities" [flag "groupsOnLabel"])]

def workspaceCapabilities : Shape :=
  .record "WorkspaceClientCapabilities"
    [flag "applyEdit",
     maybe "workspaceEdit" workspaceEditCapability,
     maybe "didChangeConfiguration" plainCapability,
     maybe "didChangeWatchedFiles"
      (.record "DidChangeWatchedFilesClientCapabilities"
        [flag "dynamicRegistration", flag "relativePatternSupport"]),
     maybe "symbol"
      (.record "WorkspaceSymbolClientCapabilities"
        [flag "dynamicRegistration", symbolKinds, tagsField,
         maybe "resolveSupport" (resolveCapability "WorkspaceSymbolResolveSupportCapability")]),
     maybe "executeCommand" plainCapability,
     flag "workspaceFolders",
     flag "configuration",
     maybe "semanticTokens" (refreshCapability "SemanticTokensWorkspaceClientCapabilities"),
     maybe "codeLens" (refreshCapability "CodeLensWorkspaceClientCapabilities"),
     maybe "fileOperations"
      (.record "WorkspaceFileOperationsClientCapabilities"
        [flag "dynamicRegistration", flag "didCreate", flag "willCreate", flag "didRename",
         flag "willRename", flag "didDelete", flag "willDelete"]),
     maybe "inlineValue" (refreshCapability "InlineValueWorkspaceClientCapabilities"),
     maybe "inlayHint" (refreshCapability "InlayHintWorkspaceClientCapabilities"),
     maybe "diagnostic" (refreshCapability "DiagnosticWorkspaceClientCapabilities")]

/-! ## Documents -/

def completionItemCapability : Shape :=
  .record "CompletionItemCapability"
    [flag "snippetSupport", flag "commitCharactersSupport",
     maybe "documentationFormat" (.list markupKind),
     flag "deprecatedSupport", flag "preselectSupport", tagsField, flag "insertReplaceSupport",
     maybe "resolveSupport" (resolveCapability "CompletionItemCapabilityResolveSupport"),
     maybe "insertTextModeSupport"
      (.record "InsertTextModeSupport" [("valueSet", .list signed)]),
     flag "labelDetailsSupport"]

def completionCapability : Shape :=
  .record "CompletionClientCapabilities"
    [flag "dynamicRegistration",
     maybe "completionItem" completionItemCapability,
     maybe "completionItemKind"
      (.record "CompletionItemKindCapability" [maybe "valueSet" (.list signed)]),
     flag "contextSupport",
     maybe "insertTextMode" signed,
     maybe "completionList"
      (.record "CompletionListCapability" [maybe "itemDefaults" (.list .text)])]

def signatureHelpCapability : Shape :=
  .record "SignatureHelpClientCapabilities"
    [flag "dynamicRegistration",
     maybe "signatureInformation"
      (.record "SignatureInformationSettings"
        [maybe "documentationFormat" (.list markupKind),
         maybe "parameterInformation"
          (.record "ParameterInformationSettings" [flag "labelOffsetSupport"]),
         flag "activeParameterSupport"]),
     flag "contextSupport"]

def codeActionCapability : Shape :=
  .record "CodeActionClientCapabilities"
    [flag "dynamicRegistration",
     maybe "codeActionLiteralSupport"
      (.record "CodeActionLiteralSupport"
        [("codeActionKind",
           .record "CodeActionKindLiteralSupport" [("valueSet", .list .text)])]),
     flag "isPreferredSupport", flag "disabledSupport", flag "dataSupport",
     maybe "resolveSupport" (resolveCapability "CodeActionCapabilityResolveSupport"),
     flag "honorsChangeAnnotations"]

def foldingCapability : Shape :=
  .record "FoldingRangeClientCapabilities"
    [flag "dynamicRegistration",
     maybe "rangeLimit" unsigned,
     flag "lineFoldingOnly",
     maybe "foldingRangeKind"
      (.record "FoldingRangeKindCapability"
        [maybe "valueSet" (.list (.word ["comment", "imports", "region"]))]),
     maybe "foldingRange" (.record "FoldingRangeCapability" [flag "collapsedText"])]

def semanticTokensCapability : Shape :=
  .record "SemanticTokensClientCapabilities"
    [flag "dynamicRegistration",
     ("requests",
       .record "SemanticTokensClientCapabilitiesRequests"
        [flag "range",
         maybe "full"
          (.choice "SemanticTokensFullOptions" [.truth, .record "Delta" [flag "delta"]])]),
     ("tokenTypes", .list .text),
     ("tokenModifiers", .list .text),
     ("formats", .list .text),
     flag "overlappingTokenSupport", flag "multilineTokenSupport", flag "serverCancelSupport",
     flag "augmentsSyntaxTokens"]

def documentCapabilities : Shape :=
  .record "TextDocumentClientCapabilities"
    [maybe "synchronization"
      (.record "TextDocumentSyncClientCapabilities"
        [flag "dynamicRegistration", flag "willSave", flag "willSaveWaitUntil",
         flag "didSave"]),
     maybe "completion" completionCapability,
     maybe "hover"
      (.record "HoverClientCapabilities"
        [flag "dynamicRegistration", maybe "contentFormat" (.list markupKind)]),
     maybe "signatureHelp" signatureHelpCapability,
     maybe "references" plainCapability,
     maybe "documentHighlight" plainCapability,
     maybe "documentSymbol"
      (.record "DocumentSymbolClientCapabilities"
        [flag "dynamicRegistration", symbolKinds, flag "hierarchicalDocumentSymbolSupport",
         tagsField]),
     maybe "formatting" plainCapability,
     maybe "rangeFormatting" plainCapability,
     maybe "onTypeFormatting" plainCapability,
     maybe "declaration" linkCapability,
     maybe "definition" linkCapability,
     maybe "typeDefinition" linkCapability,
     maybe "implementation" linkCapability,
     maybe "codeAction" codeActionCapability,
     maybe "codeLens" plainCapability,
     maybe "documentLink"
      (.record "DocumentLinkClientCapabilities"
        [flag "dynamicRegistration", flag "tooltipSupport"]),
     maybe "colorProvider" plainCapability,
     maybe "rename"
      (.record "RenameClientCapabilities"
        [flag "dynamicRegistration", flag "prepareSupport",
         maybe "prepareSupportDefaultBehavior" signed, flag "honorsChangeAnnotations"]),
     maybe "publishDiagnostics"
      (.record "PublishDiagnosticsClientCapabilities"
        [flag "relatedInformation", tagsField, flag "versionSupport",
         flag "codeDescriptionSupport", flag "dataSupport"]),
     maybe "foldingRange" foldingCapability,
     maybe "selectionRange"
      (.record "SelectionRangeClientCapabilities" [flag "dynamicRegistration"]),
     maybe "linkedEditingRange" plainCapability,
     maybe "callHierarchy" plainCapability,
     maybe "semanticTokens" semanticTokensCapability,
     maybe "moniker" plainCapability,
     maybe "typeHierarchy" plainCapability,
     maybe "inlineValue" plainCapability,
     maybe "inlayHint"
      (.record "InlayHintClientCapabilities"
        [flag "dynamicRegistration",
         maybe "resolveSupport" (resolveCapability "InlayHintResolveClientCapabilities")]),
     maybe "diagnostic"
      (.record "DiagnosticClientCapabilities"
        [flag "dynamicRegistration", flag "relatedDocumentSupport"])]

/-! ## The editor itself -/

def windowCapabilities : Shape :=
  .record "WindowClientCapabilities"
    [flag "workDoneProgress",
     maybe "showMessage"
      (.record "ShowMessageRequestClientCapabilities"
        [maybe "messageActionItem"
          (.record "MessageActionItemCapabilities" [flag "additionalPropertiesSupport"])]),
     maybe "showDocument" (.record "ShowDocumentClientCapabilities" [("support", .truth)])]

def generalCapabilities : Shape :=
  .record "GeneralClientCapabilities"
    [maybe "regularExpressions"
      (.record "RegularExpressionsClientCapabilities"
        [("engine", .text), maybe "version" .text]),
     maybe "markdown"
      (.record "MarkdownClientCapabilities"
        [("parser", .text), maybe "version" .text, maybe "allowedTags" (.list .text)]),
     maybe "staleRequestSupport"
      (.record "StaleRequestSupportClientCapabilities"
        [("cancel", .truth), ("retryOnContentModified", .list .text)]),
     maybe "positionEncodings" (.list .text)]

def capabilities : Shape :=
  .record "ClientCapabilities"
    [maybe "workspace" workspaceCapabilities,
     maybe "textDocument" documentCapabilities,
     maybe "window" windowCapabilities,
     maybe "general" generalCapabilities,
     maybe "experimental" .anything]

end InlineScript.Protocol
