/-
This file describes what clients say about themselves when they start.
-/

import DocBlocks.Protocol.Shape

namespace DocBlocks.Protocol.Capabilities

open Shape (must may spare)

/-- A record of truth values that may all be missing. -/
def flags (name : String) (fields : List String) : Shape :=
  .record name (fields.map fun field => may field .boolean)

def dynamicRegistration : Shape :=
  flags "DynamicRegistrationClientCapabilities" ["dynamicRegistration"]

/-- The properties that can be completed later. -/
def properties (name : String) : Shape :=
  .record name [must "properties" (.list .text)]

/-- The tags that a client knows. Some clients say only whether they know any. -/
def tagSupport : Shape :=
  .orBoolean (.record "TagSupport" [must "valueSet" (.list .integer)])

def markupKind : Shape :=
  .variant ["plaintext", "markdown"]

def symbolKinds : Shape :=
  .record "SymbolKindCapability" [may "valueSet" (.list .integer)]

def workspaceEdit : Shape :=
  .record "WorkspaceEditClientCapabilities" [
    may "documentChanges" .boolean,
    may "resourceOperations" (.list (.variant ["create", "rename", "delete"])),
    may "failureHandling" (.variant ["abort", "transactional", "textOnlyTransactional", "undo"]),
    may "normalizesLineEndings" .boolean,
    may "changeAnnotationSupport"
      (flags "ChangeAnnotationWorkspaceEditClientCapabilities" ["groupsOnLabel"])]

def workspaceSymbol : Shape :=
  .record "WorkspaceSymbolClientCapabilities" [
    may "dynamicRegistration" .boolean,
    may "symbolKind" symbolKinds,
    spare "tagSupport" tagSupport,
    may "resolveSupport" (properties "WorkspaceSymbolResolveSupportCapability")]

def refresh (name : String) : Shape :=
  flags name ["refreshSupport"]

def workspace : Shape :=
  .record "WorkspaceClientCapabilities" [
    may "applyEdit" .boolean,
    may "workspaceEdit" workspaceEdit,
    may "didChangeConfiguration" dynamicRegistration,
    may "didChangeWatchedFiles"
      (flags "DidChangeWatchedFilesClientCapabilities"
        ["dynamicRegistration", "relativePatternSupport"]),
    may "symbol" workspaceSymbol,
    may "executeCommand" dynamicRegistration,
    may "workspaceFolders" .boolean,
    may "configuration" .boolean,
    may "semanticTokens" (refresh "SemanticTokensWorkspaceClientCapabilities"),
    may "codeLens" (refresh "CodeLensWorkspaceClientCapabilities"),
    may "fileOperations"
      (flags "WorkspaceFileOperationsClientCapabilities"
        ["dynamicRegistration", "didCreate", "willCreate", "didRename", "willRename", "didDelete",
          "willDelete"]),
    may "inlineValue" (refresh "InlineValueWorkspaceClientCapabilities"),
    may "inlayHint" (refresh "InlayHintWorkspaceClientCapabilities"),
    may "diagnostic" (refresh "DiagnosticWorkspaceClientCapabilities")]

def completionItem : Shape :=
  .record "CompletionItemCapability" [
    may "snippetSupport" .boolean,
    may "commitCharactersSupport" .boolean,
    may "documentationFormat" (.list markupKind),
    may "deprecatedSupport" .boolean,
    may "preselectSupport" .boolean,
    spare "tagSupport" tagSupport,
    may "insertReplaceSupport" .boolean,
    may "resolveSupport" (properties "CompletionItemCapabilityResolveSupport"),
    may "insertTextModeSupport"
      (.record "InsertTextModeSupport" [must "valueSet" (.list .integer)]),
    may "labelDetailsSupport" .boolean]

def completion : Shape :=
  .record "CompletionClientCapabilities" [
    may "dynamicRegistration" .boolean,
    may "completionItem" completionItem,
    may "completionItemKind"
      (.record "CompletionItemKindCapability" [may "valueSet" (.list .integer)]),
    may "contextSupport" .boolean,
    may "insertTextMode" .integer,
    may "completionList" (.record "CompletionListCapability" [may "itemDefaults" (.list .text)])]

def hover : Shape :=
  .record "HoverClientCapabilities" [
    may "dynamicRegistration" .boolean,
    may "contentFormat" (.list markupKind)]

def signatureHelp : Shape :=
  .record "SignatureHelpClientCapabilities" [
    may "dynamicRegistration" .boolean,
    may "signatureInformation"
      (.record "SignatureInformationSettings" [
        may "documentationFormat" (.list markupKind),
        may "parameterInformation"
          (flags "ParameterInformationSettings" ["labelOffsetSupport"]),
        may "activeParameterSupport" .boolean]),
    may "contextSupport" .boolean]

def documentSymbol : Shape :=
  .record "DocumentSymbolClientCapabilities" [
    may "dynamicRegistration" .boolean,
    may "symbolKind" symbolKinds,
    may "hierarchicalDocumentSymbolSupport" .boolean,
    spare "tagSupport" tagSupport]

def goto : Shape :=
  flags "GotoCapability" ["dynamicRegistration", "linkSupport"]

def codeAction : Shape :=
  .record "CodeActionClientCapabilities" [
    may "dynamicRegistration" .boolean,
    may "codeActionLiteralSupport"
      (.record "CodeActionLiteralSupport" [
        must "codeActionKind"
          (.record "CodeActionKindLiteralSupport" [must "valueSet" (.list .text)])]),
    may "isPreferredSupport" .boolean,
    may "disabledSupport" .boolean,
    may "dataSupport" .boolean,
    may "resolveSupport" (properties "CodeActionCapabilityResolveSupport"),
    may "honorsChangeAnnotations" .boolean]

def rename : Shape :=
  .record "RenameClientCapabilities" [
    may "dynamicRegistration" .boolean,
    may "prepareSupport" .boolean,
    may "prepareSupportDefaultBehavior" .integer,
    may "honorsChangeAnnotations" .boolean]

def publishDiagnostics : Shape :=
  .record "PublishDiagnosticsClientCapabilities" [
    may "relatedInformation" .boolean,
    spare "tagSupport" tagSupport,
    may "versionSupport" .boolean,
    may "codeDescriptionSupport" .boolean,
    may "dataSupport" .boolean]

def foldingRange : Shape :=
  .record "FoldingRangeClientCapabilities" [
    may "dynamicRegistration" .boolean,
    may "rangeLimit" .natural,
    may "lineFoldingOnly" .boolean,
    may "foldingRangeKind"
      (.record "FoldingRangeKindCapability" [
        may "valueSet" (.list (.variant ["comment", "imports", "region"]))]),
    may "foldingRange" (flags "FoldingRangeCapability" ["collapsedText"])]

def semanticTokens : Shape :=
  .record "SemanticTokensClientCapabilities" [
    may "dynamicRegistration" .boolean,
    must "requests"
      (.record "SemanticTokensClientCapabilitiesRequests" [
        may "range" .boolean,
        may "full"
          (.oneOf "SemanticTokensFullOptions" [.boolean, flags "Delta" ["delta"]])]),
    must "tokenTypes" (.list .text),
    must "tokenModifiers" (.list .text),
    must "formats" (.list .text),
    may "overlappingTokenSupport" .boolean,
    may "multilineTokenSupport" .boolean,
    may "serverCancelSupport" .boolean,
    may "augmentsSyntaxTokens" .boolean]

def textDocument : Shape :=
  .record "TextDocumentClientCapabilities" [
    may "synchronization"
      (flags "TextDocumentSyncClientCapabilities"
        ["dynamicRegistration", "willSave", "willSaveWaitUntil", "didSave"]),
    may "completion" completion,
    may "hover" hover,
    may "signatureHelp" signatureHelp,
    may "references" dynamicRegistration,
    may "documentHighlight" dynamicRegistration,
    may "documentSymbol" documentSymbol,
    may "formatting" dynamicRegistration,
    may "rangeFormatting" dynamicRegistration,
    may "onTypeFormatting" dynamicRegistration,
    may "declaration" goto,
    may "definition" goto,
    may "typeDefinition" goto,
    may "implementation" goto,
    may "codeAction" codeAction,
    may "codeLens" dynamicRegistration,
    may "documentLink"
      (flags "DocumentLinkClientCapabilities" ["dynamicRegistration", "tooltipSupport"]),
    may "colorProvider" dynamicRegistration,
    may "rename" rename,
    may "publishDiagnostics" publishDiagnostics,
    may "foldingRange" foldingRange,
    may "selectionRange" (flags "SelectionRangeClientCapabilities" ["dynamicRegistration"]),
    may "linkedEditingRange" dynamicRegistration,
    may "callHierarchy" dynamicRegistration,
    may "semanticTokens" semanticTokens,
    may "moniker" dynamicRegistration,
    may "typeHierarchy" dynamicRegistration,
    may "inlineValue" dynamicRegistration,
    may "inlayHint"
      (.record "InlayHintClientCapabilities" [
        may "dynamicRegistration" .boolean,
        may "resolveSupport" (properties "InlayHintResolveClientCapabilities")]),
    may "diagnostic"
      (flags "DiagnosticClientCapabilities" ["dynamicRegistration", "relatedDocumentSupport"])]

def window : Shape :=
  .record "WindowClientCapabilities" [
    may "workDoneProgress" .boolean,
    may "showMessage"
      (.record "ShowMessageRequestClientCapabilities" [
        may "messageActionItem"
          (flags "MessageActionItemCapabilities" ["additionalPropertiesSupport"])]),
    may "showDocument" (.record "ShowDocumentClientCapabilities" [must "support" .boolean])]

def general : Shape :=
  .record "GeneralClientCapabilities" [
    may "regularExpressions"
      (.record "RegularExpressionsClientCapabilities" [
        must "engine" .text, may "version" .text]),
    may "markdown"
      (.record "MarkdownClientCapabilities" [
        must "parser" .text, may "version" .text, may "allowedTags" (.list .text)]),
    may "staleRequestSupport"
      (.record "StaleRequestSupportClientCapabilities" [
        must "cancel" .boolean, must "retryOnContentModified" (.list .text)]),
    may "positionEncodings" (.list .text)]

/-- All that a client can do. -/
def client : Shape :=
  .record "ClientCapabilities" [
    may "workspace" workspace,
    may "textDocument" textDocument,
    may "window" window,
    may "general" general,
    may "experimental" .any]

end DocBlocks.Protocol.Capabilities
