/-
This file lists the requests that are part of the protocol and that the server does not answer, with
the parameters they have.
-/

import DocBlocks.Protocol.Shape

namespace DocBlocks.Protocol.Request

open Shape (Field must may spare)

/-- Where the progress of a request is to be reported. -/
def progress : List Field :=
  [may "workDoneToken" .token]

/-- Where parts of the answer are to be sent. -/
def partialResults : List Field :=
  [may "partialResultToken" .token]

def inDocument : Field :=
  must "textDocument" .document

/-- A document and a position in it. -/
def place : List Field :=
  [inDocument, must "position" .position]

def symbolItem (name : String) (tags : Shape) : Shape :=
  .record name [
    must "name" .text, must "kind" .integer, may "tags" tags, may "detail" .text,
    must "uri" .uri, must "range" .range, must "selectionRange" .range, may "data" .any]

def location : Shape :=
  .record "Location" [must "uri" .uri, must "range" .range]

def command : Shape :=
  .record "Command" [must "title" .text, must "command" .text, may "arguments" (.list .any)]

def markup : Shape :=
  .record "MarkupContent" [
    must "kind" (.variant ["plaintext", "markdown"]), must "value" .text]

def textOrMarkup (name : String) : Shape :=
  .oneOf name [.text, markup]

def textEditFields : List Field :=
  [must "range" .range, must "newText" .text]

def textEdit : Shape :=
  .record "TextEdit" textEditFields

def diagnostic : Shape :=
  .record "Diagnostic" [
    must "range" .range,
    may "severity" .integer,
    may "code" .token,
    may "codeDescription" (.record "CodeDescription" [must "href" .uri]),
    may "source" .text,
    must "message" .text,
    may "relatedInformation"
      (.list (.record "DiagnosticRelatedInformation" [
        must "location" location, must "message" .text])),
    may "tags" (.list .integer),
    may "data" .any]

def documentEdit : Shape :=
  .record "TextDocumentEdit" [
    must "textDocument"
      (.record "OptionalVersionedTextDocumentIdentifier" [
        must "uri" .uri, may "version" .integer]),
    must "edits"
      (.list (.oneOf "OneOf" [
        textEdit,
        .mixed "AnnotatedTextEdit" [must "annotationId" .text] [textEditFields]]))]

def fileOptions (name : String) (fields : List String) : Shape :=
  .record name (fields.map fun field => may field .boolean)

/-- The creation, renaming or deletion of a file. -/
def fileOperation : Shape :=
  .tagged "kind" [
    ("create", .record "CreateFile" [
      must "uri" .uri,
      may "options" (fileOptions "CreateFileOptions" ["overwrite", "ignoreIfExists"]),
      may "annotationId" .text]),
    ("rename", .record "RenameFile" [
      must "oldUri" .uri, must "newUri" .uri,
      may "options" (fileOptions "RenameFileOptions" ["overwrite", "ignoreIfExists"]),
      may "annotationId" .text]),
    ("delete", .record "DeleteFile" [
      must "uri" .uri,
      may "options"
        (.record "DeleteFileOptions" [
          may "recursive" .boolean, may "ignoreIfNotExists" .boolean,
          may "annotationId" .text])])]

def workspaceEdit : Shape :=
  .record "WorkspaceEdit" [
    spare "changes" (.mapByUri (.list textEdit)),
    may "documentChanges"
      (.oneOf "DocumentChanges" [
        .list documentEdit,
        .list (.oneOf "DocumentChangeOperation" [fileOperation, documentEdit])]),
    may "changeAnnotations"
      (.map (.record "ChangeAnnotation" [
        must "label" .text, may "needsConfirmation" .boolean, may "description" .text]))]

def formattingOptions : Shape :=
  .extensible "FormattingOptions" [
    must "tabSize" .natural, must "insertSpaces" .boolean,
    may "trimTrailingWhitespace" .boolean, may "insertFinalNewline" .boolean,
    may "trimFinalNewlines" .boolean]
    (.oneOf "FormattingProperty" [.boolean, .integer, .text])

def signatureHelp : Shape :=
  .record "SignatureHelp" [
    must "signatures"
      (.list (.record "SignatureInformation" [
        must "label" .text,
        may "documentation" (textOrMarkup "Documentation"),
        may "parameters"
          (.list (.record "ParameterInformation" [
            must "label" (.oneOf "ParameterLabel" [.text, .pair .natural]),
            may "documentation" (textOrMarkup "Documentation")])),
        may "activeParameter" .natural])),
    may "activeSignature" .natural,
    may "activeParameter" .natural]

def signatureHelpContext : Shape :=
  .record "SignatureHelpContext" [
    must "triggerKind" .integer, may "triggerCharacter" .text, must "isRetrigger" .boolean,
    may "activeSignatureHelp" signatureHelp]

def inlayHint : Shape :=
  .record "InlayHint" [
    must "position" .position,
    must "label"
      (.oneOf "InlayHintLabel" [
        .text,
        .list (.record "InlayHintLabelPart" [
          must "value" .text,
          may "tooltip" (textOrMarkup "InlayHintLabelPartTooltip"),
          may "location" location,
          may "command" command])]),
    may "kind" .integer,
    may "textEdits" (.list textEdit),
    may "tooltip" (textOrMarkup "InlayHintTooltip"),
    may "paddingLeft" .boolean,
    may "paddingRight" .boolean,
    may "data" .any]

def completionItem : Shape :=
  .record "CompletionItem" [
    must "label" .text,
    may "labelDetails"
      (.record "CompletionItemLabelDetails" [may "detail" .text, may "description" .text]),
    may "kind" .integer,
    may "detail" .text,
    may "documentation" (textOrMarkup "Documentation"),
    may "deprecated" .boolean,
    may "preselect" .boolean,
    may "sortText" .text,
    may "filterText" .text,
    may "insertText" .text,
    may "insertTextFormat" .integer,
    may "insertTextMode" .integer,
    may "textEdit"
      (.oneOf "CompletionTextEdit" [
        textEdit,
        .record "InsertReplaceEdit" [
          must "newText" .text, must "insert" .range, must "replace" .range]]),
    may "additionalTextEdits" (.list textEdit),
    may "command" command,
    may "commitCharacters" (.list .text),
    may "data" .any,
    may "tags" (.list .integer)]

def codeAction : Shape :=
  .record "CodeAction" [
    must "title" .text,
    may "kind" .text,
    may "diagnostics" (.list diagnostic),
    may "edit" workspaceEdit,
    may "command" command,
    may "isPreferred" .boolean,
    may "disabled" (.record "CodeActionDisabled" [must "reason" .text]),
    may "data" .any]

def workspaceSymbol : Shape :=
  .record "WorkspaceSymbol" [
    must "name" .text, must "kind" .integer, may "tags" (.list .integer),
    may "containerName" .text,
    must "location"
      (.oneOf "OneOf" [location, .record "WorkspaceLocation" [must "uri" .uri]]),
    may "data" .any]

def files (name entry : String) (fields : List String) : Shape :=
  .record name [
    must "files" (.list (.record entry (fields.map fun field => must field .text)))]

/-- Parameters that go with a document as a whole. -/
def wholeDocument (name : String) (others : List Field) : Shape :=
  .mixed name (inDocument :: others) [progress, partialResults]

/-- Parameters that go with a position in a document. -/
def atPlace (name : String) : Shape :=
  .mixed name [] [place, progress, partialResults]

/-- The same, where the answer comes as a whole. -/
def atPlaceAtOnce (name : String) : Shape :=
  .mixed name [] [place, progress]

/-- Questions about an item that an earlier answer named. -/
def aboutItem (name : String) (item : Shape) : Shape :=
  .mixed name [must "item" item] [progress, partialResults]

def callItem : Shape :=
  symbolItem "CallHierarchyItem" (.list .integer)

def typeItem : Shape :=
  symbolItem "TypeHierarchyItem" .integer

/-- The requests by name, with what their parameters look like. -/
def unanswered : List (String × Shape) := [
  ("textDocument/willSaveWaitUntil",
    .record "WillSaveTextDocumentParams" [inDocument, must "reason" .integer]),
  ("textDocument/declaration", atPlace "GotoDefinitionParams"),
  ("textDocument/definition", atPlace "GotoDefinitionParams"),
  ("textDocument/typeDefinition", atPlace "GotoDefinitionParams"),
  ("textDocument/implementation", atPlace "GotoDefinitionParams"),
  ("textDocument/references",
    .mixed "ReferenceParams"
      [must "context" (.record "ReferenceContext" [must "includeDeclaration" .boolean])]
      [place, progress, partialResults]),
  ("textDocument/prepareCallHierarchy", atPlaceAtOnce "CallHierarchyPrepareParams"),
  ("callHierarchy/incomingCalls", aboutItem "CallHierarchyIncomingCallsParams" callItem),
  ("callHierarchy/outgoingCalls", aboutItem "CallHierarchyOutgoingCallsParams" callItem),
  ("textDocument/prepareTypeHierarchy", atPlaceAtOnce "TypeHierarchyPrepareParams"),
  ("typeHierarchy/supertypes", aboutItem "TypeHierarchySupertypesParams" typeItem),
  ("typeHierarchy/subtypes", aboutItem "TypeHierarchySubtypesParams" typeItem),
  ("textDocument/documentHighlight", atPlace "DocumentHighlightParams"),
  ("textDocument/documentLink", wholeDocument "DocumentLinkParams" []),
  ("documentLink/resolve",
    .record "DocumentLink" [
      must "range" .range, may "target" .uri, may "tooltip" .text, may "data" .any]),
  ("textDocument/codeLens", wholeDocument "CodeLensParams" []),
  ("codeLens/resolve",
    .record "CodeLens" [must "range" .range, may "command" command, may "data" .any]),
  ("textDocument/selectionRange",
    wholeDocument "SelectionRangeParams" [must "positions" (.list .position)]),
  ("textDocument/documentSymbol", wholeDocument "DocumentSymbolParams" []),
  ("textDocument/semanticTokens/full", wholeDocument "SemanticTokensParams" []),
  ("textDocument/semanticTokens/full/delta",
    wholeDocument "SemanticTokensDeltaParams" [must "previousResultId" .text]),
  ("textDocument/semanticTokens/range",
    wholeDocument "SemanticTokensRangeParams" [must "range" .range]),
  ("textDocument/inlineValue",
    .mixed "InlineValueParams"
      [inDocument, must "range" .range,
        must "context"
          (.record "InlineValueContext" [
            must "frameId" .integer, must "stoppedLocation" .range])]
      [progress]),
  ("textDocument/inlayHint",
    .mixed "InlayHintParams" [inDocument, must "range" .range] [progress]),
  ("inlayHint/resolve", inlayHint),
  ("textDocument/moniker", atPlace "MonikerParams"),
  ("textDocument/completion",
    .mixed "CompletionParams"
      [may "context"
        (.record "CompletionContext" [must "triggerKind" .integer, may "triggerCharacter" .text])]
      [place, progress, partialResults]),
  ("completionItem/resolve", completionItem),
  ("textDocument/diagnostic",
    wholeDocument "DocumentDiagnosticParams"
      [may "identifier" .text, may "previousResultId" .text]),
  ("workspace/diagnostic",
    .mixed "WorkspaceDiagnosticParams"
      [may "identifier" .text,
        must "previousResultIds"
          (.list (.record "PreviousResultId" [must "uri" .uri, must "value" .text]))]
      [progress, partialResults]),
  ("textDocument/signatureHelp",
    .mixed "SignatureHelpParams" [may "context" signatureHelpContext] [place, progress]),
  ("textDocument/codeAction",
    wholeDocument "CodeActionParams"
      [must "range" .range,
        must "context"
          (.record "CodeActionContext" [
            must "diagnostics" (.list diagnostic), may "only" (.list .text),
            may "triggerKind" .integer])]),
  ("codeAction/resolve", codeAction),
  ("textDocument/documentColor", wholeDocument "DocumentColorParams" []),
  ("textDocument/colorPresentation",
    wholeDocument "ColorPresentationParams"
      [must "color"
        (.record "Color" [
          must "red" .decimal, must "green" .decimal, must "blue" .decimal,
          must "alpha" .decimal]),
        must "range" .range]),
  ("textDocument/formatting",
    .mixed "DocumentFormattingParams" [inDocument, must "options" formattingOptions] [progress]),
  ("textDocument/rangeFormatting",
    .mixed "DocumentRangeFormattingParams"
      [inDocument, must "range" .range, must "options" formattingOptions] [progress]),
  ("textDocument/onTypeFormatting",
    .mixed "DocumentOnTypeFormattingParams"
      [must "ch" .text, must "options" formattingOptions] [place]),
  ("textDocument/rename", .mixed "RenameParams" [must "newName" .text] [place, progress]),
  ("textDocument/prepareRename", .record "TextDocumentPositionParams" place),
  ("textDocument/linkedEditingRange", atPlaceAtOnce "LinkedEditingRangeParams"),
  ("workspace/symbol",
    .mixed "WorkspaceSymbolParams" [must "query" .text] [partialResults, progress]),
  ("workspaceSymbol/resolve", workspaceSymbol),
  ("workspace/willCreateFiles", files "CreateFilesParams" "FileCreate" ["uri"]),
  ("workspace/willRenameFiles", files "RenameFilesParams" "FileRename" ["oldUri", "newUri"]),
  ("workspace/willDeleteFiles", files "DeleteFilesParams" "FileDelete" ["uri"])]

/-- What the parameters of a request look like. -/
def shape? (name : String) : Option Shape :=
  unanswered.lookup name

end DocBlocks.Protocol.Request
