import LanguageServer.Provider.Basic
import LanguageServer.Text.Measure

namespace LanguageServer

/-!
Echo providers.  Their answers are made of their arguments, so that an answer
shows which document, position and options a method was called with.  A text
that contains a certain word makes them panic; this exercises how the server
contains failures.
-/

namespace Echo

/-- What a slot does to the declared capabilities: it sets fields, unless
another field is already declared. -/
structure Rule where
  set : List (String × Json) := []
  blockedBy : Option String := none

namespace Rule

/-- Whether the field that stands in the way of a rule is declared. -/
def isBlocked (rule : Rule) (capabilities : Capabilities) : Bool :=
  rule.blockedBy.any capabilities.has

/-- The capabilities after a rule was applied.  They are restated even when the
rule sets no field; only a blocked rule leaves them alone. -/
def apply (rule : Rule) (capabilities : Capabilities) : Except Panic Capabilities :=
  if rule.isBlocked capabilities then .ok capabilities
  else
    let declared :=
      rule.set.foldl (fun declared entry => Capabilities.set declared entry.1 entry.2)
        capabilities
    match Capabilities.restate? declared with
    | some restated => .ok restated
    | none => .error ⟨"capabilities out of shape"⟩

end Rule

/-- Whether a word occurs in a text. -/
def mentions (text word : String) : Bool := Text.occursIn word.toList text.toList

/-- Panics when the text asks for it. -/
def guarded {α : Type} (method : Method) (text : String) (answer : Except Panic α) :
    Except Panic α :=
  if mentions text "_panic" then .error ⟨method.name ++ " bug"⟩ else answer

/-- The position of a byte offset of a typed file. -/
def positionOf (file : TypedFile) (offset : Nat) : Except Panic Position :=
  match file.position? offset with
  | some position => .ok position
  | none => .error ⟨"line start inside a character"⟩

/-- The position behind the last character of a typed file. -/
def endOf (file : TypedFile) : Except Panic Position :=
  positionOf file (Text.byteLength file.text.toList)

/-- The lines of a text with their byte offsets. -/
def linesOf (text : String) : List (Nat × List Char) :=
  Text.withOffsets (Text.pieces '\n' text.toList) 0

/-- The lines of a text that are not empty. -/
def filledLines (text : String) : List (Nat × List Char) :=
  (linesOf text).filter fun line => !line.2.isEmpty

/-- The whole file as one finding, then the lint file if there is one. -/
def diagnostics (file : TypedFile) : Except Panic (List Wire.Diagnostic) := do
  if mentions file.text "_crash" then
    throw ⟨Method.diagnostics.name ++ " bug"⟩
  let configuration := file.context.configuration
  let stop ← endOf file
  let verb := if configuration.enableChecks then "checked: " else "unchecked: "
  let whole : List Wire.Diagnostic :=
    if file.text.isEmpty then []
    else [{ range := (Range.mk .origin stop).toWire, message := verb ++ file.text }]
  let lint : List Wire.Diagnostic :=
    match configuration.lintOverrideFile with
    | none => []
    | some path =>
        [{ range := (Range.point .origin).toWire, message := "lint: " ++ path }]
  return whole ++ lint

/-- The text and the place asked for. -/
def hover (document : Document) (position : Position) : Option Wire.Hover :=
  match document with
  | .typedSource file =>
      (file.offset? position).map fun offset =>
        { contents := "magik@" ++ toString offset ++ ":" ++ file.text
          range := some (Range.point position).toWire }
  | _ =>
      some { contents :=
        document.kind.languageId ++ "@" ++ toString position.line ++ "," ++
          toString position.column ++ ":" ++ document.text }

/-- The part before the position and the character behind it. -/
def definitions (document : Document) (position : Position) : List Location :=
  [⟨document.uri, ⟨.origin, position⟩⟩,
   ⟨document.uri, ⟨position, ⟨position.line + 1, position.column + 1⟩⟩⟩]

/-- The occurrences of one word. -/
def references (document : Document) : Except Panic (List Location) :=
  let offsets := Text.occurrences "_self".toList document.text.toList 0
  match document with
  | .typedSource file =>
      offsets.mapM fun offset => do
        return ⟨file.uri, ⟨← positionOf file offset, ← positionOf file (offset + 5)⟩⟩
  | _ => .ok (offsets.map fun offset => ⟨document.uri, ⟨⟨0, offset⟩, ⟨0, offset + 5⟩⟩⟩)

/-- The text as a signature, with the position as what is active. -/
def signatureHelp (file : TypedFile) (position : Position) : Option Wire.SignatureHelp :=
  if file.text.isEmpty then none
  else
    some { signatures := [file.text]
           activeSignature := some position.line.toUInt32
           activeParameter := some position.column.toUInt32 }

/-- Two numbers with a colon between them. -/
def coordinates (position : Position) : String :=
  toString position.line ++ ":" ++ toString position.column

/-- Every filled line as a completion. -/
def completions (file : TypedFile) (position : Position) : List Wire.CompletionItem :=
  (filledLines file.text).map fun line =>
    { label := String.ofList line.2, detail := some (coordinates position) }

/-- One edit over the whole file that shows the options, and one far away. -/
def formatting (file : TypedFile) (options : Wire.FormattingOptions) :
    Except Panic (List TextEdit) := do
  let stop ← endOf file
  let summary :=
    "tab=" ++ toString options.tabSize.toNat ++ " spaces=" ++ Text.flag options.insertSpaces
  let far : Position := ⟨file.context.lineIndex.lineCount + 4294967295, 4294967303⟩
  return [⟨⟨.origin, stop⟩, summary⟩, ⟨Range.point far, "wrap"⟩]

/-- The number of newlines. -/
def newlines (text : String) : Nat := text.toList.count '\n'

/-- One folding range over all lines. -/
def foldingRanges (document : Document) : List Wire.FoldingRange :=
  let last :=
    match document with
    | .typedSource file => file.context.lineIndex.lineCount - 1
    | _ => newlines document.text
  [⟨0, last.toUInt32⟩]

/-- One token as long as the text, of a type that tells the kind. -/
def semanticTokens (document : Document) : Wire.SemanticTokens :=
  let type : UInt32 :=
    match document.kind with
    | .productDefinition => 0
    | .moduleDefinition => 1
    | .typedSource => 2
  { resultId := some document.kind.languageId
    data := [0, 0, (Text.byteLength document.text.toList).toUInt32, type, 0] }

/-- The position, if the file has it. -/
def prepareRename (file : TypedFile) (position : Position) : Option Wire.Range :=
  (file.offset? position).map fun _ => (Range.point position).toWire

/-- The new name at the position. -/
def rename (file : TypedFile) (position : Position) (newName : String) :
    Option Wire.WorkspaceEdit :=
  if newName.isEmpty then none
  else some ⟨[(file.uri, [⟨(Range.point position).toWire, newName⟩])]⟩

/-- Every filled line as a symbol. -/
def documentSymbols (file : TypedFile) : Except Panic (List Wire.DocumentSymbol) :=
  (filledLines file.text).mapM fun line => do
    let start ← positionOf file line.1
    let stop ← positionOf file (line.1 + Text.byteLength line.2)
    return { name := String.ofList line.2, kind := 2
             range := (Range.mk start stop).toWire
             selectionRange := (Range.point start).toWire }

/-- One type that is named after the position. -/
def prepareTypeHierarchy (file : TypedFile) (position : Position) :
    Except Panic (List Wire.TypeHierarchyItem) := do
  let stop ← endOf file
  return [{ name := coordinates position, kind := 5, uri := file.uri
            range := (Range.mk .origin stop).toWire
            selectionRange := (Range.point position).toWire }]

/-- The item under a derived name. -/
def related (label : String) (item : Wire.TypeHierarchyItem) : List Wire.TypeHierarchyItem :=
  [{ item with name := label ++ item.name }]

/-- A hint at each end of the range, if hints are configured. -/
def inlayHints (file : TypedFile) (range : Range) : List Wire.InlayHint :=
  if file.context.configuration.showInlayHints then
    [⟨range.start.toWire, ": integer"⟩, ⟨range.stop.toWire, ": integer"⟩]
  else []

/-- A fix for each diagnostic that starts in the range, then a replacement of
the range by the whole text. -/
def codeActions (file : TypedFile) (range : Range) (context : Wire.CodeActionContext) :
    List CodeAction :=
  let fixes := context.diagnostics.filterMap fun diagnostic =>
    let place := diagnostic.range.toInternal
    if range.contains place.start then
      some ⟨"Fix: " ++ diagnostic.message, [⟨place, ""⟩]⟩
    else none
  let edits := if range.start = range.stop then [] else [⟨range, file.text⟩]
  fixes ++ [⟨"Replace selection", edits⟩]

/-- Each position inside everything before it. -/
def selectionRanges (positions : List Position) : List Wire.SelectionRange :=
  positions.map fun position =>
    ⟨(Range.point position).toWire, [(Range.mk .origin position).toWire]⟩

/-- The answer to a call. -/
def answer : (method : Method) → method.Argument → Except Panic method.Answer
  | .diagnostics, file => diagnostics file
  | .hover, (document, position) =>
      guarded .hover document.text (.ok (hover document position))
  | .implementations, (file, position) =>
      guarded .implementations file.text (.ok [⟨file.uri, Range.point position⟩])
  | .signatureHelp, (file, position) =>
      guarded .signatureHelp file.text (.ok (signatureHelp file position))
  | .definitions, (document, position) =>
      guarded .definitions document.text (.ok (definitions document position))
  | .references, (document, _) =>
      guarded .references document.text (references document)
  | .completions, (file, position) =>
      guarded .completions file.text (.ok (completions file position))
  | .canFormat, file => .ok (!mentions file.text "_error")
  | .formatting, (file, options) =>
      guarded .formatting file.text (formatting file options)
  | .foldingRanges, document =>
      guarded .foldingRanges document.text (.ok (foldingRanges document))
  | .semanticTokens, document =>
      guarded .semanticTokens document.text (.ok (semanticTokens document))
  | .prepareRename, (file, position) =>
      guarded .prepareRename file.text (.ok (prepareRename file position))
  | .rename, (file, position, newName) =>
      guarded .rename file.text (.ok (rename file position newName))
  | .documentSymbols, file =>
      guarded .documentSymbols file.text (documentSymbols file)
  | .prepareTypeHierarchy, (file, position) =>
      guarded .prepareTypeHierarchy file.text (prepareTypeHierarchy file position)
  | .subtypes, item => guarded .subtypes item.name (.ok (related "sub_of_" item))
  | .supertypes, item => guarded .supertypes item.name (.ok (related "super_of_" item))
  | .inlayHints, (file, range) =>
      guarded .inlayHints file.text (.ok (inlayHints file range))
  | .codeActions, (file, range, context) =>
      guarded .codeActions file.text (.ok (codeActions file range context))
  | .selectionRanges, (file, positions) =>
      guarded .selectionRanges file.text (.ok (selectionRanges positions))

end Echo

/-- Echo providers that declare capabilities by rules. -/
def Providers.echo (rules : Slot → Echo.Rule) : Providers where
  answer := Echo.answer
  declare slot capabilities := (rules slot).apply capabilities

end LanguageServer
