import LanguageServer.Proofs.Session.Delivery
import LanguageServer.Server.Basic

namespace LanguageServer

open Json (required optional)

/-!
# What a message asks for

A message asks for a step of the session by three things: its method, its having
an identifier or not, and its parameters.  The steps are described here from
their own side.  Each has a method under which it is asked for, and it has to
agree with the parameters in the document it names, in the places it names, and
in what it passes on.  Parameters may have to carry more than the step needs;
what is not needed only has to be readable.

Documents, places and changes are described by their fields, down to numbers,
texts and identifiers, and no reader of such a record has a part in this.
Options, contexts and items are passed on whole, as the values they are read as.

The server finds the reader of a method in its table of routes.  The description
and the readers are two accounts of the same thing, and they agree exactly.
-/

/-! ## The description -/

namespace Json

/-- The field under a key gives what is held. -/
def Holds {α : Type} (entries : Entries) (key : String) (gives : Json → α → Prop)
    (held : α) : Prop :=
  ∃ value, lookup entries key = some value ∧ gives value held

/-- The field under a key gives what is held, if anything is.  Otherwise it is absent or
null. -/
def MayHold {α : Type} (entries : Entries) (key : String) (gives : Json → α → Prop) :
    Option α → Prop
  | none => lookup entries key = none ∨ lookup entries key = some .null
  | some held => ∃ value, lookup entries key = some value ∧ value ≠ .null ∧ gives value held

end Json

namespace Wire

/-- A position has a line and a character, which are words. -/
def Position.GivenBy (value : Json) (position : Position) : Prop :=
  ∃ entries, value.fixed? ["line", "character"] = some entries ∧
    required entries "line" Json.uint32? = some position.line ∧
    required entries "character" Json.uint32? = some position.character

def Range.GivenBy (value : Json) (range : Range) : Prop :=
  ∃ entries, value.fixed? ["start", "end"] = some entries ∧
    Json.Holds entries "start" Position.GivenBy range.start ∧
    Json.Holds entries "end" Position.GivenBy range.stop

/-- A change has a text, and it may name a range and the length of what stands there. -/
def ContentChange.GivenBy (value : Json) (change : ContentChange) : Prop :=
  ∃ entries, value.fixed? ["range", "rangeLength", "text"] = some entries ∧
    Json.MayHold entries "range" Range.GivenBy change.range ∧
    optional entries "rangeLength" Json.uint32? = some change.rangeLength ∧
    required entries "text" Json.text? = some change.text

end Wire

/-- The parameters name the document. -/
def Uri.GivenBy (entries : Json.Entries) (uri : Uri) : Prop :=
  ∃ document, required entries "textDocument" (Json.fixed? ["uri"]) = some document ∧
    required document "uri" Wire.uri? = some uri

namespace Operation

/-- The method under which an operation is requested. -/
def request : Operation → String
  | .hover => "textDocument/hover"
  | .definition => "textDocument/definition"
  | .references => "textDocument/references"
  | .foldingRange => "textDocument/foldingRange"
  | .semanticTokensFull => "textDocument/semanticTokens/full"
  | .implementation => "textDocument/implementation"
  | .signatureHelp => "textDocument/signatureHelp"
  | .completion => "textDocument/completion"
  | .formatting => "textDocument/formatting"
  | .prepareRename => "textDocument/prepareRename"
  | .rename => "textDocument/rename"
  | .documentSymbol => "textDocument/documentSymbol"
  | .selectionRange => "textDocument/selectionRange"
  | .prepareTypeHierarchy => "textDocument/prepareTypeHierarchy"
  | .inlayHint => "textDocument/inlayHint"
  | .codeAction => "textDocument/codeAction"
  | .subtypes => "typeHierarchy/subtypes"
  | .supertypes => "typeHierarchy/supertypes"

/-- The fields of the parameters.  Only one operation takes them by place, too. -/
def fields? : Operation → Json → Option Json.Entries
  | .prepareRename => Json.fixed? ["textDocument", "position"]
  | _ => Json.entries?

/-- The tokens that the parameters may carry. -/
def tokens : Operation → List String
  | .prepareRename => []
  | .hover | .signatureHelp | .formatting | .rename | .prepareTypeHierarchy | .inlayHint =>
      ["workDoneToken"]
  | _ => ["workDoneToken", "partialResultToken"]

/-- The parameters name the places; a range counts with both ends. -/
def PlacesIn (entries : Json.Entries) (places : List Wire.Position) : Operation → Prop
  | .foldingRange | .semanticTokensFull | .formatting | .documentSymbol | .subtypes
  | .supertypes => places = []
  | .selectionRange =>
      ∃ items, required entries "positions" Json.items? = some items ∧
        List.Forall₂ Wire.Position.GivenBy items places
  | .inlayHint | .codeAction =>
      ∃ range, Json.Holds entries "range" Wire.Range.GivenBy range ∧
        places = [range.start, range.stop]
  | _ =>
      ∃ position, Json.Holds entries "position" Wire.Position.GivenBy position ∧
        places = [position]

def payloadIn (entries : Json.Entries) : Operation → Option Payload
  | .formatting => (required entries "options" Wire.FormattingOptions.ofJson?).map .options
  | .rename => (required entries "newName" Json.text?).map .newName
  | .codeAction => (required entries "context" Wire.CodeActionContext.ofJson?).map .context
  | .subtypes | .supertypes => (required entries "item" Wire.TypeHierarchyItem.ofJson?).map .item
  | _ => some .nothing

/-- The operation has a context that is not passed on, and it can be read. -/
def ContextReadable (entries : Json.Entries) : Operation → Prop
  | .references =>
      ∃ read, required entries "context" Wire.Shape.referenceContext.check = some read
  | .signatureHelp =>
      ∃ read, optional entries "context" Wire.Shape.signatureContext.check = some read
  | .completion =>
      ∃ read, optional entries "context" Wire.Shape.completionContext.check = some read
  | _ => True

end Operation

/-- The fields of the parameters give the query. -/
@[mk_iff]
structure Query.GivenBy (entries : Json.Entries) (query : Query) : Prop where
  tokens : ∀ key ∈ query.operation.tokens,
    ∃ token, optional entries key Wire.Mark.ofJson? = some token
  context : query.operation.ContextReadable entries
  target : ∀ uri, query.subject? = some uri → uri.GivenBy entries
  places : query.operation.PlacesIn entries query.places
  payload : query.operation.payloadIn entries = some query.payload

namespace Step

/-- The method under which a client asks for a step. -/
def method? : Step → Option String
  | .openText _ _ _ => some "textDocument/didOpen"
  | .change _ _ => some "textDocument/didChange"
  | .close _ => some "textDocument/didClose"
  | .save _ => some "textDocument/didSave"
  | .query asked => some asked.operation.request
  | _ => none

/-- Whether the client is owed a response. -/
def isQuery : Step → Bool
  | .query _ => true
  | _ => false

/-- The parameters give the step. -/
def GivenBy (params : Json) : Step → Prop
  | .openText uri language text =>
      ∃ entries document, params.fixed? ["textDocument"] = some entries ∧
        required entries "textDocument"
          (Json.fixed? ["uri", "languageId", "version", "text"]) = some document ∧
        required document "uri" Wire.uri? = some uri ∧
        required document "languageId" Json.text? = some language ∧
        (∃ version, required document "version" Json.int32? = some version) ∧
        required document "text" Json.text? = some text
  | .change uri changes =>
      ∃ entries, params.fixed? ["textDocument", "contentChanges"] = some entries ∧
        (∃ document,
          required entries "textDocument" (Json.fixed? ["uri", "version"]) = some document ∧
          (∃ version, required document "version" Json.int32? = some version) ∧
          required document "uri" Wire.uri? = some uri) ∧
        ∃ items, required entries "contentChanges" Json.items? = some items ∧
          List.Forall₂ Wire.ContentChange.GivenBy items changes
  | .close uri =>
      ∃ entries, params.fixed? ["textDocument"] = some entries ∧ uri.GivenBy entries
  | .save uri =>
      ∃ entries, params.fixed? ["textDocument", "text"] = some entries ∧
        (∃ text, optional entries "text" Json.text? = some text) ∧ uri.GivenBy entries
  | .query asked =>
      ∃ entries, asked.operation.fields? params = some entries ∧ asked.GivenBy entries
  | _ => False

end Step

/-- The message asks for the step. -/
structure Message.AsksFor (message : Message) (step : Step) : Prop where
  method : step.method? = some message.method
  id : message.id.isSome = step.isQuery
  params : ∃ params, message.params = some params ∧ step.GivenBy params

/-! ## The readers -/

/-- The reader of the parameters of an operation. -/
def Operation.reader : Operation → Json → Option Query
  | .hover => Params.hover
  | .definition => Params.definition
  | .references => Params.references
  | .foldingRange => Params.foldingRange
  | .semanticTokensFull => Params.semanticTokensFull
  | .implementation => Params.implementation
  | .signatureHelp => Params.signatureHelp
  | .completion => Params.completion
  | .formatting => Params.formatting
  | .prepareRename => Params.prepareRename
  | .rename => Params.rename
  | .documentSymbol => Params.documentSymbol
  | .selectionRange => Params.selectionRange
  | .prepareTypeHierarchy => Params.prepareTypeHierarchy
  | .inlayHint => Params.inlayHint
  | .codeAction => Params.codeAction
  | .subtypes => Params.subtypes
  | .supertypes => Params.supertypes

namespace Json

/-- A field that is a record in turn. -/
theorem required_bind {α β : Type} (entries : Entries) (key : String)
    (first : Json → Option α) (second : α → Option β) :
    required entries key (fun value => (first value).bind second) =
      (required entries key first).bind second :=
  (Option.bind_assoc (lookup entries key) first second).symm

section Fields

variable {α : Type} {decode : Json → Option α} {gives : Json → α → Prop}
  (reads : ∀ value held, decode value = some held ↔ gives value held)
include reads

theorem required_eq_some_iff {entries : Entries} {key : String} {held : α} :
    required entries key decode = some held ↔ Holds entries key gives held := by
  rw [required, Option.bind_eq_some_iff]
  simp only [Holds, reads]

theorem optional_eq_some_iff {entries : Entries} {key : String} {held : Option α} :
    optional entries key decode = some held ↔ MayHold entries key gives held := by
  unfold optional
  split
  · next absent => cases held <;> simp [MayHold, absent]
  · next null => cases held <;> simp [MayHold, null]
  · next value notNull given =>
      have present : value ≠ .null := notNull
      cases held with
      | none => simp [MayHold, given, present]
      | some held => simp [MayHold, given, present, reads]

theorem mapM_eq_some_iff {items : List Json} {list : List α} :
    items.mapM decode = some list ↔ List.Forall₂ gives items list := by
  induction items generalizing list with
  | nil => simp [eq_comm]
  | cons item rest ih =>
      rw [List.mapM_cons, List.forall₂_cons_left_iff]
      simp [Option.bind_eq_some_iff, reads, ih, @eq_comm _ list]

/-- An array is read item by item. -/
theorem required_listOf?_eq_some_iff {entries : Entries} {key : String} {list : List α} :
    required entries key (listOf? decode) = some list ↔
      ∃ items, required entries key items? = some items ∧ List.Forall₂ gives items list := by
  change required entries key (fun value => value.items?.bind fun items => items.mapM decode) =
    some list ↔ _
  rw [required_bind, Option.bind_eq_some_iff]
  simp only [mapM_eq_some_iff reads]

end Fields

end Json

namespace Wire

theorem Position.ofJson?_eq_some_iff (value : Json) (position : Position) :
    ofJson? value = some position ↔ position.GivenBy value := by
  cases position
  simp [ofJson?, GivenBy, Option.bind_eq_some_iff]

theorem Range.ofJson?_eq_some_iff (value : Json) (range : Range) :
    ofJson? value = some range ↔ range.GivenBy value := by
  cases range
  simp [ofJson?, GivenBy, Option.bind_eq_some_iff,
    Json.required_eq_some_iff Position.ofJson?_eq_some_iff]

theorem ContentChange.ofJson?_eq_some_iff (value : Json) (change : ContentChange) :
    ofJson? value = some change ↔ change.GivenBy value := by
  cases change
  simp [ofJson?, GivenBy, Option.bind_eq_some_iff,
    Json.optional_eq_some_iff Range.ofJson?_eq_some_iff]

end Wire

namespace Params

theorem target_eq_some_iff {entries : Json.Entries} {uri : Uri} :
    target entries = some uri ↔ uri.GivenBy entries := by
  rw [Uri.GivenBy, ← Option.bind_eq_some_iff, ← Json.required_bind]
  rfl

theorem place_eq_some_iff {entries : Json.Entries} {position : Wire.Position} :
    place entries = some position ↔
      Json.Holds entries "position" Wire.Position.GivenBy position :=
  Json.required_eq_some_iff Wire.Position.ofJson?_eq_some_iff

theorem span_eq_some_iff {entries : Json.Entries} {range : Wire.Range} :
    span entries = some range ↔ Json.Holds entries "range" Wire.Range.GivenBy range :=
  Json.required_eq_some_iff Wire.Range.ofJson?_eq_some_iff

theorem withTokens_eq_some_iff {keys : List String} {params : Json}
    {entries : Json.Entries} :
    withTokens keys params = some entries ↔ params.entries? = some entries ∧
      ∀ key ∈ keys, ∃ token, optional entries key Wire.Mark.ofJson? = some token := by
  have checked : withTokens keys params = params.entries?.bind fun found =>
      if keys.all fun key => (optional found key Wire.Mark.ofJson?).isSome then some found
      else none := by
    apply Option.bind_congr
    intro found _
    change Option.bind (if _ then some () else none) (fun _ => some found) = _
    split <;> rfl
  rw [checked]
  simp [Option.bind_eq_some_iff, Option.isSome_iff_exists]

/-- A range is known by its ends. -/
theorem exists_ends_iff {given : Wire.Range → Prop} {range : Wire.Range} :
    (∃ found, given found ∧ range.start = found.start ∧ range.stop = found.stop) ↔
      given range := by
  constructor
  · rintro ⟨⟨start, stop⟩, holds, rfl, rfl⟩
    exact holds
  · intro holds
    exact ⟨range, holds, rfl, rfl⟩

end Params

section Readers

attribute [local simp] Operation.fields? Operation.tokens Operation.PlacesIn
  Operation.payloadIn Operation.ContextReadable Operation.reader Query.operation
  DocumentInquiry.operation SourceInquiry.operation Query.subject? Query.places Query.payload
  Params.progressing Params.streaming Params.withTokens_eq_some_iff
  Params.target_eq_some_iff Params.place_eq_some_iff Params.span_eq_some_iff
  Params.exists_ends_iff Option.bind_eq_some_iff

/-- A query about any document is read exactly when the parameters give it. -/
theorem DocumentInquiry.reader_eq_some_iff {params : Json} {uri : Uri}
    {inquiry : DocumentInquiry} :
    inquiry.operation.reader params = some (.document uri inquiry) ↔
      (Step.query (.document uri inquiry)).GivenBy params := by
  simp only [Step.GivenBy, Query.givenBy_iff]
  cases inquiry with
  | hover position => simp [Params.hover, and_assoc]
  | definition position => simp [Params.definition, and_assoc]
  | references position => simp [Params.references, and_assoc]
  | foldingRange => simp [Params.foldingRange, and_assoc]
  | semanticTokensFull => simp [Params.semanticTokensFull, and_assoc]

theorem SourceInquiry.reader_eq_some_iff {params : Json} {uri : Uri}
    {inquiry : SourceInquiry} :
    inquiry.operation.reader params = some (.source uri inquiry) ↔
      (Step.query (.source uri inquiry)).GivenBy params := by
  simp only [Step.GivenBy, Query.givenBy_iff]
  cases inquiry with
  | implementation position => simp [Params.implementation, and_assoc]
  | signatureHelp position => simp [Params.signatureHelp, and_assoc]
  | completion position => simp [Params.completion, and_assoc]
  | formatting options => simp [Params.formatting, and_assoc]
  | prepareRename position => simp [Params.prepareRename]
  | rename position newName => simp [Params.rename, and_assoc]
  | documentSymbol => simp [Params.documentSymbol, and_assoc]
  | selectionRange positions =>
      simp [Params.selectionRange, and_assoc,
        Json.required_listOf?_eq_some_iff Wire.Position.ofJson?_eq_some_iff]
  | prepareTypeHierarchy position => simp [Params.prepareTypeHierarchy, and_assoc]
  | inlayHint range => simp [Params.inlayHint, and_assoc]
  | codeAction range context => simp [Params.codeAction, and_assoc]

theorem Query.reader_eq_some_iff {params : Json} {query : Query} :
    query.operation.reader params = some query ↔ (Step.query query).GivenBy params := by
  cases query with
  | document uri inquiry => exact inquiry.reader_eq_some_iff
  | source uri inquiry => exact inquiry.reader_eq_some_iff
  | subtypes item => simp [Step.GivenBy, givenBy_iff, Params.subtypes, Params.item, and_assoc]
  | supertypes item =>
      simp [Step.GivenBy, givenBy_iff, Params.supertypes, Params.item, and_assoc]

/-- A reader reads no queries but those of its own operation. -/
theorem Operation.operation_of_reader {operation : Operation} {params : Json} {query : Query}
    (read : operation.reader params = some query) : query.operation = operation := by
  cases operation <;>
    simp [Params.hover, Params.definition, Params.references, Params.foldingRange,
      Params.semanticTokensFull, Params.implementation, Params.signatureHelp,
      Params.completion, Params.formatting, Params.prepareRename, Params.rename,
      Params.documentSymbol, Params.selectionRange, Params.prepareTypeHierarchy,
      Params.inlayHint, Params.codeAction, Params.subtypes, Params.supertypes] at read
  all_goals grind [Query.operation, DocumentInquiry.operation, SourceInquiry.operation]

/-- The reader of the parameters with which a document is changed. -/
def Step.reader : Step → Json → Option Step
  | .openText _ _ _ => Params.didOpen
  | .change _ _ => Params.didChange
  | .close _ => Params.didClose
  | .save _ => Params.didSave
  | _ => fun _ => none

theorem Step.reader_eq_some_iff {params : Json} {step : Step} (notice : step.isQuery = false) :
    step.reader params = some step ↔ step.GivenBy params := by
  cases step with
  | openText uri language text => simp [reader, GivenBy, Params.didOpen, Json.required_bind]
  | change uri changes =>
      simp [reader, GivenBy, Params.didChange, Json.required_bind,
        Json.required_listOf?_eq_some_iff Wire.ContentChange.ofJson?_eq_some_iff]
  | close uri => simp [reader, GivenBy, Params.didClose]
  | save uri => simp [reader, GivenBy, Params.didSave]
  | query asked => cases notice
  | _ => simp [reader, GivenBy]

end Readers

/-! ## The routes -/

namespace Route

/-- The methods that change documents, with their readers. -/
def notices : List (String × (Json → Option Step)) :=
  [("textDocument/didOpen", Params.didOpen), ("textDocument/didChange", Params.didChange),
   ("textDocument/didClose", Params.didClose), ("textDocument/didSave", Params.didSave)]

theorem served_eq :
    served = notices.map (fun entry => (entry.1, .notification entry.2)) ++
      Operation.all.map fun operation => (operation.request, .request operation.reader) :=
  rfl

theorem mem_all_of_ofMethod? {method : String} {route : Route}
    (found : ofMethod? method = some route) : (method, route) ∈ all := by
  rcases Option.map_eq_some_iff.mp found with ⟨⟨name, other⟩, first, rfl⟩
  have named := List.find?_some first
  rw [decide_eq_true_eq] at named
  rw [← named]
  exact List.mem_of_find?_eq_some first

theorem ofMethod?_request (operation : Operation) :
    ofMethod? operation.request = some (.request operation.reader) := by
  cases operation <;> rfl

theorem ofMethod?_notification {step : Step} {method : String}
    (named : step.method? = some method) (notice : step.isQuery = false) :
    ofMethod? method = some (.notification step.reader) := by
  cases step <;> cases named
  case query asked => cases notice
  all_goals rfl

theorem exists_of_ofMethod?_request {method : String} {read : Json → Option Query}
    (found : ofMethod? method = some (.request read)) :
    ∃ operation : Operation, operation.request = method ∧ operation.reader = read := by
  have member := mem_all_of_ofMethod? found
  simp [all, connection, served_eq, notices] at member
  rcases member with ⟨operation, _, named, reads⟩
  exact ⟨operation, named, reads⟩

theorem mem_notices_of_ofMethod? {method : String} {read : Json → Option Step}
    (found : ofMethod? method = some (.notification read)) : (method, read) ∈ notices := by
  have member := mem_all_of_ofMethod? found
  simpa [all, connection, served_eq] using member

/-- What is read under one of these methods is the step of that method. -/
theorem step_of_mem_notices {method : String} {read : Json → Option Step} {params : Json}
    {step : Step} (member : (method, read) ∈ notices) (reads : read params = some step) :
    step.method? = some method ∧ step.isQuery = false ∧ read = step.reader := by
  simp only [notices, List.mem_cons, Prod.mk.injEq, List.not_mem_nil, or_false] at member
  rcases member with ⟨rfl, rfl⟩ | ⟨rfl, rfl⟩ | ⟨rfl, rfl⟩ | ⟨rfl, rfl⟩
  · simp only [Params.didOpen, Json.required_bind, Option.bind_eq_bind,
      Option.bind_eq_some_iff, Option.pure_def, Option.some.injEq] at reads
    rcases reads with ⟨_, _, _, _, _, _, _, _, _, _, _, _, rfl⟩
    exact ⟨rfl, rfl, rfl⟩
  · simp only [Params.didChange, Json.required_bind, Option.bind_eq_bind,
      Option.bind_eq_some_iff, Option.pure_def, Option.some.injEq] at reads
    rcases reads with ⟨_, _, _, _, _, _, rfl⟩
    exact ⟨rfl, rfl, rfl⟩
  · simp only [Params.didClose, Option.bind_eq_bind,
      Option.bind_eq_some_iff, Option.pure_def, Option.some.injEq] at reads
    rcases reads with ⟨_, _, _, _, rfl⟩
    exact ⟨rfl, rfl, rfl⟩
  · simp only [Params.didSave, Option.bind_eq_bind,
      Option.bind_eq_some_iff, Option.pure_def, Option.some.injEq] at reads
    rcases reads with ⟨_, _, _, _, _, _, rfl⟩
    exact ⟨rfl, rfl, rfl⟩

end Route

namespace Message

/-- The step that the routes find in a message.  Documents are changed by
notifications and queries are made by requests. -/
def step? (message : Message) : Option Step :=
  match Route.ofMethod? message.method, message.id with
  | some (.notification read), none => message.params.bind read
  | some (.request read), some _ => (message.params.bind read).map .query
  | _, _ => none

/-- The routes find a step in a message exactly when the message asks for it. -/
theorem step?_eq_some_iff {message : Message} {step : Step} :
    message.step? = some step ↔ message.AsksFor step := by
  constructor
  · intro found
    unfold step? at found
    split at found
    · next read routed notified =>
        rcases Option.bind_eq_some_iff.mp found with ⟨params, given, reads⟩
        rcases Route.step_of_mem_notices (Route.mem_notices_of_ofMethod? routed) reads with
          ⟨named, notice, rfl⟩
        refine ⟨named, ?_, params, given, (Step.reader_eq_some_iff notice).mp reads⟩
        rw [notified, notice]
        rfl
    · next read id routed identified =>
        rcases Option.map_eq_some_iff.mp found with ⟨query, read, rfl⟩
        rcases Option.bind_eq_some_iff.mp read with ⟨params, given, reads⟩
        rcases Route.exists_of_ofMethod?_request routed with ⟨operation, named, rfl⟩
        rw [← Operation.operation_of_reader reads] at named reads
        refine ⟨congrArg some named, ?_, params, given, Query.reader_eq_some_iff.mp reads⟩
        rw [identified]
        rfl
    · cases found
  · rintro ⟨named, identified, params, given, givenBy⟩
    cases asks : step.isQuery with
    | false =>
        rw [asks, Option.isSome_eq_false_iff, Option.isNone_iff_eq_none] at identified
        simp only [step?, Route.ofMethod?_notification named asks, identified, given,
          Option.bind_some]
        exact (Step.reader_eq_some_iff asks).mpr givenBy
    | true =>
        cases step with
        | query query =>
            rcases Option.isSome_iff_exists.mp identified with ⟨id, identified⟩
            have routed := Route.ofMethod?_request query.operation
            rw [Option.some.inj named] at routed
            simp only [step?, routed, identified, given, Option.bind_some,
              Query.reader_eq_some_iff.mpr givenBy, Option.map_some]
        | _ => cases asks

end Message
end LanguageServer
