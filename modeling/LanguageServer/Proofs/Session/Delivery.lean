import LanguageServer.Proofs.Session.Handed
import Mathlib.Data.List.Forall2

namespace LanguageServer

/-!
# Queries reach the provider of their operation

A query that needs a worker leads to one call.  What the call must be is said
by looking at queries and at calls from the outside: both name an operation or
a method, a document, places in it, and perhaps something that is passed on as
it is.  The four views of a query and the four views of a call have to agree.
Places agree when their numbers do, however they are represented.

What the provider answers is conveyed to the client.  Results that point into
documents change their representation on the way.  They keep their number,
their order and their texts, and each coordinate is reduced to a 32-bit word.

Formatting is left out here: it asks one method for permission before it asks
another for the edits.
-/

/-! ## Places and results in two representations -/

/-- The wire position and the position have the same numbers. -/
def Wire.Position.Names (wire : Wire.Position) (position : LanguageServer.Position) : Prop :=
  position.line = wire.line.toNat ∧ position.column = wire.character.toNat

/-- The wire position has the numbers of the position, reduced to words. -/
def Position.Reduces (position : Position) (wire : Wire.Position) : Prop :=
  wire.line.toNat = position.line % UInt32.size ∧
    wire.character.toNat = position.column % UInt32.size

structure Range.Reduces (range : Range) (wire : Wire.Range) : Prop where
  start : range.start.Reduces wire.start
  stop : range.stop.Reduces wire.stop

structure Location.Reduces (location : Location) (wire : Wire.Location) : Prop where
  uri_eq : wire.uri = location.uri
  range : location.range.Reduces wire.range

structure TextEdit.Reduces (edit : TextEdit) (wire : Wire.TextEdit) : Prop where
  newText_eq : wire.newText = edit.newText
  range : edit.range.Reduces wire.range

/-- The wire action is a quick fix with the title of the action, and all its
edits belong to one document. -/
structure CodeAction.Reduces (uri : Uri) (action : CodeAction) (wire : Wire.CodeAction) :
    Prop where
  title_eq : wire.title = action.title
  quickFix : wire.toJson.field? "kind" = some (.str "quickfix")
  edits : ∃ edits, wire.edit.changes = [(uri, edits)] ∧
    List.Forall₂ TextEdit.Reduces action.edits edits

theorem Wire.Position.names_toInternal (wire : Wire.Position) :
    wire.Names wire.toInternal :=
  ⟨rfl, rfl⟩

theorem Wire.Position.forall₂_names_single (wire : Wire.Position) :
    List.Forall₂ Wire.Position.Names [wire] [wire.toInternal] :=
  .cons wire.names_toInternal .nil

theorem Wire.Range.forall₂_names_ends (wire : Wire.Range) :
    List.Forall₂ Wire.Position.Names [wire.start, wire.stop]
      [wire.toInternal.start, wire.toInternal.stop] :=
  .cons wire.start.names_toInternal wire.stop.forall₂_names_single

theorem Position.reduces_toWire (position : Position) : position.Reduces position.toWire :=
  ⟨UInt32.toNat_ofNat', UInt32.toNat_ofNat'⟩

theorem Range.reduces_toWire (range : Range) : range.Reduces range.toWire :=
  ⟨range.start.reduces_toWire, range.stop.reduces_toWire⟩

theorem Location.reduces_toWire (location : Location) : location.Reduces location.toWire :=
  ⟨rfl, location.range.reduces_toWire⟩

theorem TextEdit.reduces_toWire (edit : TextEdit) : edit.Reduces edit.toWire :=
  ⟨rfl, edit.range.reduces_toWire⟩

/-- Translating the entries of a list one by one keeps their number and order. -/
theorem forall₂_map_of_forall {α β : Type} {relation : α → β → Prop} {translate : α → β}
    (each : ∀ entry, relation entry (translate entry)) (entries : List α) :
    List.Forall₂ relation entries (entries.map translate) := by
  rw [List.forall₂_map_right_iff, List.forall₂_same]
  intro entry _
  exact each entry

theorem CodeAction.reduces_toWire (uri : Uri) (action : CodeAction) :
    CodeAction.Reduces uri action (action.toWire uri) :=
  ⟨rfl, rfl, _, rfl, forall₂_map_of_forall TextEdit.reduces_toWire action.edits⟩

/-! ## Queries and calls from the outside -/

/-- What is passed on as it is. -/
inductive Payload where
  | nothing
  | newName (name : String)
  | options (options : Wire.FormattingOptions)
  | context (context : Wire.CodeActionContext)
  | item (item : Wire.TypeHierarchyItem)

/-- The method that answers for an operation.  Each method belongs to the provider
of one slot. -/
def Operation.method : Operation → Method
  | .hover => .hover
  | .definition => .definitions
  | .references => .references
  | .foldingRange => .foldingRanges
  | .semanticTokensFull => .semanticTokens
  | .implementation => .implementations
  | .signatureHelp => .signatureHelp
  | .completion => .completions
  | .formatting => .formatting
  | .prepareRename => .prepareRename
  | .rename => .rename
  | .documentSymbol => .documentSymbols
  | .selectionRange => .selectionRanges
  | .prepareTypeHierarchy => .prepareTypeHierarchy
  | .inlayHint => .inlayHints
  | .codeAction => .codeActions
  | .subtypes => .subtypes
  | .supertypes => .supertypes

namespace Query

/-- The places that a query names; a range counts with both ends. -/
def places : Query → List Wire.Position
  | .document _ (.hover position) => [position]
  | .document _ (.definition position) => [position]
  | .document _ (.references position) => [position]
  | .source _ (.implementation position) => [position]
  | .source _ (.signatureHelp position) => [position]
  | .source _ (.completion position) => [position]
  | .source _ (.prepareRename position) => [position]
  | .source _ (.rename position _) => [position]
  | .source _ (.selectionRange positions) => positions
  | .source _ (.prepareTypeHierarchy position) => [position]
  | .source _ (.inlayHint range) => [range.start, range.stop]
  | .source _ (.codeAction range _) => [range.start, range.stop]
  | _ => []

def payload : Query → Payload
  | .source _ (.formatting options) => .options options
  | .source _ (.rename _ name) => .newName name
  | .source _ (.codeAction _ context) => .context context
  | .subtypes item => .item item
  | .supertypes item => .item item
  | _ => .nothing

theorem uri_of_subject? {query : Query} {uri : Uri} (about : query.subject? = some uri) :
    query.uri = uri := by
  cases query with
  | document target inquiry => exact Option.some.inj about
  | source target inquiry => exact Option.some.inj about
  | subtypes item => cases about
  | supertypes item => cases about

end Query

namespace Call

/-- The places that a call names; a range counts with both ends. -/
def places : Call → List Position
  | ⟨.hover, (_, position)⟩ => [position]
  | ⟨.definitions, (_, position)⟩ => [position]
  | ⟨.references, (_, position)⟩ => [position]
  | ⟨.implementations, (_, position)⟩ => [position]
  | ⟨.signatureHelp, (_, position)⟩ => [position]
  | ⟨.completions, (_, position)⟩ => [position]
  | ⟨.prepareRename, (_, position)⟩ => [position]
  | ⟨.rename, (_, position, _)⟩ => [position]
  | ⟨.selectionRanges, (_, positions)⟩ => positions
  | ⟨.prepareTypeHierarchy, (_, position)⟩ => [position]
  | ⟨.inlayHints, (_, range)⟩ => [range.start, range.stop]
  | ⟨.codeActions, (_, range, _)⟩ => [range.start, range.stop]
  | _ => []

def payload : Call → Payload
  | ⟨.formatting, (_, options)⟩ => .options options
  | ⟨.rename, (_, _, name)⟩ => .newName name
  | ⟨.codeActions, (_, _, context)⟩ => .context context
  | ⟨.subtypes, item⟩ => .item item
  | ⟨.supertypes, item⟩ => .item item
  | _ => .nothing

/-- The call puts a query about a document to the provider. -/
structure Puts (call : Call) (query : Query) (snapshot : Option Document) : Prop where
  method_eq : call.method = query.operation.method
  document_eq : call.document? = snapshot
  places : List.Forall₂ Wire.Position.Names query.places call.places
  payload_eq : call.payload = query.payload

end Call

/-- The client's answer conveys what a method found for a document.  No query is
answered with diagnostics or with a permission. -/
def Answer.Conveys (uri : Uri) (answer : Answer) :
    (method : Method) → method.Answer → Prop
  | .hover, found => answer = .hover found
  | .signatureHelp, found => answer = .signatureHelp found
  | .completions, found => answer = .completions found
  | .foldingRanges, found => answer = .foldingRanges (some found)
  | .semanticTokens, found => answer = .semanticTokens (some found)
  | .prepareRename, found => answer = .range found
  | .rename, found => answer = .workspaceEdit found
  | .documentSymbols, found => answer = .symbols found
  | .selectionRanges, found => answer = .selections found
  | .inlayHints, found => answer = .hints found
  | .prepareTypeHierarchy, found | .subtypes, found | .supertypes, found =>
      answer = .types (some found)
  | .implementations, found | .definitions, found | .references, found =>
      ∃ locations, answer = .locations locations ∧
        List.Forall₂ Location.Reduces found locations
  | .formatting, found =>
      ∃ edits, answer = .edits edits ∧ List.Forall₂ TextEdit.Reduces found edits
  | .codeActions, found =>
      ∃ actions, answer = .actions actions ∧
        List.Forall₂ (CodeAction.Reduces uri) found actions
  | .diagnostics, _ => False
  | .canFormat, _ => False

/-! ## The call of a job -/

/-- The result of a call, or its panic, is what becomes of the work. -/
def Call.Yields (providers : Providers) (uri : Uri) (call : Call) :
    Except Panic Answer → Prop
  | .error panic => providers.answer call.method call.argument = .error panic
  | .ok answer => ∃ found, providers.answer call.method call.argument = .ok found ∧
      answer.Conveys uri call.method found

namespace Job

theorem yields_ask {providers : Providers} {uri : Uri} {method : Method}
    {argument : method.Argument} {finish : method.Answer → Answer}
    (conveys : ∀ found, (finish found).Conveys uri method found) :
    Call.Yields providers uri ⟨method, argument⟩
      (ask providers method argument finish).result := by
  simp only [ask, Report.result_map, Report.call]
  cases answered : providers.answer method argument with
  | error panic => exact answered
  | ok found => exact ⟨found, answered, conveys found⟩

theorem conveys_wireLocations (found : List Location) :
    ∃ locations, wireLocations found = .locations locations ∧
      List.Forall₂ Location.Reduces found locations :=
  ⟨_, rfl, forall₂_map_of_forall Location.reduces_toWire found⟩

/-- The work makes one call, which puts the query to the provider of its
operation, and gives what comes back. -/
def Relays (providers : Providers) (job : Job) : Prop :=
  ∃ call, (job.work providers).calls = [call] ∧ call.Puts job.query job.snapshot? ∧
    call.Yields providers job.query.uri (job.work providers).result

/-- A job relays its query when its work is to ask one method. -/
theorem relays_of_ask {providers : Providers} {job : Job} {method : Method}
    {argument : method.Argument} {finish : method.Answer → Answer}
    (work : job.work providers = ask providers method argument finish)
    (puts : Call.Puts ⟨method, argument⟩ job.query job.snapshot?)
    (conveys : ∀ found, (finish found).Conveys job.query.uri method found) :
    job.Relays providers := by
  refine ⟨⟨method, argument⟩, ?_, puts, ?_⟩
  · rw [work]
    rfl
  · rw [work]
    exact yields_ask conveys

/-- A job about any document relays its query, whatever the inquiry. -/
theorem relays_document (providers : Providers) (uri : Uri) (inquiry : DocumentInquiry)
    (snapshot : Document) : (Job.document uri inquiry snapshot).Relays providers := by
  cases inquiry with
  | hover position =>
      exact relays_of_ask rfl ⟨rfl, rfl, position.forall₂_names_single, rfl⟩ fun _ => rfl
  | definition position =>
      exact relays_of_ask rfl ⟨rfl, rfl, position.forall₂_names_single, rfl⟩ conveys_wireLocations
  | references position =>
      exact relays_of_ask rfl ⟨rfl, rfl, position.forall₂_names_single, rfl⟩ conveys_wireLocations
  | foldingRange => exact relays_of_ask rfl ⟨rfl, rfl, .nil, rfl⟩ fun _ => rfl
  | semanticTokensFull => exact relays_of_ask rfl ⟨rfl, rfl, .nil, rfl⟩ fun _ => rfl

theorem relays_source (providers : Providers) (uri : Uri) {inquiry : SourceInquiry}
    (other : inquiry.operation ≠ .formatting) (file : TypedFile) :
    (Job.source uri inquiry file).Relays providers := by
  cases inquiry with
  | implementation position =>
      exact relays_of_ask rfl ⟨rfl, rfl, position.forall₂_names_single, rfl⟩ conveys_wireLocations
  | signatureHelp position =>
      exact relays_of_ask rfl ⟨rfl, rfl, position.forall₂_names_single, rfl⟩ fun _ => rfl
  | completion position =>
      exact relays_of_ask rfl ⟨rfl, rfl, position.forall₂_names_single, rfl⟩ fun _ => rfl
  | formatting options => exact absurd rfl other
  | prepareRename position =>
      exact relays_of_ask rfl ⟨rfl, rfl, position.forall₂_names_single, rfl⟩ fun _ => rfl
  | rename position newName =>
      exact relays_of_ask rfl ⟨rfl, rfl, position.forall₂_names_single, rfl⟩ fun _ => rfl
  | documentSymbol => exact relays_of_ask rfl ⟨rfl, rfl, .nil, rfl⟩ fun _ => rfl
  | selectionRange positions =>
      have every := forall₂_map_of_forall Wire.Position.names_toInternal positions
      exact relays_of_ask rfl ⟨rfl, rfl, every, rfl⟩ fun _ => rfl
  | prepareTypeHierarchy position =>
      exact relays_of_ask rfl ⟨rfl, rfl, position.forall₂_names_single, rfl⟩ fun _ => rfl
  | inlayHint range =>
      exact relays_of_ask rfl ⟨rfl, rfl, range.forall₂_names_ends, rfl⟩ fun _ => rfl
  | codeAction range context =>
      have conveys (found : List CodeAction) :
          ∃ actions, Answer.actions (found.map (CodeAction.toWire uri)) = .actions actions ∧
            List.Forall₂ (CodeAction.Reduces uri) found actions :=
        ⟨_, rfl, forall₂_map_of_forall (CodeAction.reduces_toWire uri) found⟩
      exact relays_of_ask rfl ⟨rfl, rfl, range.forall₂_names_ends, rfl⟩ conveys

theorem relays_of_ne_formatting (providers : Providers) {job : Job}
    (other : job.query.operation ≠ .formatting) : job.Relays providers := by
  cases job with
  | document uri inquiry snapshot => exact relays_document providers uri inquiry snapshot
  | source uri inquiry file => exact relays_source providers uri other file
  | subtypes item => exact relays_of_ask rfl ⟨rfl, rfl, .nil, rfl⟩ fun _ => rfl
  | supertypes item => exact relays_of_ask rfl ⟨rfl, rfl, .nil, rfl⟩ fun _ => rfl

/-- Running a job keeps the answer of its work; a panic becomes the failure of
its operation. -/
theorem result_run (providers : Providers) (job : Job) :
    (job.run providers).result =
      (job.work providers).result.mapError fun panic => ⟨job.query.operation, panic⟩ := by
  simp only [run]
  cases (job.work providers).result <;> rfl

end Job

/-! ## The law -/

namespace Session

/-- In every state that a run reaches, a query that is served and is not about
formatting needs a worker and makes one call, when it is completed.  The call
puts the query to the provider of its operation, with the document that is
stored at this moment under the query's own identifier, and the client gets what
the provider found, or learns that it panicked.  The actions offered for a
document are quick fixes that edit this document and no other.

A worker may make the call at any time from the dispatch on.  It is counted where the
answer is taken, so the dispatch counts none and the two together count one; a query
that is never awaited counts none at all.

Queries about types carry no identifier to look up, so they are always served. -/
theorem query_put_to_provider (providers : Providers) (classifier : Classifier)
    (steps : List Step) {query : Query} (other : query.operation ≠ .formatting)
    (served : ∀ uri, query.subject? = some uri →
      ¬ ((initial classifier).run providers steps).1.Unserved query.operation uri) :
    let session := ((initial classifier).run providers steps).1
    (∀ id, (session.step providers (.start id query)).2.result = .started false ∧
      (session.step providers (.start id query)).2.calls = []) ∧
    ∀ report, session.Completes providers query report →
      ∃ call, report.calls = [call] ∧
        call.Puts query (query.subject?.bind session.documents.get?) ∧
        (∀ document, call.document? = some document → document.uri = query.uri) ∧
        ((∃ panic, providers.answer call.method call.argument = .error panic ∧
            report.result = .workerFailed ⟨query.operation, panic⟩) ∨
          ∃ found answer, providers.answer call.method call.argument = .ok found ∧
            report.result = .answered answer ∧
            answer.Conveys query.uri call.method found) := by
  intro session
  rcases dispatch_of_served served with ⟨job, running, rfl, snapshot⟩
  constructor
  · intro id
    refine ⟨?_, calls_dispatch session job.query⟩
    show Outcome.started (session.dispatch job.query).result.isReady = .started false
    rw [running]
    rfl
  · intro report completes
    have complete := completes.eq_await
    rw [running, Pending.await, Report.result_map, Report.calls_map, Job.calls_run,
      Job.result_run] at complete
    rcases Job.relays_of_ne_formatting providers other with ⟨call, calls, puts, yields⟩
    rw [snapshot] at puts
    refine ⟨call, complete.2.trans calls, puts, ?_, ?_⟩
    · intro document handed
      rw [puts.document_eq] at handed
      rcases Option.bind_eq_some_iff.mp handed with ⟨uri, about, found⟩
      rw [Query.uri_of_subject? about]
      exact (HeldDuring.of_stored found).wellFormed.uri_eq
    · cases worked : (job.work providers).result with
      | error panic =>
          rw [worked] at complete yields
          exact Or.inl ⟨panic, yields, complete.1⟩
      | ok answer =>
          rw [worked] at complete yields
          rcases yields with ⟨found, answered, conveys⟩
          exact Or.inr ⟨found, answer, answered, complete.1, conveys⟩

/-- A provider that offers one action, with an edit far past the last line that a
word can count: the client is offered a quick fix of its document on line
three. -/
theorem query_put_to_provider_actions :
    let uri : Uri := ⟨"file:///a", by decide⟩
    let place : Position := ⟨UInt32.size + 3, 0⟩
    let offered : List CodeAction := [⟨"fix", [⟨Range.point place, "b"⟩]⟩]
    let providers : Providers :=
      ⟨fun method _ =>
        match method with
        | .codeActions => .ok offered
        | other => .ok (Providers.emptyAnswer other),
        fun _ declared => .ok declared⟩
    let session := ((initial {}).run providers [.openText uri "magik" "a"]).1
    let query : Query := .source uri (.codeAction ⟨⟨0, 0⟩, ⟨0, 1⟩⟩ { diagnostics := [] })
    ∃ action edit, action.edit.changes = [(uri, [edit])] ∧
      (session.step providers (.query query)).2.result = .answered (.actions [action]) ∧
      edit.newText = "b" ∧ edit.range.start.line.toNat = 3 := by
  intro uri place offered providers session query
  have served : ∀ target, query.subject? = some target →
      ¬ session.Unserved query.operation target := by
    intro target about
    cases about
    rintro (absent | ⟨document, found, unsupported⟩ | ⟨formatting, disabled⟩)
    · cases absent
    · cases found
      exact unsupported List.mem_cons_self
    · cases formatting
  have law := @query_put_to_provider providers {} [.openText uri "magik" "a"] query
    Operation.noConfusion served
  rcases law.2 _ .asked with ⟨⟨method, argument⟩, calls, puts, sameUri, outcome⟩
  have asked : method = .codeActions := puts.method_eq
  subst asked
  rcases outcome with ⟨panic, failed, _⟩ | ⟨found, answer, answered, result, conveys⟩
  · cases failed
  · cases answered
    rcases conveys with ⟨actions, rfl, translated⟩
    rcases List.forall₂_cons_left_iff.mp translated with ⟨action, others, first, rest, rfl⟩
    rcases first.edits with ⟨edits, changes, each⟩
    rcases List.forall₂_cons_left_iff.mp each with ⟨edit, further, reduced, last, rfl⟩
    rw [List.forall₂_nil_left_iff.mp rest] at result
    rw [List.forall₂_nil_left_iff.mp last] at changes
    refine ⟨action, edit, changes, result, reduced.newText_eq, ?_⟩
    rw [reduced.range.start.1]
    show (UInt32.size + 3) % UInt32.size = 3
    decide

end Session
end LanguageServer
