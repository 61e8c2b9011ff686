import LanguageServer.Report

namespace LanguageServer

/-!
Work on a query.  A job is an inquiry together with the snapshot it was put to.
It needs nothing else from the session, so it gives the same answer whenever it
runs.  A panic of a provider ends the job with a failure and touches nothing
else.
-/

/-- A query with everything that is needed to answer it. -/
inductive Job where
  | document (uri : Uri) (inquiry : DocumentInquiry) (snapshot : Document)
  | source (uri : Uri) (inquiry : SourceInquiry) (snapshot : TypedFile)
  | subtypes (item : Wire.TypeHierarchyItem)
  | supertypes (item : Wire.TypeHierarchyItem)

/-- The failure of a worker. -/
structure WorkerFailure where
  operation : Operation
  panic : Panic
  deriving DecidableEq

/-- The wording of a failure. -/
def WorkerFailure.message (failure : WorkerFailure) : String :=
  failure.operation.name ++ " worker failed: task # panicked with message " ++
    Text.quoted failure.panic.message

namespace Job

/-- The query a job works on. -/
def query : Job → Query
  | .document uri inquiry _ => .document uri inquiry
  | .source uri inquiry _ => .source uri inquiry
  | .subtypes item => .subtypes item
  | .supertypes item => .supertypes item

/-- Calls a method and turns its answer into that of the query. -/
def ask (providers : Providers) (method : Method) (argument : method.Argument)
    (finish : method.Answer → Answer) : Report (Except Panic Answer) :=
  (Report.call providers method argument).map (Except.map finish)

/-- The locations of an answer in wire coordinates. -/
def wireLocations (found : List Location) : Answer :=
  .locations (found.map Location.toWire)

/-- Formats a file if it can be formatted; otherwise there are no edits. -/
def format (providers : Providers) (uri : Uri) (file : TypedFile)
    (options : Wire.FormattingOptions) : Report (Except Panic Answer) :=
  let verdict := Report.call providers .canFormat file
  match verdict.result with
  | .error panic => { result := .error panic, calls := verdict.calls }
  | .ok false =>
      { result := .ok (.edits []), calls := verdict.calls, log := [.notFormattable uri] }
  | .ok true =>
      let edited := ask providers .formatting (file, options) fun edits =>
        .edits (edits.map TextEdit.toWire)
      { edited with calls := verdict.calls ++ edited.calls }

/-- The provider calls of a job and what they give. -/
def work (providers : Providers) : Job → Report (Except Panic Answer)
  | .document _ inquiry snapshot =>
      match inquiry with
      | .hover position =>
          ask providers .hover (snapshot, position.toInternal) .hover
      | .definition position =>
          ask providers .definitions (snapshot, position.toInternal) wireLocations
      | .references position =>
          ask providers .references (snapshot, position.toInternal) wireLocations
      | .foldingRange =>
          ask providers .foldingRanges snapshot fun ranges => .foldingRanges (some ranges)
      | .semanticTokensFull =>
          ask providers .semanticTokens snapshot fun tokens => .semanticTokens (some tokens)
  | .source uri inquiry file =>
      match inquiry with
      | .implementation position =>
          ask providers .implementations (file, position.toInternal) wireLocations
      | .signatureHelp position =>
          ask providers .signatureHelp (file, position.toInternal) .signatureHelp
      | .completion position =>
          ask providers .completions (file, position.toInternal) .completions
      | .formatting options => format providers uri file options
      | .prepareRename position =>
          ask providers .prepareRename (file, position.toInternal) .range
      | .rename position newName =>
          ask providers .rename (file, position.toInternal, newName) .workspaceEdit
      | .documentSymbol => ask providers .documentSymbols file .symbols
      | .selectionRange positions =>
          ask providers .selectionRanges (file, positions.map Wire.Position.toInternal)
            .selections
      | .prepareTypeHierarchy position =>
          ask providers .prepareTypeHierarchy (file, position.toInternal) fun found =>
            .types (some found)
      | .inlayHint range => ask providers .inlayHints (file, range.toInternal) .hints
      | .codeAction range context =>
          ask providers .codeActions (file, range.toInternal, context) fun found =>
            .actions (found.map (CodeAction.toWire uri))
  | .subtypes item => ask providers .subtypes item fun found => .types (some found)
  | .supertypes item => ask providers .supertypes item fun found => .types (some found)

/-- Runs a job.  Only a job that was not cut short by a panic logs its end. -/
def run (providers : Providers) (job : Job) : Report (Except WorkerFailure Answer) :=
  let worked := job.work providers
  match worked.result with
  | .error panic => { worked with result := .error ⟨job.query.operation, panic⟩ }
  | .ok answer =>
      { result := .ok answer
        calls := worked.calls
        log := worked.log ++ [.finished job.query.operation job.query.uri] }

end Job
end LanguageServer
