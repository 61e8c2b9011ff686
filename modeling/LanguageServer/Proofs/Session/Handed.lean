import LanguageServer.Proofs.Session.Dispatch
import LanguageServer.Proofs.Session.Outstanding
import LanguageServer.Proofs.Text.Positions

namespace LanguageServer

open Text

/-!
# The documents that a session stores and hands out

A document is stored under its own identifier, shares the definitions of the
classifier, and when it is a typed source its line index belongs to its text.
Nothing in the type of documents demands this.  It holds because documents are
built in one place only, on opening and on changing alike.

Providers see documents in two ways: the one that computes diagnostics sees a
document right after it was stored, the others see the snapshots of queries.  A
snapshot may be older than the present state by any number of steps.  Still it
was stored once, so it has the same properties, and the conversions of its line
index answer whatever offset or position a provider asks for.
-/

/-! ## Conversions that always answer -/

namespace LineIndex

/-- Every offset has a position, and its line is one of the index. -/
theorem exists_position?_ofText (text : String) (offset : Nat) :
    ∃ position, (ofText text).position? text offset = some position ∧
      position.line < (ofText text).lineCount := by
  rcases exists_position?_eq_endPosition text offset with ⟨before, after, _, _, answered⟩
  exact ⟨endPosition before, answered, line_lt_lineCount answered⟩

theorem isSome_offset?_ofText_iff (text : String) (position : Position) :
    ((ofText text).offset? text position).isSome = true ↔
      ∃ boundary, IsBoundary text.toList boundary ∧
        (ofText text).position? text boundary = some position := by
  rw [Option.isSome_iff_exists]
  constructor
  · rintro ⟨offset, found⟩
    rcases offset?_eq_some_iff.mp found with ⟨before, after, split, rfl, rfl⟩
    exact ⟨byteLength before, ⟨before, after, split, rfl⟩, position?_byteLength split⟩
  · rintro ⟨boundary, ⟨before, after, split, rfl⟩, answered⟩
    rw [position?_byteLength split] at answered
    have ends := Option.some.inj answered
    exact ⟨byteLength before, offset?_eq_some_iff.mpr ⟨before, after, split, rfl, ends⟩⟩

end LineIndex

/-- The conversions of a file, applied to its own text, answer whatever they are
asked.  An offset always has a position, on a line that the index has.  A
position has an offset exactly when a boundary of the text lies there, and is
told to have none otherwise.  Line numbers do not outgrow the text. -/
structure TypedFile.Converts (file : TypedFile) : Prop where
  offsets : ∀ offset, ∃ position, file.position? offset = some position ∧
    position.line < file.context.lineIndex.lineCount
  positions : ∀ position, (file.offset? position).isSome = true ↔
    ∃ boundary, IsBoundary file.text.toList boundary ∧
      file.position? boundary = some position
  lines : file.context.lineIndex.lineCount ≤ byteLength file.text.toList + 1

theorem TypedFile.converts_of_indexed {file : TypedFile}
    (indexed : file.context.lineIndex = LineIndex.ofText file.text) : file.Converts := by
  constructor
  · intro offset
    unfold position?
    rw [indexed]
    exact LineIndex.exists_position?_ofText file.text offset
  · intro position
    unfold position? offset?
    rw [indexed]
    exact LineIndex.isSome_offset?_ofText_iff file.text position
  · rw [indexed]
    exact LineIndex.lineCount_ofText_le file.text

/-! ## Stored documents -/

/-- The document may stand at the identifier. -/
structure Document.WellFormed (document : Document) (definitions : Definitions)
    (uri : Uri) : Prop where
  uri_eq : document.uri = uri
  definitions_eq : document.definitions = definitions
  context_definitions : ∀ file, document.typed? = some file →
    file.context.definitions = definitions
  lineIndex_eq : ∀ file, document.typed? = some file →
    file.context.lineIndex = LineIndex.ofText document.text

theorem Document.Shows.wellFormed {document : Document} {kind : DocumentKind} {uri : Uri}
    {text : String} {definitions : Definitions} {configuration : AnalysisConfiguration}
    (shows : document.Shows kind uri text definitions configuration) :
    document.WellFormed definitions uri := by
  refine ⟨shows.uri_eq, shows.definitions_eq, ?_, ?_⟩
  · intro file typed
    rw [shows.context_eq file typed]
  · intro file typed
    rw [shows.context_eq file typed, shows.text_eq]

theorem Document.WellFormed.converts {document : Document} {definitions : Definitions}
    {uri : Uri} (wellFormed : document.WellFormed definitions uri) {file : TypedFile}
    (typed : document.typed? = some file) : file.Converts := by
  apply TypedFile.converts_of_indexed
  have indexed := wellFormed.lineIndex_eq file typed
  rw [typed?_eq_some_iff] at typed
  rw [indexed, typed]
  rfl

/-- At some moment of the run the document was stored at the identifier. -/
def HeldDuring (providers : Providers) (classifier : Classifier) (steps : List Step)
    (uri : Uri) (document : Document) : Prop :=
  ∃ earlier later, steps = earlier ++ later ∧
    ((Session.initial classifier).run providers earlier).1.documents.get? uri = some document

section Held

variable {providers : Providers} {classifier : Classifier} {steps : List Step} {uri : Uri}
  {document : Document}

theorem HeldDuring.of_stored
    (found : ((Session.initial classifier).run providers steps).1.documents.get? uri =
      some document) :
    HeldDuring providers classifier steps uri document :=
  ⟨steps, [], (List.append_nil steps).symm, found⟩

theorem HeldDuring.append (held : HeldDuring providers classifier steps uri document)
    (further : List Step) :
    HeldDuring providers classifier (steps ++ further) uri document := by
  rcases held with ⟨earlier, later, rfl, found⟩
  exact ⟨earlier, later ++ further, List.append_assoc earlier later further, found⟩

theorem HeldDuring.wellFormed (held : HeldDuring providers classifier steps uri document) :
    document.WellFormed classifier.definitions uri := by
  rcases held with ⟨earlier, later, rfl, found⟩
  have traced := traced_run providers classifier earlier uri
  rw [found] at traced
  rcases traced with ⟨prior, kind, text, stored, shows⟩
  exact shows.wellFormed

end Held

/-! ## Snapshots of queries -/

namespace Session

/-- A job works on the document that was stored when its query was dispatched. -/
theorem snapshot?_of_dispatch {session : Session} {query : Query} {job : Job}
    (running : (session.dispatch query).result = .running job) :
    job.query = query ∧ job.snapshot? = query.subject?.bind session.documents.get? := by
  by_cases served : ∀ uri, query.subject? = some uri →
      ¬ session.Unserved query.operation uri
  · rcases dispatch_of_served served with ⟨other, same, asked, snapshot⟩
    rw [running] at same
    cases same
    exact ⟨asked, snapshot⟩
  · simp only [not_forall, not_not] at served
    rcases served with ⟨uri, about, unserved⟩
    rcases dispatch_of_unserved about unserved with ⟨answer, ready, neutral⟩
    rw [running] at ready
    cases ready

theorem stored_of_dispatch {session : Session} {query : Query} {job : Job}
    {document : Document} (running : (session.dispatch query).result = .running job)
    (snapshot : job.snapshot? = some document) :
    ∃ uri, session.documents.get? uri = some document := by
  rw [(snapshot?_of_dispatch running).2] at snapshot
  rcases Option.bind_eq_some_iff.mp snapshot with ⟨uri, about, found⟩
  exact ⟨uri, found⟩

/-- The snapshot of every query in flight was stored at some moment of the run. -/
theorem heldDuring_of_inFlight (providers : Providers) (classifier : Classifier)
    (steps : List Step) {id : String} {job : Job} {document : Document}
    (pending : ((initial classifier).run providers steps).1.inFlight.get? id =
      some (.running job))
    (snapshot : job.snapshot? = some document) :
    ∃ uri, HeldDuring providers classifier steps uri document := by
  induction steps using List.reverseRecOn with
  | nil => cases pending
  | append_singleton steps step ih =>
      have kept : ((initial classifier).run providers steps).1.inFlight.get? id =
          some (.running job) →
          ∃ uri, HeldDuring providers classifier (steps ++ [step]) uri document := by
        intro before
        rcases ih before with ⟨uri, held⟩
        exact ⟨uri, held.append [step]⟩
      rw [run_concat_fst, inFlight_step] at pending
      cases step with
      | start other query =>
          rw [inFlightAfter, Table.get?_put] at pending
          by_cases same : other = id
          · rw [if_pos same] at pending
            rcases stored_of_dispatch (Option.some.inj pending) snapshot with ⟨uri, found⟩
            exact ⟨uri, (HeldDuring.of_stored found).append _⟩
          · rw [if_neg same] at pending
            exact kept pending
      | await other =>
          rw [inFlightAfter, Table.get?_remove] at pending
          by_cases same : other = id
          · rw [if_pos same] at pending
            cases pending
          · rw [if_neg same] at pending
            exact kept pending
      | _ => exact kept pending

end Session

/-! ## What providers are called with -/

/-- The document that a call hands over.  The calls on types hand over none. -/
def Call.document? : Call → Option Document
  | ⟨.diagnostics, file⟩ => some (.typedSource file)
  | ⟨.hover, (document, _)⟩ => some document
  | ⟨.implementations, (file, _)⟩ => some (.typedSource file)
  | ⟨.signatureHelp, (file, _)⟩ => some (.typedSource file)
  | ⟨.definitions, (document, _)⟩ => some document
  | ⟨.references, (document, _)⟩ => some document
  | ⟨.completions, (file, _)⟩ => some (.typedSource file)
  | ⟨.canFormat, file⟩ => some (.typedSource file)
  | ⟨.formatting, (file, _)⟩ => some (.typedSource file)
  | ⟨.foldingRanges, document⟩ => some document
  | ⟨.semanticTokens, document⟩ => some document
  | ⟨.prepareRename, (file, _)⟩ => some (.typedSource file)
  | ⟨.rename, (file, _, _)⟩ => some (.typedSource file)
  | ⟨.documentSymbols, file⟩ => some (.typedSource file)
  | ⟨.prepareTypeHierarchy, (file, _)⟩ => some (.typedSource file)
  | ⟨.subtypes, _⟩ => none
  | ⟨.supertypes, _⟩ => none
  | ⟨.inlayHints, (file, _)⟩ => some (.typedSource file)
  | ⟨.codeActions, (file, _, _)⟩ => some (.typedSource file)
  | ⟨.selectionRanges, (file, _)⟩ => some (.typedSource file)

namespace Job

theorem document?_of_mem_format (providers : Providers) (uri : Uri) (file : TypedFile)
    (options : Wire.FormattingOptions) {call : Call}
    (member : call ∈ (format providers uri file options).calls) :
    call.document? = some (.typedSource file) := by
  simp only [format] at member
  cases verdict : (Report.call providers .canFormat file).result with
  | error panic =>
      rw [verdict] at member
      rw [List.mem_singleton.mp member]
      rfl
  | ok formattable =>
      rw [verdict] at member
      cases formattable with
      | false =>
          rw [List.mem_singleton.mp member]
          rfl
      | true =>
          rcases List.mem_append.mp member with first | second
          · rw [List.mem_singleton.mp first]
            rfl
          · rw [List.mem_singleton.mp second]
            rfl

/-- All calls of a job hand over its snapshot. -/
theorem document?_of_mem_work (providers : Providers) {job : Job} {call : Call}
    (member : call ∈ (job.work providers).calls) : call.document? = job.snapshot? := by
  cases job with
  | document uri inquiry snapshot =>
      cases inquiry <;>
      · rw [List.mem_singleton.mp member]
        rfl
  | source uri inquiry file =>
      cases inquiry with
      | formatting options => exact document?_of_mem_format providers uri file options member
      | _ =>
          rw [List.mem_singleton.mp member]
          rfl
  | subtypes item =>
      rw [List.mem_singleton.mp member]
      rfl
  | supertypes item =>
      rw [List.mem_singleton.mp member]
      rfl

end Job

theorem Pending.document?_of_mem_await (providers : Providers) {pending : Pending}
    {call : Call} (member : call ∈ (pending.await providers).calls) :
    ∃ job, pending = .running job ∧ call.document? = job.snapshot? := by
  cases pending with
  | ready answer => exact absurd member List.not_mem_nil
  | running job =>
      rw [await, Report.calls_map, Job.calls_run] at member
      exact ⟨job, rfl, Job.document?_of_mem_work providers member⟩

theorem Publisher.document?_of_mem_onStored (providers : Providers) {publisher : Publisher}
    {document : Document} {call : Call}
    (member : call ∈ (publisher.onStored providers document).calls) :
    call.document? = some document := by
  rw [calls_onStored] at member
  by_cases enabled : publisher.enabled = true
  · rw [if_pos enabled] at member
    cases document with
    | typedSource file =>
        rw [List.mem_singleton.mp member]
        rfl
    | productDefinition source => exact absurd member List.not_mem_nil
    | moduleDefinition source => exact absurd member List.not_mem_nil
  · rw [if_neg enabled] at member
    exact absurd member List.not_mem_nil

namespace Session

/-- The calls of a step.  A step that stores a document lets the publisher call;
a query and an await make the calls of what was dispatched; no other step calls
a provider. -/
theorem calls_step (providers : Providers) (session : Session) (step : Step) :
    (session.step providers step).2.calls =
      match step with
      | .query query => ((session.dispatch query).result.await providers).calls
      | .await id => (awaited providers (session.inFlight.get? id)).calls
      | other =>
          match session.effect other with
          | .stored _ document => (session.publisher.onStored providers document).calls
          | _ => [] := by
  cases step with
  | openText uri language text =>
      simp only [Session.step, openText, effect]
      cases session.classifier.classify? language uri text <;> rfl
  | change uri changes =>
      cases changes with
      | nil => rfl
      | cons first others =>
          simp only [Session.step, change, effect]
          cases session.documents.get? uri <;> rfl
  | start id query => exact calls_dispatch session query
  | await id => exact congrArg Report.calls (report_await providers session id)
  | _ => rfl

/-- A provider is handed a document that the step has just stored, one that is
stored already, or the snapshot of a query in flight. -/
theorem handed_cases (providers : Providers) {session : Session} {step : Step} {call : Call}
    {document : Document} (member : call ∈ (session.step providers step).2.calls)
    (handed : call.document? = some document) :
    (∃ uri, session.effect step = .stored uri document) ∨
      (∃ uri, session.documents.get? uri = some document) ∨
      ∃ id job, session.inFlight.get? id = some (.running job) ∧
        job.snapshot? = some document := by
  have byEffect (other : Step)
      (member : call ∈
        match session.effect other with
        | .stored _ document => (session.publisher.onStored providers document).calls
        | _ => []) :
      ∃ uri, session.effect other = .stored uri document := by
    cases effect : session.effect other with
    | stored uri stored =>
        rw [effect] at member
        have same := Publisher.document?_of_mem_onStored providers member
        rw [handed] at same
        cases same
        exact ⟨uri, rfl⟩
    | dropped uri =>
        rw [effect] at member
        exact absurd member List.not_mem_nil
    | kept =>
        rw [effect] at member
        exact absurd member List.not_mem_nil
  rw [calls_step] at member
  cases step with
  | query query =>
      rcases Pending.document?_of_mem_await providers member with ⟨job, running, snapshot⟩
      rw [handed] at snapshot
      exact Or.inr (Or.inl (stored_of_dispatch running snapshot.symm))
  | await id =>
      cases pending : session.inFlight.get? id with
      | none =>
          simp only [pending] at member
          exact absurd member List.not_mem_nil
      | some dispatched =>
          simp only [pending] at member
          rcases Pending.document?_of_mem_await providers member with ⟨job, rfl, snapshot⟩
          rw [handed] at snapshot
          exact Or.inr (Or.inr ⟨id, job, pending, snapshot.symm⟩)
  | _ => exact Or.inl (byEffect _ member)

/-- A report of a run is that of one of its steps. -/
theorem exists_step_of_mem_run {providers : Providers} {session : Session}
    {steps : List Step} {report : Report Outcome}
    (member : report ∈ (session.run providers steps).2) :
    ∃ before step after, steps = before ++ step :: after ∧
      report = ((session.run providers before).1.step providers step).2 := by
  induction steps using List.reverseRecOn with
  | nil => exact absurd member List.not_mem_nil
  | append_singleton steps step ih =>
      rw [run_concat_snd] at member
      rcases List.mem_append.mp member with earlier | last
      · rcases ih earlier with ⟨before, other, after, rfl, same⟩
        refine ⟨before, other, after ++ [step], ?_, same⟩
        rw [List.append_assoc, List.cons_append]
      · exact ⟨steps, step, [], rfl, List.mem_singleton.mp last⟩

theorem heldDuring_of_handed (providers : Providers) (classifier : Classifier)
    (steps : List Step) {step : Step} {call : Call} {document : Document}
    (member : call ∈
      (((initial classifier).run providers steps).1.step providers step).2.calls)
    (handed : call.document? = some document) :
    ∃ uri, HeldDuring providers classifier (steps ++ [step]) uri document := by
  rcases handed_cases providers member handed with
    ⟨uri, effect⟩ | ⟨uri, found⟩ | ⟨id, job, pending, snapshot⟩
  · refine ⟨uri, HeldDuring.of_stored ?_⟩
    rw [run_concat_fst]
    exact get?_step_of_stored providers effect
  · exact ⟨uri, (HeldDuring.of_stored found).append [step]⟩
  · rcases heldDuring_of_inFlight providers classifier steps pending snapshot with ⟨uri, held⟩
    exact ⟨uri, held.append [step]⟩

/-! ## The law -/

/-- In every state that a run reaches, what is stored at an identifier is well
formed there.  Every document that a provider was called with in the run, by
whatever step, was stored at an identifier at some moment of the run and is well
formed there.  So the conversions of a typed source, stored or handed out,
always answer. -/
theorem documents_wellFormed (providers : Providers) (classifier : Classifier)
    (steps : List Step) :
    let final := (initial classifier).run providers steps
    (∀ uri document, final.1.documents.get? uri = some document →
      document.WellFormed final.1.classifier.definitions uri ∧
      ∀ file, document.typed? = some file → file.Converts) ∧
    ∀ report ∈ final.2, ∀ call ∈ report.calls, ∀ document, call.document? = some document →
      (∃ uri, HeldDuring providers classifier steps uri document ∧
        document.WellFormed final.1.classifier.definitions uri) ∧
      ∀ file, document.typed? = some file → file.Converts := by
  intro final
  have shared : final.1.classifier.definitions = classifier.definitions := by
    rw [classifier_run]
    rfl
  rw [shared]
  constructor
  · intro uri document found
    have wellFormed := (HeldDuring.of_stored found).wellFormed
    exact ⟨wellFormed, fun file typed => wellFormed.converts typed⟩
  · intro report member call called document handed
    rcases exists_step_of_mem_run member with ⟨before, step, after, rfl, rfl⟩
    rcases heldDuring_of_handed providers classifier before called handed with ⟨uri, held⟩
    refine ⟨⟨uri, ?_, held.wellFormed⟩, fun file typed => held.wellFormed.converts typed⟩
    have extended := held.append after
    rw [List.append_assoc, List.singleton_append] at extended
    exact extended

/-- A hover that is awaited after its document was closed: the provider sees the
closed document, and finds the place of an offset past its end. -/
theorem documents_wellFormed_closed :
    let uri : Uri := ⟨"file:///a", by decide⟩
    let steps : List Step :=
      [.openText uri "magik" "a\nb", .start "q" (.document uri (.hover ⟨0, 0⟩)), .close uri,
       .await "q"]
    let file : TypedFile :=
      ⟨⟨uri, "a\nb", .empty⟩, ⟨{}, LineIndex.ofText "a\nb", .empty⟩⟩
    ((initial {}).run Providers.silent steps).1.documents.get? uri = none ∧
      HeldDuring Providers.silent {} steps uri (.typedSource file) ∧
      ∃ position, file.position? 7 = some position := by
  intro uri steps file
  have law := (documents_wellFormed Providers.silent {} steps).2
  have reported : (⟨.answered (.hover none), [⟨.hover, (.typedSource file, ⟨0, 0⟩)⟩],
      [.finished .hover uri]⟩ : Report Outcome) ∈
        ((initial {}).run Providers.silent steps).2 :=
    List.mem_of_getElem? (rfl : ((initial {}).run Providers.silent steps).2[3]? = _)
  rcases law _ reported _ List.mem_cons_self (.typedSource file) rfl with
    ⟨⟨stored, held, wellFormed⟩, converts⟩
  have here : uri = stored := wellFormed.uri_eq
  rcases (converts file rfl).offsets 7 with ⟨position, found, _⟩
  exact ⟨rfl, here ▸ held, position, found⟩

end Session
end LanguageServer
