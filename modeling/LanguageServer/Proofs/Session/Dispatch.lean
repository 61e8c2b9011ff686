import LanguageServer.Proofs.Session.Isolation

namespace LanguageServer

/-!
# Queries that are answered without a worker

A client may ask about a document that it has just closed, or about one that an
operation is not for.  Neither is a mistake.  Such a query is answered when it
is dispatched, with a value that stands for "nothing to show", and no provider
hears of it; so no provider can make it fail.

Which kinds an operation is for and what its neutral value looks like on the
wire are said here by two tables over operations.  The tables know nothing of
sessions and snapshots, and dispatching knows nothing of the tables: it looks
for a snapshot of the type that the inquiry takes.  The law of this module is
that the two agree in every state, whether an answer is asked for at once or
started and awaited later.
-/

namespace Operation

/-- The kinds of documents that an operation is for.  The operations on types
are not about documents. -/
def kinds : Operation → List DocumentKind
  | .hover | .foldingRange | .definition | .references | .semanticTokensFull =>
      [.productDefinition, .moduleDefinition, .typedSource]
  | .implementation | .signatureHelp | .completion | .formatting | .prepareRename
  | .rename | .documentSymbol | .selectionRange | .prepareTypeHierarchy | .inlayHint
  | .codeAction => [.typedSource]
  | .subtypes | .supertypes => []

/-- What a client gets for an operation when there is nothing to ask. -/
def neutral : Operation → Json
  | .hover | .foldingRange | .semanticTokensFull | .prepareRename | .rename
  | .prepareTypeHierarchy => .null
  | .signatureHelp => .record [("signatures", .array [])]
  | _ => .array []

end Operation

/-- The identifier of the document that a query is about.  Queries about a type
carry the type itself. -/
def Query.subject? : Query → Option Uri
  | .document uri _ => some uri
  | .source uri _ => some uri
  | .subtypes _ => none
  | .supertypes _ => none

/-- The document that a job was given. -/
def Job.snapshot? : Job → Option Document
  | .document _ _ snapshot => some snapshot
  | .source _ _ file => some (.typedSource file)
  | .subtypes _ => none
  | .supertypes _ => none

/-- There is nothing to ask: no document, one of the wrong kind, or formatting
is switched off. -/
def Session.Unserved (session : Session) (operation : Operation) (uri : Uri) : Prop :=
  session.documents.get? uri = none ∨
    (∃ document, session.documents.get? uri = some document ∧
      document.kind ∉ operation.kinds) ∨
    (operation = .formatting ∧ session.formattingEnabled = false)

/-! ## The tables and the two families of inquiries -/

namespace DocumentInquiry

theorem kind_mem_kinds (inquiry : DocumentInquiry) (kind : DocumentKind) :
    kind ∈ inquiry.operation.kinds := by
  have every : inquiry.operation.kinds = DocumentKind.all := by
    cases inquiry <;> rfl
  rw [every]
  cases kind <;> decide

theorem toJson_neutral (inquiry : DocumentInquiry) :
    inquiry.neutral.toJson = inquiry.operation.neutral := by
  cases inquiry <;> rfl

theorem operation_ne_formatting (inquiry : DocumentInquiry) :
    inquiry.operation ≠ .formatting := by
  cases inquiry <;> exact Operation.noConfusion

end DocumentInquiry

namespace SourceInquiry

theorem kinds_operation (inquiry : SourceInquiry) :
    inquiry.operation.kinds = [.typedSource] := by
  cases inquiry <;> rfl

theorem toJson_neutral (inquiry : SourceInquiry) :
    inquiry.neutral.toJson = inquiry.operation.neutral := by
  cases inquiry <;> rfl

end SourceInquiry

theorem Document.typed?_eq_none_iff {document : Document} :
    document.typed? = none ↔ document.kind ≠ .typedSource := by
  cases document <;> simp [typed?, kind]

namespace Session

/-- A typed source is missing exactly when there is no document, or one of
another kind. -/
theorem typed?_eq_none_iff (session : Session) (uri : Uri) (inquiry : SourceInquiry) :
    (session.documents.get? uri).bind Document.typed? = none ↔
      session.documents.get? uri = none ∨
        ∃ document, session.documents.get? uri = some document ∧
          document.kind ∉ inquiry.operation.kinds := by
  rw [inquiry.kinds_operation]
  cases found : session.documents.get? uri with
  | none => simp
  | some document =>
      rw [Option.bind_some, Document.typed?_eq_none_iff]
      simp

/-! ## What dispatching gives -/

theorem dispatch_of_unserved {session : Session} {query : Query} {uri : Uri}
    (about : query.subject? = some uri) (unserved : session.Unserved query.operation uri) :
    ∃ answer, (session.dispatch query).result = .ready answer ∧
      answer.toJson = query.operation.neutral := by
  cases query with
  | document target inquiry =>
      cases about
      refine ⟨inquiry.neutral, ?_, inquiry.toJson_neutral⟩
      rcases unserved with absent | ⟨document, found, unsupported⟩ | ⟨formatting, disabled⟩
      · simp only [dispatch, absent]
      · exact absurd (inquiry.kind_mem_kinds document.kind) unsupported
      · exact absurd formatting inquiry.operation_ne_formatting
  | source target inquiry =>
      cases about
      refine ⟨inquiry.neutral, ?_, inquiry.toJson_neutral⟩
      simp only [dispatch]
      by_cases disabled : inquiry.operation = .formatting ∧ session.formattingEnabled = false
      · rw [if_pos disabled]
      · have missing : (session.documents.get? uri).bind Document.typed? = none := by
          apply (session.typed?_eq_none_iff uri inquiry).mpr
          rcases unserved with absent | unsupported | switchedOff
          · exact Or.inl absent
          · exact Or.inr unsupported
          · exact absurd switchedOff disabled
        rw [if_neg disabled, missing]
  | subtypes item => cases about
  | supertypes item => cases about

/-- A query that is served becomes a job with the document that is stored at
this moment. -/
theorem dispatch_of_served {session : Session} {query : Query}
    (served : ∀ uri, query.subject? = some uri → ¬ session.Unserved query.operation uri) :
    ∃ job, (session.dispatch query).result = .running job ∧ job.query = query ∧
      job.snapshot? = query.subject?.bind session.documents.get? := by
  cases query with
  | document uri inquiry =>
      have supported := served uri rfl
      cases found : session.documents.get? uri with
      | none => exact absurd (Or.inl found) supported
      | some document =>
          refine ⟨.document uri inquiry document, ?_, rfl, found.symm⟩
          simp only [dispatch, found]
  | source uri inquiry =>
      have supported := served uri rfl
      have enabled :
          ¬ (inquiry.operation = .formatting ∧ session.formattingEnabled = false) :=
        fun disabled => supported (Or.inr (Or.inr disabled))
      cases typed : (session.documents.get? uri).bind Document.typed? with
      | none =>
          rcases (session.typed?_eq_none_iff uri inquiry).mp typed with absent | unsupported
          · exact absurd (Or.inl absent) supported
          · exact absurd (Or.inr (Or.inl unsupported)) supported
      | some file =>
          rcases Option.bind_eq_some_iff.mp typed with ⟨document, found, isTyped⟩
          rw [Document.typed?_eq_some_iff] at isTyped
          subst isTyped
          refine ⟨.source uri inquiry file, ?_, rfl, found.symm⟩
          simp only [dispatch, if_neg enabled, typed]
  | subtypes item => exact ⟨.subtypes item, rfl, rfl, rfl⟩
  | supertypes item => exact ⟨.supertypes item, rfl, rfl, rfl⟩

theorem isReady_dispatch_iff {session : Session} {query : Query} {uri : Uri}
    (about : query.subject? = some uri) :
    (session.dispatch query).result.isReady = true ↔
      session.Unserved query.operation uri := by
  constructor
  · intro ready
    by_contra supported
    have served : ∀ other, query.subject? = some other →
        ¬ session.Unserved query.operation other := by
      intro other same
      rw [about] at same
      cases same
      exact supported
    rcases dispatch_of_served served with ⟨job, running, _⟩
    rw [running] at ready
    cases ready
  · intro unserved
    rcases dispatch_of_unserved about unserved with ⟨answer, ready, _⟩
    rw [ready]
    rfl

/-! ## Reports that complete a query -/

/-- The report completes a query that is dispatched in this session.  It was
asked at once, or started under a name and awaited after steps that do not name
it. -/
inductive Completes (providers : Providers) (session : Session) (query : Query) :
    Report Outcome → Prop where
  | asked : Completes providers session query (session.step providers (.query query)).2
  | awaited {id : String} {between after : List Step} {report : Report Outcome}
      (apart : ∀ step ∈ between, ¬ step.Names id)
      (found :
        (session.run providers (.start id query :: (between ++ .await id :: after))).2[
          between.length + 1]? = some report) :
      Completes providers session query report

/-- The steps in between leave no trace: every completing report has the result
and the calls of what was dispatched. -/
theorem Completes.eq_await {providers : Providers} {session : Session} {query : Query}
    {report : Report Outcome} (completes : session.Completes providers query report) :
    report.result = ((session.dispatch query).result.await providers).result ∧
      report.calls = ((session.dispatch query).result.await providers).calls := by
  cases completes with
  | asked => exact ⟨rfl, rfl⟩
  | @awaited id between after _ apart found =>
      let started := (session.step providers (.start id query)).1
      have pending : (started.run providers between).1.inFlight.get? id =
          some (session.dispatch query).result := by
        rw [inFlight_run_of_apart providers started apart]
        exact inFlight_start providers session id query
      have late := report_at providers started between after (.await id)
      rw [report_await, pending] at late
      have same := found.symm.trans late
      cases same
      exact ⟨rfl, rfl⟩

/-! ## The law -/

/-- In every state that a run reaches, a query about a document needs no worker
exactly when there is nothing to ask.  It is then answered with the neutral
value of its operation, however it is completed and whatever the providers do,
and no provider is called.  Asking leaves the session as it was. -/
theorem answered_at_once_iff_unserved (providers : Providers) (classifier : Classifier)
    (steps : List Step) {query : Query} {uri : Uri} (about : query.subject? = some uri) :
    let session := ((initial classifier).run providers steps).1
    (∀ id, ∃ ready, (session.step providers (.start id query)).2.result = .started ready ∧
      (ready = true ↔ session.Unserved query.operation uri)) ∧
    (session.Unserved query.operation uri →
      (session.step providers (.query query)).1 = session ∧
      (∀ id, (session.step providers (.start id query)).2.calls = []) ∧
      ∀ report, session.Completes providers query report →
        report.calls = [] ∧ ∃ answer, report.result = .answered answer ∧
          answer.toJson = query.operation.neutral) := by
  intro session
  constructor
  · intro id
    exact ⟨(session.dispatch query).result.isReady, rfl, isReady_dispatch_iff about⟩
  · intro unserved
    refine ⟨rfl, fun id => calls_dispatch session query, ?_⟩
    intro report completes
    rcases dispatch_of_unserved about unserved with ⟨answer, ready, neutral⟩
    have complete := completes.eq_await
    rw [ready] at complete
    exact ⟨complete.2, answer, complete.1, neutral⟩

/-- Completions of a product definition, with providers that panic whatever they
are asked. -/
theorem answered_at_once_iff_unserved_definition :
    let uri : Uri := ⟨"file:///a", by decide⟩
    let providers : Providers := ⟨fun _ _ => .error ⟨"bug"⟩, fun _ declared => .ok declared⟩
    let session :=
      ((initial {}).run providers [.openText uri "product.def" "a"]).1
    let query : Query := .source uri (.completion ⟨0, 0⟩)
    (session.step providers (.start "q" query)).2.result = .started true ∧
      ∃ answer,
        (session.step providers (.query query)).2.result = .answered answer ∧
          answer.toJson = .array [] := by
  intro uri providers session query
  have law := @answered_at_once_iff_unserved providers {} [.openText uri "product.def" "a"]
    query uri rfl
  have unserved : session.Unserved query.operation uri :=
    Or.inr (Or.inl ⟨.productDefinition ⟨uri, "a", .empty⟩, rfl, by decide⟩)
  constructor
  · rcases law.1 "q" with ⟨ready, started, exactly⟩
    rw [started, exactly.mpr unserved]
  · exact ((law.2 unserved).2.2 _ .asked).2

end Session
end LanguageServer
