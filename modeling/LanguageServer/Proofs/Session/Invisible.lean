import LanguageServer.Proofs.Session.Delivery
import LanguageServer.Proofs.Session.Footprint

namespace LanguageServer

/-!
# Queries leave no trace

Asking about documents does not change them.  A run from which all queries are
taken out, with their starts and awaits, goes through the same documents and the
same settings, and its steps report the same.  This holds for providers that
panic as well as for others, and whether queries are still in flight or not.

A query fails in one way only: a provider that it called has panicked.  The
failure names the operation of the query.  It stays with the query, so all that
comes later is as if the query had not been issued.
-/

/-- Whether the step asks a query, starts one or awaits one. -/
def Step.asks : Step → Bool
  | .query _ => true
  | .start _ _ => true
  | .await _ => true
  | _ => false

/-- The outcome says that the step could not do what it was for. -/
def Outcome.Failed : Outcome → Prop
  | .unsupportedLanguage _ => True
  | .workerFailed _ => True
  | .panicked _ => True
  | .notInFlight => True
  | _ => False

/-! ## Steps that ask nothing -/

namespace Session

/-- The sessions differ in the queries in flight, if at all. -/
structure EqualButInFlight (left right : Session) : Prop where
  documents : left.documents = right.documents
  classifier : left.classifier = right.classifier
  publisher : left.publisher = right.publisher
  formattingEnabled : left.formattingEnabled = right.formattingEnabled

theorem EqualButInFlight.agree {left right : Session} (equal : EqualButInFlight left right) :
    Agree (fun _ => True) (fun _ => False) left right where
  classifier := equal.classifier
  publisher := equal.publisher
  formattingEnabled := equal.formattingEnabled
  get? := fun uri _ => congrArg (fun documents => Table.get? documents uri) equal.documents
  inFlight := fun _ impossible => impossible.elim

theorem within_of_not_asks {step : Step} (acts : step.asks = false) :
    step.Within (fun _ => True) (fun _ => False) := by
  refine ⟨fun _ _ => trivial, ?_⟩
  intro id named
  cases step with
  | start other query => cases acts
  | await other => cases acts
  | _ => cases named

/-- A step that asks nothing does not look at the queries in flight. -/
theorem EqualButInFlight.step (providers : Providers) {left right : Session}
    (equal : EqualButInFlight left right) {step : Step} (acts : step.asks = false) :
    (left.step providers step).2 = (right.step providers step).2 ∧
      EqualButInFlight (left.step providers step).1 (right.step providers step).1 := by
  have within := within_of_not_asks acts
  refine ⟨equal.agree.report providers within, ?_⟩
  rw [step_fst, step_fst]
  constructor
  · simp only [equal.agree.effect within, equal.documents]
  · simp only [equal.classifier]
  · simp only [equal.publisher]
  · simp only [equal.formattingEnabled]

/-- A step that asks changes nothing but the queries in flight. -/
theorem equalButInFlight_of_asks (providers : Providers) (session : Session) {step : Step}
    (asks : step.asks = true) :
    EqualButInFlight (session.step providers step).1 session := by
  rw [step_fst]
  cases step with
  | query query => exact ⟨rfl, rfl, rfl, rfl⟩
  | start id query => exact ⟨rfl, rfl, rfl, rfl⟩
  | await id => exact ⟨rfl, rfl, rfl, rfl⟩
  | _ => cases asks

theorem EqualButInFlight.trans {left middle right : Session}
    (first : EqualButInFlight left middle) (second : EqualButInFlight middle right) :
    EqualButInFlight left right where
  documents := first.documents.trans second.documents
  classifier := first.classifier.trans second.classifier
  publisher := first.publisher.trans second.publisher
  formattingEnabled := first.formattingEnabled.trans second.formattingEnabled

theorem run_without_queries (providers : Providers) (session : Session) (steps : List Step) :
    EqualButInFlight (session.run providers steps).1
        (session.run providers (steps.filter fun step => !step.asks)).1 ∧
      retained (fun step => !step.asks) steps (session.run providers steps).2 =
        (session.run providers (steps.filter fun step => !step.asks)).2 := by
  apply run_filter
  · intro step _ kept left right equal
    rw [Bool.not_eq_true'] at kept
    exact equal.step providers kept
  · intro step _ dropped left right equal
    rw [Bool.not_eq_true', Bool.not_eq_false] at dropped
    exact (equalButInFlight_of_asks providers left dropped).trans equal
  · exact ⟨rfl, rfl, rfl, rfl⟩

end Session

/-! ## Failures are panics -/

namespace Job

/-- Formatting asks for permission first; either call may panic, and the second
is made only when the first has not. -/
theorem format_eq_error_iff (providers : Providers) (uri : Uri) (file : TypedFile)
    (options : Wire.FormattingOptions) (panic : Panic) :
    (format providers uri file options).result = .error panic ↔
      ∃ call ∈ (format providers uri file options).calls,
        providers.answer call.method call.argument = .error panic := by
  unfold format
  cases permission : providers.answer .canFormat file with
  | error first => simp [Report.call, permission]
  | ok formattable =>
      cases formattable with
      | false => simp [Report.call, permission]
      | true =>
          cases edited : providers.answer .formatting (file, options) with
          | error second => simp [ask, Report.call, permission, edited, Except.map]
          | ok edits => simp [ask, Report.call, permission, edited, Except.map]

/-- The work ends in a panic exactly when one of its calls does. -/
theorem work_eq_error_iff (providers : Providers) (job : Job) (panic : Panic) :
    (job.work providers).result = .error panic ↔
      ∃ call ∈ (job.work providers).calls,
        providers.answer call.method call.argument = .error panic := by
  by_cases other : job.query.operation ≠ .formatting
  · rcases relays_of_ne_formatting providers other with ⟨call, calls, _, yields⟩
    rw [calls]
    cases worked : (job.work providers).result with
    | error raised =>
        rw [worked] at yields
        have raises : providers.answer call.method call.argument = .error raised := yields
        simp [raises]
    | ok answer =>
        rw [worked] at yields
        rcases yields with ⟨found, answered, _⟩
        simp [answered]
  · have formats := not_not.mp other
    cases job with
    | source uri inquiry file =>
        cases inquiry with
        | formatting options => exact format_eq_error_iff providers uri file options panic
        | _ => cases formats
    | document uri inquiry snapshot => exact absurd formats inquiry.operation_ne_formatting
    | subtypes item => cases formats
    | supertypes item => cases formats

end Job

namespace Session

/-- A completed query has failed if and only if a provider panicked in one of its
calls.  The failure then names the operation and repeats the panic. -/
theorem Completes.failed_iff {providers : Providers} {session : Session} {query : Query}
    {report : Report Outcome} (completes : session.Completes providers query report) :
    (report.result.Failed ↔ ∃ call ∈ report.calls, ∃ panic,
        providers.answer call.method call.argument = .error panic) ∧
      ∀ call ∈ report.calls, ∀ panic,
        providers.answer call.method call.argument = .error panic →
        report.result = .workerFailed ⟨query.operation, panic⟩ := by
  have complete := completes.eq_await
  cases dispatched : (session.dispatch query).result with
  | ready answer =>
      rw [dispatched] at complete
      rw [complete.1, complete.2]
      simp [Pending.await, Outcome.Failed]
  | running job =>
      have asked : job.query = query := (snapshot?_of_dispatch dispatched).1
      rw [dispatched, Pending.await, Report.result_map, Report.calls_map, Job.calls_run,
        Job.result_run, asked] at complete
      rw [complete.1, complete.2]
      have panics := Job.work_eq_error_iff providers job
      constructor
      · cases worked : (job.work providers).result with
        | error panic =>
            rcases (panics panic).mp worked with ⟨call, called, raises⟩
            exact iff_of_true trivial ⟨call, called, panic, raises⟩
        | ok answer =>
            refine iff_of_false (fun impossible => impossible) ?_
            rintro ⟨call, called, panic, raises⟩
            have failed := (panics panic).mpr ⟨call, called, raises⟩
            rw [worked] at failed
            cases failed
      · intro call called panic raises
        rw [(panics panic).mpr ⟨call, called, raises⟩]
        rfl

/-! ## Queries that were never issued -/

/-- A query that was started and awaited has left the session as if it had never
been started, provided that its name was free. -/
theorem run_start_await (providers : Providers) {session : Session} {id : String}
    (free : session.inFlight.get? id = none) (query : Query) {between : List Step}
    (apart : ∀ step ∈ between, ¬ step.Names id) (after : List Step) :
    let issued := session.run providers (.start id query :: (between ++ .await id :: after))
    let never := session.run providers (between ++ after)
    Same issued.1 never.1 ∧
      ∃ dispatched first late rest, first.length = between.length ∧
        issued.2 = dispatched :: (first ++ late :: rest) ∧ never.2 = first ++ rest := by
  intro issued never
  let started := (session.step providers (.start id query)).1
  let waiting := (started.run providers between).1
  let spared := (session.run providers between).1
  have others : Agree (fun _ => True) (fun other => ¬ id = other) started session := by
    refine ⟨rfl, rfl, rfl, fun _ _ => rfl, ?_⟩
    intro other different
    rw [inFlight_step, inFlightAfter, Table.get?_put, if_neg different]
  have meanwhile : Agree (fun _ => True) (fun other => ¬ id = other) waiting spared ∧
      (started.run providers between).2 = (session.run providers between).2 := by
    apply others.run providers
    intro step member
    refine ⟨fun _ _ => trivial, ?_⟩
    rintro other named rfl
    exact apart step member (Step.names_iff_name?.mpr named)
  -- The await takes the one query away on which the sessions did not agree.
  have awaited : Same (waiting.step providers (.await id)).1 spared := by
    have settled := @equalButInFlight_of_asks providers waiting (.await id) rfl
    refine ⟨?_, ?_, ?_, ?_, ?_⟩
    · exact settled.classifier.trans meanwhile.1.classifier
    · exact settled.publisher.trans meanwhile.1.publisher
    · exact settled.formattingEnabled.trans meanwhile.1.formattingEnabled
    · intro uri _
      rw [settled.documents]
      exact meanwhile.1.get? uri trivial
    · intro other _
      rw [inFlight_step, inFlightAfter, Table.get?_remove]
      by_cases same : id = other
      · rw [if_pos same, ← same]
        exact ((inFlight_run_of_apart providers session apart).trans free).symm
      · rw [if_neg same]
        exact meanwhile.1.inFlight other same
  have later := @Agree.run providers _ _ _ _ awaited after
    (fun step _ => ⟨fun _ _ => trivial, fun _ _ => trivial⟩)
  have issuedRun : issued =
      (((waiting.step providers (.await id)).1.run providers after).1,
        (session.step providers (.start id query)).2 ::
          ((started.run providers between).2 ++ (waiting.step providers (.await id)).2 ::
            ((waiting.step providers (.await id)).1.run providers after).2)) := by
    simp only [issued, run_cons, run_append, started, waiting]
  have neverRun : never = ((spared.run providers after).1,
      (session.run providers between).2 ++ (spared.run providers after).2) :=
    run_append providers session between after
  rw [issuedRun, neverRun]
  refine ⟨later.1, (session.step providers (.start id query)).2,
    (session.run providers between).2, (waiting.step providers (.await id)).2,
    (spared.run providers after).2, length_run_snd providers session between, ?_, rfl⟩
  rw [meanwhile.2, later.2]

/-! ## The law -/

/-- Taking all queries out of a run changes nothing else.  The steps that remain
report the same, and after each of them the documents, the classifier and the
two switches are the same.

A query that is completed has failed if and only if a provider panicked that it
called; then it is the worker's failure, and it names the operation of the
query.  Whatever became of a query, the steps that come after it report what
they would report if the query had never been issued: a query that was asked
leaves the session as it is, and one that was started under a free name and
awaited leaves a session that no step can tell from it. -/
theorem queries_leave_no_trace (providers : Providers) (session : Session) :
    (∀ steps,
      retained (fun step => !step.asks) steps (session.run providers steps).2 =
          (session.run providers (steps.filter fun step => !step.asks)).2 ∧
        ∀ before after, steps = before ++ after →
          EqualButInFlight (session.run providers before).1
            (session.run providers (before.filter fun step => !step.asks)).1) ∧
    (∀ query report, session.Completes providers query report →
      (report.result.Failed ↔ ∃ call ∈ report.calls, ∃ panic,
        providers.answer call.method call.argument = .error panic) ∧
      ∀ call ∈ report.calls, ∀ panic,
        providers.answer call.method call.argument = .error panic →
        report.result = .workerFailed ⟨query.operation, panic⟩) ∧
    (∀ query after, session.run providers (.query query :: after) =
      ((session.run providers after).1,
        (session.step providers (.query query)).2 :: (session.run providers after).2)) ∧
    ∀ id query between after, session.inFlight.get? id = none →
      (∀ step ∈ between, ¬ step.Names id) →
      let issued := session.run providers (.start id query :: (between ++ .await id :: after))
      let never := session.run providers (between ++ after)
      Same issued.1 never.1 ∧
        ∃ dispatched first late rest, first.length = between.length ∧
          issued.2 = dispatched :: (first ++ late :: rest) ∧ never.2 = first ++ rest := by
  refine ⟨?_, ?_, ?_, ?_⟩
  · intro steps
    refine ⟨(run_without_queries providers session steps).2, ?_⟩
    intro before after _
    exact (run_without_queries providers session before).1
  · intro query report completes
    exact completes.failed_iff
  · intro query after
    rfl
  · intro id query between after free apart
    exact run_start_await providers free query apart after

/-- Providers that always panic, and a query that is started before its document
is closed and awaited after it: the query fails, and the close and what is found
after it are as without the query. -/
theorem queries_leave_no_trace_panicking :
    let uri : Uri := ⟨"file:///a", by decide⟩
    let providers : Providers := ⟨fun _ _ => .error ⟨"bug"⟩, fun _ declared => .ok declared⟩
    let session := ((initial {}).step providers (.openText uri "product.def" "a")).1
    let query : Query := .document uri .foldingRange
    let steps : List Step := [.start "q" query, .close uri, .await "q", .lookUp uri]
    let bare := session.run providers [.close uri, .lookUp uri]
    (session.step providers (.query query)).2.result =
        .workerFailed ⟨.foldingRange, ⟨"bug"⟩⟩ ∧
      retained (fun step => !step.asks) steps (session.run providers steps).2 = bare.2 ∧
      Same (session.run providers steps).1 bare.1 := by
  intro uri providers session query steps bare
  have law := queries_leave_no_trace providers session
  have completed := law.2.1 query _ .asked
  have apart : ∀ step ∈ [Step.close uri], ¬ step.Names "q" := by
    intro step member
    rw [List.mem_singleton.mp member, Step.names_iff_name?]
    exact Option.some_ne_none "q" ∘ Eq.symm
  refine ⟨?_, (law.1 steps).1, ?_⟩
  · exact completed.2 ⟨.foldingRanges, .productDefinition ⟨uri, "a", .empty⟩⟩
      List.mem_cons_self ⟨"bug"⟩ rfl
  · exact (law.2.2.2 "q" query [.close uri] [.lookUp uri] rfl apart).1

end Session
end LanguageServer
