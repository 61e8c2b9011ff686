import LanguageServer.Proofs.Session.Invisible

namespace LanguageServer

/-!
# The gates of formatting

Formatting is the one operation with more than one call.  Three gates stand before
the edits.  Two of them are passed or missed when the query is dispatched: the switch
for formatting, and a typed source at the identifier.  The third is the provider's
own permission, which the worker asks for later.  Behind it the provider is asked
for the edits.

Each of the two calls may panic, and the permission may be declined.  A query that
is stopped at any gate is answered with no edits, which is a list and not null.  What
decides is the session of the dispatch.  The switch may be turned while the worker
is on its way, and the query does not notice.
-/

namespace Job

/-! ## The worker -/

section Format

variable {providers : Providers} {file : TypedFile} {options : Wire.FormattingOptions}

/-- With permission the same file goes into a second call. -/
theorem calls_format_of_permitted (uri : Uri)
    (permitted : providers.answer .canFormat file = .ok true) :
    (format providers uri file options).calls =
      [⟨.canFormat, file⟩, ⟨.formatting, (file, options)⟩] := by
  simp only [format, Report.call, permitted]
  rfl

theorem calls_format_of_not_permitted (uri : Uri)
    (refused : providers.answer .canFormat file ≠ .ok true) :
    (format providers uri file options).calls = [⟨.canFormat, file⟩] := by
  unfold format
  cases permission : providers.answer .canFormat file with
  | error panic => simp only [Report.call, permission]
  | ok formattable =>
      cases formattable with
      | false => simp only [Report.call, permission]
      | true => exact absurd permission refused

theorem format_of_declined (uri : Uri) (declined : providers.answer .canFormat file = .ok false) :
    (format providers uri file options).result = .ok (.edits []) := by
  simp only [format, Report.call, declined]

theorem format_of_edited (uri : Uri) {edits : List TextEdit}
    (permitted : providers.answer .canFormat file = .ok true)
    (edited : providers.answer .formatting (file, options) = .ok edits) :
    (format providers uri file options).result = .ok (.edits (edits.map TextEdit.toWire)) := by
  simp only [format, Report.call, permitted, ask, Report.map, edited]
  rfl

/-- Whatever formatting is answered with is a list of edits. -/
theorem edits_of_format {uri : Uri} {answer : Answer}
    (answered : (format providers uri file options).result = .ok answer) :
    ∃ edits, answer = .edits edits := by
  cases permission : providers.answer .canFormat file with
  | error panic =>
      simp only [format, Report.call, permission] at answered
      cases answered
  | ok formattable =>
      cases formattable with
      | false =>
          rw [format_of_declined uri permission] at answered
          cases answered
          exact ⟨[], rfl⟩
      | true =>
          cases edited : providers.answer .formatting (file, options) with
          | error panic =>
              simp only [format, Report.call, permission, ask, Report.map, edited] at answered
              cases answered
          | ok edits =>
              rw [format_of_edited uri permission edited] at answered
              cases answered
              exact ⟨_, rfl⟩

end Format
end Job

namespace Session

/-! ## The two gates of the dispatch -/

/-- The file that a query for formatting is put to: formatting is switched on, and
the file is what the identifier has. -/
structure Formattable (session : Session) (uri : Uri) (file : TypedFile) : Prop where
  enabled : session.formattingEnabled = true
  stored : session.documents.get? uri = some (.typedSource file)

theorem dispatch_of_formattable {session : Session} {uri : Uri} {file : TypedFile}
    (formattable : session.Formattable uri file) (options : Wire.FormattingOptions) :
    (session.dispatch (.source uri (.formatting options))).result =
      .running (.source uri (.formatting options) file) := by
  have enabled : ¬ ((SourceInquiry.formatting options).operation = .formatting ∧
      session.formattingEnabled = false) := by
    rw [formattable.enabled]
    rintro ⟨_, disabled⟩
    cases disabled
  simp only [dispatch, if_neg enabled, formattable.stored, Option.bind_some, Document.typed?]

theorem dispatch_of_not_formattable {session : Session} {uri : Uri}
    (closed : ∀ file, ¬ session.Formattable uri file) (options : Wire.FormattingOptions) :
    (session.dispatch (.source uri (.formatting options))).result = .ready (.edits []) := by
  simp only [dispatch]
  by_cases disabled : (SourceInquiry.formatting options).operation = .formatting ∧
      session.formattingEnabled = false
  · rw [if_pos disabled]
    rfl
  · have enabled : session.formattingEnabled = true := by
      cases switch : session.formattingEnabled with
      | false => exact absurd ⟨rfl, switch⟩ disabled
      | true => rfl
    rw [if_neg disabled]
    cases typed : (session.documents.get? uri).bind Document.typed? with
    | none => rfl
    | some file =>
        rcases Option.bind_eq_some_iff.mp typed with ⟨document, stored, isTyped⟩
        rw [Document.typed?_eq_some_iff.mp isTyped] at stored
        exact absurd ⟨enabled, stored⟩ (closed file)

theorem isReady_formatting_iff (session : Session) (uri : Uri)
    (options : Wire.FormattingOptions) :
    (session.dispatch (.source uri (.formatting options))).result.isReady = true ↔
      ∀ file, ¬ session.Formattable uri file := by
  constructor
  · intro ready file formattable
    rw [dispatch_of_formattable formattable] at ready
    cases ready
  · intro closed
    rw [dispatch_of_not_formattable closed]
    rfl

/-! ## Completed queries -/

section Completed

variable {providers : Providers} {session : Session} {uri : Uri}
  {options : Wire.FormattingOptions} {report : Report Outcome}

theorem Completes.of_not_formattable
    (completes : session.Completes providers (.source uri (.formatting options)) report)
    (closed : ∀ file, ¬ session.Formattable uri file) :
    report.calls = [] ∧ report.result = .answered (.edits []) := by
  have complete := completes.eq_await
  rw [dispatch_of_not_formattable closed] at complete
  exact ⟨complete.2, complete.1⟩

/-- Behind the gates of the dispatch a query does what the worker does. -/
theorem Completes.of_formattable
    (completes : session.Completes providers (.source uri (.formatting options)) report)
    {file : TypedFile} (formattable : session.Formattable uri file) :
    report.calls = (Job.format providers uri file options).calls ∧
      report.result = Outcome.ofJob
        ((Job.format providers uri file options).result.mapError fun panic =>
          ⟨.formatting, panic⟩) := by
  have complete := completes.eq_await
  rw [dispatch_of_formattable formattable, Pending.await, Report.result_map, Report.calls_map,
    Job.calls_run, Job.result_run] at complete
  exact ⟨complete.2, complete.1⟩

/-- The failure of a completed query repeats the panic of one of its calls. -/
theorem Completes.workerFailed_iff
    (completes : session.Completes providers (.source uri (.formatting options)) report)
    (panic : Panic) :
    report.result = .workerFailed ⟨.formatting, panic⟩ ↔
      ∃ call ∈ report.calls, providers.answer call.method call.argument = .error panic := by
  have failed := completes.failed_iff
  constructor
  · intro failure
    have isFailed : report.result.Failed := by
      rw [failure]
      trivial
    rcases failed.1.mp isFailed with ⟨call, called, raised, raises⟩
    have same := (failed.2 call called raised raises).symm.trans failure
    cases same
    exact ⟨call, called, raises⟩
  · rintro ⟨call, called, raises⟩
    exact failed.2 call called panic raises

theorem Completes.edits_of_answered
    (completes : session.Completes providers (.source uri (.formatting options)) report)
    {answer : Answer} (answered : report.result = .answered answer) :
    ∃ edits, answer = .edits edits := by
  by_cases passes : ∃ file, session.Formattable uri file
  · rcases passes with ⟨file, formattable⟩
    have complete := (completes.of_formattable formattable).2
    rw [answered] at complete
    cases worked : (Job.format providers uri file options).result with
    | error panic =>
        rw [worked] at complete
        cases complete
    | ok given =>
        rw [worked] at complete
        cases complete
        exact Job.edits_of_format worked
  · have closed := completes.of_not_formattable (not_exists.mp passes)
    rw [closed.2] at answered
    cases answered
    exact ⟨[], rfl⟩

end Completed

/-! ## The law -/

/-- What a query for formatting does, in every state that a run reaches.

It needs a worker if and only if formatting is switched on and the identifier has a
typed source.  Otherwise no provider is called, and it is answered with no edits.  A
worker asks for permission once, on the file that was stored at the dispatch.  It
asks for the edits if and only if the permission is given, with the same file and
the options as they are.  A declined permission is answered with no edits.  The query
fails if and only if one of these calls panics, and repeats the panic.  Otherwise it
is answered with the edits of the provider in wire coordinates.  It is never answered
with null.

Reports that complete the query are all alike, whether it was asked at once or
awaited behind any other steps.  A step that turns the switch for formatting is one
of these.  The worker may run from the dispatch on, but its calls are counted in these
reports and not at the dispatch, so a query that is never awaited counts none. -/
theorem formatting_passes_gates (providers : Providers) (classifier : Classifier)
    (steps : List Step) (uri : Uri) (options : Wire.FormattingOptions) :
    let session := ((initial classifier).run providers steps).1
    let query : Query := .source uri (.formatting options)
    (∀ id, ∃ ready, (session.step providers (.start id query)).2.result = .started ready ∧
      (session.step providers (.start id query)).2.calls = [] ∧
      (ready = true ↔ ∀ file, ¬ session.Formattable uri file)) ∧
    ∀ report, session.Completes providers query report →
      ((∀ file, ¬ session.Formattable uri file) →
        report.calls = [] ∧ report.result = .answered (.edits [])) ∧
      (∀ file, session.Formattable uri file →
        (providers.answer .canFormat file = .ok true →
          report.calls = [⟨.canFormat, file⟩, ⟨.formatting, (file, options)⟩]) ∧
        (providers.answer .canFormat file ≠ .ok true →
          report.calls = [⟨.canFormat, file⟩]) ∧
        (providers.answer .canFormat file = .ok false →
          report.result = .answered (.edits [])) ∧
        ∀ edits, providers.answer .canFormat file = .ok true →
          providers.answer .formatting (file, options) = .ok edits →
          ∃ wire, report.result = .answered (.edits wire) ∧
            List.Forall₂ TextEdit.Reduces edits wire) ∧
      (∀ panic, report.result = .workerFailed ⟨.formatting, panic⟩ ↔
        ∃ call ∈ report.calls, providers.answer call.method call.argument = .error panic) ∧
      (∀ answer, report.result = .answered answer → answer.toJson ≠ .null) ∧
      ∀ other, session.Completes providers query other →
        other.result = report.result ∧ other.calls = report.calls := by
  intro session query
  constructor
  · intro id
    exact ⟨_, rfl, calls_dispatch session query, session.isReady_formatting_iff uri options⟩
  · intro report completes
    refine ⟨completes.of_not_formattable, ?_, completes.workerFailed_iff, ?_, ?_⟩
    · intro file formattable
      rcases completes.of_formattable formattable with ⟨calls, result⟩
      rw [calls, result]
      refine ⟨Job.calls_format_of_permitted uri, Job.calls_format_of_not_permitted uri, ?_, ?_⟩
      · intro declined
        rw [Job.format_of_declined uri declined]
        rfl
      · intro edits permitted edited
        rw [Job.format_of_edited uri permitted edited]
        exact ⟨_, rfl, forall₂_map_of_forall TextEdit.reduces_toWire edits⟩
    · intro answer answered
      rcases completes.edits_of_answered answered with ⟨edits, rfl⟩
      exact Json.noConfusion
    · intro other otherCompletes
      have first := completes.eq_await
      have second := otherCompletes.eq_await
      exact ⟨second.1.trans first.1.symm, second.2.trans first.2.symm⟩

/-- Formatting is switched off and the document closed while the worker is on its
way.  The edit it gives lies beyond the last line that a word can count. -/
theorem formatting_passes_gates_switched_off :
    let uri : Uri := ⟨"file:///a", by decide⟩
    let options : Wire.FormattingOptions := { tabSize := 4, insertSpaces := true }
    let edit : TextEdit := ⟨Range.point ⟨UInt32.size + 3, 0⟩, "b"⟩
    let providers : Providers :=
      ⟨fun method _ =>
        match method with
        | .formatting => .ok [edit]
        | other => .ok (Providers.emptyAnswer other),
        fun _ declared => .ok declared⟩
    let session := ((initial {}).run providers [.openText uri "magik" "a"]).1
    let query : Query := .source uri (.formatting options)
    ∃ report wire,
      (session.run providers
        [.start "q" query, .setFormatting false, .close uri, .await "q"]).2[3]? = some report ∧
      report.calls.map Call.method = [.canFormat, .formatting] ∧
      report.result = .answered (.edits [wire]) ∧
      wire.newText = "b" ∧ wire.range.start.line.toNat = 3 := by
  intro uri options edit providers session query
  let file : TypedFile := ⟨⟨uri, "a", .empty⟩, ⟨{}, LineIndex.ofText "a", .empty⟩⟩
  have formattable : session.Formattable uri file := ⟨rfl, rfl⟩
  have apart : ∀ step ∈ [Step.setFormatting false, .close uri], ¬ step.Names "q" := by
    intro step member named
    rw [Step.names_iff_name?] at named
    rcases List.mem_cons.mp member with rfl | member
    · cases named
    · rw [List.mem_singleton.mp member] at named
      cases named
  have completes := @Completes.awaited providers session query "q" _ [] _ apart rfl
  have law := (formatting_passes_gates providers {} [.openText uri "magik" "a"] uri options).2
    _ completes
  rcases law.2.1 file formattable with ⟨calls, _, _, edited⟩
  rcases edited [edit] rfl rfl with ⟨wires, answered, translated⟩
  rcases List.forall₂_cons_left_iff.mp translated with ⟨wire, others, reduced, rest, rfl⟩
  rw [List.forall₂_nil_left_iff.mp rest] at answered
  refine ⟨_, wire, rfl, ?_, answered, reduced.newText_eq, ?_⟩
  · rw [calls rfl]
    rfl
  · rw [reduced.range.start.1]
    show (UInt32.size + 3) % UInt32.size = 3
    decide

end Session
end LanguageServer
