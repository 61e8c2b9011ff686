import LanguageServer.Proofs.Session.Outstanding
import Mathlib.Data.List.Forall2

namespace LanguageServer

/-!
# The documents do not depend on diagnostics

Two runs are compared here that take the same steps.  They may differ in what the
provider of diagnostics answers and in which documents make it panic, and the
configuring steps may set the switch for diagnostics differently.  Nothing of
this reaches the documents: after every step both runs hold the same ones, and
everything else in the two sessions is the same too, except the switch.

The reports of the two runs differ only where diagnostics are due, which is at
steps that store a typed source.  Such a step has stored its document before it
asks for diagnostics.  When the provider panics, the step ends with the panic,
and the session is left as if the diagnostics had succeeded.
-/

/-! ## Providers that differ in diagnostics -/

/-- The providers answer all calls alike, except those for diagnostics. -/
def Providers.EqualButDiagnostics (first second : Providers) : Prop :=
  ∀ method, method ≠ .diagnostics → first.answer method = second.answer method

section Providers

variable {first second : Providers} (others : first.EqualButDiagnostics second)

include others

namespace Job

theorem ask_congr {method : Method} (other : method ≠ .diagnostics)
    (argument : method.Argument) (finish : method.Answer → Answer) :
    ask first method argument finish = ask second method argument finish := by
  simp only [ask, Report.call, others method other]

theorem format_congr (uri : Uri) (file : TypedFile) (options : Wire.FormattingOptions) :
    format first uri file options = format second uri file options := by
  have permission : first.answer .canFormat = second.answer .canFormat :=
    others .canFormat (by decide)
  have edits := @ask_congr first second others .formatting (by decide) (file, options)
  simp only [format, Report.call, permission, edits]

/-- No query asks for diagnostics. -/
theorem work_congr (job : Job) : job.work first = job.work second := by
  cases job with
  | document uri inquiry snapshot =>
      cases inquiry <;> exact ask_congr others (by decide) _ _
  | source uri inquiry file =>
      cases inquiry with
      | formatting options => exact format_congr others uri file options
      | _ => exact ask_congr others (by decide) _ _
  | subtypes item => exact ask_congr others (by decide) _ _
  | supertypes item => exact ask_congr others (by decide) _ _

end Job

theorem Pending.await_congr (pending : Pending) :
    pending.await first = pending.await second := by
  cases pending with
  | ready answer => rfl
  | running job => simp only [await, Job.run, Job.work_congr others job]

end Providers

/-! ## Steps and sessions that differ in the switch -/

/-- The steps are the same, except that configuring steps may set the switch for
diagnostics differently. -/
inductive Step.EqualButSwitch : Step → Step → Prop where
  | same (step : Step) : EqualButSwitch step step
  | configure (configuration : AnalysisConfiguration) (left right : Bool) :
      EqualButSwitch (.configure configuration left) (.configure configuration right)

namespace Session

/-- The sessions differ in the switch for diagnostics, if at all. -/
structure EqualButSwitch (left right : Session) : Prop where
  documents : left.documents = right.documents
  classifier : left.classifier = right.classifier
  formattingEnabled : left.formattingEnabled = right.formattingEnabled
  inFlight : left.inFlight = right.inFlight

/-- The step stores a typed source, so that its diagnostics are due. -/
def DiagnosticsDue (session : Session) (step : Step) : Prop :=
  ∃ uri file, session.effect step = .stored uri (.typedSource file)

namespace EqualButSwitch

variable {left right : Session}

theorem dispatch (equal : EqualButSwitch left right) (query : Query) :
    left.dispatch query = right.dispatch query := by
  cases query <;> simp only [Session.dispatch, equal.documents, equal.formattingEnabled]

theorem effect (equal : EqualButSwitch left right) {step other : Step}
    (same : step.EqualButSwitch other) : left.effect step = right.effect other := by
  cases same with
  | same step =>
      cases step <;> simp only [Session.effect, equal.classifier, equal.documents]
  | configure configuration => rfl

/-- A step leads to sessions that differ in the switch, if at all.  The providers
have no part in this. -/
theorem step (first second : Providers) (equal : EqualButSwitch left right)
    {step other : Step} (same : step.EqualButSwitch other) :
    EqualButSwitch (left.step first step).1 (right.step second other).1 := by
  have effect := equal.effect same
  rw [step_fst, step_fst]
  refine ⟨?_, ?_, ?_, ?_⟩
  · simp only [effect, equal.documents]
  · cases same <;> simp only [Step.configuration?, equal.classifier]
  · cases same <;> simp only [Step.formatting?, equal.formattingEnabled]
  · cases same with
    | same step => cases step <;> simp only [inFlightAfter, equal.inFlight, equal.dispatch]
    | configure configuration => exact equal.inFlight

theorem run (first second : Providers) {steps others : List Step}
    (same : List.Forall₂ Step.EqualButSwitch steps others)
    (equal : EqualButSwitch left right) :
    EqualButSwitch (left.run first steps).1 (right.run second others).1 := by
  induction same generalizing left right with
  | nil => exact equal
  | cons head tail ih => exact ih (equal.step first second head)

end EqualButSwitch

/-! ## Reports -/

end Session

/-- Nothing is published for a definition file, whatever the switch. -/
theorem Publisher.onStored_of_untyped (providers : Providers) (publisher : Publisher)
    {document : Document} (untyped : document.typed? = none) :
    publisher.onStored providers document = { result := .ok none } := by
  simp only [onStored, untyped]

namespace Session

theorem typed?_eq_none_of_not_due {session : Session} {step : Step} {uri : Uri}
    {document : Document} (stores : session.effect step = .stored uri document)
    (calm : ¬ session.DiagnosticsDue step) : document.typed? = none := by
  cases document with
  | typedSource file => exact absurd ⟨uri, file, stores⟩ calm
  | productDefinition source => rfl
  | moduleDefinition source => rfl

/-- The reports of a step are the same when no diagnostics are due. -/
theorem EqualButSwitch.report {first second : Providers}
    (others : first.EqualButDiagnostics second) {left right : Session}
    (equal : EqualButSwitch left right) {step other : Step}
    (same : step.EqualButSwitch other) (calm : ¬ left.DiagnosticsDue step) :
    (left.step first step).2 = (right.step second other).2 := by
  cases same with
  | configure configuration => rfl
  | same step =>
      cases step with
      | openText uri language text =>
          cases classified : left.classifier.classify? language uri text with
          | none =>
              simp only [Session.step, openText, ← equal.classifier, classified]
          | some document =>
              have stores : left.effect (.openText uri language text) = .stored uri document := by
                simp only [Session.effect, classified]
              have untyped := typed?_eq_none_of_not_due stores calm
              simp only [Session.step, openText, ← equal.classifier, classified, store,
                equal.documents, Publisher.onStored_of_untyped _ _ untyped]
      | change uri changes =>
          cases changes with
          | nil => rfl
          | cons change rest =>
              cases found : left.documents.get? uri with
              | none => simp only [Session.step, Session.change, ← equal.documents, found]
              | some current =>
                  have stores : left.effect (.change uri (change :: rest)) =
                      .stored uri (left.classifier.build current.kind uri change.text) := by
                    simp only [Session.effect, found]
                  have untyped := typed?_eq_none_of_not_due stores calm
                  simp only [Session.step, Session.change, ← equal.documents, found, store,
                    ← equal.classifier, Publisher.onStored_of_untyped _ _ untyped]
      | close uri => simp only [Session.step, close, equal.documents]
      | lookUp uri => simp only [Session.step, equal.documents]
      | query query =>
          simp only [Session.step, ask, equal.dispatch, Pending.await_congr others]
      | start id query => simp only [Session.step, start, equal.dispatch]
      | await id =>
          simp only [Session.step, await, equal.inFlight]
          cases right.inFlight.get? id with
          | none => rfl
          | some pending => exact Pending.await_congr others pending
      | save uri => rfl
      | configure configuration diagnostics => rfl
      | setFormatting enabled => rfl

/-- A step with diagnostics due does not end with an unsupported language. -/
theorem result_ne_unsupportedLanguage_of_due (providers : Providers) {session : Session}
    {step : Step} (due : session.DiagnosticsDue step) (language : String) :
    (session.step providers step).2.result ≠ .unsupportedLanguage language := by
  rcases due with ⟨uri, file, stores⟩
  rw [(report_of_stored providers stores).1]
  cases (session.publisher.onStored providers (.typedSource file)).result <;> nofun

/-- An open fails for its language in both sessions or in none. -/
theorem EqualButSwitch.unsupportedLanguage_iff {first second : Providers}
    (others : first.EqualButDiagnostics second) {left right : Session}
    (equal : EqualButSwitch left right) {step other : Step}
    (same : step.EqualButSwitch other) (language : String) :
    (left.step first step).2.result = .unsupportedLanguage language ↔
      (right.step second other).2.result = .unsupportedLanguage language := by
  by_cases due : left.DiagnosticsDue step
  · have otherDue : right.DiagnosticsDue other := by
      rcases due with ⟨uri, file, stores⟩
      exact ⟨uri, file, (equal.effect same).symm.trans stores⟩
    exact iff_of_false (result_ne_unsupportedLanguage_of_due first due language)
      (result_ne_unsupportedLanguage_of_due second otherDue language)
  · rw [equal.report others same due]

/-! ## Panics of the diagnostics -/

/-- Diagnostics are asked for by a step that has stored the source, with
publication switched on. -/
theorem stored_of_diagnosed {providers : Providers} {session : Session} {step : Step}
    {file : TypedFile}
    (asked : (⟨.diagnostics, file⟩ : Call) ∈ (session.step providers step).2.calls) :
    session.effect step = .stored file.uri (.typedSource file) ∧
      session.publisher.enabled = true := by
  cases effect : session.effect step with
  | stored uri document =>
      rw [(report_of_stored providers effect).2, Publisher.calls_onStored] at asked
      by_cases enabled : session.publisher.enabled = true
      · rw [if_pos enabled] at asked
        cases document with
        | typedSource stored =>
            cases List.mem_singleton.mp asked
            rw [← uri_of_effect_stored effect]
            exact ⟨rfl, enabled⟩
        | productDefinition source => cases asked
        | moduleDefinition source => cases asked
      · rw [if_neg enabled] at asked
        cases asked
  | dropped uri =>
      rw [effect_dropped_cases effect] at asked
      cases asked
  | kept =>
      -- Such a step may be a query, which calls a provider, but never this one.
      have member : (⟨.diagnostics, file⟩ : Call) ∈ (session.step providers step).2.diagnosed :=
        List.mem_filter.mpr ⟨asked, decide_eq_true rfl⟩
      rw [(report_of_kept providers effect).2] at member
      cases member

theorem panicked_of_stored {providers : Providers} {session : Session} {step : Step} {uri : Uri}
    {file : TypedFile} {panic : Panic}
    (stores : session.effect step = .stored uri (.typedSource file))
    (enabled : session.publisher.enabled = true)
    (panics : providers.answer .diagnostics file = .error panic) :
    (session.step providers step).2.result = .panicked panic := by
  rw [(report_of_stored providers stores).1]
  simp only [Publisher.onStored, Document.typed?, enabled, if_true, Report.call, panics]
  rfl

/-! ## The law -/

theorem exists_other_step {left right : List Step}
    (steps : List.Forall₂ Step.EqualButSwitch left right) {place : Nat} {step : Step}
    (taken : left[place]? = some step) :
    ∃ other, right[place]? = some other ∧ step.EqualButSwitch other := by
  rcases List.getElem?_eq_some_iff.mp taken with ⟨within, rfl⟩
  have otherWithin : place < right.length := steps.length_eq ▸ within
  exact ⟨right[place], List.getElem?_eq_getElem otherWithin, steps.get within otherWithin⟩

/-- Two runs with the same steps, which differ in the answers of the provider of
diagnostics, in the documents on which it panics, and in how configuring steps
set the switch for diagnostics.  After every step the documents are the same.
At every place the two reports both fail for a language or neither does, and
where no diagnostics are due they are the same report.

A step whose diagnostics panic ends with the panic.  It has stored its document
and done nothing else to the session.  After any further steps that do not open,
change or close it, the document is found in both runs. -/
theorem documents_indifferent_to_diagnostics {first second : Providers}
    (others : first.EqualButDiagnostics second) {left right : List Step}
    (steps : List.Forall₂ Step.EqualButSwitch left right) {session other : Session}
    (start : EqualButSwitch session other) :
    (∀ place, (session.run first (left.take place)).1.documents =
      (other.run second (right.take place)).1.documents) ∧
    (∀ place step, left[place]? = some step → ∃ report otherReport,
      (session.run first left).2[place]? = some report ∧
      (other.run second right).2[place]? = some otherReport ∧
      (∀ language, report.result = .unsupportedLanguage language ↔
        otherReport.result = .unsupportedLanguage language) ∧
      (¬ (session.run first (left.take place)).1.DiagnosticsDue step →
        report = otherReport)) ∧
    ∀ before step after file panic, left = before ++ step :: after →
      let here := (session.run first before).1
      (⟨.diagnostics, file⟩ : Call) ∈ (here.step first step).2.calls →
      first.answer .diagnostics file = .error panic →
      (here.step first step).2.result = .panicked panic ∧
      here.effect step = .stored file.uri (.typedSource file) ∧
      (here.step first step).1 =
        { here with documents := here.documents.put file.uri (.typedSource file) } ∧
      ∀ between later, after = between ++ later →
        (∀ further ∈ between, ¬ further.Settles file.uri) →
        (∀ further ∈ between, ¬ further.Rewrites file.uri) →
        let taken := before ++ step :: between
        (session.run first taken).1.documents.get? file.uri = some (.typedSource file) ∧
        (other.run second (right.take taken.length)).1.documents.get? file.uri =
          some (.typedSource file) := by
  have meanwhile (place : Nat) := start.run first second (List.forall₂_take place steps)
  refine ⟨fun place => (meanwhile place).documents, ?_, ?_⟩
  · intro place step taken
    rcases exists_other_step steps taken with ⟨twin, otherTaken, same⟩
    refine ⟨_, _, report_of_getElem? first session taken,
      report_of_getElem? second other otherTaken, ?_, ?_⟩
    · exact (meanwhile place).unsupportedLanguage_iff others same
    · exact (meanwhile place).report others same
  · intro before step after file panic split here asked panics
    rcases stored_of_diagnosed asked with ⟨stores, enabled⟩
    refine ⟨panicked_of_stored stores enabled panics, stores, step_of_stored first stores, ?_⟩
    intro between later rest unsettled kept taken
    have found : (session.run first taken).1.documents.get? file.uri =
        some (.typedSource file) := by
      rw [run_append_fst, run_cons, get?_run_of_quiet first _ unsettled kept]
      exact get?_step_of_stored first stores
    have reached : left.take taken.length = taken := by
      rw [split, rest, ← List.cons_append, ← List.append_assoc, List.take_left]
    rw [← (meanwhile taken.length).documents, reached]
    exact ⟨found, found⟩

/-- The provider of diagnostics panics in one run and is switched off in the other.
The document is there for a later step of either. -/
theorem documents_indifferent_to_diagnostics_panicking :
    let uri : Uri := ⟨"file:///a", by decide⟩
    let panicking : Providers :=
      ⟨fun method _ =>
          if method = .diagnostics then .error ⟨"bug"⟩ else .ok (Providers.emptyAnswer method),
        fun _ declared => .ok declared⟩
    let rest : List Step := [.openText uri "magik" "a", .lookUp uri]
    let file : TypedFile := ⟨⟨uri, "a", .empty⟩, ⟨{}, LineIndex.ofText "a", .empty⟩⟩
    let loud := (initial {}).run panicking (.configure {} true :: rest)
    let quiet := (initial {}).run Providers.silent (.configure {} false :: rest)
    panicking.EqualButDiagnostics Providers.silent ∧
      loud.2[1]?.map Report.result = some (.panicked ⟨"bug"⟩) ∧
      quiet.2[1]?.map Report.result = some (.published none) ∧
      loud.1.documents = quiet.1.documents ∧
      quiet.1.documents.get? uri = some (.typedSource file) ∧
      loud.2[2]? = quiet.2[2]? := by
  intro uri panicking rest file loud quiet
  have others : panicking.EqualButDiagnostics Providers.silent := by
    intro method different
    funext argument
    exact if_neg different
  have steps : List.Forall₂ Step.EqualButSwitch
      (.configure {} true :: rest) (.configure {} false :: rest) :=
    .cons (.configure {} true false) (List.forall₂_same.mpr fun step _ => .same step)
  have start : EqualButSwitch (initial {}) (initial {}) := ⟨rfl, rfl, rfl, rfl⟩
  rcases documents_indifferent_to_diagnostics others steps start with ⟨same, reports, stored⟩
  have panics := stored [.configure {} true] (.openText uri "magik" "a") [.lookUp uri] file
    ⟨"bug"⟩ rfl List.mem_cons_self rfl
  refine ⟨others, congrArg some panics.1, rfl, same 3, ?_, ?_⟩
  · have unsettled : ∀ further ∈ [Step.lookUp uri], ¬ further.Settles uri :=
      List.forall_mem_singleton.mpr id
    have kept : ∀ further ∈ [Step.lookUp uri], ¬ further.Rewrites uri :=
      List.forall_mem_singleton.mpr id
    exact (panics.2.2.2 [.lookUp uri] [] rfl unsettled kept).2
  · rcases reports 2 (.lookUp uri) rfl with ⟨report, other, here, there, _, equal⟩
    rw [here, there, equal nofun]

end Session
end LanguageServer
