import LanguageServer.Proofs.Session.History

namespace LanguageServer

/-!
# The diagnostics that a client holds

A client keeps, for each identifier, the diagnostics that were published last.
The session does not remember what it published, so the agreement between the
two is an agreement between the reports of a run and the documents at its end.

What a step publishes is decided by its effect on the documents.  A document
that was stored is published under its own identifier, which is the one it was
stored under; a document that was dropped is cleared; nothing else publishes
anything.  The provider of diagnostics is called on stored typed sources only,
while publication is switched on.  Queries call other methods.
-/

/-! ## What a report publishes and what it computed -/

/-- The publication in an outcome, if there is one. -/
def Outcome.publication? : Outcome → Option Publication
  | .published publication => publication
  | _ => none

namespace Report

/-- The diagnostics that a report publishes for an identifier. -/
def publishedFor (uri : Uri) (report : Report Outcome) : Option (List Wire.Diagnostic) :=
  (report.result.publication?.filter fun publication => publication.uri = uri).map
    Publication.diagnostics

/-- The calls of a report that compute diagnostics. -/
def diagnosed {α : Type} (report : Report α) : List Call :=
  report.calls.filter fun call => call.method = .diagnostics

end Report

/-- The diagnostics that were published last for an identifier. -/
def outstanding (uri : Uri) (reports : List (Report Outcome)) :
    Option (List Wire.Diagnostic) :=
  reports.reverse.findSome? (Report.publishedFor uri)

/-- What is published later counts. -/
theorem outstanding_append (uri : Uri) (first second : List (Report Outcome)) :
    outstanding uri (first ++ second) =
      (outstanding uri second).or (outstanding uri first) := by
  rw [outstanding, List.reverse_append, List.findSome?_append]
  rfl

theorem outstanding_singleton (uri : Uri) (report : Report Outcome) :
    outstanding uri [report] = report.publishedFor uri := by
  rw [outstanding, List.reverse_singleton, List.findSome?_singleton]

/-! ## Queries publish nothing and compute no diagnostics -/

namespace Job

/-- Formatting asks whether the file can be formatted and then perhaps formats
it. -/
theorem diagnosed_format (providers : Providers) (uri : Uri) (file : TypedFile)
    (options : Wire.FormattingOptions) :
    (format providers uri file options).diagnosed = [] := by
  simp only [format]
  cases verdict : (Report.call providers .canFormat file).result with
  | error panic => rfl
  | ok formattable => cases formattable <;> rfl

/-- The work on a query never computes diagnostics, whatever the query. -/
theorem diagnosed_work (providers : Providers) (job : Job) :
    (job.work providers).diagnosed = [] := by
  cases job with
  | document uri inquiry snapshot => cases inquiry <;> rfl
  | source uri inquiry file =>
      cases inquiry with
      | formatting options => exact diagnosed_format providers uri file options
      | _ => rfl
  | subtypes item => rfl
  | supertypes item => rfl

/-- Running a job makes the calls of its work, even when one of them panics. -/
theorem calls_run (providers : Providers) (job : Job) :
    (job.run providers).calls = (job.work providers).calls := by
  simp only [run]
  cases (job.work providers).result <;> rfl

end Job

namespace Pending

theorem diagnosed_await (providers : Providers) (pending : Pending) :
    (pending.await providers).diagnosed = [] := by
  cases pending with
  | ready answer => rfl
  | running job =>
      rw [await, Report.diagnosed, Report.calls_map, Job.calls_run]
      exact Job.diagnosed_work providers job

theorem publication?_await (providers : Providers) (pending : Pending) :
    (pending.await providers).result.publication? = none := by
  cases pending with
  | ready answer => rfl
  | running job =>
      rw [await, Report.result_map]
      cases (job.run providers).result <;> rfl

end Pending

/-! ## What a step publishes and computes -/

namespace Publisher

/-- The provider is called once on a typed source while publication is on, and
not at all otherwise.  This does not depend on what it answers. -/
theorem calls_onStored (providers : Providers) (publisher : Publisher)
    (document : Document) :
    (publisher.onStored providers document).calls =
      if publisher.enabled then
        (document.typed?.map fun file => (⟨.diagnostics, file⟩ : Call)).toList
      else [] := by
  cases typed : document.typed? with
  | none =>
      simp only [onStored, typed, Option.map_none, Option.toList_none, ite_self]
  | some file =>
      simp only [onStored, typed]
      by_cases enabled : publisher.enabled = true
      · rw [if_pos enabled, if_pos enabled]
        cases (Report.call providers .diagnostics file).result <;> rfl
      · rw [if_neg enabled, if_neg enabled]

/-- The answer of a provider that does not panic is published as it is. -/
theorem result_onStored {providers : Providers} {provide : TypedFile → List Wire.Diagnostic}
    (calm : ∀ file, providers.answer .diagnostics file = .ok (provide file))
    (publisher : Publisher) (document : Document) :
    (publisher.onStored providers document).result =
      .ok (if publisher.enabled then
        document.typed?.map fun file => ⟨document.uri, provide file⟩
      else none) := by
  cases typed : document.typed? with
  | none => simp only [onStored, typed, Option.map_none, ite_self]
  | some file =>
      have answered : (Report.call providers .diagnostics file).result =
          .ok (provide file) := calm file
      simp only [onStored, typed, answered]
      by_cases enabled : publisher.enabled = true
      · rw [if_pos enabled, if_pos enabled]
        rfl
      · rw [if_neg enabled, if_neg enabled]

end Publisher

namespace Session

/-- A step that stores a document reports what the publisher makes of it. -/
theorem report_of_stored (providers : Providers) {session : Session} {step : Step}
    {uri : Uri} {document : Document} (stores : session.effect step = .stored uri document) :
    (session.step providers step).2.result =
        Outcome.ofPublished (session.publisher.onStored providers document).result ∧
      (session.step providers step).2.calls =
        (session.publisher.onStored providers document).calls := by
  rcases effect_stored_cases stores with
    ⟨language, text, kind, rfl, named, rfl⟩ | ⟨first, others, current, rfl, found, rfl⟩
  · simp only [Session.step, openText, Classifier.classify?, named, Option.map_some, store]
    exact ⟨rfl, rfl⟩
  · simp only [Session.step, change, found, store]
    exact ⟨rfl, rfl⟩

/-- A step that does nothing to the documents publishes nothing and computes no
diagnostics.  Most steps of this kind are queries, and they do call providers. -/
theorem report_of_kept (providers : Providers) {session : Session} {step : Step}
    (keeps : session.effect step = .kept) :
    (session.step providers step).2.result.publication? = none ∧
      (session.step providers step).2.diagnosed = [] := by
  cases step with
  | openText uri language text =>
      simp only [effect] at keeps
      cases classified : session.classifier.classify? language uri text with
      | none =>
          simp only [Session.step, openText, classified]
          exact ⟨rfl, rfl⟩
      | some document =>
          rw [classified] at keeps
          cases keeps
  | change uri changes =>
      cases changes with
      | nil => exact ⟨rfl, rfl⟩
      | cons first others =>
          simp only [effect] at keeps
          cases found : session.documents.get? uri with
          | none =>
              simp only [Session.step, change, found]
              exact ⟨rfl, rfl⟩
          | some current =>
              rw [found] at keeps
              cases keeps
  | close uri => cases keeps
  | query query =>
      exact ⟨Pending.publication?_await providers _, Pending.diagnosed_await providers _⟩
  | start id query =>
      refine ⟨rfl, ?_⟩
      show ((session.dispatch query).calls.filter fun call => call.method = .diagnostics) = []
      rw [calls_dispatch]
      rfl
  | await id =>
      simp only [Session.step, await]
      cases session.inFlight.get? id with
      | none => exact ⟨rfl, rfl⟩
      | some pending =>
          exact ⟨Pending.publication?_await providers pending,
            Pending.diagnosed_await providers pending⟩
  | _ => exact ⟨rfl, rfl⟩

/-- A stored typed source is published while publication is on, under the
identifier it is stored at. -/
theorem publication?_of_stored {providers : Providers}
    {provide : TypedFile → List Wire.Diagnostic}
    (calm : ∀ file, providers.answer .diagnostics file = .ok (provide file))
    {session : Session} {step : Step} {uri : Uri} {document : Document}
    (stores : session.effect step = .stored uri document) :
    (session.step providers step).2.result.publication? =
      if session.publisher.enabled then
        document.typed?.map fun file => ⟨uri, provide file⟩
      else none := by
  rw [(report_of_stored providers stores).1, Publisher.result_onStored calm,
    uri_of_effect_stored stores]
  rfl

theorem publication?_of_dropped (providers : Providers) {session : Session} {step : Step}
    {uri : Uri} (drops : session.effect step = .dropped uri) :
    (session.step providers step).2.result.publication? = some ⟨uri, []⟩ := by
  rw [effect_dropped_cases drops]
  rfl

/-- A step publishes for the identifier its effect is on, or for none. -/
theorem publishedFor_of_elsewhere {providers : Providers}
    {provide : TypedFile → List Wire.Diagnostic}
    (calm : ∀ file, providers.answer .diagnostics file = .ok (provide file))
    {session : Session} {step : Step} {uri : Uri}
    (elsewhere : (session.effect step).target? ≠ some uri) :
    (session.step providers step).2.publishedFor uri = none := by
  unfold Report.publishedFor
  cases effect : session.effect step with
  | stored target document =>
      have different : ¬ target = uri := by
        intro same
        apply elsewhere
        rw [effect, same]
        rfl
      rw [publication?_of_stored calm effect]
      cases document.typed? with
      | none => simp only [Option.map_none, ite_self, Option.filter_none]
      | some file =>
          by_cases enabled : session.publisher.enabled = true
          · simp [enabled, different]
          · simp [enabled]
  | dropped target =>
      have different : ¬ target = uri := by
        intro same
        apply elsewhere
        rw [effect, same]
        rfl
      rw [publication?_of_dropped providers effect]
      simp [different]
  | kept =>
      rw [(report_of_kept providers effect).1]
      rfl

theorem get?_step_of_stored (providers : Providers) {session : Session} {step : Step}
    {uri : Uri} {document : Document} (stores : session.effect step = .stored uri document) :
    (session.step providers step).1.documents.get? uri = some document := by
  rw [documents_step, stores, Effect.get?_apply]
  exact if_pos rfl

/-- Everything that a step does to one identifier: nothing at all, a new document
and what is published for it, or a removal that is published. -/
theorem step_at_cases {providers : Providers} {provide : TypedFile → List Wire.Diagnostic}
    (calm : ∀ file, providers.answer .diagnostics file = .ok (provide file))
    (session : Session) (step : Step) (uri : Uri) :
    ((session.step providers step).1.documents.get? uri = session.documents.get? uri ∧
        (session.step providers step).2.publishedFor uri = none) ∨
      (∃ document, (session.step providers step).1.documents.get? uri = some document ∧
        (session.step providers step).2.publishedFor uri =
          if session.publisher.enabled then document.typed?.map provide else none) ∨
      ((session.step providers step).1.documents.get? uri = none ∧
        (session.step providers step).2.publishedFor uri = some []) := by
  by_cases elsewhere : (session.effect step).target? ≠ some uri
  · left
    rw [documents_step, Effect.get?_apply_of_ne elsewhere]
    exact ⟨rfl, publishedFor_of_elsewhere calm elsewhere⟩
  · right
    have here := not_not.mp elsewhere
    cases effect : session.effect step with
    | stored target document =>
        rw [effect] at here
        cases here
        refine Or.inl ⟨document, get?_step_of_stored providers effect, ?_⟩
        rw [Report.publishedFor, publication?_of_stored calm effect]
        by_cases enabled : session.publisher.enabled = true
        · rw [if_pos enabled, if_pos enabled]
          cases document.typed? <;> simp
        · rw [if_neg enabled, if_neg enabled]
          rfl
    | dropped target =>
        rw [effect] at here
        cases here
        refine Or.inr ⟨?_, ?_⟩
        · rw [effect_dropped_cases effect]
          exact get?_step_close providers session uri
        · rw [Report.publishedFor, publication?_of_dropped providers effect]
          simp
    | kept =>
        rw [effect] at here
        cases here

end Session

/-! ## Outstanding diagnostics of a run -/

section Outstanding

variable {providers : Providers} {provide : TypedFile → List Wire.Diagnostic}
  (calm : ∀ file, providers.answer .diagnostics file = .ok (provide file))

include calm

/-- Steps that neither settle nor rewrite an identifier publish nothing for it. -/
theorem outstanding_run_of_quiet (session : Session) {uri : Uri} {steps : List Step}
    (unsettled : ∀ step ∈ steps, ¬ step.Settles uri)
    (kept : ∀ step ∈ steps, ¬ step.Rewrites uri) :
    outstanding uri (session.run providers steps).2 = none := by
  induction steps generalizing session with
  | nil => rfl
  | cons step rest ih =>
      have silent : (session.step providers step).2.publishedFor uri = none :=
        Session.publishedFor_of_elsewhere calm
          (session.target?_effect_of_quiet (unsettled step List.mem_cons_self)
            (kept step List.mem_cons_self))
      have others := ih (session.step providers step).1
        (fun later member => unsettled later (List.mem_cons_of_mem step member))
        (fun later member => kept later (List.mem_cons_of_mem step member))
      rw [Session.run_cons]
      change outstanding uri ([(session.step providers step).2] ++
        ((session.step providers step).1.run providers rest).2) = none
      rw [outstanding_append, others, outstanding_singleton, silent]
      rfl

/-- One step keeps this: a client holds nothing, or an empty list, for an
identifier without a document. -/
theorem outstanding_step_of_absent (session : Session) (reports : List (Report Outcome))
    {uri : Uri} (step : Step)
    (cleared : session.documents.get? uri = none →
      outstanding uri reports = none ∨ outstanding uri reports = some [])
    (absent : (session.step providers step).1.documents.get? uri = none) :
    outstanding uri (reports ++ [(session.step providers step).2]) = none ∨
      outstanding uri (reports ++ [(session.step providers step).2]) = some [] := by
  rw [outstanding_append, outstanding_singleton]
  rcases Session.step_at_cases calm session step uri with
    ⟨same, silent⟩ | ⟨document, stored, _⟩ | ⟨_, empty⟩
  · rw [same] at absent
    rw [silent, Option.none_or]
    exact cleared absent
  · rw [absent] at stored
    cases stored
  · right
    rw [empty]
    rfl

theorem outstanding_run_of_absent (classifier : Classifier) (steps : List Step) (uri : Uri)
    (absent : ((Session.initial classifier).run providers steps).1.documents.get? uri =
      none) :
    outstanding uri ((Session.initial classifier).run providers steps).2 = none ∨
      outstanding uri ((Session.initial classifier).run providers steps).2 = some [] := by
  induction steps using List.reverseRecOn with
  | nil => exact Or.inl rfl
  | append_singleton steps step ih =>
      rw [Session.run_concat_fst] at absent
      rw [Session.run_concat_snd]
      exact outstanding_step_of_absent calm _ _ step ih absent

/-- The diagnostics of a typed source are outstanding as long as no step settles
or rewrites its identifier. -/
theorem outstanding_run_of_stored (session : Session) {uri : Uri} {step : Step}
    {file : TypedFile} {rest : List Step}
    (enabled : session.publisher.enabled = true)
    (stores : session.effect step = .stored uri (.typedSource file))
    (unsettled : ∀ later ∈ rest, ¬ later.Settles uri)
    (kept : ∀ later ∈ rest, ¬ later.Rewrites uri) :
    outstanding uri (session.run providers (step :: rest)).2 = some (provide file) := by
  have published : (session.step providers step).2.publishedFor uri =
      some (provide file) := by
    rw [Report.publishedFor, Session.publication?_of_stored calm stores, if_pos enabled]
    simp [Document.typed?]
  have silent := outstanding_run_of_quiet calm (session.step providers step).1 unsettled kept
  rw [Session.run_cons]
  change outstanding uri ([(session.step providers step).2] ++
    ((session.step providers step).1.run providers rest).2) = some (provide file)
  rw [outstanding_append, silent, outstanding_singleton, published]
  rfl

end Outstanding

/-! ## Calls of the provider -/

namespace Session

/-- What a step computes is decided by what it stores. -/
theorem diagnosed_of_stored (providers : Providers) {session : Session} {step : Step}
    {uri : Uri} {document : Document} (stores : session.effect step = .stored uri document) :
    (session.step providers step).2.diagnosed =
      if session.publisher.enabled then
        (document.typed?.map fun file => (⟨.diagnostics, file⟩ : Call)).toList
      else [] := by
  rw [Report.diagnosed, (report_of_stored providers stores).2, Publisher.calls_onStored]
  by_cases enabled : session.publisher.enabled = true
  · rw [if_pos enabled]
    cases document.typed? <;> rfl
  · rw [if_neg enabled]
    rfl

/-- A typed source that is stored while publication is on is handed to the
provider, once. -/
theorem diagnosed_of_typed (providers : Providers) {session : Session} {step : Step}
    {uri : Uri} {file : TypedFile} (enabled : session.publisher.enabled = true)
    (stores : session.Stores uri step)
    (found : (session.step providers step).1.documents.get? uri =
      some (.typedSource file)) :
    (session.step providers step).2.diagnosed = [⟨.diagnostics, file⟩] := by
  rcases stores_iff_effect.mp stores with ⟨document, effect⟩
  rw [get?_step_of_stored providers effect] at found
  cases found
  rw [diagnosed_of_stored providers effect, if_pos enabled]
  rfl

/-- No other step calls the provider. -/
theorem diagnosed_of_untyped (providers : Providers) {session : Session} {step : Step}
    (untyped : ∀ uri file, session.publisher.enabled = true → session.Stores uri step →
      (session.step providers step).1.documents.get? uri ≠ some (.typedSource file)) :
    (session.step providers step).2.diagnosed = [] := by
  cases effect : session.effect step with
  | stored uri document =>
      rw [diagnosed_of_stored providers effect]
      by_cases enabled : session.publisher.enabled = true
      · rw [if_pos enabled]
        cases document with
        | typedSource file =>
            have found := get?_step_of_stored providers effect
            exact absurd found (untyped uri file enabled (stores_iff_effect.mpr ⟨_, effect⟩))
        | productDefinition source => rfl
        | moduleDefinition source => rfl
      · rw [if_neg enabled]
  | dropped uri =>
      rw [effect_dropped_cases effect]
      rfl
  | kept => exact (report_of_kept providers effect).2

end Session

/-! ## The law -/

/-- What a client holds describes the documents as they are, after every run with
a provider that does not panic.

For an identifier without a document it holds nothing, or the empty list.  For a
typed source it holds what the provider says of that very document, if
publication was on when the document was stored; the step that stored it comes
right behind `prior`.  The provider is called on the document just stored, once,
by each step that stores a typed source while publication is on, and by no
other step. -/
theorem outstanding_describes_documents {providers : Providers}
    {provide : TypedFile → List Wire.Diagnostic}
    (calm : ∀ file, providers.answer .diagnostics file = .ok (provide file))
    (classifier : Classifier) (steps : List Step) :
    let final := (Session.initial classifier).run providers steps
    (∀ uri, final.1.documents.get? uri = none →
      outstanding uri final.2 = none ∨ outstanding uri final.2 = some []) ∧
    (∀ uri file, final.1.documents.get? uri = some (.typedSource file) →
      ∃ prior kind text, StoredAfter uri steps prior kind text ∧
        (((Session.initial classifier).run providers prior).1.publisher.enabled = true →
          outstanding uri final.2 = some (provide file))) ∧
    ∀ before step after, steps = before ++ step :: after →
      let session := ((Session.initial classifier).run providers before).1
      let taken := session.step providers step
      final.2[before.length]? = some taken.2 ∧
      (∀ uri file, session.publisher.enabled = true → session.Stores uri step →
        taken.1.documents.get? uri = some (.typedSource file) →
        taken.2.diagnosed = [⟨.diagnostics, file⟩]) ∧
      ((∀ uri file, session.publisher.enabled = true → session.Stores uri step →
        taken.1.documents.get? uri ≠ some (.typedSource file)) →
        taken.2.diagnosed = []) := by
  intro final
  refine ⟨?_, ?_, ?_⟩
  · intro uri absent
    exact outstanding_run_of_absent calm classifier steps uri absent
  · intro uri file found
    have traced := traced_run providers classifier steps uri
    rw [found] at traced
    rcases traced with ⟨prior, kind, text, stored, shows⟩
    refine ⟨prior, kind, text, stored, ?_⟩
    intro enabled
    rcases stored.stores providers classifier with ⟨step, rest, split, stores, unsettled, kept⟩
    rcases Session.stores_iff_effect.mp stores with ⟨document, effect⟩
    have same : document = .typedSource file := by
      have last := found
      simp only [final, split, Session.run_append_fst, Session.run_cons] at last
      rw [Session.get?_run_of_quiet providers _ unsettled kept,
        Session.get?_step_of_stored providers effect] at last
      exact Option.some.inj last
    rw [same] at effect
    simp only [final, split, Session.run_append_snd, outstanding_append]
    rw [outstanding_run_of_stored calm _ enabled effect unsettled kept]
    rfl
  · rintro before step after rfl session taken
    refine ⟨Session.report_at providers _ before after step, ?_, ?_⟩
    · intro uri file enabled stores stored
      exact Session.diagnosed_of_typed providers enabled stores stored
    · exact Session.diagnosed_of_untyped providers

/-- A provider that repeats the text: after a change the client holds the new
text, and the change made the one call. -/
theorem outstanding_describes_documents_changed :
    let uri : Uri := ⟨"file:///a", by decide⟩
    let note : TypedFile → List Wire.Diagnostic := fun file =>
      [{ range := ⟨⟨0, 0⟩, ⟨0, 0⟩⟩, message := file.text }]
    let providers : Providers :=
      ⟨fun method argument =>
        match method, argument with
        | .diagnostics, file => .ok (note file)
        | other, _ => .ok (Providers.emptyAnswer other),
        fun _ declared => .ok declared⟩
    let change : Step := .change uri [{ text := "b" }]
    let steps : List Step := [.openText uri "magik" "a", change]
    let final := (Session.initial {}).run providers steps
    let file : TypedFile :=
      ⟨⟨uri, "b", .empty⟩, ⟨{}, LineIndex.ofText "b", .empty⟩⟩
    outstanding uri final.2 = some (note file) ∧
      final.2[1]?.map Report.diagnosed = some [⟨.diagnostics, file⟩] := by
  intro uri note providers change steps final file
  have law := @outstanding_describes_documents providers note (fun _ => rfl) {} steps
  have found : final.1.documents.get? uri = some (.typedSource file) := rfl
  have named : DocumentKind.ofLanguageId? "magik" = some .typedSource := by decide
  have settled : IsLast (Step.Settles uri) steps [] (.openText uri "magik" "a") [change] := by
    refine ⟨rfl, Step.settles_open named, ?_⟩
    intro later member
    rw [List.mem_singleton.mp member]
    exact fun impossible => impossible
  have rewritten : IsLast (Step.Rewrites uri) [change] [] change [] :=
    IsLast.of_concat [] ⟨rfl, List.cons_ne_nil _ _⟩
  have changed := StoredAfter.changed settled named rewritten
  constructor
  · rcases law.2.1 uri file found with ⟨prior, kind, text, stored, held⟩
    apply held
    rw [(stored.unique changed).1]
    rfl
  · rcases law.2.2 [.openText uri "magik" "a"] change [] rfl with ⟨place, typed, untyped⟩
    have called := typed uri file rfl ⟨rfl, List.cons_ne_nil _ _, rfl⟩ found
    exact (congrArg (Option.map Report.diagnosed) place).trans (congrArg some called)

end LanguageServer
