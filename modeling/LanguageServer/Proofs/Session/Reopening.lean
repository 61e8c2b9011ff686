import LanguageServer.Proofs.Session.Outstanding

namespace LanguageServer

/-!
# Changing a document and opening it anew

A change looks up the stored document and builds another one of the same kind.  An
open never looks at what is stored; it builds a document of the kind that its
language identifier names.  The two meet where the identifier is that of the stored
kind: then they build the same document, store it at the same place and publish the
same diagnostics, with the same call to the provider or the same panic.

The kind of a stored document has only one origin, the open that settled its
identifier, so the identifier that a change stands for is the one the client once
sent.  A client that sends every effective change as an open is therefore not told
anything else, and leaves the same session behind.  It is told apart by two events
in the log.
-/

namespace Report

/-- The reports differ in their log at most. -/
structure EqualButLog {α : Type} (left right : Report α) : Prop where
  result_eq : left.result = right.result
  calls_eq : left.calls = right.calls

theorem EqualButLog.refl {α : Type} (report : Report α) : report.EqualButLog report :=
  ⟨rfl, rfl⟩

end Report

namespace Session

/-! ## Two steps that store the same document -/

theorem effect_change {session : Session} {uri : Uri} {current : Document}
    (found : session.documents.get? uri = some current) (first : Wire.ContentChange)
    (others : List Wire.ContentChange) :
    session.effect (.change uri (first :: others)) =
      .stored uri (session.classifier.build current.kind uri first.text) := by
  simp only [effect, found]

/-- The language identifier of a kind names that kind. -/
theorem effect_openText_languageId (session : Session) (uri : Uri) (kind : DocumentKind)
    (text : String) :
    session.effect (.openText uri kind.languageId text) =
      .stored uri (session.classifier.build kind uri text) := by
  simp only [effect, Classifier.classify?, DocumentKind.ofLanguageId?_languageId,
    Option.map_some]

/-- What a step stores decides the session behind it, what is published and which
calls are made. -/
theorem step_eq_of_stored (providers : Providers) {session : Session} {first second : Step}
    {uri : Uri} {document : Document} (firstStores : session.effect first = .stored uri document)
    (secondStores : session.effect second = .stored uri document) :
    (session.step providers first).1 = (session.step providers second).1 ∧
      (session.step providers first).2.EqualButLog (session.step providers second).2 := by
  have firstReport := report_of_stored providers firstStores
  have secondReport := report_of_stored providers secondStores
  refine ⟨?_, ?_, ?_⟩
  · rw [step_of_stored providers firstStores, step_of_stored providers secondStores]
  · rw [firstReport.1, secondReport.1]
  · rw [firstReport.2, secondReport.2]

/-- Storing a document ends with a publication, without one, or with a panic. -/
theorem result_of_stored (providers : Providers) {session : Session} {step : Step} {uri : Uri}
    {document : Document} (stores : session.effect step = .stored uri document) :
    (∃ publication, (session.step providers step).2.result = .published publication) ∨
      ∃ panic, (session.step providers step).2.result = .panicked panic := by
  rw [(report_of_stored providers stores).1]
  cases (session.publisher.onStored providers document).result with
  | ok publication => exact Or.inl ⟨publication, rfl⟩
  | error panic => exact Or.inr ⟨panic, rfl⟩

/-! ## One change -/

section Change

variable {session : Session} {uri : Uri} {current : Document}

theorem step_change_eq_reopen (providers : Providers)
    (found : session.documents.get? uri = some current) (first : Wire.ContentChange)
    (others : List Wire.ContentChange) :
    (session.step providers (.change uri (first :: others))).1 =
        (session.step providers (.openText uri current.kind.languageId first.text)).1 ∧
      (session.step providers (.change uri (first :: others))).2.EqualButLog
        (session.step providers (.openText uri current.kind.languageId first.text)).2 :=
  step_eq_of_stored providers (effect_change found first others)
    (effect_openText_languageId session uri current.kind first.text)

/-- An open is logged as such before what its document is logged for. -/
theorem log_reopen (providers : Providers)
    (found : session.documents.get? uri = some current) (first : Wire.ContentChange)
    (others : List Wire.ContentChange) :
    (session.step providers (.openText uri current.kind.languageId first.text)).2.log =
      .opened uri current.kind :: .reopened ::
        (session.step providers (.change uri (first :: others))).2.log := by
  have replaces : session.documents.contains uri = true := by
    rw [Table.contains, found]
    rfl
  simp only [step, openText, change, found, Classifier.classify?,
    DocumentKind.ofLanguageId?_languageId, Option.map_some, replaces, Classifier.kind_build]
  rfl

/-- The identifier of the stored kind is the one that the document was opened
under. -/
theorem exists_opened {providers : Providers} {classifier : Classifier} {steps : List Step}
    (found : ((initial classifier).run providers steps).1.documents.get? uri = some current) :
    ∃ before text after, IsLast (Step.Settles uri) steps before
      (.openText uri current.kind.languageId text) after := by
  have traced := traced_run providers classifier steps uri
  rw [found] at traced
  rcases traced with ⟨prior, kind, text, stored, shows⟩
  rcases stored.origin with ⟨before, language, original, after, settled, named⟩
  refine ⟨before, original, after, ?_⟩
  rw [shows.kind_eq, DocumentKind.languageId_of_ofLanguageId? named]
  exact settled

end Change

/-! ## All changes of a run -/

/-- The step, where a change of an open document is replaced by an open of the new
text. -/
def reopening (session : Session) : Step → Step
  | .change uri (first :: others) =>
      match session.documents.get? uri with
      | none => .change uri (first :: others)
      | some current => .openText uri current.kind.languageId first.text
  | other => other

/-- The steps of a run, each replaced in the session that it is taken in. -/
def reopenings (providers : Providers) (session : Session) : List Step → List Step
  | [] => []
  | step :: rest =>
      session.reopening step :: (session.step providers step).1.reopenings providers rest

theorem step_reopening (providers : Providers) (session : Session) (step : Step) :
    (session.step providers step).1 = (session.step providers (session.reopening step)).1 ∧
      (session.step providers step).2.EqualButLog
        (session.step providers (session.reopening step)).2 := by
  fun_cases session.reopening step with
  | case1 uri first others absent => exact ⟨rfl, .refl _⟩
  | case2 uri first others current found => exact step_change_eq_reopen providers found first others
  | case3 => exact ⟨rfl, .refl _⟩

theorem run_reopenings (providers : Providers) (session : Session) (steps : List Step) :
    (session.run providers steps).1 =
        (session.run providers (session.reopenings providers steps)).1 ∧
      List.Forall₂ Report.EqualButLog (session.run providers steps).2
        (session.run providers (session.reopenings providers steps)).2 := by
  induction steps generalizing session with
  | nil => exact ⟨rfl, .nil⟩
  | cons step rest ih =>
      have first := session.step_reopening providers step
      have others := ih (session.step providers step).1
      rw [reopenings, run_cons, run_cons, ← first.1]
      exact ⟨others.1, .cons first.2 others.2⟩

/-! ## The law -/

/-- Changing an open document and opening the new text under the identifier of its
kind lead to the same session, in every state that a run reaches.  They publish the
same, or publish nothing, or end in the same panic, with the same provider calls.
The identifier is the one that the document was opened under.  Only the first of the
changes is of any account, and only the log tells the two ways apart.

A whole run can be rewritten so: with every change of an open document replaced by
an open, it ends in the same session, and step by step it reports the same. -/
theorem change_agrees_with_reopen (providers : Providers) (classifier : Classifier)
    (steps : List Step) :
    let session := ((initial classifier).run providers steps).1
    (∀ uri current first others, session.documents.get? uri = some current →
      let changed := session.step providers (.change uri (first :: others))
      let reopened := session.step providers (.openText uri current.kind.languageId first.text)
      changed.1 = reopened.1 ∧ changed.2.EqualButLog reopened.2 ∧
      ((∃ publication, changed.2.result = .published publication) ∨
        ∃ panic, changed.2.result = .panicked panic) ∧
      reopened.2.log = .opened uri current.kind :: .reopened :: changed.2.log ∧
      ∃ before text after, IsLast (Step.Settles uri) steps before
        (.openText uri current.kind.languageId text) after) ∧
    let rewritten :=
      (initial classifier).run providers ((initial classifier).reopenings providers steps)
    session = rewritten.1 ∧
      List.Forall₂ Report.EqualButLog ((initial classifier).run providers steps).2
        rewritten.2 := by
  intro session
  refine ⟨?_, run_reopenings providers (initial classifier) steps⟩
  intro uri current first others found changed reopened
  have same := step_change_eq_reopen providers found first others
  exact ⟨same.1, same.2, result_of_stored providers (effect_change found first others),
    log_reopen providers found first others, exists_opened found⟩

/-- A change under another configuration, whose diagnostics panic.  The document is
stored all the same, and its first text alone counts. -/
theorem change_agrees_with_reopen_panicking :
    let uri : Uri := ⟨"file:///a", by decide⟩
    let providers : Providers := ⟨fun _ _ => .error ⟨"bug"⟩, fun _ declared => .ok declared⟩
    let steps : List Step :=
      [.openText uri "magik" "a", .configure { enableChecks := false } true]
    let session := ((initial {}).run providers steps).1
    let changed := session.step providers (.change uri [{ text := "b" }, { text := "c" }])
    let reopened := session.step providers (.openText uri "magik" "b")
    changed.1 = reopened.1 ∧ changed.2.result = .panicked ⟨"bug"⟩ ∧
      reopened.2.result = .panicked ⟨"bug"⟩ ∧
      ∃ file, changed.1.documents.get? uri = some (.typedSource file) ∧ file.text = "b" ∧
        file.context.configuration.enableChecks = false := by
  intro uri providers steps session changed reopened
  have law := (change_agrees_with_reopen providers {} steps).1 uri _ { text := "b" }
    [{ text := "c" }] rfl
  have panics : changed.2.result = .panicked ⟨"bug"⟩ := rfl
  exact ⟨law.1, panics, law.2.1.result_eq.symm.trans panics, _, rfl, rfl, rfl⟩

end Session
end LanguageServer
