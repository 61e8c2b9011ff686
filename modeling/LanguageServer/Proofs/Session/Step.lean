import LanguageServer.Session
import Mathlib.Data.List.Induction

namespace LanguageServer

/-!
# What a step can do

The open documents change in two ways only: a document that was just built is
stored, or an identifier loses its document.  `Session.effect` says which of
the two a step does, reading the session before the step.  Every other part of
the session has its own kind of step that changes it.

The laws of this module say what one step does to each part of a session and
what it publishes.  Statements about runs are derived from them by induction
and do not open the step function again.
-/

/-! ## Runs -/

namespace Session

/-- A session before its first step: no document is open, both switches are
on, and no query is in flight. -/
def initial (classifier : Classifier) : Session := { classifier }

/-- A run in two parts goes on from the session that its first part left. -/
theorem run_append (providers : Providers) (session : Session) (first second : List Step) :
    session.run providers (first ++ second) =
      (((session.run providers first).1.run providers second).1,
        (session.run providers first).2 ++
          ((session.run providers first).1.run providers second).2) := by
  induction first generalizing session with
  | nil => rfl
  | cons step rest ih =>
      simp only [List.cons_append, run]
      rw [ih]

theorem run_append_fst (providers : Providers) (session : Session) (first second : List Step) :
    (session.run providers (first ++ second)).1 =
      ((session.run providers first).1.run providers second).1 := by
  rw [run_append]

theorem run_append_snd (providers : Providers) (session : Session) (first second : List Step) :
    (session.run providers (first ++ second)).2 =
      (session.run providers first).2 ++
        ((session.run providers first).1.run providers second).2 := by
  rw [run_append]

theorem run_cons (providers : Providers) (session : Session) (step : Step)
    (rest : List Step) :
    session.run providers (step :: rest) =
      (((session.step providers step).1.run providers rest).1,
        (session.step providers step).2 ::
          ((session.step providers step).1.run providers rest).2) :=
  rfl

/-- The last step of a run is taken in the session that the others left. -/
theorem run_concat_fst (providers : Providers) (session : Session) (steps : List Step)
    (step : Step) :
    (session.run providers (steps ++ [step])).1 =
      ((session.run providers steps).1.step providers step).1 := by
  rw [run_append_fst]
  rfl

theorem run_concat_snd (providers : Providers) (session : Session) (steps : List Step)
    (step : Step) :
    (session.run providers (steps ++ [step])).2 =
      (session.run providers steps).2 ++
        [((session.run providers steps).1.step providers step).2] := by
  rw [run_append_snd]
  rfl

/-- A run gives one report for each of its steps. -/
theorem length_run_snd (providers : Providers) (session : Session) (steps : List Step) :
    (session.run providers steps).2.length = steps.length := by
  induction steps generalizing session with
  | nil => rfl
  | cons step rest ih =>
      rw [run_cons, List.length_cons, List.length_cons, ih]

/-- The report at the place of a step is that of the step, taken in the
session that the steps before it left. -/
theorem report_at (providers : Providers) (session : Session) (before after : List Step)
    (step : Step) :
    (session.run providers (before ++ step :: after)).2[before.length]? =
      some ((session.run providers before).1.step providers step).2 := by
  have place := length_run_snd providers session before
  rw [run_append_snd, run_cons, List.getElem?_append_right (Nat.le_of_eq place), place,
    Nat.sub_self]
  rfl

/-- The same for a place that is given by its number. -/
theorem report_of_getElem? (providers : Providers) (session : Session) {steps : List Step}
    {place : Nat} {step : Step} (taken : steps[place]? = some step) :
    (session.run providers steps).2[place]? =
      some ((session.run providers (steps.take place)).1.step providers step).2 := by
  rcases List.getElem?_eq_some_iff.mp taken with ⟨within, rfl⟩
  have law := report_at providers session (steps.take place) (steps.drop (place + 1)) steps[place]
  rw [← List.drop_eq_getElem_cons within, List.take_append_drop,
    List.length_take_of_le (Nat.le_of_lt within)] at law
  exact law

/-! ## Effects on the open documents -/

/-- What a step does to the open documents. -/
inductive Effect where
  | stored (uri : Uri) (document : Document)
  | dropped (uri : Uri)
  | kept

/-- The documents after an effect. -/
def Effect.apply (documents : DocumentSet) : Effect → DocumentSet
  | .stored uri document => documents.put uri document
  | .dropped uri => documents.remove uri
  | .kept => documents

/-- The document of an identifier after an effect.  Only an effect on that very
identifier is seen there. -/
theorem Effect.get?_apply (effect : Effect) (documents : DocumentSet) (uri : Uri) :
    (effect.apply documents).get? uri =
      match effect with
      | .stored target document =>
          if target = uri then some document else documents.get? uri
      | .dropped target => if target = uri then none else documents.get? uri
      | .kept => documents.get? uri := by
  cases effect with
  | stored target document => exact Table.get?_put documents target uri document
  | dropped target => exact Table.get?_remove documents target uri
  | kept => rfl

/-- The identifier an effect is on. -/
def Effect.target? : Effect → Option Uri
  | .stored uri _ => some uri
  | .dropped uri => some uri
  | .kept => none

theorem Effect.get?_apply_of_ne {effect : Effect} {uri : Uri}
    (elsewhere : effect.target? ≠ some uri) (documents : DocumentSet) :
    (effect.apply documents).get? uri = documents.get? uri := by
  rw [get?_apply]
  cases effect with
  | stored target document => exact if_neg (fun same => elsewhere (congrArg some same))
  | dropped target => exact if_neg (fun same => elsewhere (congrArg some same))
  | kept => rfl

/-- The effect of a step.  An open stores a document unless its language
identifier names no kind; a change does so when it carries a text and the
document is open; a close drops whatever there is. -/
def effect (session : Session) : Step → Effect
  | .openText uri language text =>
      match session.classifier.classify? language uri text with
      | none => .kept
      | some document => .stored uri document
  | .change uri changes =>
      match changes, session.documents.get? uri with
      | first :: _, some current =>
          .stored uri (session.classifier.build current.kind uri first.text)
      | _, _ => .kept
  | .close uri => .dropped uri
  | _ => .kept

/-- A stored document was built by an open under an identifier that names its
kind, or by a change of a document that was open with its kind. -/
theorem effect_stored_cases {session : Session} {step : Step} {uri : Uri}
    {document : Document} (stores : session.effect step = .stored uri document) :
    (∃ language text kind, step = .openText uri language text ∧
        DocumentKind.ofLanguageId? language = some kind ∧
        document = session.classifier.build kind uri text) ∨
      ∃ first others current, step = .change uri (first :: others) ∧
        session.documents.get? uri = some current ∧
        document = session.classifier.build current.kind uri first.text := by
  cases step with
  | openText target language text =>
      left
      simp only [effect, Classifier.classify?] at stores
      cases named : DocumentKind.ofLanguageId? language with
      | none =>
          rw [named] at stores
          cases stores
      | some kind =>
          rw [named] at stores
          cases stores
          exact ⟨language, text, kind, rfl, named, rfl⟩
  | change target changes =>
      right
      cases changes with
      | nil => cases stores
      | cons first others =>
          simp only [effect] at stores
          cases found : session.documents.get? target with
          | none =>
              rw [found] at stores
              cases stores
          | some current =>
              rw [found] at stores
              cases stores
              exact ⟨first, others, current, rfl, found, rfl⟩
  | _ => cases stores

theorem effect_dropped_cases {session : Session} {step : Step} {uri : Uri}
    (drops : session.effect step = .dropped uri) : step = .close uri := by
  cases step with
  | openText target language text =>
      simp only [effect] at drops
      cases classified : session.classifier.classify? language target text <;>
        rw [classified] at drops <;> cases drops
  | change target changes =>
      cases changes with
      | nil => cases drops
      | cons first others =>
          simp only [effect] at drops
          cases found : session.documents.get? target <;> rw [found] at drops <;> cases drops
  | close target =>
      cases drops
      rfl
  | _ => cases drops

/-- A document is stored under the identifier it was built for. -/
theorem uri_of_effect_stored {session : Session} {step : Step} {uri : Uri}
    {document : Document} (stores : session.effect step = .stored uri document) :
    document.uri = uri := by
  rcases effect_stored_cases stores with
    ⟨language, text, kind, rfl, named, rfl⟩ | ⟨first, others, current, rfl, found, rfl⟩
  · exact Classifier.uri_build session.classifier kind uri text
  · exact Classifier.uri_build session.classifier current.kind uri first.text

end Session

/-! ## The session after a step -/

namespace Step

/-- The analysis configuration that a step sets, if it sets one. -/
def configuration? : Step → Option AnalysisConfiguration
  | .configure configuration _ => some configuration
  | _ => none

/-- The switch for diagnostics as a step sets it, if it does. -/
def publishing? : Step → Option Bool
  | .configure _ diagnostics => some diagnostics
  | _ => none

/-- The switch for formatting as a step sets it, if it does. -/
def formatting? : Step → Option Bool
  | .setFormatting enabled => some enabled
  | _ => none

end Step

namespace Session

/-- The queries in flight after a step.  A query enters with the snapshot of
its dispatch and stays until it is awaited. -/
def inFlightAfter (session : Session) : Step → Table String Pending
  | .start id query => session.inFlight.put id (session.dispatch query).result
  | .await id => session.inFlight.remove id
  | _ => session.inFlight

/-- Everything that a step does to the session.  The providers have no part in
it: they decide what is reported, not what is kept. -/
theorem step_fst (providers : Providers) (session : Session) (step : Step) :
    (session.step providers step).1 =
      { documents := (session.effect step).apply session.documents
        classifier :=
          ⟨session.classifier.definitions,
            step.configuration?.getD session.classifier.configuration⟩
        publisher := ⟨step.publishing?.getD session.publisher.enabled⟩
        formattingEnabled := step.formatting?.getD session.formattingEnabled
        inFlight := session.inFlightAfter step } := by
  cases step with
  | openText uri language text =>
      simp only [Session.step, openText, effect]
      cases session.classifier.classify? language uri text <;> rfl
  | change uri changes =>
      cases changes with
      | nil => rfl
      | cons first others =>
          simp only [Session.step, change, effect]
          cases session.documents.get? uri <;> rfl
  | await id =>
      simp only [Session.step, await, inFlightAfter]
      cases found : session.inFlight.get? id with
      | none =>
          rw [Table.remove_of_get?_eq_none found]
          rfl
      | some pending => rfl
  | close uri => rfl
  | save uri => rfl
  | lookUp uri => rfl
  | configure configuration diagnostics => rfl
  | setFormatting enabled => rfl
  | query query => rfl
  | start id query => rfl

/-- A step that stores a document changes nothing else. -/
theorem step_of_stored (providers : Providers) {session : Session} {step : Step} {uri : Uri}
    {document : Document} (stores : session.effect step = .stored uri document) :
    (session.step providers step).1 =
      { session with documents := session.documents.put uri document } := by
  rw [step_fst, stores]
  rcases effect_stored_cases stores with
    ⟨language, text, kind, rfl, _, _⟩ | ⟨change, rest, current, rfl, _, _⟩
  · rfl
  · rfl

theorem documents_step (providers : Providers) (session : Session) (step : Step) :
    (session.step providers step).1.documents =
      (session.effect step).apply session.documents := by
  rw [step_fst]

theorem inFlight_step (providers : Providers) (session : Session) (step : Step) :
    (session.step providers step).1.inFlight = session.inFlightAfter step := by
  rw [step_fst]

/-- Dispatching a query calls no provider. -/
theorem calls_dispatch (session : Session) (query : Query) :
    (session.dispatch query).calls = [] := by
  cases query with
  | document uri inquiry =>
      simp only [dispatch]
      cases session.documents.get? uri <;> rfl
  | source uri inquiry =>
      simp only [dispatch]
      by_cases disabled : inquiry.operation = .formatting ∧ session.formattingEnabled = false
      · rw [if_pos disabled]
      · rw [if_neg disabled]
        cases (session.documents.get? uri).bind Document.typed? <;> rfl
  | subtypes item => rfl
  | supertypes item => rfl

end Session

/-! ## What documents are built with -/

/-- The configuration that the last configuring step of a run set; `earlier`
when no step did. -/
def configured (earlier : AnalysisConfiguration) (steps : List Step) :
    AnalysisConfiguration :=
  (steps.reverse.findSome? Step.configuration?).getD earlier

theorem configured_concat (earlier : AnalysisConfiguration) (steps : List Step)
    (step : Step) :
    configured earlier (steps ++ [step]) =
      step.configuration?.getD (configured earlier steps) := by
  rw [configured, List.reverse_append, List.reverse_singleton, List.singleton_append,
    List.findSome?_cons]
  cases step.configuration? <;> rfl

/-- After a run new documents are built with the configuration that its last
configuring step set.  The shared definitions are those of the beginning. -/
theorem Session.classifier_run (providers : Providers) (session : Session)
    (steps : List Step) :
    (session.run providers steps).1.classifier =
      ⟨session.classifier.definitions,
        configured session.classifier.configuration steps⟩ := by
  induction steps using List.reverseRecOn with
  | nil => rfl
  | append_singleton steps step ih =>
      rw [run_concat_fst, step_fst, ih, configured_concat]

end LanguageServer
