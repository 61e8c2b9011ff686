import LanguageServer.Proofs.Session.Dispatch

namespace LanguageServer

/-!
# What a step reads and what it leaves alone

A step looks up at most one document and at most one query in flight.  Beyond
these it reads what belongs to the session as a whole: the classifier and the
two switches.  Two sessions that agree on all this report the same for the step,
however different they are elsewhere, and they agree on the same things
afterwards.  A step that looks up none of the documents and queries on which two
sessions agree, and that configures nothing, keeps their agreement even when
only one of them takes it.

Two runs are compared by a relation between their sessions.  The comparison of a
run with the run of some of its steps is an induction that is made here once, for
every relation.
-/

/-! ## The footprint of a step -/

namespace Step

/-- The identifier whose document a step looks up. -/
def subject? : Step → Option Uri
  | .openText uri _ _ => some uri
  | .change uri _ => some uri
  | .close uri => some uri
  | .save uri => some uri
  | .lookUp uri => some uri
  | .query asked => asked.subject?
  | .start _ asked => asked.subject?
  | .await _ => none
  | .configure _ _ => none
  | .setFormatting _ => none

/-- The name under which a step starts or awaits a query. -/
def name? : Step → Option String
  | .start id _ => some id
  | .await id => some id
  | _ => none

/-- Whether a step sets something for the session as a whole. -/
def configures : Step → Bool
  | .configure _ _ => true
  | .setFormatting _ => true
  | _ => false

theorem settings_of_not_configures {step : Step} (silent : step.configures = false) :
    step.configuration? = none ∧ step.publishing? = none ∧ step.formatting? = none := by
  cases step with
  | configure configuration diagnostics => cases silent
  | setFormatting enabled => cases silent
  | _ => exact ⟨rfl, rfl, rfl⟩

theorem names_iff_name? {id : String} {step : Step} :
    step.Names id ↔ step.name? = some id := by
  cases step <;> simp [Names, Starts, awaits, name?]

/-- The step looks up nothing but these documents and queries. -/
structure Within (documents : Uri → Prop) (queries : String → Prop) (step : Step) :
    Prop where
  subject : ∀ uri, step.subject? = some uri → documents uri
  name : ∀ id, step.name? = some id → queries id

/-- The step looks up none of these documents and queries, and configures
nothing. -/
structure Apart (documents : Uri → Prop) (queries : String → Prop) (step : Step) :
    Prop where
  subject : ∀ uri, step.subject? = some uri → ¬ documents uri
  name : ∀ id, step.name? = some id → ¬ queries id
  configures : step.configures = false

end Step

namespace Session

/-- A step changes the document of its own subject, or none. -/
theorem subject?_of_target?_effect {session : Session} {step : Step} {uri : Uri}
    (touches : (session.effect step).target? = some uri) : step.subject? = some uri := by
  cases effect : session.effect step with
  | stored target document =>
      rw [effect] at touches
      cases touches
      rcases effect_stored_cases effect with
        ⟨language, text, kind, rfl, _, _⟩ | ⟨first, others, current, rfl, _, _⟩
      · rfl
      · rfl
  | dropped target =>
      rw [effect] at touches
      cases touches
      rw [effect_dropped_cases effect]
      rfl
  | kept =>
      rw [effect] at touches
      cases touches

/-! ## Agreement of two sessions -/

/-- The sessions agree on what they hold as a whole, on these documents and on
these queries. -/
structure Agree (documents : Uri → Prop) (queries : String → Prop)
    (left right : Session) : Prop where
  classifier : left.classifier = right.classifier
  publisher : left.publisher = right.publisher
  formattingEnabled : left.formattingEnabled = right.formattingEnabled
  get? : ∀ uri, documents uri → left.documents.get? uri = right.documents.get? uri
  inFlight : ∀ id, queries id → left.inFlight.get? id = right.inFlight.get? id

/-- The sessions agree on everything that a step can look up. -/
def Same : Session → Session → Prop := Agree (fun _ => True) (fun _ => True)

namespace Agree

variable {documents : Uri → Prop} {queries : String → Prop} {left right : Session}

theorem refl (session : Session) : Agree documents queries session session where
  classifier := rfl
  publisher := rfl
  formattingEnabled := rfl
  get? := fun _ _ => rfl
  inFlight := fun _ _ => rfl

theorem symm (agree : Agree documents queries left right) :
    Agree documents queries right left where
  classifier := agree.classifier.symm
  publisher := agree.publisher.symm
  formattingEnabled := agree.formattingEnabled.symm
  get? := fun uri member => (agree.get? uri member).symm
  inFlight := fun id member => (agree.inFlight id member).symm

theorem trans {middle : Session} (first : Agree documents queries left middle)
    (second : Agree documents queries middle right) : Agree documents queries left right where
  classifier := first.classifier.trans second.classifier
  publisher := first.publisher.trans second.publisher
  formattingEnabled := first.formattingEnabled.trans second.formattingEnabled
  get? := fun uri member => (first.get? uri member).trans (second.get? uri member)
  inFlight := fun id member => (first.inFlight id member).trans (second.inFlight id member)

theorem dispatch (agree : Agree documents queries left right) {query : Query}
    (within : ∀ uri, query.subject? = some uri → documents uri) :
    left.dispatch query = right.dispatch query := by
  cases query with
  | document uri inquiry => simp only [Session.dispatch, agree.get? uri (within uri rfl)]
  | source uri inquiry =>
      simp only [Session.dispatch, agree.get? uri (within uri rfl), agree.formattingEnabled]
  | subtypes item => rfl
  | supertypes item => rfl

theorem effect (agree : Agree documents queries left right) {step : Step}
    (within : step.Within documents queries) : left.effect step = right.effect step := by
  cases step with
  | openText uri language text => simp only [Session.effect, agree.classifier]
  | change uri changes =>
      simp only [Session.effect, agree.classifier, agree.get? uri (within.subject uri rfl)]
  | _ => rfl

/-- Sessions that agree on what a step looks up report the same for it. -/
theorem report (providers : Providers) (agree : Agree documents queries left right)
    {step : Step} (within : step.Within documents queries) :
    (left.step providers step).2 = (right.step providers step).2 := by
  cases step with
  | openText uri language text =>
      have replaces : left.documents.contains uri = right.documents.contains uri :=
        congrArg Option.isSome (agree.get? uri (within.subject uri rfl))
      simp only [Session.step, openText, agree.classifier]
      cases right.classifier.classify? language uri text with
      | none => rfl
      | some document => simp only [store, replaces, agree.publisher]
  | change uri changes =>
      cases changes with
      | nil => rfl
      | cons first others =>
          simp only [Session.step, change, agree.get? uri (within.subject uri rfl)]
          cases right.documents.get? uri with
          | none => rfl
          | some current => simp only [store, agree.classifier, agree.publisher]
  | close uri =>
      simp only [Session.step, close, agree.get? uri (within.subject uri rfl)]
  | lookUp uri => simp only [Session.step, agree.get? uri (within.subject uri rfl)]
  | query query => simp only [Session.step, ask, agree.dispatch within.subject]
  | start id query => simp only [Session.step, start, agree.dispatch within.subject]
  | await id => rw [report_await, report_await, agree.inFlight id (within.name id rfl)]
  | save uri => rfl
  | configure configuration diagnostics => rfl
  | setFormatting enabled => rfl

/-- They agree on the same things when both have taken the step. -/
theorem step (providers : Providers) (agree : Agree documents queries left right)
    {step : Step} (within : step.Within documents queries) :
    Agree documents queries (left.step providers step).1 (right.step providers step).1 := by
  rw [step_fst, step_fst]
  refine ⟨?_, ?_, ?_, ?_, ?_⟩
  · simp only [agree.classifier]
  · simp only [agree.publisher]
  · simp only [agree.formattingEnabled]
  · intro uri member
    simp only [Effect.get?_apply, agree.effect within, agree.get? uri member]
  · intro id member
    have before := agree.inFlight id member
    cases step with
    | start other query =>
        simp only [inFlightAfter, Table.get?_put, agree.dispatch within.subject, before]
    | await other => simp only [inFlightAfter, Table.get?_remove, before]
    | _ => exact before

/-- A step that is apart from what the sessions agree on does not end their
agreement, although only one of them takes it. -/
theorem of_apart (providers : Providers) (session : Session) {step : Step}
    (apart : step.Apart documents queries) :
    Agree documents queries (session.step providers step).1 session := by
  have settings := Step.settings_of_not_configures apart.configures
  refine ⟨?_, ?_, ?_, ?_, ?_⟩
  · rw [step_fst, settings.1]
    rfl
  · rw [step_fst, settings.2.1]
    rfl
  · rw [step_fst, settings.2.2]
    rfl
  · intro uri member
    rw [documents_step]
    apply Effect.get?_apply_of_ne
    intro touches
    exact apart.subject uri (subject?_of_target?_effect touches) member
  · intro id member
    apply inFlight_step_of_apart
    intro names
    exact apart.name id (Step.names_iff_name?.mp names) member

end Agree
end Session

/-! ## The run of some steps -/

/-- The reports of those steps of a run that are kept. -/
def retained (keep : Step → Bool) (steps : List Step) (reports : List (Report Outcome)) :
    List (Report Outcome) :=
  ((steps.zip reports).filter fun taken => keep taken.1).map Prod.snd

theorem retained_cons_of_pos {keep : Step → Bool} {step : Step} (kept : keep step = true)
    (steps : List Step) (report : Report Outcome) (reports : List (Report Outcome)) :
    retained keep (step :: steps) (report :: reports) =
      report :: retained keep steps reports := by
  simp only [retained, List.zip_cons_cons, List.filter_cons, kept, if_true, List.map_cons]

theorem retained_cons_of_neg {keep : Step → Bool} {step : Step} (dropped : ¬ keep step = true)
    (steps : List Step) (report : Report Outcome) (reports : List (Report Outcome)) :
    retained keep (step :: steps) (report :: reports) = retained keep steps reports := by
  simp only [retained, List.zip_cons_cons, List.filter_cons, if_neg dropped]

namespace Session

/-- A run is compared with the run of the steps that are kept.  A relation that
the kept steps preserve, and that is preserved when only the first session takes
a step that is dropped, holds at the end; and the kept steps report the same in
both runs, if they do so one by one. -/
theorem run_filter {providers : Providers} {related : Session → Session → Prop}
    {keep : Step → Bool} {steps : List Step}
    (kept : ∀ step ∈ steps, keep step = true → ∀ left right, related left right →
      (left.step providers step).2 = (right.step providers step).2 ∧
        related (left.step providers step).1 (right.step providers step).1)
    (dropped : ∀ step ∈ steps, ¬ keep step = true → ∀ left right, related left right →
      related (left.step providers step).1 right)
    {left right : Session} (start : related left right) :
    related (left.run providers steps).1 (right.run providers (steps.filter keep)).1 ∧
      retained keep steps (left.run providers steps).2 =
        (right.run providers (steps.filter keep)).2 := by
  induction steps generalizing left right with
  | nil => exact ⟨start, rfl⟩
  | cons step rest ih =>
      have others := @ih (fun later member => kept later (List.mem_cons_of_mem step member))
        (fun later member => dropped later (List.mem_cons_of_mem step member))
      rw [run_cons]
      by_cases keeps : keep step = true
      · have first := kept step List.mem_cons_self keeps left right start
        have later := others first.2
        rw [List.filter_cons_of_pos keeps, run_cons, retained_cons_of_pos keeps, first.1]
        exact ⟨later.1, congrArg (List.cons _) later.2⟩
      · have later := others (dropped step List.mem_cons_self keeps left right start)
        rw [List.filter_cons_of_neg keeps, retained_cons_of_neg keeps]
        exact later

/-- Two sessions that agree on all that a run looks up cannot be told apart by
it. -/
theorem Agree.run (providers : Providers) {documents : Uri → Prop} {queries : String → Prop}
    {left right : Session} (agree : Agree documents queries left right) {steps : List Step}
    (within : ∀ step ∈ steps, step.Within documents queries) :
    Agree documents queries (left.run providers steps).1 (right.run providers steps).1 ∧
      (left.run providers steps).2 = (right.run providers steps).2 := by
  induction steps generalizing left right with
  | nil => exact ⟨agree, rfl⟩
  | cons step rest ih =>
      have first := within step List.mem_cons_self
      have others := ih (agree.step providers first)
        (fun later member => within later (List.mem_cons_of_mem step member))
      rw [run_cons, run_cons, agree.report providers first]
      exact ⟨others.1, congrArg (List.cons _) others.2⟩

end Session
end LanguageServer
