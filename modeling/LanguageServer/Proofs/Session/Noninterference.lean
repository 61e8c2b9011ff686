import LanguageServer.Proofs.Session.Delivery
import LanguageServer.Proofs.Session.Footprint

namespace LanguageServer

/-!
# Documents do not interfere

What happens to one document depends on the steps that name it and on the
settings of the session, and on nothing else.  Traffic on other documents may be
added, left out or reordered, with failed opens, panics and queries in flight
among it: no step that names the document can tell.

A step names the identifier of its document.  An await names the identifier of
the query that it waits for, which is not in the step itself; it is found in the
run, where the query was started.  This asks for names of queries that are used
once.

The proof compares every run with the run of the steps that concern the
document.  Two runs with the same such steps are then compared through it.
-/

/-! ## Steps that concern an identifier -/

/-- The query that a step starts under a name. -/
def Step.started? (id : String) : Step → Option Query
  | .start other asked => if other = id then some asked else none
  | _ => none

/-- The name under which a step starts a query. -/
def Step.startName? : Step → Option String
  | .start id _ => some id
  | _ => none

/-- The query that a run starts under a name. -/
def startedIn? (steps : List Step) (id : String) : Option Query :=
  steps.findSome? (Step.started? id)

/-- The queries of a run are started under distinct names. -/
def DistinctStarts (steps : List Step) : Prop := (steps.filterMap Step.startName?).Nodup

/-- The identifier that a step of a run names. -/
def Step.namedIn? (steps : List Step) : Step → Option Uri
  | .openText uri _ _ => some uri
  | .change uri _ => some uri
  | .close uri => some uri
  | .save uri => some uri
  | .lookUp uri => some uri
  | .query asked => some asked.uri
  | .start _ asked => some asked.uri
  | .await id => (startedIn? steps id).map Query.uri
  | .configure _ _ => none
  | .setFormatting _ => none

/-- Whether a step of a run names the identifier or sets something for the session
as a whole. -/
def Step.concerns (uri : Uri) (steps : List Step) (step : Step) : Bool :=
  step.configures || decide (step.namedIn? steps = some uri)

/-- The steps of a run that concern an identifier. -/
def projection (uri : Uri) (steps : List Step) : List Step :=
  steps.filter (Step.concerns uri steps)

theorem startedIn?_of_mem {steps : List Step} (distinct : DistinctStarts steps) {id : String}
    {query : Query} (member : Step.start id query ∈ steps) :
    startedIn? steps id = some query := by
  induction steps with
  | nil => exact absurd member List.not_mem_nil
  | cons step rest ih =>
      rw [startedIn?, List.findSome?_cons]
      rcases List.mem_cons.mp member with same | later
      · rw [← same]
        simp only [Step.started?, if_true]
      · have name : id ∈ rest.filterMap Step.startName? :=
          List.mem_filterMap.mpr ⟨_, later, rfl⟩
        have fresh : step.started? id = none := by
          cases step with
          | start other asked =>
              have parts := List.nodup_cons.mp distinct
              have different : ¬ other = id := by
                rintro rfl
                exact parts.1 name
              exact if_neg different
          | _ => rfl
        have others : DistinctStarts rest := by
          cases step with
          | start other asked => exact (List.nodup_cons.mp distinct).2
          | _ => exact distinct
        rw [fresh]
        exact ih others later

namespace Step

theorem namedIn?_of_subject? {step : Step} {uri : Uri} (steps : List Step)
    (about : step.subject? = some uri) : step.namedIn? steps = some uri := by
  cases step with
  | query asked => exact congrArg some (Query.uri_of_subject? about)
  | start id asked => exact congrArg some (Query.uri_of_subject? about)
  | await id => cases about
  | configure configuration diagnostics => cases about
  | setFormatting enabled => cases about
  | _ => exact about

/-- A step that starts or awaits a query names the identifier of the query that
the run starts under this name. -/
theorem namedIn?_of_name? {steps : List Step} (distinct : DistinctStarts steps) {step : Step}
    (member : step ∈ steps) {id : String} (named : step.name? = some id) :
    step.namedIn? steps = (startedIn? steps id).map Query.uri := by
  cases step with
  | start other asked =>
      cases named
      rw [startedIn?_of_mem distinct member]
      rfl
  | await other =>
      cases named
      rfl
  | _ => cases named

theorem not_configures_of_namedIn? {steps : List Step} {step : Step} {uri : Uri}
    (names : step.namedIn? steps = some uri) : step.configures = false := by
  cases step with
  | configure configuration diagnostics => cases names
  | setFormatting enabled => cases names
  | _ => rfl

/-- The queries of a run that are about an identifier. -/
def QueryOn (uri : Uri) (steps : List Step) (id : String) : Prop :=
  (startedIn? steps id).map Query.uri = some uri

theorem within_of_concerns {steps : List Step} (distinct : DistinctStarts steps) {uri : Uri}
    {step : Step} (member : step ∈ steps) (concerns : step.concerns uri steps = true) :
    step.Within (fun other => other = uri) (QueryOn uri steps) := by
  rw [Step.concerns, Bool.or_eq_true, decide_eq_true_eq] at concerns
  rcases concerns with configures | names
  · refine ⟨?_, ?_⟩
    · intro other about
      have silent := not_configures_of_namedIn? (namedIn?_of_subject? steps about)
      rw [configures] at silent
      cases silent
    · intro id named
      cases step with
      | start other asked => cases configures
      | await other => cases configures
      | _ => cases named
  · refine ⟨?_, ?_⟩
    · intro other about
      exact Option.some.inj ((namedIn?_of_subject? steps about).symm.trans names)
    · intro id named
      exact (namedIn?_of_name? distinct member named).symm.trans names

theorem apart_of_not_concerns {steps : List Step} (distinct : DistinctStarts steps) {uri : Uri}
    {step : Step} (member : step ∈ steps) (foreign : ¬ step.concerns uri steps = true) :
    step.Apart (fun other => other = uri) (QueryOn uri steps) := by
  rw [Step.concerns, Bool.or_eq_true, decide_eq_true_eq, not_or] at foreign
  refine ⟨?_, ?_, Bool.eq_false_iff.mpr foreign.1⟩
  · rintro other about rfl
    exact foreign.2 (namedIn?_of_subject? steps about)
  · intro id named asked
    exact foreign.2 ((namedIn?_of_name? distinct member named).trans asked)

end Step

/-! ## A run and its projection -/

namespace Session

/-- The steps that concern an identifier report what they report when they are
taken alone, and leave the identifier with the same document. -/
theorem run_projection (providers : Providers) (session : Session) {steps : List Step}
    (distinct : DistinctStarts steps) (uri : Uri) :
    (session.run providers steps).1.documents.get? uri =
        (session.run providers (projection uri steps)).1.documents.get? uri ∧
      retained (Step.concerns uri steps) steps (session.run providers steps).2 =
        (session.run providers (projection uri steps)).2 := by
  have compared :
      Agree (fun other => other = uri) (Step.QueryOn uri steps) (session.run providers steps).1
          (session.run providers (projection uri steps)).1 ∧
        retained (Step.concerns uri steps) steps (session.run providers steps).2 =
          (session.run providers (projection uri steps)).2 := by
    apply run_filter
    · intro step member concerns left right agree
      have within := Step.within_of_concerns distinct member concerns
      exact ⟨agree.report providers within, agree.step providers within⟩
    · intro step member foreign left right agree
      have apart := Step.apart_of_not_concerns distinct member foreign
      exact (Agree.of_apart providers left apart).trans agree
    · exact Agree.refl session
  exact ⟨compared.1.get? uri rfl, compared.2⟩

/-! ## Publications of other documents -/

end Session

/-- What is published for a document goes out under its own identifier. -/
theorem Publisher.uri_of_onStored {providers : Providers} {publisher : Publisher}
    {document : Document} {publication : Publication}
    (publishes : (Outcome.ofPublished
      (publisher.onStored providers document).result).publication? = some publication) :
    publication.uri = document.uri := by
  cases typed : document.typed? with
  | none =>
      simp only [onStored, typed] at publishes
      cases publishes
  | some file =>
      simp only [onStored, typed] at publishes
      by_cases enabled : publisher.enabled = true
      · rw [if_pos enabled] at publishes
        cases computed : (Report.call providers .diagnostics file).result with
        | error panic =>
            rw [computed] at publishes
            cases publishes
        | ok diagnostics =>
            rw [computed] at publishes
            cases publishes
            rfl
      · rw [if_neg enabled] at publishes
        cases publishes

namespace Session

/-- A step publishes for the identifier whose document it looks up, or for none.
The provider may panic here. -/
theorem subject?_of_publication? (providers : Providers) {session : Session} {step : Step}
    {publication : Publication}
    (publishes : (session.step providers step).2.result.publication? = some publication) :
    step.subject? = some publication.uri := by
  cases effect : session.effect step with
  | stored uri document =>
      rw [(report_of_stored providers effect).1] at publishes
      have own := Publisher.uri_of_onStored publishes
      apply @subject?_of_target?_effect session
      rw [effect, own, uri_of_effect_stored effect]
      rfl
  | dropped uri =>
      rw [publication?_of_dropped providers effect] at publishes
      cases publishes
      apply @subject?_of_target?_effect session
      rw [effect]
      rfl
  | kept =>
      rw [(report_of_kept providers effect).1] at publishes
      cases publishes

theorem publishedFor_of_other_subject (providers : Providers) (session : Session) {step : Step}
    {uri : Uri} (elsewhere : step.subject? ≠ some uri) :
    (session.step providers step).2.publishedFor uri = none := by
  rw [Report.publishedFor, Option.map_eq_none_iff, Option.filter_eq_none_iff]
  intro publication publishes here
  apply elsewhere
  rw [← of_decide_eq_true here]
  exact subject?_of_publication? providers publishes

theorem published_retained (providers : Providers) (session : Session) {uri : Uri}
    {keep : Step → Bool} {steps : List Step}
    (foreign : ∀ step ∈ steps, ¬ keep step = true → step.subject? ≠ some uri) :
    (session.run providers steps).2.filterMap (Report.publishedFor uri) =
      (retained keep steps (session.run providers steps).2).filterMap
        (Report.publishedFor uri) := by
  induction steps generalizing session with
  | nil => rfl
  | cons step rest ih =>
      have others := ih (session.step providers step).1
        (fun later member => foreign later (List.mem_cons_of_mem step member))
      rw [run_cons]
      by_cases keeps : keep step = true
      · rw [retained_cons_of_pos keeps, List.filterMap_cons, List.filterMap_cons, others]
      · have silent := publishedFor_of_other_subject providers session
          (foreign step List.mem_cons_self keeps)
        rw [retained_cons_of_neg keeps, List.filterMap_cons, silent]
        exact others

/-! ## Steps that commute -/

/-- A step leaves alone what it does not look up. -/
theorem agree_of_own_step (providers : Providers) (session : Session) {step : Step}
    (silent : step.configures = false) :
    Agree (fun uri => step.subject? ≠ some uri) (fun id => step.name? ≠ some id)
      (session.step providers step).1 session := by
  apply Agree.of_apart
  refine ⟨?_, ?_, silent⟩
  · intro uri about elsewhere
    exact elsewhere about
  · intro id named other
    exact other named

/-- Two steps with nothing to look up in common commute.  Each reports what it
reports when it comes first. -/
theorem step_comm (providers : Providers) (session : Session) {first second : Step}
    (subjects : ∀ uri, first.subject? = some uri → second.subject? ≠ some uri)
    (names : ∀ id, first.name? = some id → second.name? ≠ some id)
    (firstSilent : first.configures = false) (secondSilent : second.configures = false) :
    let one := (session.step providers first).1
    let other := (session.step providers second).1
    (one.step providers second).2 = (session.step providers second).2 ∧
      (other.step providers first).2 = (session.step providers first).2 ∧
      Same (one.step providers second).1 (other.step providers first).1 := by
  intro one other
  have afterFirst := agree_of_own_step providers session firstSilent
  have afterSecond := agree_of_own_step providers session secondSilent
  have secondWithin : second.Within (fun uri => first.subject? ≠ some uri)
      (fun id => first.name? ≠ some id) :=
    ⟨fun uri about shared => subjects uri shared about,
      fun id named shared => names id shared named⟩
  have firstWithin : first.Within (fun uri => second.subject? ≠ some uri)
      (fun id => second.name? ≠ some id) := ⟨subjects, names⟩
  refine ⟨afterFirst.report providers secondWithin,
    afterSecond.report providers firstWithin, ?_⟩
  -- What the first step does not look up is left to the second one in both
  -- orders, and the other way round; together this is everything.
  have late := afterFirst.step providers secondWithin
  have early := afterSecond.step providers firstWithin
  have keptByFirst := agree_of_own_step providers other firstSilent
  have keptBySecond := agree_of_own_step providers one secondSilent
  have away := late.trans keptByFirst.symm
  have back := keptBySecond.trans early.symm
  refine ⟨away.classifier, away.publisher, away.formattingEnabled, ?_, ?_⟩
  · intro uri _
    by_cases mine : first.subject? = some uri
    · exact back.get? uri (subjects uri mine)
    · exact away.get? uri mine
  · intro id _
    by_cases mine : first.name? = some id
    · exact back.inFlight id (names id mine)
    · exact away.inFlight id mine

/-- Nothing that comes later can tell in which order the two were taken. -/
theorem run_swap (providers : Providers) (session : Session) {first second : Step}
    (subjects : ∀ uri, first.subject? = some uri → second.subject? ≠ some uri)
    (names : ∀ id, first.name? = some id → second.name? ≠ some id)
    (firstSilent : first.configures = false) (secondSilent : second.configures = false)
    (after : List Step) :
    let inOrder := session.run providers (first :: second :: after)
    let swapped := session.run providers (second :: first :: after)
    Same inOrder.1 swapped.1 ∧
      ∃ one other later, inOrder.2 = one :: other :: later ∧
        swapped.2 = other :: one :: later := by
  intro inOrder swapped
  have commutes := step_comm providers session subjects names firstSilent secondSilent
  have later := @Agree.run providers _ _ _ _ commutes.2.2 after
    (fun step _ => ⟨fun _ _ => trivial, fun _ _ => trivial⟩)
  refine ⟨later.1, (session.step providers first).2, (session.step providers second).2,
    (((session.step providers second).1.step providers first).1.run providers after).2, ?_, ?_⟩
  · simp only [inOrder, run_cons, commutes.1, later.2]
  · simp only [swapped, run_cons, commutes.2.1]

/-! ## The law -/

/-- Take two runs from one session, with distinct names for the queries of each.
If the steps that concern an identifier are the same in both, then the identifier
ends with the same document, the same is published for it in the same order, and
each of these steps reports the same in both runs: the same result, the same
provider calls, the same events.

So two steps next to each other that name different identifiers may change
places.  Each reports what it reported before, and so do all others; the sessions
in the end cannot be told apart.  Identifiers are different as soon as a byte of
them is, and then no step on the one touches the other. -/
theorem documents_do_not_interfere (providers : Providers) (session : Session) :
    (∀ uri left right, DistinctStarts left → DistinctStarts right →
      projection uri left = projection uri right →
      let first := session.run providers left
      let second := session.run providers right
      first.1.documents.get? uri = second.1.documents.get? uri ∧
      first.2.filterMap (Report.publishedFor uri) =
        second.2.filterMap (Report.publishedFor uri) ∧
      retained (Step.concerns uri left) left first.2 =
        retained (Step.concerns uri right) right second.2) ∧
    (∀ before one other after uri otherUri,
      DistinctStarts (before ++ one :: other :: after) → uri ≠ otherUri →
      one.namedIn? (before ++ one :: other :: after) = some uri →
      other.namedIn? (before ++ one :: other :: after) = some otherUri →
      let inOrder := session.run providers (before ++ one :: other :: after)
      let swapped := session.run providers (before ++ other :: one :: after)
      Same inOrder.1 swapped.1 ∧
        ∃ earlier ones others later, earlier.length = before.length ∧
          inOrder.2 = earlier ++ ones :: others :: later ∧
          swapped.2 = earlier ++ others :: ones :: later) ∧
    ∀ uri other : Uri, (uri = other ↔ uri.text.toByteArray = other.text.toByteArray) ∧
      (uri.text.toByteArray ≠ other.text.toByteArray →
        ∀ (now : Session) (step : Step), step.subject? = some other →
          (now.step providers step).1.documents.get? uri = now.documents.get? uri ∧
          (now.step providers step).2.publishedFor uri = none) := by
  refine ⟨?_, ?_, ?_⟩
  · intro uri left right distinctLeft distinctRight same first second
    have one := run_projection providers session distinctLeft uri
    have two := run_projection providers session distinctRight uri
    have reports : retained (Step.concerns uri left) left first.2 =
        retained (Step.concerns uri right) right second.2 := by
      rw [one.2, two.2, same]
    have foreign (steps : List Step) :
        ∀ step ∈ steps, ¬ step.concerns uri steps = true → step.subject? ≠ some uri := by
      intro step _ unconcerned about
      apply unconcerned
      rw [Step.concerns, Bool.or_eq_true, decide_eq_true_eq]
      exact Or.inr (Step.namedIn?_of_subject? steps about)
    refine ⟨?_, ?_, reports⟩
    · rw [one.1, two.1, same]
    · rw [published_retained providers session (foreign left),
        published_retained providers session (foreign right), reports]
  · intro before one other after uri otherUri distinct different named otherNamed inOrder swapped
    let steps := before ++ one :: other :: after
    have member : one ∈ steps := List.mem_append_right before List.mem_cons_self
    have otherMember : other ∈ steps :=
      List.mem_append_right before (List.mem_cons_of_mem one List.mem_cons_self)
    have subjects : ∀ shared, one.subject? = some shared → other.subject? ≠ some shared := by
      intro shared about otherAbout
      have mine := named.symm.trans (Step.namedIn?_of_subject? steps about)
      have yours := otherNamed.symm.trans (Step.namedIn?_of_subject? steps otherAbout)
      exact different (Option.some.inj (mine.trans yours.symm))
    have names : ∀ id, one.name? = some id → other.name? ≠ some id := by
      intro id name otherName
      have mine := named.symm.trans (Step.namedIn?_of_name? distinct member name)
      have yours := otherNamed.symm.trans (Step.namedIn?_of_name? distinct otherMember otherName)
      exact different (Option.some.inj (mine.trans yours.symm))
    rcases run_swap providers (session.run providers before).1 subjects names
        (Step.not_configures_of_namedIn? named) (Step.not_configures_of_namedIn? otherNamed)
        after with ⟨indistinct, ones, others, later, taken, exchanged⟩
    simp only [inOrder, swapped, run_append]
    refine ⟨indistinct, (session.run providers before).2, ones, others, later,
      length_run_snd providers session before, ?_, ?_⟩
    · rw [taken]
    · rw [exchanged]
  · intro uri other
    have bytes : uri = other ↔ uri.text.toByteArray = other.text.toByteArray := by
      rw [String.toByteArray_inj]
      exact ⟨congrArg Uri.text, Uri.ext⟩
    refine ⟨bytes, ?_⟩
    intro different now step about
    have elsewhere : step.subject? ≠ some uri := by
      rw [about]
      rintro same
      exact different (congrArg (fun target => target.text.toByteArray) (Option.some.inj same).symm)
    refine ⟨?_, publishedFor_of_other_subject providers now elsewhere⟩
    rw [documents_step]
    apply Effect.get?_apply_of_ne
    intro touches
    exact elsewhere (subject?_of_target?_effect touches)

/-- Two runs on a document and one whose identifier differs in letter case.  The
one run opens, changes and closes the other document while a query is in flight,
the other run leaves it alone and awaits later; the query panics in both. -/
theorem documents_do_not_interfere_letter_case :
    let uri : Uri := ⟨"file:///a", by decide⟩
    let other : Uri := ⟨"FILE:///a", by decide⟩
    let providers : Providers := ⟨fun _ _ => .error ⟨"bug"⟩, fun _ declared => .ok declared⟩
    let query : Query := .document uri .foldingRange
    let left : List Step :=
      [.openText uri "product.def" "a", .openText other "module.def" "b", .start "q" query,
       .change other [{ text := "c" }], .await "q", .close other]
    let right : List Step := [.openText uri "product.def" "a", .start "q" query, .await "q"]
    let first := (initial {}).run providers left
    let second := (initial {}).run providers right
    first.1.documents.get? uri = second.1.documents.get? uri ∧
      retained (Step.concerns uri left) left first.2 = second.2 ∧
      Same first.1 ((initial {}).run providers
        [.openText other "module.def" "b", .openText uri "product.def" "a", .start "q" query,
         .change other [{ text := "c" }], .await "q", .close other]).1 := by
  intro uri other providers query left right first second
  have law := documents_do_not_interfere providers (initial {})
  have distinctLeft : DistinctStarts left := List.pairwise_singleton _ "q"
  have distinctRight : DistinctStarts right := List.pairwise_singleton _ "q"
  have different : uri ≠ other := by decide
  have apart := law.1 uri left right distinctLeft distinctRight rfl
  have swap := law.2.1 [] (.openText uri "product.def" "a") (.openText other "module.def" "b")
    (left.drop 2) uri other distinctLeft different rfl rfl
  exact ⟨apart.1, apart.2.2, swap.1⟩

end Session
end LanguageServer
