import LanguageServer.Proofs.Session.Step

namespace LanguageServer

/-!
# Queries in flight are isolated from the session

A query that was started is a pending answer, and the pending answer holds the
snapshot it was dispatched with.  Nothing that happens to the session later
reaches it: not a change or a close of its document, not a new configuration,
not the switch for formatting, and not another query.  So awaiting it gives what
asking it at once would have given, a panic of a provider included.

The statements are about reports: the result, the provider calls and the events
logged.  They hold in every state of a session, reachable or not, because they
use nothing about the state but what is in flight.
-/

/-! ## Steps that name a query in flight -/

namespace Step

/-- The step starts a query under a name. -/
def Starts (id : String) : Step → Prop
  | .start other _ => other = id
  | _ => False

/-- The step awaits the query with a name. -/
def awaits (id : String) : Step → Bool
  | .await other => decide (other = id)
  | _ => false

/-- The step starts or awaits a query under a name. -/
def Names (id : String) (step : Step) : Prop := step.Starts id ∨ step.awaits id = true

theorem eq_await_of_awaits {id : String} {step : Step} (awaits : step.awaits id = true) :
    step = .await id := by
  cases step with
  | await other =>
      have same : other = id := of_decide_eq_true awaits
      rw [same]
  | _ => cases awaits

end Step

namespace Session

/-- A step that does not name a query in flight leaves it there, with the
snapshot it was dispatched with. -/
theorem inFlight_step_of_apart (providers : Providers) (session : Session) {id : String}
    {step : Step} (apart : ¬ step.Names id) :
    (session.step providers step).1.inFlight.get? id = session.inFlight.get? id := by
  rw [inFlight_step]
  cases step with
  | start other query =>
      have different : ¬ other = id := fun same => apart (Or.inl same)
      rw [inFlightAfter, Table.get?_put, if_neg different]
  | await other =>
      have different : ¬ other = id := fun same => apart (Or.inr (decide_eq_true same))
      rw [inFlightAfter, Table.get?_remove, if_neg different]
  | _ => rfl

theorem inFlight_run_of_apart (providers : Providers) (session : Session) {id : String}
    {steps : List Step} (apart : ∀ step ∈ steps, ¬ step.Names id) :
    (session.run providers steps).1.inFlight.get? id = session.inFlight.get? id := by
  induction steps generalizing session with
  | nil => rfl
  | cons step rest ih =>
      have first := inFlight_step_of_apart providers session (apart step List.mem_cons_self)
      have others := ih (session.step providers step).1
        (fun later member => apart later (List.mem_cons_of_mem step member))
      rw [run_cons, others, first]

/-! ## Reports of a query -/

/-- The report of awaiting what is in flight under a name. -/
def awaited (providers : Providers) : Option Pending → Report Outcome
  | none => { result := .notInFlight }
  | some pending => pending.await providers

/-- The report of an await is decided by what is in flight; no other part of the
session is read. -/
theorem report_await (providers : Providers) (session : Session) (id : String) :
    (session.step providers (.await id)).2 =
      awaited providers (session.inFlight.get? id) := by
  simp only [Session.step, await]
  cases session.inFlight.get? id <;> rfl

theorem inFlight_start (providers : Providers) (session : Session) (id : String)
    (query : Query) :
    (session.step providers (.start id query)).1.inFlight.get? id =
      some (session.dispatch query).result := by
  rw [inFlight_step, inFlightAfter, Table.get?_put, if_pos rfl]

/-! ## Awaiting later and asking at once -/

/-- The report of the first step of a run that awaits a name. -/
def firstAwait (id : String) :
    List Step → List (Report Outcome) → Option (Report Outcome)
  | step :: steps, report :: reports =>
      if step.awaits id = true then some report else firstAwait id steps reports
  | _, _ => none

/-- In a run that does not use a name again, the first await of it reports on
what was in flight when the run began. -/
theorem firstAwait_run (providers : Providers) (session : Session) {id : String}
    {steps : List Step} (unused : ∀ step ∈ steps, ¬ step.Starts id)
    (member : Step.await id ∈ steps) :
    firstAwait id steps (session.run providers steps).2 =
      some (awaited providers (session.inFlight.get? id)) := by
  induction steps generalizing session with
  | nil => exact absurd member List.not_mem_nil
  | cons step rest ih =>
      rw [run_cons, firstAwait]
      by_cases awaits : step.awaits id = true
      · rw [if_pos awaits, Step.eq_await_of_awaits awaits, report_await]
      · have later : Step.await id ∈ rest := by
          rcases List.mem_cons.mp member with same | later
          · refine absurd ?_ awaits
            rw [← same]
            exact decide_eq_true rfl
          · exact later
        have apart : ¬ step.Names id := by
          rintro (starts | awaiting)
          · exact unused step List.mem_cons_self starts
          · exact awaits awaiting
        have others := ih (session.step providers step).1
          (fun other among => unused other (List.mem_cons_of_mem step among)) later
        rw [if_neg awaits, others, inFlight_step_of_apart providers session apart]

/-- Snapshot isolation.  A query that is started now and awaited after any steps
that do not name it reports what asking it now reports: the same answer or the
same failure, and the same provider calls.  Its events are those of the dispatch
followed by those of the await.

The calls are counted at the await, although the worker may run from the dispatch on,
and a query that is never awaited counts none.  The job is the same at both moments,
so it is the same calls wherever they are counted.

Queries that are in flight do not influence each other either.  However two runs
go on from one session, and in whatever order they await, the first await of a
name reports the same in both, as long as the name is not used again before. -/
theorem await_eq_query_at_start (providers : Providers) (session : Session) (id : String) :
    (∀ (query : Query) (between after : List Step),
      (∀ step ∈ between, ¬ step.Names id) →
        let now := (session.step providers (.query query)).2
        let reports :=
          (session.run providers (.start id query :: (between ++ .await id :: after))).2
        ∃ dispatched late, reports[0]? = some dispatched ∧
          reports[between.length + 1]? = some late ∧
          late.result = now.result ∧ late.calls = now.calls ∧
          dispatched.calls = [] ∧ dispatched.log ++ late.log = now.log) ∧
      ∀ left right : List Step,
        (∀ step ∈ left, ¬ step.Starts id) → (∀ step ∈ right, ¬ step.Starts id) →
        Step.await id ∈ left → Step.await id ∈ right →
        firstAwait id left (session.run providers left).2 =
          firstAwait id right (session.run providers right).2 := by
  constructor
  · intro query between after apart now reports
    let started := (session.step providers (.start id query)).1
    have pending : (started.run providers between).1.inFlight.get? id =
        some (session.dispatch query).result := by
      rw [inFlight_run_of_apart providers started apart]
      exact inFlight_start providers session id query
    have late : reports[between.length + 1]? =
        some ((session.dispatch query).result.await providers) := by
      have found := report_at providers started between after (.await id)
      rw [report_await, pending] at found
      exact found
    refine ⟨_, _, rfl, late, rfl, rfl, ?_, rfl⟩
    exact calls_dispatch session query
  · intro left right unusedLeft unusedRight awaitedLeft awaitedRight
    rw [firstAwait_run providers session unusedLeft awaitedLeft,
      firstAwait_run providers session unusedRight awaitedRight]

/-- A query whose worker panics, started before its document is closed and
awaited after that, or awaited before it. -/
theorem await_eq_query_at_start_closed :
    let uri : Uri := ⟨"file:///a", by decide⟩
    let providers : Providers := ⟨fun _ _ => .error ⟨"bug"⟩, fun _ declared => .ok declared⟩
    let opened := ((initial {}).step providers (.openText uri "product.def" "a")).1
    let query : Query := .document uri .foldingRange
    let started := (opened.step providers (.start "q" query)).1
    (∃ late, (opened.run providers [.start "q" query, .close uri, .await "q"]).2[2]? =
        some late ∧
      late.result = .workerFailed ⟨.foldingRange, ⟨"bug"⟩⟩) ∧
    firstAwait "q" [.await "q"] (started.run providers [.await "q"]).2 =
      firstAwait "q" [.close uri, .await "q"]
        (started.run providers [.close uri, .await "q"]).2 := by
  intro uri providers opened query started
  constructor
  · have apart : ∀ step ∈ [Step.close uri], ¬ step.Names "q" := by
      intro step member
      rw [List.mem_singleton.mp member]
      rintro (starts | awaits)
      · exact starts
      · cases awaits
    have isolated := (await_eq_query_at_start providers opened "q").1 query [.close uri] [] apart
    rcases isolated with ⟨dispatched, late, first, found, same, others⟩
    exact ⟨late, found, same⟩
  · refine (await_eq_query_at_start providers started "q").2 _ _ ?_ ?_ ?_ ?_
    · intro step member
      rw [List.mem_singleton.mp member]
      exact fun impossible => impossible
    · intro step member
      rcases List.mem_cons.mp member with rfl | member
      · exact fun impossible => impossible
      · rw [List.mem_singleton.mp member]
        exact fun impossible => impossible
    · exact List.mem_cons_self
    · exact List.mem_cons_of_mem _ List.mem_cons_self

end Session
end LanguageServer
