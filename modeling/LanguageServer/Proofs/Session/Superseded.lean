import LanguageServer.Proofs.Session.Outstanding

namespace LanguageServer

/-!
# What a client holds for a definition file

Definition files have no diagnostics and nothing is published for them.  This is
not the same as publishing that they have none.  A client that opens a definition
file in the place of a typed source, without closing the typed source first, goes
on holding what was published for the source, and no step clears it as long as
the identifier stays with definition files.

The law of this module says exactly when that happens, for runs in which
publication stays on.  It looks back to the moment before the identifier was
taken by definition files.  Nothing is held if it had no document then.  If it
had a typed source, the diagnostics of this very source are held.
-/

/-- The identifier has a document, and it is not a typed source. -/
def Session.DefinitionAt (session : Session) (uri : Uri) : Prop :=
  ∃ document, session.documents.get? uri = some document ∧ document.typed? = none

/-- The identifier has a definition file after every step of `rest`, and had none
before the first of them. -/
structure DefinitionSince (providers : Providers) (classifier : Classifier) (uri : Uri)
    (prior rest : List Step) : Prop where
  before : ¬ ((Session.initial classifier).run providers prior).1.DefinitionAt uri
  since : ∀ first second, rest = first ++ second → first ≠ [] →
    ((Session.initial classifier).run providers (prior ++ first)).1.DefinitionAt uri

/-- The steps never switch publication off. -/
def Publishing (steps : List Step) : Prop :=
  ∀ configuration, Step.configure configuration false ∉ steps

/-! ## Going back to the first definition file -/

/-- One more step that leaves a definition file there extends the time since. -/
theorem DefinitionSince.concat {providers : Providers} {classifier : Classifier} {uri : Uri}
    {prior rest : List Step} (definitions : DefinitionSince providers classifier uri prior rest)
    {step : Step}
    (after : ((Session.initial classifier).run providers
      (prior ++ (rest ++ [step]))).1.DefinitionAt uri) :
    DefinitionSince providers classifier uri prior (rest ++ [step]) := by
  refine ⟨definitions.before, ?_⟩
  intro first second split nonempty
  rcases List.eq_nil_or_concat second with rfl | ⟨others, last, rfl⟩
  · rw [List.append_nil] at split
    rw [← split]
    exact after
  · rw [List.concat_eq_append, ← List.append_assoc] at split
    have parts := List.append_inj' split rfl
    exact definitions.since first others parts.1 nonempty

theorem exists_definitionSince {providers : Providers} {classifier : Classifier} {uri : Uri}
    {steps : List Step}
    (definition : ((Session.initial classifier).run providers steps).1.DefinitionAt uri) :
    ∃ prior rest, steps = prior ++ rest ∧
      DefinitionSince providers classifier uri prior rest := by
  induction steps using List.reverseRecOn with
  | nil =>
      rcases definition with ⟨document, found, _⟩
      cases found
  | append_singleton steps step ih =>
      by_cases earlier : ((Session.initial classifier).run providers steps).1.DefinitionAt uri
      · rcases ih earlier with ⟨prior, rest, rfl, definitions⟩
        rw [List.append_assoc] at definition ⊢
        exact ⟨prior, rest ++ [step], rfl, definitions.concat definition⟩
      · refine ⟨steps, [step], rfl, earlier, ?_⟩
        intro first second split nonempty
        rcases List.singleton_eq_append_iff.mp split with ⟨rfl, _⟩ | ⟨rfl, _⟩
        · exact absurd rfl nonempty
        · exact definition

/-! ## Publication stays on -/

theorem Publishing.of_append {first second : List Step}
    (publishing : Publishing (first ++ second)) : Publishing first :=
  fun configuration member => publishing configuration (List.mem_append_left second member)

theorem Publishing.enabled_run {steps : List Step} (publishing : Publishing steps)
    (providers : Providers) (classifier : Classifier) :
    ((Session.initial classifier).run providers steps).1.publisher.enabled = true := by
  induction steps using List.reverseRecOn with
  | nil => rfl
  | append_singleton steps step ih =>
      have before := ih publishing.of_append
      rw [Session.run_concat_fst, Session.step_fst]
      cases step with
      | configure configuration diagnostics =>
          cases diagnostics with
          | true => rfl
          | false =>
              refine absurd ?_ (publishing configuration)
              exact List.mem_append_right steps List.mem_cons_self
      | _ => exact before

section Superseded

variable {providers : Providers} {provide : TypedFile → List Wire.Diagnostic}
  (calm : ∀ file, providers.answer .diagnostics file = .ok (provide file))

include calm

/-! ## What one step publishes -/

/-- A step that leaves a definition file at an identifier publishes nothing for
it, not even that earlier diagnostics are gone. -/
theorem Session.publishedFor_of_definition {session : Session} {step : Step} {uri : Uri}
    (definition : (session.step providers step).1.DefinitionAt uri) :
    (session.step providers step).2.publishedFor uri = none := by
  rcases definition with ⟨document, found, untyped⟩
  rcases step_at_cases calm session step uri with
    ⟨_, silent⟩ | ⟨stored, here, published⟩ | ⟨gone, _⟩
  · exact silent
  · rw [found] at here
    cases here
    rw [published, untyped, Option.map_none, ite_self]
  · rw [found] at gone
    cases gone

/-! ## What a run leaves outstanding -/

theorem DefinitionSince.outstanding_eq {classifier : Classifier} {uri : Uri}
    {prior rest : List Step}
    (definitions : DefinitionSince providers classifier uri prior rest) :
    outstanding uri ((Session.initial classifier).run providers (prior ++ rest)).2 =
      outstanding uri ((Session.initial classifier).run providers prior).2 := by
  induction rest using List.reverseRecOn with
  | nil => rw [List.append_nil]
  | append_singleton rest step ih =>
      have shorter : DefinitionSince providers classifier uri prior rest := by
        refine ⟨definitions.before, ?_⟩
        intro first second split nonempty
        apply definitions.since first (second ++ [step]) _ nonempty
        rw [split, List.append_assoc]
      have last := definitions.since (rest ++ [step]) [] (List.append_nil _).symm
        (List.append_ne_nil_of_right_ne_nil rest (List.cons_ne_nil step []))
      rw [← List.append_assoc, Session.run_concat_fst] at last
      rw [← List.append_assoc, Session.run_concat_snd, outstanding_append,
        outstanding_singleton, Session.publishedFor_of_definition calm last, Option.none_or]
      exact ih shorter

/-- While publication stays on, a client holds the diagnostics of every typed
source that is stored. -/
theorem outstanding_run_of_typed (classifier : Classifier) {steps : List Step}
    (publishing : Publishing steps) {uri : Uri} {file : TypedFile}
    (found : ((Session.initial classifier).run providers steps).1.documents.get? uri =
      some (.typedSource file)) :
    outstanding uri ((Session.initial classifier).run providers steps).2 =
      some (provide file) := by
  induction steps using List.reverseRecOn with
  | nil => cases found
  | append_singleton steps step ih =>
      have enabled := publishing.of_append.enabled_run providers classifier
      rw [Session.run_concat_fst] at found
      rw [Session.run_concat_snd, outstanding_append, outstanding_singleton]
      rcases Session.step_at_cases calm
          ((Session.initial classifier).run providers steps).1 step uri with
        ⟨same, silent⟩ | ⟨stored, here, published⟩ | ⟨gone, _⟩
      · rw [same] at found
        rw [silent, Option.none_or]
        exact ih publishing.of_append found
      · rw [found] at here
        cases here
        rw [published, if_pos enabled]
        rfl
      · rw [found] at gone
        cases gone

end Superseded

/-! ## The law -/

/-- When a run that keeps publishing ends with a definition file at an
identifier, there is a moment since when it had definition files only.  A client
holds what the provider said of the typed source that stood there until then; so
it holds no diagnostics, or an empty list, exactly if there was no such source or
the provider had nothing to say of it. -/
theorem outstanding_of_definition_iff {providers : Providers}
    {provide : TypedFile → List Wire.Diagnostic}
    (calm : ∀ file, providers.answer .diagnostics file = .ok (provide file))
    (classifier : Classifier) {steps : List Step} (publishing : Publishing steps) {uri : Uri}
    (definition : ((Session.initial classifier).run providers steps).1.DefinitionAt uri) :
    let held := outstanding uri ((Session.initial classifier).run providers steps).2
    (∃ prior rest, steps = prior ++ rest ∧
      DefinitionSince providers classifier uri prior rest) ∧
    ∀ prior rest, steps = prior ++ rest →
      DefinitionSince providers classifier uri prior rest →
      let earlier := ((Session.initial classifier).run providers prior).1
      (∀ file, earlier.documents.get? uri = some (.typedSource file) →
        held = some (provide file)) ∧
      ((∀ diagnostics, held = some diagnostics → diagnostics = []) ↔
        ∀ file, earlier.documents.get? uri = some (.typedSource file) →
          provide file = []) := by
  intro held
  refine ⟨exists_definitionSince definition, ?_⟩
  intro prior rest split definitions earlier
  have unchanged : held =
      outstanding uri ((Session.initial classifier).run providers prior).2 := by
    simp only [held, split]
    exact definitions.outstanding_eq calm
  have kept : ∀ file, earlier.documents.get? uri = some (.typedSource file) →
      held = some (provide file) := by
    intro file found
    rw [unchanged]
    rw [split] at publishing
    exact outstanding_run_of_typed calm classifier publishing.of_append found
  refine ⟨kept, ?_⟩
  constructor
  · intro empty file found
    exact empty (provide file) (kept file found)
  · intro silent diagnostics holds
    cases found : earlier.documents.get? uri with
    | none =>
        have cleared := outstanding_run_of_absent calm classifier prior uri found
        rw [← unchanged, holds] at cleared
        rcases cleared with impossible | same
        · cases impossible
        · exact Option.some.inj same
    | some document =>
        cases document with
        | typedSource file =>
            rw [kept file found] at holds
            rw [← Option.some.inj holds]
            exact silent file found
        | productDefinition source => exact absurd ⟨_, found, rfl⟩ definitions.before
        | moduleDefinition source => exact absurd ⟨_, found, rfl⟩ definitions.before

/-- Providers that know one thing: they repeat the text of a source as its
diagnostics. -/
def Providers.repeating : Providers where
  answer
    | .diagnostics, file => .ok [{ range := ⟨⟨0, 0⟩, ⟨0, 0⟩⟩, message := file.text }]
    | other, _ => .ok (emptyAnswer other)
  declare _ declared := .ok declared

/-- A source that is closed before a definition file takes its place leaves
nothing behind. -/
theorem outstanding_of_definition_iff_closed :
    let uri : Uri := ⟨"file:///a", by decide⟩
    let closed : List Step := [.openText uri "magik" "a", .close uri]
    let steps := closed ++ [.openText uri "module.def" "b"]
    let final := (Session.initial {}).run .repeating steps
    final.1.DefinitionAt uri ∧
      ∀ diagnostics, outstanding uri final.2 = some diagnostics → diagnostics = [] := by
  intro uri closed steps final
  have publishing : Publishing steps := by
    intro configuration member
    simp [steps, closed] at member
  have definition : final.1.DefinitionAt uri :=
    ⟨.moduleDefinition ⟨uri, "b", .empty⟩, rfl, rfl⟩
  have law := (@outstanding_of_definition_iff .repeating _ (fun _ => rfl) {} steps publishing
    uri definition).2 closed [.openText uri "module.def" "b"] rfl
  have definitions : DefinitionSince .repeating {} uri closed
      [.openText uri "module.def" "b"] := by
    refine ⟨?_, ?_⟩
    · rintro ⟨document, found, _⟩
      cases found
    · intro first second split nonempty
      rcases List.singleton_eq_append_iff.mp split with ⟨rfl, _⟩ | ⟨rfl, _⟩
      · exact absurd rfl nonempty
      · exact definition
  refine ⟨definition, (law definitions).2.mpr ?_⟩
  intro file found
  cases found

/-- It is not true that a client never holds diagnostics for a definition file: a
typed source with diagnostics is opened, and a product definition is opened in
its place. -/
theorem definition_with_stale_diagnostics :
    ¬ ∀ (providers : Providers) (provide : TypedFile → List Wire.Diagnostic),
      (∀ file, providers.answer .diagnostics file = .ok (provide file)) →
      ∀ (classifier : Classifier) (steps : List Step), Publishing steps →
      ∀ uri, ((Session.initial classifier).run providers steps).1.DefinitionAt uri →
      ∀ diagnostics,
        outstanding uri ((Session.initial classifier).run providers steps).2 =
          some diagnostics → diagnostics = [] := by
  intro claimed
  let uri : Uri := ⟨"file:///a", by decide⟩
  let steps : List Step := [.openText uri "magik" "a", .openText uri "product.def" "b"]
  have publishing : Publishing steps := by
    intro configuration member
    simp [steps] at member
  have definition : ((Session.initial {}).run .repeating steps).1.DefinitionAt uri :=
    ⟨.productDefinition ⟨uri, "b", .empty⟩, rfl, rfl⟩
  have empty := claimed .repeating _ (fun _ => rfl) {} steps publishing uri definition
    [{ range := ⟨⟨0, 0⟩, ⟨0, 0⟩⟩, message := "a" }] rfl
  cases empty

end LanguageServer
