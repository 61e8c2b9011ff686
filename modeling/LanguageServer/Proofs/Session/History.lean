import LanguageServer.Proofs.Session.Step

namespace LanguageServer

/-!
# The document of an identifier, read off the history of a run

A session keeps one document for each identifier and no history.  The law of
this module goes the other way: it names, for every run and every identifier,
the steps of the run that the document comes from.  The last step that settles
the identifier decides whether there is a document at all and of which kind;
the last rewriting change behind it, if there is one, decides the text; the last
configuring step before that decides the analysis configuration.

No other step leaves a trace.  This is not assumed of any step: an open under
an identifier without a kind, a change of a document that is not open, and an
empty change occur in a run like all others.
-/

/-! ## The last step with a property -/

/-- `step` is the last step of a run with a property. -/
structure IsLast (property : Step → Prop) (steps before : List Step) (step : Step)
    (after : List Step) : Prop where
  split : steps = before ++ step :: after
  holds : property step
  silent : ∀ later ∈ after, ¬ property later

namespace IsLast

variable {property : Step → Prop} {steps before after : List Step} {step : Step}

/-- A step with the property at the end of a run is the last one. -/
theorem of_concat (steps : List Step) (holds : property step) :
    IsLast property (steps ++ [step]) steps step [] where
  split := rfl
  holds := holds
  silent := fun _ member => absurd member List.not_mem_nil

theorem mem (last : IsLast property steps before step after) : step ∈ steps := by
  rw [last.split]
  exact List.mem_append_right before List.mem_cons_self

/-- A step without the property does not take the place of the last one. -/
theorem concat (last : IsLast property steps before step after) {later : Step}
    (lacks : ¬ property later) :
    IsLast property (steps ++ [later]) before step (after ++ [later]) where
  split := by rw [last.split, List.append_assoc, List.cons_append]
  holds := last.holds
  silent := by
    intro other member
    rcases List.mem_append.mp member with earlier | same
    · exact last.silent other earlier
    · rw [List.mem_singleton.mp same]
      exact lacks

/-- There is one last step, at one place of the run. -/
theorem unique (last : IsLast property steps before step after)
    {otherBefore otherAfter : List Step} {other : Step}
    (otherLast : IsLast property steps otherBefore other otherAfter) :
    before = otherBefore ∧ step = other ∧ after = otherAfter := by
  have same := last.split.symm.trans otherLast.split
  rcases List.append_eq_append_iff.mp same with ⟨gap, left, right⟩ | ⟨gap, left, right⟩
  · cases gap with
    | nil =>
        rw [List.append_nil] at left
        exact ⟨left.symm, List.cons.inj right⟩
    | cons head tail =>
        have later : other ∈ after := by
          rw [(List.cons.inj right).2]
          exact List.mem_append_right tail List.mem_cons_self
        exact absurd otherLast.holds (last.silent other later)
  · cases gap with
    | nil =>
        rw [List.append_nil] at left
        have parts := List.cons.inj right
        exact ⟨left, parts.1.symm, parts.2.symm⟩
    | cons head tail =>
        have later : step ∈ otherAfter := by
          rw [(List.cons.inj right).2]
          exact List.mem_append_right tail List.mem_cons_self
        exact absurd last.holds (otherLast.silent step later)

end IsLast

/-! ## Steps that matter to an identifier -/

namespace Step

/-- The step settles whether the identifier has a document: it opens it under a
language identifier that names a kind, or it closes it. -/
def Settles (uri : Uri) : Step → Prop
  | .openText target language _ =>
      target = uri ∧ (DocumentKind.ofLanguageId? language).isSome = true
  | .close target => target = uri
  | _ => False

/-- The step is a change of the identifier that carries a text.  Whether the
document is open is not asked. -/
def Rewrites (uri : Uri) : Step → Prop
  | .change target changes => target = uri ∧ changes ≠ []
  | _ => False

/-- A settling step is an open of some kind or a close. -/
theorem settles_cases {uri : Uri} {step : Step} (settles : step.Settles uri) :
    (∃ language text kind, step = .openText uri language text ∧
        DocumentKind.ofLanguageId? language = some kind) ∨
      step = .close uri := by
  cases step with
  | openText target language text =>
      rcases settles with ⟨rfl, supported⟩
      rcases Option.isSome_iff_exists.mp supported with ⟨kind, named⟩
      exact Or.inl ⟨language, text, kind, rfl, named⟩
  | close target =>
      cases settles
      exact Or.inr rfl
  | _ => exact False.elim settles

theorem rewrites_cases {uri : Uri} {step : Step} (rewrites : step.Rewrites uri) :
    ∃ first others, step = .change uri (first :: others) := by
  cases step with
  | change target changes =>
      rcases rewrites with ⟨rfl, nonempty⟩
      cases changes with
      | nil => exact absurd rfl nonempty
      | cons first others => exact ⟨first, others, rfl⟩
  | _ => exact False.elim rewrites

theorem settles_open {uri : Uri} {language text : String} {kind : DocumentKind}
    (named : DocumentKind.ofLanguageId? language = some kind) :
    (Step.openText uri language text).Settles uri :=
  ⟨rfl, Option.isSome_iff_exists.mpr ⟨kind, named⟩⟩

end Step

namespace Session

/-- The effect of a step that neither settles nor rewrites an identifier is on
another one, if there is any. -/
theorem target?_effect_of_quiet (session : Session) {uri : Uri} {step : Step}
    (unsettled : ¬ step.Settles uri) (kept : ¬ step.Rewrites uri) :
    (session.effect step).target? ≠ some uri := by
  intro touched
  cases effect : session.effect step with
  | stored target document =>
      rw [effect] at touched
      cases touched
      rcases effect_stored_cases effect with
        ⟨language, text, kind, rfl, named, rfl⟩ | ⟨first, others, current, rfl, found, rfl⟩
      · exact unsettled (Step.settles_open named)
      · exact kept ⟨rfl, List.cons_ne_nil first others⟩
  | dropped target =>
      rw [effect] at touched
      cases touched
      rw [effect_dropped_cases effect] at unsettled
      exact unsettled rfl
  | kept =>
      rw [effect] at touched
      cases touched

/-- A step that neither settles nor rewrites an identifier does not touch its
document, whatever it does to others. -/
theorem get?_step_of_quiet (providers : Providers) (session : Session) {uri : Uri}
    {step : Step} (unsettled : ¬ step.Settles uri) (kept : ¬ step.Rewrites uri) :
    (session.step providers step).1.documents.get? uri = session.documents.get? uri := by
  rw [documents_step]
  exact Effect.get?_apply_of_ne (session.target?_effect_of_quiet unsettled kept) _

/-- Opening under an identifier that names a kind replaces whatever there was. -/
theorem get?_step_open (providers : Providers) (session : Session) (uri : Uri)
    {language : String} (text : String) {kind : DocumentKind}
    (named : DocumentKind.ofLanguageId? language = some kind) :
    (session.step providers (.openText uri language text)).1.documents.get? uri =
      some (session.classifier.build kind uri text) := by
  rw [documents_step, Effect.get?_apply]
  simp only [effect, Classifier.classify?, named, Option.map_some, if_true]

theorem get?_step_close (providers : Providers) (session : Session) (uri : Uri) :
    (session.step providers (.close uri)).1.documents.get? uri = none := by
  rw [documents_step, Effect.get?_apply]
  simp only [effect, if_true]

/-- A change rebuilds the document from its first text and keeps the kind.  The
texts behind the first one are not looked at. -/
theorem get?_step_change (providers : Providers) (session : Session) (uri : Uri)
    (first : Wire.ContentChange) (others : List Wire.ContentChange) :
    (session.step providers (.change uri (first :: others))).1.documents.get? uri =
      (session.documents.get? uri).map fun current =>
        session.classifier.build current.kind uri first.text := by
  rw [documents_step, Effect.get?_apply]
  simp only [effect]
  cases session.documents.get? uri with
  | none => simp only [Option.map_none]
  | some current => simp only [Option.map_some, if_true]

end Session

/-! ## The history of one document -/

/-- The document at an identifier goes back to the step right behind `prior`,
which gave it its text; the kind is the one it was opened with. -/
inductive StoredAfter (uri : Uri) (steps : List Step) :
    List Step → DocumentKind → String → Prop where
  | opened {prior after : List Step} {language text : String} {kind : DocumentKind}
      (settled : IsLast (Step.Settles uri) steps prior (.openText uri language text) after)
      (named : DocumentKind.ofLanguageId? language = some kind)
      (unchanged : ∀ step ∈ after, ¬ step.Rewrites uri) :
      StoredAfter uri steps prior kind text
  | changed {before after between later : List Step} {language text : String}
      {kind : DocumentKind} {first : Wire.ContentChange} {others : List Wire.ContentChange}
      (settled : IsLast (Step.Settles uri) steps before (.openText uri language text) after)
      (named : DocumentKind.ofLanguageId? language = some kind)
      (rewritten :
        IsLast (Step.Rewrites uri) after between (.change uri (first :: others)) later) :
      StoredAfter uri steps (before ++ .openText uri language text :: between) kind
        first.text

/-- The identifier was never settled, or closed when it was settled last. -/
def NotOpenAfter (uri : Uri) (steps : List Step) : Prop :=
  (∀ step ∈ steps, ¬ step.Settles uri) ∨
    ∃ before after, IsLast (Step.Settles uri) steps before (.close uri) after

/-- What a document shows of the way it was built.  The analysis context is
there exactly in typed sources, and belongs to the text. -/
structure Document.Shows (document : Document) (kind : DocumentKind) (uri : Uri)
    (text : String) (definitions : Definitions) (configuration : AnalysisConfiguration) :
    Prop where
  kind_eq : document.kind = kind
  uri_eq : document.uri = uri
  text_eq : document.text = text
  definitions_eq : document.definitions = definitions
  context_eq : ∀ file, document.typed? = some file →
    file.context = ⟨configuration, LineIndex.ofText text, definitions⟩

/-- What a document shows is all there is to it. -/
theorem Document.shows_iff_eq_build {document : Document} {kind : DocumentKind} {uri : Uri}
    {text : String} {definitions : Definitions} {configuration : AnalysisConfiguration} :
    document.Shows kind uri text definitions configuration ↔
      document = Classifier.build ⟨definitions, configuration⟩ kind uri text := by
  constructor
  · rintro ⟨rfl, rfl, rfl, rfl, context⟩
    cases document with
    | productDefinition source => rfl
    | moduleDefinition source => rfl
    | typedSource file =>
        rcases file with ⟨source, analysis⟩
        have same :
            analysis = ⟨configuration, LineIndex.ofText source.text, source.definitions⟩ :=
          context _ rfl
        subst same
        rfl
  · rintro rfl
    refine ⟨?_, ?_, ?_, ?_, ?_⟩
    · exact Classifier.kind_build _ kind uri text
    · exact Classifier.uri_build _ kind uri text
    · exact Classifier.text_build _ kind uri text
    · exact Classifier.definitions_build _ kind uri text
    · intro file typed
      cases kind with
      | typedSource =>
          cases typed
          rfl
      | productDefinition => cases typed
      | moduleDefinition => cases typed

/-! ## The history grows with the run -/

/-- A document comes from an open that settled its identifier last. -/
theorem StoredAfter.origin {uri : Uri} {steps prior : List Step} {kind : DocumentKind}
    {text : String} (stored : StoredAfter uri steps prior kind text) :
    ∃ before language original after,
      IsLast (Step.Settles uri) steps before (.openText uri language original) after ∧
        DocumentKind.ofLanguageId? language = some kind := by
  cases stored with
  | opened settled named unchanged => exact ⟨_, _, _, _, settled, named⟩
  | changed settled named rewritten => exact ⟨_, _, _, _, settled, named⟩

theorem StoredAfter.concat {uri : Uri} {steps prior : List Step} {kind : DocumentKind}
    {text : String} (stored : StoredAfter uri steps prior kind text) {step : Step}
    (unsettled : ¬ step.Settles uri) (kept : ¬ step.Rewrites uri) :
    StoredAfter uri (steps ++ [step]) prior kind text := by
  cases stored with
  | opened settled named unchanged =>
      refine .opened (settled.concat unsettled) named ?_
      intro later member
      rcases List.mem_append.mp member with earlier | same
      · exact unchanged later earlier
      · rw [List.mem_singleton.mp same]
        exact kept
  | changed settled named rewritten =>
      exact .changed (settled.concat unsettled) named (rewritten.concat kept)

/-- A change takes over from whatever gave the document its text before. -/
theorem StoredAfter.rewrite {uri : Uri} {steps prior : List Step} {kind : DocumentKind}
    {text : String} (stored : StoredAfter uri steps prior kind text)
    (first : Wire.ContentChange) (others : List Wire.ContentChange) :
    StoredAfter uri (steps ++ [.change uri (first :: others)]) steps kind first.text := by
  rcases stored.origin with ⟨before, language, original, after, settled, named⟩
  have rewrites : (Step.change uri (first :: others)).Rewrites uri :=
    ⟨rfl, List.cons_ne_nil first others⟩
  have unsettled : ¬ (Step.change uri (first :: others)).Settles uri :=
    fun impossible => impossible
  have grown := StoredAfter.changed (settled.concat unsettled) named
    (IsLast.of_concat after rewrites)
  rw [← settled.split] at grown
  exact grown

theorem NotOpenAfter.concat {uri : Uri} {steps : List Step} (absent : NotOpenAfter uri steps)
    {step : Step} (unsettled : ¬ step.Settles uri) : NotOpenAfter uri (steps ++ [step]) := by
  rcases absent with never | ⟨before, after, closed⟩
  · left
    intro other member
    rcases List.mem_append.mp member with earlier | same
    · exact never other earlier
    · rw [List.mem_singleton.mp same]
      exact unsettled
  · exact Or.inr ⟨before, after ++ [step], closed.concat unsettled⟩

/-- What is found at an identifier agrees with the history of the run. -/
def Traced (classifier : Classifier) (uri : Uri) (steps : List Step) :
    Option Document → Prop
  | none => NotOpenAfter uri steps
  | some document =>
      ∃ prior kind text, StoredAfter uri steps prior kind text ∧
        document.Shows kind uri text classifier.definitions
          (configured classifier.configuration prior)

/-- One more step keeps the agreement.  The three kinds of steps are those that
settle the identifier, those that rewrite it, and all others. -/
theorem Traced.step {classifier : Classifier} {uri : Uri} {steps : List Step}
    (providers : Providers) {session : Session}
    (built : session.classifier =
      ⟨classifier.definitions, configured classifier.configuration steps⟩)
    (traced : Traced classifier uri steps (session.documents.get? uri)) (step : Step) :
    Traced classifier uri (steps ++ [step])
      ((session.step providers step).1.documents.get? uri) := by
  by_cases settles : step.Settles uri
  · rcases Step.settles_cases settles with ⟨language, text, kind, rfl, named⟩ | rfl
    · rw [Session.get?_step_open providers session uri text named, built]
      refine ⟨steps, kind, text, ?_, Document.shows_iff_eq_build.mpr rfl⟩
      refine .opened (IsLast.of_concat steps settles) named ?_
      intro later member
      exact absurd member List.not_mem_nil
    · rw [Session.get?_step_close]
      exact Or.inr ⟨steps, [], IsLast.of_concat steps settles⟩
  by_cases rewrites : step.Rewrites uri
  · rcases Step.rewrites_cases rewrites with ⟨first, others, rfl⟩
    rw [Session.get?_step_change, built]
    cases found : session.documents.get? uri with
    | none =>
        rw [found] at traced
        exact NotOpenAfter.concat traced settles
    | some current =>
        rw [found] at traced
        rcases traced with ⟨prior, kind, text, stored, shows⟩
        rw [← shows.kind_eq] at stored
        exact ⟨steps, current.kind, first.text, stored.rewrite first others,
          Document.shows_iff_eq_build.mpr rfl⟩
  · rw [Session.get?_step_of_quiet providers session settles rewrites]
    cases found : session.documents.get? uri with
    | none =>
        rw [found] at traced
        exact NotOpenAfter.concat traced settles
    | some current =>
        rw [found] at traced
        rcases traced with ⟨prior, kind, text, stored, shows⟩
        exact ⟨prior, kind, text, stored.concat settles rewrites, shows⟩

/-- After every run each identifier has the document that its history tells. -/
theorem traced_run (providers : Providers) (classifier : Classifier) (steps : List Step)
    (uri : Uri) :
    Traced classifier uri steps
      (((Session.initial classifier).run providers steps).1.documents.get? uri) := by
  induction steps using List.reverseRecOn with
  | nil =>
      left
      intro step member
      exact absurd member List.not_mem_nil
  | append_singleton steps step ih =>
      rw [Session.run_concat_fst]
      exact ih.step providers (Session.classifier_run providers _ steps) step

/-! ## A history tells one document -/

/-- The step that a document goes back to is determined by the run. -/
theorem StoredAfter.unique {uri : Uri} {steps prior otherPrior : List Step}
    {kind otherKind : DocumentKind} {text otherText : String}
    (stored : StoredAfter uri steps prior kind text)
    (other : StoredAfter uri steps otherPrior otherKind otherText) :
    prior = otherPrior ∧ kind = otherKind ∧ text = otherText := by
  cases stored with
  | opened settled named unchanged =>
      cases other with
      | opened otherSettled otherNamed otherUnchanged =>
          rcases settled.unique otherSettled with ⟨rfl, same, rfl⟩
          cases same
          exact ⟨rfl, Option.some.inj (named.symm.trans otherNamed), rfl⟩
      | changed otherSettled otherNamed rewritten =>
          rcases settled.unique otherSettled with ⟨rfl, same, rfl⟩
          exact absurd rewritten.holds (unchanged _ rewritten.mem)
  | changed settled named rewritten =>
      cases other with
      | opened otherSettled otherNamed unchanged =>
          rcases settled.unique otherSettled with ⟨rfl, same, rfl⟩
          exact absurd rewritten.holds (unchanged _ rewritten.mem)
      | changed otherSettled otherNamed otherRewritten =>
          rcases settled.unique otherSettled with ⟨rfl, same, rfl⟩
          cases same
          rcases rewritten.unique otherRewritten with ⟨rfl, sameChange, rfl⟩
          cases sameChange
          exact ⟨rfl, Option.some.inj (named.symm.trans otherNamed), rfl⟩

/-- An open that settled an identifier last leaves a document there. -/
theorem NotOpenAfter.not_opened {uri : Uri} {steps before after : List Step}
    {language text : String} (absent : NotOpenAfter uri steps) :
    ¬ IsLast (Step.Settles uri) steps before (.openText uri language text) after := by
  intro settled
  rcases absent with never | ⟨closedBefore, closedAfter, closed⟩
  · exact never _ settled.mem settled.holds
  · have same := (settled.unique closed).2.1
    cases same

theorem NotOpenAfter.not_stored {uri : Uri} {steps prior : List Step} {kind : DocumentKind}
    {text : String} (absent : NotOpenAfter uri steps) :
    ¬ StoredAfter uri steps prior kind text := by
  intro stored
  rcases stored.origin with ⟨before, language, original, after, settled, named⟩
  exact absent.not_opened settled

theorem Traced.unique {classifier : Classifier} {uri : Uri} {steps : List Step}
    {found other : Option Document} (traced : Traced classifier uri steps found)
    (otherTraced : Traced classifier uri steps other) : found = other := by
  cases found with
  | none =>
      cases other with
      | none => rfl
      | some document =>
          rcases otherTraced with ⟨prior, kind, text, stored, shows⟩
          exact absurd stored (NotOpenAfter.not_stored traced)
  | some document =>
      rcases traced with ⟨prior, kind, text, stored, shows⟩
      cases other with
      | none => exact absurd stored (NotOpenAfter.not_stored otherTraced)
      | some otherDocument =>
          rcases otherTraced with ⟨otherPrior, otherKind, otherText, otherStored, otherShows⟩
          rcases stored.unique otherStored with ⟨rfl, rfl, rfl⟩
          rw [Document.shows_iff_eq_build.mp shows, Document.shows_iff_eq_build.mp otherShows]

/-! ## The step a document goes back to -/

/-- The step, taken in the session, stores a document at the identifier: it is a
successful open of it, or a change that carries a text for a document that is
open. -/
def Session.Stores (session : Session) (uri : Uri) : Step → Prop
  | .openText target language _ =>
      target = uri ∧ (DocumentKind.ofLanguageId? language).isSome = true
  | .change target changes =>
      target = uri ∧ changes ≠ [] ∧ (session.documents.get? uri).isSome = true
  | _ => False

theorem Session.stores_iff_effect {session : Session} {uri : Uri} {step : Step} :
    session.Stores uri step ↔ ∃ document, session.effect step = .stored uri document := by
  constructor
  · intro stores
    cases step with
    | openText target language text =>
        rcases stores with ⟨rfl, supported⟩
        rcases Option.isSome_iff_exists.mp supported with ⟨kind, named⟩
        refine ⟨session.classifier.build kind target text, ?_⟩
        simp only [effect, Classifier.classify?, named, Option.map_some]
    | change target changes =>
        rcases stores with ⟨rfl, nonempty, isOpen⟩
        rcases Option.isSome_iff_exists.mp isOpen with ⟨current, found⟩
        cases changes with
        | nil => exact absurd rfl nonempty
        | cons first others =>
            refine ⟨session.classifier.build current.kind target first.text, ?_⟩
            simp only [effect, found]
    | _ => exact False.elim stores
  · rintro ⟨document, stores⟩
    rcases effect_stored_cases stores with
      ⟨language, text, kind, rfl, named, rfl⟩ | ⟨first, others, current, rfl, found, rfl⟩
    · exact ⟨rfl, Option.isSome_iff_exists.mpr ⟨kind, named⟩⟩
    · exact ⟨rfl, List.cons_ne_nil first others, Option.isSome_iff_exists.mpr ⟨current, found⟩⟩

/-- The step behind `prior` did store the document, and no step since has
settled or rewritten the identifier. -/
theorem StoredAfter.stores {uri : Uri} {steps prior : List Step} {kind : DocumentKind}
    {text : String} (stored : StoredAfter uri steps prior kind text)
    (providers : Providers) (classifier : Classifier) :
    ∃ step rest, steps = prior ++ step :: rest ∧
      ((Session.initial classifier).run providers prior).1.Stores uri step ∧
      (∀ later ∈ rest, ¬ later.Settles uri) ∧ ∀ later ∈ rest, ¬ later.Rewrites uri := by
  cases stored with
  | opened settled named unchanged =>
      exact ⟨_, _, settled.split, settled.holds, settled.silent, unchanged⟩
  | @changed before after between later language original kind first others settled named
      rewritten =>
      -- The open is the last settling step before the change as well, so the
      -- change finds the document.
      have silent : ∀ step ∈ between, ¬ step.Settles uri := by
        intro step member
        apply settled.silent
        rw [rewritten.split]
        exact List.mem_append_left _ member
      have opened : IsLast (Step.Settles uri)
          (before ++ .openText uri language original :: between) before
          (.openText uri language original) between :=
        ⟨rfl, settled.holds, silent⟩
      have found := traced_run providers classifier
        (before ++ .openText uri language original :: between) uri
      refine ⟨.change uri (first :: others), later, ?_, ?_, ?_, rewritten.silent⟩
      · rw [settled.split, rewritten.split, List.append_assoc, List.cons_append]
      · refine ⟨rfl, List.cons_ne_nil first others, ?_⟩
        rw [Option.isSome_iff_ne_none]
        intro absent
        rw [absent] at found
        exact NotOpenAfter.not_opened found opened
      · intro step member
        apply settled.silent
        rw [rewritten.split]
        exact List.mem_append_right _ (List.mem_cons_of_mem _ member)

theorem Session.get?_run_of_quiet (providers : Providers) (session : Session) {uri : Uri}
    {steps : List Step} (unsettled : ∀ step ∈ steps, ¬ step.Settles uri)
    (kept : ∀ step ∈ steps, ¬ step.Rewrites uri) :
    (session.run providers steps).1.documents.get? uri = session.documents.get? uri := by
  induction steps generalizing session with
  | nil => rfl
  | cons step rest ih =>
      have first := get?_step_of_quiet providers session
        (unsettled step List.mem_cons_self) (kept step List.mem_cons_self)
      have others := ih (session.step providers step).1
        (fun later member => unsettled later (List.mem_cons_of_mem step member))
        (fun later member => kept later (List.mem_cons_of_mem step member))
      rw [run_cons, others, first]

/-! ## The law -/

/-- The step has nothing to work on: it opens under an identifier that names no
kind, changes nothing or nothing that is open, or saves. -/
def Step.Idle (documents : DocumentSet) : Step → Prop
  | .openText _ language _ => DocumentKind.ofLanguageId? language = none
  | .change uri changes => changes = [] ∨ documents.get? uri = none
  | .save _ => True
  | _ => False

/-- An idle step leaves the whole session as it was. -/
theorem Session.step_of_idle (providers : Providers) (session : Session) {step : Step}
    (idle : step.Idle session.documents) : (session.step providers step).1 = session := by
  cases step with
  | openText uri language text =>
      have unsupported : DocumentKind.ofLanguageId? language = none := idle
      simp only [Session.step, openText, Classifier.classify?, unsupported, Option.map_none]
  | change uri changes =>
      cases changes with
      | nil => rfl
      | cons first others =>
          rcases idle with empty | absent
          · cases empty
          · simp only [Session.step, change, absent]
  | save uri => rfl
  | _ => exact False.elim idle

/-- The law of a run, for every identifier.  There is no document exactly when
the identifier was never settled or was closed when it was settled last.
Otherwise the document shows the kind it was opened with, the text of the first
change of the last rewriting step since (of the open itself if there was none),
and the configuration that was current when that step was taken.  Idle steps
leave the session alone. -/
theorem get?_run_iff_history (providers : Providers) (classifier : Classifier)
    (steps : List Step) (uri : Uri) :
    let final := ((Session.initial classifier).run providers steps).1
    (final.documents.get? uri = none ↔ NotOpenAfter uri steps) ∧
      (∀ document, final.documents.get? uri = some document ↔
        ∃ prior kind text, StoredAfter uri steps prior kind text ∧
          document.Shows kind uri text classifier.definitions
            (configured classifier.configuration prior)) ∧
      ∀ step, step.Idle final.documents →
        ((Session.initial classifier).run providers (steps ++ [step])).1 = final := by
  intro final
  have traced : Traced classifier uri steps (final.documents.get? uri) :=
    traced_run providers classifier steps uri
  have tells : ∀ found, final.documents.get? uri = found ↔
      Traced classifier uri steps found := by
    intro found
    constructor
    · rintro rfl
      exact traced
    · intro told
      exact traced.unique told
  refine ⟨tells none, fun document => tells (some document), ?_⟩
  intro step idle
  rw [Session.run_concat_fst]
  exact Session.step_of_idle providers final idle

/-- A run in which all of this happens: a text is opened, the configuration is
replaced, a change with two texts arrives, and an open under an unknown
identifier fails. -/
theorem get?_run_iff_history_rewritten :
    let uri : Uri := ⟨"file:///a", by decide⟩
    let hints : AnalysisConfiguration := { showInlayHints := true }
    let changes : List Wire.ContentChange := [{ text := "b" }, { text := "c" }]
    let steps : List Step :=
      [.openText uri "magik" "a", .configure hints true, .change uri changes]
    let final := ((Session.initial {}).run Providers.silent steps).1
    final.documents.get? uri =
        some (Classifier.build ⟨.empty, hints⟩ .typedSource uri "b") ∧
      (Step.openText uri "java" "d").Idle final.documents ∧
      ((Session.initial {}).run Providers.silent
        (steps ++ [.openText uri "java" "d"])).1 = final := by
  intro uri hints changes steps final
  have law := get?_run_iff_history Providers.silent {} steps uri
  have settled : IsLast (Step.Settles uri) steps [] (.openText uri "magik" "a")
      [.configure hints true, .change uri changes] := by
    refine ⟨rfl, ⟨rfl, by decide⟩, ?_⟩
    intro later member
    rcases List.mem_cons.mp member with rfl | member
    · exact fun impossible => impossible
    · rw [List.mem_singleton.mp member]
      exact fun impossible => impossible
  have rewritten : IsLast (Step.Rewrites uri) [.configure hints true, .change uri changes]
      [.configure hints true] (.change uri changes) [] :=
    IsLast.of_concat [.configure hints true] ⟨rfl, List.cons_ne_nil _ _⟩
  have named : DocumentKind.ofLanguageId? "magik" = some .typedSource := by decide
  have stored := StoredAfter.changed settled named rewritten
  have unsupported : (Step.openText uri "java" "d").Idle final.documents := by
    show DocumentKind.ofLanguageId? "java" = none
    decide
  refine ⟨(law.2.1 _).mpr ⟨_, .typedSource, "b", stored, ?_⟩, unsupported, ?_⟩
  · exact Document.shows_iff_eq_build.mpr rfl
  · exact law.2.2 _ unsupported

end LanguageServer
