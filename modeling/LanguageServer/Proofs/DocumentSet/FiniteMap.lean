import LanguageServer.Document
import Mathlib.Data.Finset.Card

namespace LanguageServer

/-!
# The set of documents is a finite map

The set is used through calls alone, and it starts without documents.  What a call
gives, and what is stored behind it, can be told from the calls before it: a document
is stored under an identifier when it was put there and nothing was put or removed
there since.  Storing and dropping walk along the entries once and give the earlier
document on the way.  That this is what looking it up would have given is proved, not
built in.

Nothing is said of the order of entries.  Since their keys are distinct, their number
is that of the identifiers with a document.  A document that was given to a caller is
the one that was put, with all that belongs to it; no later call has a part in it.
-/

namespace Table

variable {κ ν : Type} [DecidableEq κ]

/-- The keys with a value are a finite set, and the size is their number. -/
theorem exists_keys (table : Table κ ν) :
    ∃ keys : Finset κ, (∀ key, key ∈ keys ↔ (table.get? key).isSome = true) ∧
      table.size = keys.card := by
  refine ⟨(table.entries.map Prod.fst).toFinset, ?_, ?_⟩
  · intro key
    rw [List.mem_toFinset]
    exact isSome_find_iff.symm
  · rw [List.toFinset_card_of_nodup table.distinct, List.length_map]
    rfl

end Table

namespace DocumentSet

/-! ## One call -/

namespace Call

/-- The identifier that a call names. -/
def uri : Call → Uri
  | .put uri _ => uri
  | .get uri => uri
  | .remove uri => uri
  | .contains uri => uri

/-- The call stores or drops a document under an identifier. -/
def Writes (uri : Uri) : Call → Prop
  | .put target _ => target = uri
  | .get _ => False
  | .remove target => target = uri
  | .contains _ => False

/-- A call writes under no other identifier than the one it names. -/
theorem Writes.uri_eq {uri : Uri} {call : Call} (writes : call.Writes uri) : call.uri = uri := by
  cases call with
  | put target document => exact writes
  | get target => exact False.elim writes
  | remove target => exact writes
  | contains target => exact False.elim writes

/-- What a call gives when the document under its identifier is known.  Only the question
whether there is one is answered by less than that document. -/
def reply : Call → Option Document → Reply
  | .put _ _, stored => .document stored
  | .get _, stored => .document stored
  | .remove _, stored => .document stored
  | .contains _, stored => .presence stored.isSome

end Call

/-- Every call is answered from what was stored before it. -/
theorem perform_snd (documents : DocumentSet) (call : Call) :
    (perform documents call).2 = call.reply (documents.get? call.uri) := by
  cases call with
  | put uri document =>
      change Reply.document (documents.exchange uri document).1 = .document (documents.get? uri)
      rw [Table.exchange_eq]
  | get uri => rfl
  | remove uri =>
      change Reply.document (documents.takeOut uri).1 = .document (documents.get? uri)
      rw [Table.takeOut_eq]
  | contains uri => rfl

theorem perform_put_fst (documents : DocumentSet) (uri : Uri) (document : Document) :
    (perform documents (.put uri document)).1 = documents.put uri document :=
  congrArg Prod.snd (documents.exchange_eq uri document)

theorem perform_remove_fst (documents : DocumentSet) (uri : Uri) :
    (perform documents (.remove uri)).1 = documents.remove uri :=
  congrArg Prod.snd (documents.takeOut_eq uri)

/-- A document is stored behind a call when the call puts it there, or when it was stored
before and the call does not write under its identifier. -/
theorem get?_perform_eq_some_iff {documents : DocumentSet} {call : Call} {uri : Uri}
    {document : Document} :
    (perform documents call).1.get? uri = some document ↔
      call = .put uri document ∨
        ¬ call.Writes uri ∧ documents.get? uri = some document := by
  cases call with
  | put target stored =>
      rw [perform_put_fst, Table.get?_put]
      by_cases same : target = uri
      · simp [same, Call.Writes]
      · simp [same, Call.Writes]
  | get target => simp [perform, Call.Writes]
  | remove target =>
      rw [perform_remove_fst, Table.get?_remove]
      by_cases same : target = uri
      · simp [same, Call.Writes]
      · simp [same, Call.Writes]
  | contains target => simp [perform, Call.Writes]

/-! ## Calls one after another -/

theorem performAll_append (documents : DocumentSet) (calls others : List Call) :
    performAll documents (calls ++ others) =
      ((performAll (performAll documents calls).1 others).1,
        (performAll documents calls).2 ++ (performAll (performAll documents calls).1 others).2) := by
  induction calls generalizing documents with
  | nil => rfl
  | cons first rest ih =>
      rw [List.cons_append, performAll, performAll, ih]
      rfl

theorem performAll_concat_fst (documents : DocumentSet) (calls : List Call) (call : Call) :
    (performAll documents (calls ++ [call])).1 =
      (perform (performAll documents calls).1 call).1 := by
  rw [performAll_append]
  rfl

theorem length_performAll_snd (documents : DocumentSet) (calls : List Call) :
    (performAll documents calls).2.length = calls.length := by
  induction calls generalizing documents with
  | nil => rfl
  | cons first rest ih =>
      rw [performAll, List.length_cons, List.length_cons, ih]

/-- What a call gives is found at its place among the replies.  It is settled by the
calls before it. -/
theorem reply_at (documents : DocumentSet) (before : List Call) (call : Call)
    (after : List Call) :
    (performAll documents (before ++ call :: after)).2[before.length]? =
      some (call.reply ((performAll documents before).1.get? call.uri)) := by
  have counted := length_performAll_snd documents before
  rw [performAll_append, ← counted, List.getElem?_append_right (Nat.le_refl _), Nat.sub_self,
    ← perform_snd]
  rfl

/-- Calls that do not write under an identifier leave its document alone. -/
theorem get?_performAll_of_not_writes {documents : DocumentSet} {calls : List Call} {uri : Uri}
    (reads : ∀ call ∈ calls, ¬ call.Writes uri) :
    (performAll documents calls).1.get? uri = documents.get? uri := by
  induction calls generalizing documents with
  | nil => rfl
  | cons first rest ih =>
      rcases List.forall_mem_cons.mp reads with ⟨firstReads, further⟩
      have kept : (perform documents first).1.get? uri = documents.get? uri := by
        apply Option.ext
        intro document
        rw [get?_perform_eq_some_iff, and_iff_right firstReads, or_iff_right]
        rintro rfl
        exact firstReads rfl
      exact (ih further).trans kept

/-! ## The last document put -/

/-- The document was put under the identifier, and no later call writes there. -/
def LastPut (uri : Uri) (calls : List Call) (document : Document) : Prop :=
  ∃ before after, calls = before ++ .put uri document :: after ∧
    ∀ later ∈ after, ¬ later.Writes uri

/-- One more call changes the last document put just as it changes the stored one. -/
theorem lastPut_concat_iff {uri : Uri} {calls : List Call} {call : Call} {document : Document} :
    LastPut uri (calls ++ [call]) document ↔
      call = .put uri document ∨ ¬ call.Writes uri ∧ LastPut uri calls document := by
  constructor
  · rintro ⟨before, after, split, silent⟩
    rcases List.eq_nil_or_concat after with rfl | ⟨rest, later, rfl⟩
    · exact Or.inl (List.singleton_inj.mp (List.append_inj_right' split rfl))
    · rw [List.concat_eq_append] at silent split
      rw [← List.cons_append, ← List.append_assoc] at split
      have same : call = later := List.singleton_inj.mp (List.append_inj_right' split rfl)
      subst same
      refine Or.inr ⟨silent call (List.mem_append_right rest List.mem_cons_self), before, rest,
        List.append_inj_left' split rfl, ?_⟩
      intro earlier member
      exact silent earlier (List.mem_append_left [call] member)
  · rintro (rfl | ⟨reads, before, after, rfl, silent⟩)
    · exact ⟨calls, [], rfl, fun _ member => absurd member List.not_mem_nil⟩
    · refine ⟨before, after ++ [call], by rw [List.append_assoc, List.cons_append], ?_⟩
      intro later member
      rcases List.mem_append.mp member with earlier | last
      · exact silent later earlier
      · rw [List.mem_singleton.mp last]
        exact reads

/-- What is stored is what was put last.  Step by step both are settled alike. -/
theorem get?_performAll_eq_some_iff {calls : List Call} {uri : Uri} {document : Document} :
    (performAll Table.empty calls).1.get? uri = some document ↔ LastPut uri calls document := by
  induction calls using List.reverseRecOn with
  | nil =>
      refine iff_of_false (by rintro ⟨⟩) ?_
      rintro ⟨before, after, split, _⟩
      exact List.append_ne_nil_of_right_ne_nil before (List.cons_ne_nil _ after) split.symm
  | append_singleton calls call ih =>
      rw [performAll_concat_fst, get?_perform_eq_some_iff, lastPut_concat_iff, ih]

/-! ## The law -/

/-- The calls on a set of documents, from the empty one on, are those on a finite map.

A document is stored under an identifier exactly when it was put there and no later
call writes there.  Putting, looking up and removing give what was stored under the
identifier before, and the question whether there is a document is answered
accordingly.  Calls that do not write under an identifier, among them all that name
another one, do not change what is stored there.

The size is the number of identifiers with a document.  A put adds one only where there
is none, a removal takes one away only where there is one, and the set is empty when its
size is zero.

Whatever calls come after it, a call other than that question has given a document
exactly when this is the last one put before.  It is the same document, so its kind,
identity, text and analysis context are the same. -/
theorem performAll_refines_finiteMap :
    (∀ calls uri document, (performAll Table.empty calls).1.get? uri = some document ↔
      ∃ before after, calls = before ++ .put uri document :: after ∧
        ∀ later ∈ after, ¬ later.Writes uri) ∧
    (∀ before call after,
      (performAll Table.empty (before ++ call :: after)).2[before.length]? =
        some (call.reply ((performAll Table.empty before).1.get? call.uri))) ∧
    (∀ calls others uri, (∀ call ∈ others, call.uri ≠ uri ∨ ¬ call.Writes uri) →
      (performAll Table.empty (calls ++ others)).1.get? uri =
        (performAll Table.empty calls).1.get? uri) ∧
    (∀ calls, let documents := (performAll Table.empty calls).1
      (∃ present : Finset Uri,
        (∀ uri, uri ∈ present ↔ ∃ document, documents.get? uri = some document) ∧
          documents.size = present.card) ∧
      (documents.isEmpty = true ↔ documents.size = 0) ∧
      (∀ uri, documents.contains uri = true ↔ ∃ document, documents.get? uri = some document) ∧
      (∀ uri document, (perform documents (.put uri document)).1.size =
        if documents.contains uri then documents.size else documents.size + 1) ∧
      ∀ uri, (perform documents (.remove uri)).1.size =
        if documents.contains uri then documents.size - 1 else documents.size) ∧
    ∀ before call after document,
      (performAll Table.empty (before ++ call :: after)).2[before.length]? =
          some (.document (some document)) ↔
        call ≠ .contains call.uri ∧ LastPut call.uri before document := by
  refine ⟨fun _ _ _ => get?_performAll_eq_some_iff, reply_at Table.empty, ?_, ?_, ?_⟩
  · intro calls others uri apart
    rw [performAll_append]
    apply get?_performAll_of_not_writes
    intro call member
    rcases apart call member with elsewhere | reads
    · exact fun writes => elsewhere writes.uri_eq
    · exact reads
  · intro calls documents
    refine ⟨?_, Table.isEmpty_iff, fun _ => Option.isSome_iff_exists, ?_, ?_⟩
    · rcases documents.exists_keys with ⟨present, listed, counted⟩
      exact ⟨present, fun uri => (listed uri).trans Option.isSome_iff_exists, counted⟩
    · intro uri document
      rw [perform_put_fst, Table.size_put]
    · intro uri
      rw [perform_remove_fst, Table.size_remove]
  · intro before call after document
    rw [reply_at, ← get?_performAll_eq_some_iff]
    cases call with
    | put uri stored => simp [Call.reply, Call.uri]
    | get uri => simp [Call.reply, Call.uri]
    | remove uri => simp [Call.reply, Call.uri]
    | contains uri => simp [Call.reply, Call.uri]

/-- One document is replaced while another, whose identifier differs in letter case, stays.
The replaced document is given to the caller, and it is still the one that was put after
the new one has been removed. -/
theorem performAll_refines_finiteMap_replaced :
    let uri : Uri := ⟨"file:///a", by decide⟩
    let other : Uri := ⟨"FILE:///a", by decide⟩
    let old : Document := .productDefinition ⟨uri, "old", .empty⟩
    let new : Document := .moduleDefinition ⟨uri, "new", .empty⟩
    let before : List Call := [.put uri old, .put other new, .contains uri]
    (performAll Table.empty (before ++ [.put uri new])).1.get? uri = some new ∧
      (performAll Table.empty (before ++ [.put uri new])).1.get? other =
        (performAll Table.empty before).1.get? other ∧
      (performAll Table.empty (before ++ [.put uri new, .remove uri])).2[3]? =
        some (.document (some old)) ∧
      ∃ present : Finset Uri, present.card = 2 ∧ ∀ named, named ∈ present ↔
        ∃ document, (performAll Table.empty before).1.get? named = some document := by
  intro uri other old new before
  rcases performAll_refines_finiteMap with ⟨stored, _, framed, counted, given⟩
  have different : uri ≠ other := by decide
  refine ⟨(stored _ uri new).mpr ⟨before, [], rfl, ?_⟩, framed before _ other ?_,
    (given before (.put uri new) [.remove uri] old).mpr ⟨?_, [], [.put other new, .contains uri],
      rfl, ?_⟩, ?_⟩
  · exact fun _ member => absurd member List.not_mem_nil
  · rintro call member
    rw [List.mem_singleton.mp member]
    exact Or.inl different
  · rintro ⟨⟩
  · rintro later member writes
    rcases List.mem_cons.mp member with rfl | member
    · exact different writes.symm
    · rw [List.mem_singleton.mp member] at writes
      exact writes
  · rcases (counted before).1 with ⟨present, listed, size⟩
    exact ⟨present, size.symm, listed⟩

end DocumentSet
end LanguageServer
