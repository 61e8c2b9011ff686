namespace LanguageServer

/-!
Finite tables.  A table holds at most one value for each key.  Its entries
stand in the order in which their keys were first put; replacing a value keeps
the place.  The view of a table is `get?`: what each operation does to it is
said by one lemma, and later arguments use those lemmas alone.
-/

/-- A finite map with distinct keys. -/
structure Table (κ ν : Type) where
  entries : List (κ × ν)
  distinct : (entries.map Prod.fst).Nodup

namespace Table

variable {κ ν : Type} [DecidableEq κ]

/-- The table without entries. -/
def empty : Table κ ν := ⟨[], by simp⟩

/-- Finds the value of a key among entries. -/
def find (key : κ) : List (κ × ν) → Option ν
  | [] => none
  | entry :: rest => if entry.1 = key then some entry.2 else find key rest

/-- Replaces the value of a key, or adds the key at the end. -/
def insert (key : κ) (value : ν) : List (κ × ν) → List (κ × ν)
  | [] => [(key, value)]
  | entry :: rest =>
      if entry.1 = key then (key, value) :: rest else entry :: insert key value rest

/-- Drops the entry of a key. -/
def erase (key : κ) : List (κ × ν) → List (κ × ν)
  | [] => []
  | entry :: rest => if entry.1 = key then rest else entry :: erase key rest

theorem mem_keys_insert {key other : κ} {value : ν} {entries : List (κ × ν)} :
    other ∈ (insert key value entries).map Prod.fst ↔
      other = key ∨ other ∈ entries.map Prod.fst := by
  induction entries with
  | nil => simp [insert]
  | cons entry rest ih =>
      by_cases same : entry.1 = key
      · subst same
        simp [insert]
      · rw [insert, if_neg same, List.map_cons, List.mem_cons, ih, List.map_cons,
          List.mem_cons]
        constructor
        · intro member
          rcases member with first | second | third
          · exact Or.inr (Or.inl first)
          · exact Or.inl second
          · exact Or.inr (Or.inr third)
        · intro member
          rcases member with first | second | third
          · exact Or.inr (Or.inl first)
          · exact Or.inl second
          · exact Or.inr (Or.inr third)

theorem nodup_keys_insert {key : κ} {value : ν} {entries : List (κ × ν)}
    (distinct : (entries.map Prod.fst).Nodup) :
    ((insert key value entries).map Prod.fst).Nodup := by
  induction entries with
  | nil => simp [insert]
  | cons entry rest ih =>
      have parts := List.nodup_cons.mp distinct
      by_cases same : entry.1 = key
      · rw [insert, if_pos same]
        subst same
        exact distinct
      · rw [insert, if_neg same, List.map_cons]
        refine List.nodup_cons.mpr ⟨?_, ih parts.2⟩
        rw [mem_keys_insert]
        intro member
        rcases member with equal | member
        · exact same equal
        · exact parts.1 member

theorem erase_sublist (key : κ) (entries : List (κ × ν)) :
    (erase key entries).Sublist entries := by
  induction entries with
  | nil => exact List.Sublist.refl _
  | cons entry rest ih =>
      by_cases same : entry.1 = key
      · rw [erase, if_pos same]
        exact List.sublist_cons_self entry rest
      · rw [erase, if_neg same]
        exact List.Sublist.cons_cons entry ih

/-- The value of a key. -/
def get? (table : Table κ ν) (key : κ) : Option ν := find key table.entries

/-- Whether a key has a value. -/
def contains (table : Table κ ν) (key : κ) : Bool := (table.get? key).isSome

/-- The number of keys with a value. -/
def size (table : Table κ ν) : Nat := table.entries.length

/-- Whether no key has a value. -/
def isEmpty (table : Table κ ν) : Bool := table.entries.isEmpty

/-- The table in which a key has a given value. -/
def put (table : Table κ ν) (key : κ) (value : ν) : Table κ ν :=
  ⟨insert key value table.entries, nodup_keys_insert table.distinct⟩

/-- The table in which a key has no value. -/
def remove (table : Table κ ν) (key : κ) : Table κ ν :=
  ⟨erase key table.entries,
    List.Nodup.sublist (List.Sublist.map Prod.fst (erase_sublist key table.entries))
      table.distinct⟩

theorem find_insert (key other : κ) (value : ν) (entries : List (κ × ν)) :
    find other (insert key value entries) =
      if key = other then some value else find other entries := by
  induction entries with
  | nil => simp [insert, find]
  | cons entry rest ih =>
      by_cases same : entry.1 = key
      · subst same
        by_cases equal : entry.1 = other
        · simp [insert, find, equal]
        · simp [insert, find, equal]
      · by_cases equal : entry.1 = other
        · have different : ¬ key = other := fun h => same (equal.trans h.symm)
          rw [insert, if_neg same, find, if_pos equal, if_neg different, find, if_pos equal]
        · simp [insert, find, same, equal, ih]

/-- A value is found exactly for the keys of entries. -/
theorem isSome_find_iff {key : κ} {entries : List (κ × ν)} :
    (find key entries).isSome = true ↔ key ∈ entries.map Prod.fst := by
  induction entries with
  | nil => simp [find]
  | cons entry rest ih =>
      rw [List.map_cons, List.mem_cons]
      by_cases same : entry.1 = key
      · rw [find, if_pos same]
        exact iff_of_true rfl (Or.inl same.symm)
      · rw [find, if_neg same, ih]
        constructor
        · exact Or.inr
        · intro member
          rcases member with first | further
          · exact absurd first.symm same
          · exact further

theorem find_eq_none_of_not_mem {key : κ} {entries : List (κ × ν)}
    (absent : key ∉ entries.map Prod.fst) : find key entries = none := by
  rw [← Option.not_isSome_iff_eq_none, isSome_find_iff]
  exact absent

theorem find_erase {key other : κ} {entries : List (κ × ν)}
    (distinct : (entries.map Prod.fst).Nodup) :
    find other (erase key entries) =
      if key = other then none else find other entries := by
  induction entries with
  | nil => simp [erase, find]
  | cons entry rest ih =>
      have parts := List.nodup_cons.mp distinct
      by_cases same : entry.1 = key
      · subst same
        by_cases equal : entry.1 = other
        · subst equal
          simp [erase, find_eq_none_of_not_mem parts.1]
        · simp [erase, find, equal]
      · by_cases equal : entry.1 = other
        · have different : ¬ key = other := fun h => same (equal.trans h.symm)
          rw [erase, if_neg same, find, if_pos equal, if_neg different, find, if_pos equal]
        · simp [erase, find, same, equal, ih parts.2]

theorem erase_of_find_eq_none {key : κ} {entries : List (κ × ν)}
    (absent : find key entries = none) : erase key entries = entries := by
  induction entries with
  | nil => rfl
  | cons entry rest ih =>
      by_cases same : entry.1 = key
      · rw [find, if_pos same] at absent
        cases absent
      · rw [find, if_neg same] at absent
        rw [erase, if_neg same, ih absent]

@[simp] theorem get?_empty (key : κ) : (empty : Table κ ν).get? key = none := rfl

/-- A put is seen at its own key and nowhere else. -/
@[simp] theorem get?_put (table : Table κ ν) (key other : κ) (value : ν) :
    (table.put key value).get? other =
      if key = other then some value else table.get? other :=
  find_insert key other value table.entries

/-- A removal is seen at its own key and nowhere else. -/
@[simp] theorem get?_remove (table : Table κ ν) (key other : κ) :
    (table.remove key).get? other =
      if key = other then none else table.get? other :=
  find_erase table.distinct

/-- Replaces the value of a key, or adds the key at the end, and gives the value
that was replaced. -/
def exchangeIn (key : κ) (value : ν) : List (κ × ν) → Option ν × List (κ × ν)
  | [] => (none, [(key, value)])
  | entry :: rest =>
      if entry.1 = key then (some entry.2, (key, value) :: rest)
      else
        let others := exchangeIn key value rest
        (others.1, entry :: others.2)

/-- Drops the entry of a key and gives the value that was dropped. -/
def takeFrom (key : κ) : List (κ × ν) → Option ν × List (κ × ν)
  | [] => (none, [])
  | entry :: rest =>
      if entry.1 = key then (some entry.2, rest)
      else
        let others := takeFrom key rest
        (others.1, entry :: others.2)

theorem exchangeIn_eq (key : κ) (value : ν) (entries : List (κ × ν)) :
    exchangeIn key value entries = (find key entries, insert key value entries) := by
  induction entries with
  | nil => rfl
  | cons entry rest ih =>
      by_cases same : entry.1 = key
      · rw [exchangeIn, find, insert, if_pos same, if_pos same, if_pos same]
      · rw [exchangeIn, find, insert, if_neg same, if_neg same, if_neg same, ih]

theorem takeFrom_eq (key : κ) (entries : List (κ × ν)) :
    takeFrom key entries = (find key entries, erase key entries) := by
  induction entries with
  | nil => rfl
  | cons entry rest ih =>
      by_cases same : entry.1 = key
      · rw [takeFrom, find, erase, if_pos same, if_pos same, if_pos same]
      · rw [takeFrom, find, erase, if_neg same, if_neg same, if_neg same, ih]

/-- Puts a value under a key and gives the value it replaces. -/
def exchange (table : Table κ ν) (key : κ) (value : ν) : Option ν × Table κ ν :=
  match found : exchangeIn key value table.entries with
  | (replaced, entries) =>
      (replaced, ⟨entries, by
        rw [exchangeIn_eq] at found
        cases found
        exact nodup_keys_insert table.distinct⟩)

/-- Removes a key and gives the value it had. -/
def takeOut (table : Table κ ν) (key : κ) : Option ν × Table κ ν :=
  match found : takeFrom key table.entries with
  | (removed, entries) =>
      (removed, ⟨entries, by
        rw [takeFrom_eq] at found
        cases found
        exact (table.remove key).distinct⟩)

/-- An exchange is a put that also tells what was there before. -/
theorem exchange_eq (table : Table κ ν) (key : κ) (value : ν) :
    table.exchange key value = (table.get? key, table.put key value) := by
  unfold exchange
  split
  next replaced entries found =>
    rw [exchangeIn_eq] at found
    cases found
    rfl

/-- Taking out is a removal that also tells what was there before. -/
theorem takeOut_eq (table : Table κ ν) (key : κ) :
    table.takeOut key = (table.get? key, table.remove key) := by
  unfold takeOut
  split
  next removed entries found =>
    rw [takeFrom_eq] at found
    cases found
    rfl

theorem length_insert (key : κ) (value : ν) (entries : List (κ × ν)) :
    (insert key value entries).length =
      if (find key entries).isSome then entries.length else entries.length + 1 := by
  induction entries with
  | nil => rfl
  | cons entry rest ih =>
      by_cases same : entry.1 = key
      · rw [insert, find, if_pos same, if_pos same]
        rfl
      · rw [insert, find, if_neg same, if_neg same, List.length_cons, ih, List.length_cons]
        split
        · rfl
        · rfl

theorem length_erase (key : κ) (entries : List (κ × ν)) :
    (erase key entries).length =
      if (find key entries).isSome then entries.length - 1 else entries.length := by
  induction entries with
  | nil => rfl
  | cons entry rest ih =>
      by_cases same : entry.1 = key
      · rw [erase, find, if_pos same, if_pos same]
        rfl
      · rw [erase, find, if_neg same, if_neg same, List.length_cons, ih, List.length_cons]
        split
        · next present =>
            -- A list in which something is found is not empty.
            have nonempty := List.length_pos_of_mem (isSome_find_iff.mp present)
            rw [List.length_map] at nonempty
            omega
        · rfl

/-- A put adds a key unless it has a value already. -/
theorem size_put (table : Table κ ν) (key : κ) (value : ν) :
    (table.put key value).size = if table.contains key then table.size else table.size + 1 :=
  length_insert key value table.entries

/-- A removal takes a key away only if it has a value. -/
theorem size_remove (table : Table κ ν) (key : κ) :
    (table.remove key).size = if table.contains key then table.size - 1 else table.size :=
  length_erase key table.entries

omit [DecidableEq κ] in
theorem isEmpty_iff {table : Table κ ν} : table.isEmpty = true ↔ table.size = 0 := by
  unfold isEmpty size
  rw [List.isEmpty_iff, List.length_eq_zero_iff]

/-- Removing a key without a value changes nothing. -/
theorem remove_of_get?_eq_none {table : Table κ ν} {key : κ}
    (absent : table.get? key = none) : table.remove key = table := by
  obtain ⟨entries, distinct⟩ := table
  simp only [remove, erase_of_find_eq_none absent]

end Table
end LanguageServer
