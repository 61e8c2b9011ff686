import LanguageServer.Proofs.Configuration.Reading
import Mathlib.Data.List.Find

namespace LanguageServer

/-!
# What reading a configuration ignores and what it reports

Only declared fields matter.  The keys of an object may stand in any order, and under a
key that is not declared anything may be added or left out, in the whole and in every
section.  The result is the same, whether it is a configuration or an error.

Of several malformed fields one is reported.  In an object it is the one whose key is
least in the order of bytes, in an array it is the first one, and the same is true of
the parts inside it.  That an array is too long is reported only when none of its fields
is malformed.  Which values are malformed is not asked of the reader: they are those
that denote nothing.
-/

/-- All keys in a value are texts, and none occurs twice in an object. -/
inductive Json.KeysDistinct : Json → Prop where
  | null : KeysDistinct .null
  | bool (value : Bool) : KeysDistinct (.bool value)
  | number (value : Number) : KeysDistinct (.number value)
  | string (content : Literal) : KeysDistinct (.string content)
  | array {items : List Json} (each : ∀ item ∈ items, KeysDistinct item) :
      KeysDistinct (.array items)
  | object {entries : Json.Entries} (named : ∀ entry ∈ entries, entry.1 ≠ .unpaired)
      (distinct : (entries.map Prod.fst).Nodup)
      (each : ∀ entry ∈ entries, KeysDistinct entry.2) : KeysDistinct (.object entries)

/-- The value has parts of its own. -/
def Json.IsComposite : Json → Prop
  | .array _ => True
  | .object _ => True
  | _ => False

namespace Configuration

/-! ## Rearranging a value -/

/-- One value arises from the other by putting the keys of objects into another order, and
by adding or leaving out keys of records that are not declared.  This may be done at
any depth and any number of times.  It is told what a value is read as, if it is read
at all. -/
inductive Rearranged : Option Expected → Json → Json → Prop where
  | refl {reading : Option Expected} {value : Json} : Rearranged reading value value
  | symm {reading : Option Expected} {value other : Json}
      (rearranged : Rearranged reading value other) : Rearranged reading other value
  | trans {reading : Option Expected} {value middle other : Json}
      (first : Rearranged reading value middle) (second : Rearranged reading middle other) :
      Rearranged reading value other
  | reorder {reading : Option Expected} {entries others : Json.Entries}
      (permuted : entries.Perm others) : Rearranged reading (.object entries) (.object others)
  | undeclared {expected : Expected} {entries : Json.Entries} {key : String} {value : Json}
      (record : expected.fields ≠ []) (unknown : key ∉ expected.fields.map Prod.fst) :
      Rearranged (some expected) (.object entries) (.object ((.text key, value) :: entries))
  | entry {reading : Option Expected} {entries : Json.Entries} {key : String}
      {value other : Json} (inside : Rearranged (reading.bind (·.underKey? key)) value other) :
      Rearranged reading (.object ((.text key, value) :: entries))
        (.object ((.text key, other) :: entries))
  | item {reading : Option Expected} {before after : List Json} {value other : Json}
      (inside : Rearranged (reading.bind (·.atPlace? before.length)) value other) :
      Rearranged reading (.array (before ++ value :: after)) (.array (before ++ other :: after))

/-- Whether keys are in order depends on how often they occur. -/
theorem checkKeys_congr {declared : List String} {entries others : Json.Entries}
    (unpaired : (entries.any fun entry => entry.1 = .unpaired) =
      others.any fun entry => entry.1 = .unpaired)
    (counted : ∀ key ∈ declared, (entries.filter fun entry => entry.1 = .text key).length =
      (others.filter fun entry => entry.1 = .text key).length) :
    checkKeys declared entries = checkKeys declared others := by
  have twice : (declared.find? fun key =>
        1 < (entries.filter fun entry => entry.1 = .text key).length) =
      declared.find? fun key =>
        1 < (others.filter fun entry => entry.1 = .text key).length := by
    apply List.find?_congr
    intro key member
    rw [counted key member]
  unfold checkKeys
  rw [unpaired, twice]

theorem Gives.perm {entries others : Json.Entries} {key : String} {given : Option Json}
    (gives : Gives entries key given) (permuted : entries.Perm others) :
    Gives others key given := by
  have found := permuted.filter fun entry => entry.1 = .text key
  unfold Gives at gives ⊢
  rw [gives] at found
  cases given with
  | none => exact List.nil_perm.mp found
  | some value => exact (List.singleton_perm.mp found).symm

theorem lookup_cons_self (key : String) (value : Json) (entries : Json.Entries) :
    Json.lookup ((.text key, value) :: entries) key = some value := by
  simp [Json.lookup]

theorem lookup_cons_of_ne {key other : String} (different : other ≠ key) (value : Json)
    (entries : Json.Entries) :
    Json.lookup ((.text other, value) :: entries) key = Json.lookup entries key := by
  simp [Json.lookup, different]

/-- The order of keys does not matter. -/
theorem read_object_perm {expected : Expected} {entries others : Json.Entries}
    (permuted : entries.Perm others) :
    expected.read (.object entries) = expected.read (.object others) := by
  have checked : checkKeys (expected.visited.map Prod.fst) entries =
      checkKeys (expected.visited.map Prod.fst) others :=
    checkKeys_congr permuted.any_eq fun key _ => (permuted.filter _).length_eq
  apply read_object_congr checked
  intro inOrder field declared
  rw [← checked, checkKeys_eq_ok_iff] at inOrder
  have listed : field.1 ∈ expected.visited.map Prod.fst :=
    List.mem_map_of_mem (expected.visited_perm.mem_iff.mpr declared)
  have moved := (inOrder.2 field.1 listed).perm permuted
  rw [(gives_iff.mp moved).2]

/-- A key that is not declared does not matter, whatever stands there. -/
theorem read_object_undeclared {expected : Expected} {entries : Json.Entries} {key : String}
    (unknown : key ∉ expected.fields.map Prod.fst) (value : Json) :
    expected.read (.object entries) = expected.read (.object ((.text key, value) :: entries)) := by
  have different {field : String × Expected} (declared : field ∈ expected.fields) :
      key ≠ field.1 := by
    rintro rfl
    exact unknown (List.mem_map_of_mem declared)
  apply read_object_congr
  · apply checkKeys_congr
    · simp
    · intro other member
      rcases List.mem_map.mp member with ⟨field, visits, rfl⟩
      rw [filter_key_cons_of_ne (different (expected.visited_perm.mem_iff.mp visits))]
  · intro _ field declared
    rw [lookup_cons_of_ne (different declared)]

/-- A field may be given differently, as long as it is read alike. -/
theorem read_object_entry {expected : Expected} {entries : Json.Entries} {key : String}
    {value other : Json}
    (alike : ∀ part, expected.underKey? key = some part → part.read value = part.read other) :
    expected.read (.object ((.text key, value) :: entries)) =
      expected.read (.object ((.text key, other) :: entries)) := by
  apply read_object_congr
  · apply checkKeys_congr
    · simp
    · intro declared _
      by_cases same : key = declared
      · subst same
        rw [filter_key_cons_self, filter_key_cons_self, List.length_cons, List.length_cons]
      · rw [filter_key_cons_of_ne same, filter_key_cons_of_ne same]
  · intro _ field declared
    by_cases same : key = field.1
    · subst same
      rw [lookup_cons_self, lookup_cons_self, Option.map_some, Option.map_some,
        alike field.2 (expected.underKey?_of_mem field declared)]
    · rw [lookup_cons_of_ne same, lookup_cons_of_ne same]

theorem read_array_item {expected : Expected} {before after : List Json} {value other : Json}
    (alike : ∀ part, expected.atPlace? before.length = some part →
      part.read value = part.read other) :
    expected.read (.array (before ++ value :: after)) =
      expected.read (.array (before ++ other :: after)) := by
  apply read_array_congr
  · rw [List.length_append, List.length_append, List.length_cons, List.length_cons]
  · intro place field declared
    by_cases same : place = before.length
    · subst same
      have expects : expected.atPlace? before.length = some field.2 := by
        rw [Expected.atPlace?, declared, Option.map_some]
      rw [List.getElem?_append_right (Nat.le_refl _), List.getElem?_append_right (Nat.le_refl _),
        Nat.sub_self, List.getElem?_cons_zero, List.getElem?_cons_zero, Option.map_some,
        Option.map_some, alike field.2 expects]
    · rw [getElem?_put_of_ne before after value other same]

/-- Rearranged values are read alike. -/
theorem Rearranged.read_eq {reading : Option Expected} {value other : Json}
    (rearranged : Rearranged reading value other) {expected : Expected}
    (readAs : reading = some expected) : expected.read value = expected.read other := by
  induction rearranged generalizing expected with
  | refl => rfl
  | symm _ ih => exact (ih readAs).symm
  | trans _ _ first second => exact (first readAs).trans (second readAs)
  | reorder permuted => exact read_object_perm permuted
  | undeclared record unknown =>
      cases readAs
      exact read_object_undeclared unknown _
  | entry _ ih =>
      subst readAs
      exact read_object_entry fun part expects => ih expects
  | item _ ih =>
      subst readAs
      exact read_array_item fun part expects => ih expects

theorem Rearranged.null_iff {reading : Option Expected} {value other : Json}
    (rearranged : Rearranged reading value other) : value = .null ↔ other = .null := by
  induction rearranged with
  | refl => exact Iff.rfl
  | symm _ ih => exact ih.symm
  | trans _ _ first second => exact first.trans second
  | reorder _ => exact iff_of_false Json.noConfusion Json.noConfusion
  | undeclared _ _ => exact iff_of_false Json.noConfusion Json.noConfusion
  | entry _ _ => exact iff_of_false Json.noConfusion Json.noConfusion
  | item _ _ => exact iff_of_false Json.noConfusion Json.noConfusion

/-! ## The fault of a value -/

/-- Of the fields that an array gives, those ahead of a place are not malformed. -/
def SoundAhead (fields : List (String × Expected)) (items : List Json) (place : Nat) : Prop :=
  ∀ (earlier : Nat) (field : String × Expected) (value : Json), earlier < place →
    fields[earlier]? = some field → items[earlier]? = some value → ¬ field.2.Malformed value

/-- The fault that is reported for a value. -/
inductive Faults : Expected → Json → DecodeError → Prop where
  /-- The value as a whole is not what is expected. -/
  | whole {expected : Expected} {value : Json} (malformed : expected.Malformed value)
      (plain : expected.fields = [] ∨ ¬ value.IsComposite) :
      Faults expected value (value.mismatch expected)
  /-- Of the malformed fields of an object, this one has the least key. -/
  | byKey {expected : Expected} {entries : Json.Entries} {field : String × Expected}
      {value : Json} {fault : DecodeError} (declared : field ∈ expected.fields)
      (given : (.text field.1, value) ∈ entries) (faults : Faults field.2 value fault)
      (least : ∀ (other : String × Expected) (content : Json), other ∈ expected.fields →
        (.text other.1, content) ∈ entries → other.2.Malformed content →
          Expected.bytes field.1 ≤ Expected.bytes other.1) :
      Faults expected (.object entries) fault
  /-- Of the malformed fields of an array, this one is the first. -/
  | byPlace {expected : Expected} {items : List Json} {place : Nat}
      {field : String × Expected} {value : Json} {fault : DecodeError}
      (declared : expected.fields[place]? = some field)
      (given : items[place]? = some value) (faults : Faults field.2 value fault)
      (first : SoundAhead expected.fields items place) :
      Faults expected (.array items) fault
  /-- No field of the array is malformed, but there are more items than fields. -/
  | tooLong {expected : Expected} {items : List Json} (record : expected.fields ≠ [])
      (long : expected.fields.length < items.length)
      (sound : SoundAhead expected.fields items expected.fields.length) :
      Faults expected (.array items) (.tooManyItems items.length)

/-- Reading meets a fault exactly at the malformed values. -/
theorem isSome_fault?_read_iff {expected : Expected} {value : Json} :
    (fault? (expected.read value)).isSome = true ↔ expected.Malformed value := by
  cases outcome : expected.read value with
  | ok meaning =>
      have denotes := (expected.read_eq_ok_iff value meaning).mp outcome
      exact iff_of_false Bool.false_ne_true fun malformed => malformed meaning denotes
  | error fault =>
      refine iff_of_true rfl fun meaning denotes => ?_
      rw [(expected.read_eq_ok_iff value meaning).mpr denotes] at outcome
      cases outcome

theorem fault?_read_eq_none_iff {expected : Expected} {value : Json} :
    fault? (expected.read value) = none ↔ ¬ expected.Malformed value := by
  rw [← isSome_fault?_read_iff, Option.not_isSome_iff_eq_none]

/-! ### Values as a whole -/

/-- A value that is not read by its parts either has a meaning or is a mismatch. -/
theorem read_plain {expected : Expected} {value : Json}
    (plain : expected.fields = [] ∨ ¬ value.IsComposite) :
    (∃ meaning, expected.read value = .ok meaning) ∨
      expected.read value = .error (value.mismatch expected) := by
  cases expected with
  | boolean =>
      change (∃ meaning, decodeFlag value = .ok meaning) ∨ decodeFlag value = _
      fun_cases decodeFlag value with
      | case1 flag => exact Or.inl ⟨flag, rfl⟩
      | case2 => exact Or.inr rfl
  | path =>
      change (∃ meaning, decodePath value = .ok meaning) ∨ decodePath value = _
      fun_cases decodePath value with
      | case1 => exact Or.inl ⟨none, rfl⟩
      | case2 path => exact Or.inl ⟨some path, rfl⟩
      | case3 => exact Or.inr rfl
  | _ =>
      rcases plain with scalar | simple
      · cases scalar
      · cases value with
        | array items => exact absurd trivial simple
        | object entries => exact absurd trivial simple
        | _ => exact Or.inr rfl

theorem read_plain_eq_error_iff {expected : Expected} {value : Json} {fault : DecodeError}
    (plain : expected.fields = [] ∨ ¬ value.IsComposite) :
    expected.read value = .error fault ↔
      expected.Malformed value ∧ fault = value.mismatch expected := by
  rw [← isSome_fault?_read_iff]
  rcases read_plain plain with ⟨meaning, read⟩ | read
  · rw [read]
    simp [fault?]
  · rw [read]
    simp [fault?, eq_comm]

/-! ### Fields of an object -/

/-- Going through the fields by key ends at the one whose key is least. -/
theorem findSome?_visited_eq_some_iff {expected : Expected}
    {find : String × Expected → Option DecodeError} {fault : DecodeError} :
    expected.visited.findSome? find = some fault ↔
      ∃ field ∈ expected.fields, find field = some fault ∧
        ∀ other ∈ expected.fields, (find other).isSome = true →
          Expected.bytes field.1 ≤ Expected.bytes other.1 := by
  have sorted := expected.pairwise_visited
  have same {field : String × Expected} : field ∈ expected.visited ↔ field ∈ expected.fields :=
    expected.visited_perm.mem_iff
  constructor
  · intro found
    rcases List.findSome?_eq_some_iff.mp found with ⟨before, field, after, split, hit, missed⟩
    rw [split] at sorted
    have behind := (List.pairwise_cons.mp (List.pairwise_append.mp sorted).2.1).1
    refine ⟨field, same.mp (by rw [split]; simp), hit, ?_⟩
    intro other declared faulty
    rw [← same, split, List.mem_append, List.mem_cons] at declared
    rcases declared with earlier | rfl | later
    · rw [missed other earlier] at faulty
      cases faulty
    · exact List.le_refl _
    · exact List.le_of_lt (behind other later)
  · rintro ⟨field, declared, hit, least⟩
    rcases List.append_of_mem (same.mpr declared) with ⟨before, after, split⟩
    rw [split] at sorted
    refine List.findSome?_eq_some_iff.mpr ⟨before, field, after, split, hit, ?_⟩
    intro other earlier
    rw [← Option.not_isSome_iff_eq_none]
    intro faulty
    have listed : other ∈ expected.fields :=
      same.mp (by rw [split]; exact List.mem_append_left _ earlier)
    have ahead := (List.pairwise_append.mp sorted).2.2 other earlier field List.mem_cons_self
    exact least other listed faulty ahead

/-- Where no key occurs twice, what is found at a key is what stands there. -/
theorem lookup_eq_some_iff_mem {entries : Json.Entries}
    (distinct : (entries.map Prod.fst).Nodup) {key : String} {value : Json} :
    Json.lookup entries key = some value ↔ (.text key, value) ∈ entries := by
  induction entries with
  | nil => simp [Json.lookup]
  | cons entry rest ih =>
      rw [List.map_cons, List.nodup_cons] at distinct
      rcases entry with ⟨name, content⟩
      by_cases same : name = .text key
      · subst same
        have fresh : (Literal.text key, value) ∉ rest := fun member =>
          distinct.1 (List.mem_map.mpr ⟨_, member, rfl⟩)
        rw [lookup_cons_self, List.mem_cons, or_iff_left fresh, Option.some.injEq, Prod.mk.injEq,
          and_iff_right rfl, eq_comm]
      · have skipped : Json.lookup ((name, content) :: rest) key = Json.lookup rest key := by
          simp [Json.lookup, same]
        have other : (Literal.text key, value) ≠ (name, content) := fun equal =>
          same (congrArg Prod.fst equal).symm
        rw [skipped, ih distinct.2, List.mem_cons, or_iff_right other]

/-- Distinct keys are in order. -/
theorem checkKeys_of_distinct {entries : Json.Entries}
    (named : ∀ entry ∈ entries, entry.1 ≠ .unpaired) (distinct : (entries.map Prod.fst).Nodup)
    (declared : List String) : checkKeys declared entries = .ok () := by
  refine checkKeys_eq_ok_iff.mpr ⟨named, fun key _ => gives_iff.mpr ⟨?_, rfl⟩⟩
  have counted : (entries.filter fun entry => entry.1 = .text key).length =
      (entries.map Prod.fst).count (.text key) := by
    rw [List.count, List.countP_map, List.countP_eq_length_filter]
    congr 1
  rw [counted]
  exact List.nodup_iff_count_le_one.mp distinct _

theorem faultAtKey?_eq_some_iff {entries : Json.Entries}
    (distinct : (entries.map Prod.fst).Nodup) {field : String × Expected} {fault : DecodeError} :
    faultAtKey? entries field = some fault ↔
      ∃ value, (.text field.1, value) ∈ entries ∧ field.2.read value = .error fault := by
  simp only [faultAtKey?, Option.bind_eq_some_iff, lookup_eq_some_iff_mem distinct,
    fault?_eq_some_iff]

theorem isSome_faultAtKey?_iff {entries : Json.Entries}
    (distinct : (entries.map Prod.fst).Nodup) {field : String × Expected} :
    (faultAtKey? entries field).isSome = true ↔
      ∃ value, (.text field.1, value) ∈ entries ∧ field.2.Malformed value := by
  simp only [← isSome_fault?_read_iff, Option.isSome_iff_exists, faultAtKey?_eq_some_iff distinct,
    fault?_eq_some_iff]
  exact ⟨fun ⟨fault, value, given, read⟩ => ⟨value, given, fault, read⟩,
    fun ⟨value, given, fault, read⟩ => ⟨fault, value, given, read⟩⟩

theorem read_object_eq_error_iff {expected : Expected} (record : expected.fields ≠ [])
    {entries : Json.Entries} (named : ∀ entry ∈ entries, entry.1 ≠ .unpaired)
    (distinct : (entries.map Prod.fst).Nodup) {fault : DecodeError} :
    expected.read (.object entries) = .error fault ↔
      ∃ field ∈ expected.fields, (∃ value, (.text field.1, value) ∈ entries ∧
        field.2.read value = .error fault) ∧
        ∀ other ∈ expected.fields, (∃ content, (.text other.1, content) ∈ entries ∧
          other.2.Malformed content) → Expected.bytes field.1 ≤ Expected.bytes other.1 := by
  rw [← fault?_eq_some_iff, fault?_read_object record, checkKeys_of_distinct named distinct]
  change expected.visited.findSome? (faultAtKey? entries) = some fault ↔ _
  rw [findSome?_visited_eq_some_iff]
  simp only [faultAtKey?_eq_some_iff distinct, isSome_faultAtKey?_iff distinct]

/-! ### Fields of an array -/

/-- The first member with a result, told by its place. -/
theorem findSome?_eq_some_iff_place {α β : Type} {list : List α} {find : α → Option β}
    {result : β} :
    list.findSome? find = some result ↔
      ∃ (place : Nat) (member : α), list[place]? = some member ∧ find member = some result ∧
        ∀ (earlier : Nat) (other : α), earlier < place → list[earlier]? = some other →
          find other = none := by
  rw [List.findSome?_eq_some_iff]
  constructor
  · rintro ⟨before, member, after, rfl, hit, missed⟩
    refine ⟨before.length, member, by simp, hit, ?_⟩
    intro earlier other ahead given
    rw [List.getElem?_append_left ahead] at given
    exact missed other (List.mem_of_getElem? given)
  · rintro ⟨place, member, stands, hit, missed⟩
    rcases List.getElem?_eq_some_iff.mp stands with ⟨inside, rfl⟩
    refine ⟨list.take place, list[place], list.drop (place + 1), ?_, hit, ?_⟩
    · rw [← List.drop_eq_getElem_cons inside, List.take_append_drop]
    · intro other member
      rcases List.mem_take_iff_getElem.mp member with ⟨earlier, ahead, rfl⟩
      have within := Nat.lt_min.mp ahead
      exact missed earlier _ within.1 (List.getElem?_eq_getElem within.2)

theorem findSome?_zip_eq_some_iff {fields : List (String × Expected)} {items : List Json}
    {fault : DecodeError} :
    (fields.zip items).findSome? faultOfItem? = some fault ↔
      ∃ (place : Nat) (field : String × Expected) (value : Json),
        fields[place]? = some field ∧ items[place]? = some value ∧
          field.2.read value = .error fault ∧ SoundAhead fields items place := by
  rw [findSome?_eq_some_iff_place]
  simp only [SoundAhead, Prod.exists, Prod.forall, List.getElem?_zip_eq_some, faultOfItem?,
    fault?_eq_some_iff, fault?_read_eq_none_iff, and_assoc, and_imp]

theorem findSome?_zip_eq_none_iff {fields : List (String × Expected)} {items : List Json} :
    (fields.zip items).findSome? faultOfItem? = none ↔ SoundAhead fields items fields.length := by
  rw [List.findSome?_eq_none_iff]
  constructor
  · intro missed place field value _ declared given
    have member : (field, value) ∈ fields.zip items :=
      List.mem_of_getElem? (List.getElem?_zip_eq_some.mpr ⟨declared, given⟩)
    exact fault?_read_eq_none_iff.mp (missed _ member)
  · intro sound pair member
    rcases List.mem_iff_getElem?.mp member with ⟨place, stands⟩
    rcases List.getElem?_zip_eq_some.mp stands with ⟨declared, given⟩
    have inside := (List.getElem?_eq_some_iff.mp declared).1
    exact fault?_read_eq_none_iff.mpr (sound place pair.1 pair.2 inside declared given)

theorem fault?_checkLength_eq_some_iff {fields : Nat} {items : List Json} {fault : DecodeError} :
    fault? (checkLength fields items) = some fault ↔
      fields < items.length ∧ fault = .tooManyItems items.length := by
  unfold checkLength
  split
  · rename_i fits
    exact iff_of_false (Option.some_ne_none fault).symm fun ⟨long, _⟩ => Nat.not_lt_of_le fits long
  · rename_i long
    rw [and_iff_right (Nat.lt_of_not_le long), fault?, Option.some.injEq, eq_comm]

theorem read_array_eq_error_iff {expected : Expected} (record : expected.fields ≠ [])
    {items : List Json} {fault : DecodeError} :
    expected.read (.array items) = .error fault ↔
      (∃ (place : Nat) (field : String × Expected) (value : Json),
        expected.fields[place]? = some field ∧ items[place]? = some value ∧
          field.2.read value = .error fault ∧ SoundAhead expected.fields items place) ∨
      SoundAhead expected.fields items expected.fields.length ∧
        expected.fields.length < items.length ∧ fault = .tooManyItems items.length := by
  rw [← fault?_eq_some_iff, fault?_read_array record, Option.or_eq_some_iff,
    findSome?_zip_eq_some_iff, findSome?_zip_eq_none_iff, fault?_checkLength_eq_some_iff]

/-! ### All values -/

/-- The fault of a value is met in reading it. -/
theorem Faults.read_eq_error {expected : Expected} {value : Json} {fault : DecodeError}
    (faults : Faults expected value fault) (distinct : value.KeysDistinct) :
    expected.read value = .error fault := by
  induction faults with
  | whole malformed plain => exact (read_plain_eq_error_iff plain).mpr ⟨malformed, rfl⟩
  | byKey declared given _ least ih =>
      rcases distinct with _ | _ | _ | _ | _ | ⟨named, once, each⟩
      refine (read_object_eq_error_iff (List.ne_nil_of_mem declared) named once).mpr
        ⟨_, declared, ⟨_, given, ih (each _ given)⟩, ?_⟩
      rintro other listed ⟨content, stands, malformed⟩
      exact least other content listed stands malformed
  | byPlace declared given _ first ih =>
      rcases distinct with _ | _ | _ | _ | each | _
      have record := List.ne_nil_of_mem (List.mem_of_getElem? declared)
      exact (read_array_eq_error_iff record).mpr <| Or.inl
        ⟨_, _, _, declared, given, ih (each _ (List.mem_of_getElem? given)), first⟩
  | tooLong record long sound =>
      exact (read_array_eq_error_iff record).mpr (Or.inr ⟨sound, long, rfl⟩)

/-- What is met in reading a record is its fault, if the same is true of its fields. -/
theorem faults_of_fields {expected : Expected}
    (inside : ∀ field ∈ expected.fields, ∀ (value : Json) (fault : DecodeError),
      value.KeysDistinct → field.2.read value = .error fault → Faults field.2 value fault)
    (value : Json) (fault : DecodeError) (distinct : value.KeysDistinct)
    (read : expected.read value = .error fault) : Faults expected value fault := by
  by_cases plain : expected.fields = [] ∨ ¬ value.IsComposite
  · rcases (read_plain_eq_error_iff plain).mp read with ⟨malformed, rfl⟩
    exact .whole malformed plain
  · rw [not_or, not_not] at plain
    rcases plain with ⟨record, composite⟩
    cases distinct with
    | object named once each =>
        rcases (read_object_eq_error_iff record named once).mp read with
          ⟨field, declared, ⟨value, given, read⟩, least⟩
        refine .byKey declared given (inside field declared value fault (each _ given) read) ?_
        intro other content listed stands malformed
        exact least other listed ⟨content, stands, malformed⟩
    | array each =>
        rcases (read_array_eq_error_iff record).mp read with
          ⟨place, field, value, declared, given, read, first⟩ | ⟨sound, long, rfl⟩
        · have faults := inside field (List.mem_of_getElem? declared) value fault
            (each _ (List.mem_of_getElem? given)) read
          exact .byPlace declared given faults first
        · exact .tooLong record long sound
    | _ => cases composite

/-- Where keys are distinct, the fault of a value is the one that is met in reading it. -/
theorem read_eq_error_iff_faults (expected : Expected) (value : Json) (fault : DecodeError)
    (distinct : value.KeysDistinct) :
    expected.read value = .error fault ↔ Faults expected value fault := by
  constructor
  · intro read
    induction expected using Expected.induction_fields generalizing value fault with
    | step expected ih => exact faults_of_fields ih value fault distinct read
  · intro faults
    exact faults.read_eq_error distinct

/-- Client options are a configuration unless they are absent. -/
theorem ofOptions_of_ne_null {value : Json} (present : value ≠ .null) :
    ofOptions value = Expected.configuration.read value := by
  cases value with
  | null => exact absurd rfl present
  | _ => rfl

/-- Client options are read alike when they differ only in the order of keys and in keys that
are not declared.  When they are refused, it is for the fault of the malformed field with
the least key, or of the first malformed item, and for the length of an array only if no
item is malformed; so at every depth. -/
theorem ofOptions_reports_declared_alone :
    (∀ value other : Json, Rearranged (some .configuration) value other →
      ofOptions value = ofOptions other) ∧
    (∀ (expected : Expected) (value : Json) (fault : DecodeError), value.KeysDistinct →
      (expected.read value = .error fault ↔ Faults expected value fault)) ∧
    ∀ (value : Json) (fault : DecodeError), value.KeysDistinct →
      (ofOptions value = .error fault ↔ value ≠ .null ∧ Faults .configuration value fault) := by
  refine ⟨?_, read_eq_error_iff_faults, ?_⟩
  · intro value other rearranged
    by_cases absent : value = .null
    · rw [absent, rearranged.null_iff.mp absent]
    · have present : other ≠ .null := fun null => absent (rearranged.null_iff.mpr null)
      rw [ofOptions_of_ne_null absent, ofOptions_of_ne_null present, rearranged.read_eq rfl]
  · intro value fault distinct
    by_cases absent : value = .null
    · subst absent
      exact iff_of_false (by intro refused; cases refused) fun ⟨present, _⟩ => present rfl
    · rw [and_iff_right absent, ofOptions_of_ne_null absent]
      exact read_eq_error_iff_faults .configuration value fault distinct

/-- Options with two malformed sections.  In one of them two items are malformed, and there is
an item too many. -/
def severalFaults : Json :=
  .object
    [(.text "formatting", .object [(.text "enabled", .string (.text "on"))]),
     (.text "theme", .bool true),
     (.text "analysis", .array [.bool true, .null, .bool false, .null])]

/-- The same options with other keys that are not declared, in another order. -/
def severalFaultsRearranged : Json :=
  .object
    [(.text "analysis", .array [.bool true, .null, .bool false, .null]),
     (.text "formatting",
       .object [(.text "enabled", .string (.text "on")), (.text "width", .null)])]

theorem severalFaults_rearranged :
    Rearranged (some .configuration) severalFaults severalFaultsRearranged := by
  have inside : Rearranged (some .formatting)
      (.object [(.text "enabled", .string (.text "on"))])
      (.object [(.text "enabled", .string (.text "on")), (.text "width", .null)]) :=
    .trans (.undeclared (by decide) (by decide)) (.reorder (.swap _ _ _))
  refine .trans (.reorder (.swap _ _ _)) ?_
  refine .trans (.symm (.undeclared (by decide) (by decide))) ?_
  exact .trans (.entry inside) (.reorder (.swap _ _ _))

theorem severalFaults_keysDistinct : severalFaults.KeysDistinct := by
  refine .object (by decide) (by decide) ?_
  simp only [List.mem_cons, List.not_mem_nil, or_false, forall_eq_or_imp, forall_eq]
  refine ⟨.object (by decide) (by decide) ?_, .bool true, .array ?_⟩
  · simp only [List.mem_singleton, forall_eq]
    exact .string _
  · simp only [List.mem_cons, List.not_mem_nil, or_false, forall_eq_or_imp, forall_eq]
    exact ⟨.bool true, .null, .bool false, .null⟩

/-- Of either form the second item of the analysis section is reported. -/
theorem ofOptions_reports_declared_alone_several :
    Rearranged (some .configuration) severalFaults severalFaultsRearranged ∧
      severalFaults.KeysDistinct ∧
      ofOptions severalFaultsRearranged = .error (.invalidType .null .boolean) ∧
      Faults .configuration severalFaults (.invalidType .null .boolean) := by
  have alike := ofOptions_reports_declared_alone.1 _ _ severalFaults_rearranged
  have refused : ofOptions severalFaults = .error (.invalidType .null .boolean) := rfl
  have reported := (ofOptions_reports_declared_alone.2.2 _ _ severalFaults_keysDistinct).mp refused
  exact ⟨severalFaults_rearranged, severalFaults_keysDistinct, alike ▸ refused, reported.2⟩

end Configuration
end LanguageServer
