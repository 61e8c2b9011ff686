import LanguageServer.Configuration
import Mathlib.Data.List.Nodup

namespace LanguageServer
namespace Configuration

/-!
# The values that denote a configuration

A configuration is a record of records.  Which JSON values denote a record is said
here once, for any list of declared fields: an object gives fields by key, an array
gives them by place, and a field that is not given has its default.  Under keys that
are not declared anything may stand.  A truth value is denoted by itself alone, and a
path by a string or, when there is none, by null.

Reading stops at the first fault.  It is not described by its faults but by its
successes: it gives a configuration exactly for the values that denote it.  At the
top, and nowhere below, null stands for the default configuration.

Since both forms of a record are measured against the same fields, writing the first
few fields by place or by key makes no difference, neither for the whole nor for one
of its sections.
-/

/-! ## Records of declared fields -/

/-- A declared field of a record: its key, and which records agree with what it is
given. -/
structure Field (ρ : Type) where
  key : String
  Denotes : Option Json → ρ → Prop

/-- The field that holds one part of a record.  Left out, it means the default. -/
def Field.holding {ρ α : Type} (key : String) (default : α) (denotes : Json → α → Prop)
    (part : ρ → α) : Field ρ where
  key
  Denotes
    | none, record => part record = default
    | some value, record => denotes value (part record)

/-- What an object gives for a key: nothing, or the value of its one entry with that
key.  A key that occurs twice gives neither. -/
def Gives (entries : Json.Entries) (key : String) (given : Option Json) : Prop :=
  (entries.filter fun entry => entry.1 = .text key) =
    given.toList.map fun value => (.text key, value)

/-- The value denotes the record. -/
inductive DenotesRecord {ρ : Type} (fields : List (Field ρ)) : Json → ρ → Prop where
  | byKey {entries : Json.Entries} {record : ρ}
      (named : ∀ entry ∈ entries, entry.1 ≠ .unpaired)
      (each : ∀ field ∈ fields, ∃ given, Gives entries field.key given ∧
        field.Denotes given record) :
      DenotesRecord fields (.object entries) record
  | byPlace {items : List Json} {record : ρ} (fits : items.length ≤ fields.length)
      (each : ∀ (place : Nat) (field : Field ρ), fields[place]? = some field →
        field.Denotes items[place]? record) :
      DenotesRecord fields (.array items) record

/-- The value denotes a truth value. -/
def DenotesFlag (value : Json) (flag : Bool) : Prop := value = .bool flag

/-- The value denotes a path or its absence. -/
def DenotesPath (value : Json) (path : Option String) : Prop :=
  value = Json.nullable Json.str path

def switchFields : List (Field Bool) := [.holding "enabled" true DenotesFlag id]

def analysisFields : List (Field AnalysisConfiguration) :=
  [.holding "typing_enable_checks" true DenotesFlag (·.enableChecks),
   .holding "typing_show_inlay_hints" false DenotesFlag (·.showInlayHints),
   .holding "lint_override_config_file" none DenotesPath (·.lintOverrideFile)]

def configurationFields : List (Field Configuration) :=
  [.holding "diagnostics" true (DenotesRecord switchFields) (·.diagnostics),
   .holding "formatting" true (DenotesRecord switchFields) (·.formatting),
   .holding "analysis" {} (DenotesRecord analysisFields) (·.analysis)]

/-! ## Reading parts -/

theorem bind_eq_ok_iff {ε α β : Type} {first : Except ε α} {next : α → Except ε β} {result : β} :
    (first >>= next) = .ok result ↔ ∃ middle, first = .ok middle ∧ next middle = .ok result := by
  cases first with
  | error fault =>
      constructor
      · intro failed
        cases failed
      · rintro ⟨_, failed, _⟩
        cases failed
  | ok middle =>
      constructor
      · intro read
        exact ⟨middle, rfl, read⟩
      · rintro ⟨_, same, read⟩
        cases same
        exact read

theorem decodeFlag_eq_ok_iff (value : Json) (flag : Bool) :
    decodeFlag value = .ok flag ↔ DenotesFlag value flag := by
  unfold DenotesFlag
  cases value <;> simp [decodeFlag]

theorem decodePath_eq_ok_iff (value : Json) (path : Option String) :
    decodePath value = .ok path ↔ DenotesPath value path := by
  unfold DenotesPath
  cases path <;> fun_cases decodePath value <;> simp_all [Json.nullable, Json.str]

/-- What an object gives for a key is what is found there, as long as the key does not
occur twice. -/
theorem gives_iff {entries : Json.Entries} {key : String} {given : Option Json} :
    Gives entries key given ↔
      (entries.filter fun entry => entry.1 = .text key).length ≤ 1 ∧
        Json.lookup entries key = given := by
  have keyed : ∀ entry ∈ entries.filter fun entry => entry.1 = .text key,
      entry.1 = .text key := by
    intro entry member
    exact of_decide_eq_true (List.mem_filter.mp member).2
  unfold Gives Json.lookup
  rw [← List.head?_filter]
  generalize (entries.filter fun entry => entry.1 = .text key) = found at keyed
  match found with
  | [] => cases given <;> simp
  | [entry] =>
      have named := keyed entry List.mem_cons_self
      rcases entry with ⟨name, value⟩
      cases named
      cases given <;> simp
  | first :: second :: rest => cases given <;> simp

theorem Gives.unique {entries : Json.Entries} {key : String} {given other : Option Json}
    (gives : Gives entries key given) (otherGives : Gives entries key other) : given = other :=
  (gives_iff.mp gives).2.symm.trans (gives_iff.mp otherGives).2

/-- The keys are in order when all of them are texts and no declared one occurs
twice. -/
theorem checkKeys_eq_ok_iff {declared : List String} {entries : Json.Entries} :
    checkKeys declared entries = .ok () ↔
      (∀ entry ∈ entries, entry.1 ≠ .unpaired) ∧
        ∀ key ∈ declared, Gives entries key (Json.lookup entries key) := by
  have gives (key : String) : Gives entries key (Json.lookup entries key) ↔
      ¬ 1 < (entries.filter fun entry => entry.1 = .text key).length := by
    rw [gives_iff, Nat.not_lt]
    exact and_iff_left rfl
  simp only [gives]
  unfold checkKeys
  by_cases unpaired : (entries.any fun entry => entry.1 = .unpaired) = true
  · rw [if_pos unpaired]
    refine iff_of_false (by intro read; cases read) ?_
    rintro ⟨named, _⟩
    rcases List.any_eq_true.mp unpaired with ⟨entry, member, unnamed⟩
    exact named entry member (of_decide_eq_true unnamed)
  · rw [if_neg unpaired]
    have named : ∀ entry ∈ entries, entry.1 ≠ .unpaired := by
      intro entry member unnamed
      exact unpaired (List.any_eq_true.mpr ⟨entry, member, decide_eq_true unnamed⟩)
    cases twice : declared.find? fun key =>
        1 < (entries.filter fun entry => entry.1 = .text key).length with
    | some key =>
        refine iff_of_false (by intro read; cases read) ?_
        rintro ⟨_, once⟩
        have often := List.find?_some twice
        exact once key (List.mem_of_find?_eq_some twice) (of_decide_eq_true often)
    | none =>
        refine iff_of_true rfl ⟨named, ?_⟩
        intro key member
        have missed := List.find?_eq_none.mp twice key member
        exact of_decide_eq_false (Bool.not_eq_true _ ▸ missed)

theorem checkLength_eq_ok_iff {fields : Nat} {items : List Json} :
    checkLength fields items = .ok () ↔ items.length ≤ fields := by
  unfold checkLength
  split
  · rename_i fits
    exact iff_of_true rfl fits
  · rename_i long
    exact iff_of_false (by intro read; cases read) long

section Fields

variable {ρ α : Type} {decodeField : Json → Except DecodeError α} {denotes : Json → α → Prop}
  (reads : ∀ value meaning, decodeField value = .ok meaning ↔ denotes value meaning)
  {key : String} {default : α} {part : ρ → α} {record : ρ}
include reads

/-- A field of an object is read as what the object gives for it. -/
theorem keyed_eq_ok_iff {entries : Json.Entries} :
    keyed entries key default decodeField = .ok (part record) ↔
      (Field.holding key default denotes part).Denotes (Json.lookup entries key) record := by
  unfold keyed Field.holding
  cases Json.lookup entries key with
  | none => exact ⟨fun same => (Except.ok.inj same).symm, fun same => congrArg Except.ok same.symm⟩
  | some value => exact reads value (part record)

theorem placed_eq_ok_iff {items : List Json} {place : Nat} :
    placed items place default decodeField = .ok (part record) ↔
      (Field.holding key default denotes part).Denotes items[place]? record := by
  unfold placed Field.holding
  cases items[place]? with
  | none => exact ⟨fun same => (Except.ok.inj same).symm, fun same => congrArg Except.ok same.symm⟩
  | some value => exact reads value (part record)

end Fields

/-! ## Reading records -/

section Records

variable {ρ : Type} {fields : List (Field ρ)}

/-- An object denotes a record when its keys are in order and each field agrees with
what is found at its key.  The keys may be checked in any order. -/
theorem denotesRecord_object_iff {declared : List String} {entries : Json.Entries} {record : ρ}
    (same : declared.Perm (fields.map Field.key)) :
    DenotesRecord fields (.object entries) record ↔
      checkKeys declared entries = .ok () ∧
        ∀ field ∈ fields, field.Denotes (Json.lookup entries field.key) record := by
  rw [checkKeys_eq_ok_iff]
  constructor
  · rintro ⟨named, each⟩
    refine ⟨⟨named, ?_⟩, ?_⟩
    · intro key member
      rcases List.mem_map.mp (same.mem_iff.mp member) with ⟨field, declares, rfl⟩
      rcases each field declares with ⟨given, gives, _⟩
      rw [(gives_iff.mp gives).2]
      exact gives
    · intro field member
      rcases each field member with ⟨given, gives, denotes⟩
      rw [(gives_iff.mp gives).2]
      exact denotes
  · rintro ⟨⟨named, once⟩, each⟩
    refine .byKey named ?_
    intro field member
    have declares : field.key ∈ declared := same.mem_iff.mpr (List.mem_map_of_mem member)
    exact ⟨_, once field.key declares, each field member⟩

theorem denotesRecord_array_iff {items : List Json} {record : ρ} :
    DenotesRecord fields (.array items) record ↔
      checkLength fields.length items = .ok () ∧
        ∀ (place : Nat) (field : Field ρ), fields[place]? = some field →
          field.Denotes items[place]? record := by
  rw [checkLength_eq_ok_iff]
  constructor
  · intro denotes
    cases denotes with
    | byPlace fits each => exact ⟨fits, each⟩
  · rintro ⟨fits, each⟩
    exact .byPlace fits each

/-- Something holds at every place of a list when it holds at the first place and,
further on, at every place of the rest. -/
theorem forall_getElem?_cons_iff {α : Type} {first : α} {rest : List α} {holds : Nat → α → Prop} :
    (∀ place entry, (first :: rest)[place]? = some entry → holds place entry) ↔
      holds 0 first ∧ ∀ place entry, rest[place]? = some entry → holds (place + 1) entry := by
  constructor
  · intro every
    exact ⟨every 0 first rfl, fun place entry found => every (place + 1) entry found⟩
  · rintro ⟨atFirst, further⟩ place entry found
    cases place with
    | zero =>
        cases found
        exact atFirst
    | succ place => exact further place entry found

end Records

theorem decodeSwitch_eq_ok_iff (expected : Expected) (value : Json) (flag : Bool) :
    decodeSwitch expected value = .ok flag ↔ DenotesRecord switchFields value flag := by
  cases value with
  | object entries =>
      have declared : List.Perm ["enabled"] (switchFields.map Field.key) := .refl _
      rw [denotesRecord_object_iff declared, switchFields, List.forall_mem_singleton]
      simp only [decodeSwitch, bind_eq_ok_iff]
      constructor
      · rintro ⟨_, inOrder, enabled⟩
        exact ⟨inOrder, (keyed_eq_ok_iff decodeFlag_eq_ok_iff).mp enabled⟩
      · rintro ⟨inOrder, enabled⟩
        exact ⟨(), inOrder, (keyed_eq_ok_iff decodeFlag_eq_ok_iff).mpr enabled⟩
  | array items =>
      rw [denotesRecord_array_iff, switchFields, forall_getElem?_cons_iff]
      simp only [decodeSwitch, bind_eq_ok_iff]
      constructor
      · rintro ⟨_, enabled, _, fits, same⟩
        cases same
        exact ⟨fits, (placed_eq_ok_iff decodeFlag_eq_ok_iff).mp enabled, nofun⟩
      · rintro ⟨fits, enabled, _⟩
        exact ⟨_, (placed_eq_ok_iff decodeFlag_eq_ok_iff).mpr enabled, (), fits, rfl⟩
  | _ => exact iff_of_false (by intro read; cases read) (by intro denotes; cases denotes)

theorem decodeAnalysis_eq_ok_iff (value : Json) (analysis : AnalysisConfiguration) :
    decodeAnalysis value = .ok analysis ↔ DenotesRecord analysisFields value analysis := by
  cases value with
  | object entries =>
      have declared : List.Perm
          ["lint_override_config_file", "typing_enable_checks", "typing_show_inlay_hints"]
          (analysisFields.map Field.key) := by decide
      rw [denotesRecord_object_iff declared, analysisFields, List.forall_mem_cons,
        List.forall_mem_cons, List.forall_mem_singleton]
      simp only [decodeAnalysis, bind_eq_ok_iff]
      constructor
      · rintro ⟨_, inOrder, _, file, _, checks, _, hints, same⟩
        cases same
        exact ⟨inOrder, (keyed_eq_ok_iff decodeFlag_eq_ok_iff).mp checks,
          (keyed_eq_ok_iff decodeFlag_eq_ok_iff).mp hints,
          (keyed_eq_ok_iff decodePath_eq_ok_iff).mp file⟩
      · rintro ⟨inOrder, checks, hints, file⟩
        exact ⟨(), inOrder, _, (keyed_eq_ok_iff decodePath_eq_ok_iff).mpr file,
          _, (keyed_eq_ok_iff decodeFlag_eq_ok_iff).mpr checks,
          _, (keyed_eq_ok_iff decodeFlag_eq_ok_iff).mpr hints, rfl⟩
  | array items =>
      rw [denotesRecord_array_iff, analysisFields, forall_getElem?_cons_iff,
        forall_getElem?_cons_iff, forall_getElem?_cons_iff]
      simp only [decodeAnalysis, bind_eq_ok_iff]
      constructor
      · rintro ⟨_, checks, _, hints, _, file, _, fits, same⟩
        cases same
        exact ⟨fits, (placed_eq_ok_iff decodeFlag_eq_ok_iff).mp checks,
          (placed_eq_ok_iff decodeFlag_eq_ok_iff).mp hints,
          (placed_eq_ok_iff decodePath_eq_ok_iff).mp file, nofun⟩
      · rintro ⟨fits, checks, hints, file, _⟩
        exact ⟨_, (placed_eq_ok_iff decodeFlag_eq_ok_iff).mpr checks,
          _, (placed_eq_ok_iff decodeFlag_eq_ok_iff).mpr hints,
          _, (placed_eq_ok_iff decodePath_eq_ok_iff).mpr file, (), fits, rfl⟩
  | _ => exact iff_of_false (by intro read; cases read) (by intro denotes; cases denotes)

theorem decode_eq_ok_iff (value : Json) (configuration : Configuration) :
    decode value = .ok configuration ↔
      DenotesRecord configurationFields value configuration := by
  have readsDiagnostics := decodeSwitch_eq_ok_iff .diagnostics
  have readsFormatting := decodeSwitch_eq_ok_iff .formatting
  cases value with
  | object entries =>
      have declared : List.Perm ["analysis", "diagnostics", "formatting"]
          (configurationFields.map Field.key) := by decide
      rw [denotesRecord_object_iff declared, configurationFields, List.forall_mem_cons,
        List.forall_mem_cons, List.forall_mem_singleton]
      simp only [decode, bind_eq_ok_iff]
      constructor
      · rintro ⟨_, inOrder, _, analysis, _, diagnostics, _, formatting, same⟩
        cases same
        exact ⟨inOrder, (keyed_eq_ok_iff readsDiagnostics).mp diagnostics,
          (keyed_eq_ok_iff readsFormatting).mp formatting,
          (keyed_eq_ok_iff decodeAnalysis_eq_ok_iff).mp analysis⟩
      · rintro ⟨inOrder, diagnostics, formatting, analysis⟩
        exact ⟨(), inOrder, _, (keyed_eq_ok_iff decodeAnalysis_eq_ok_iff).mpr analysis,
          _, (keyed_eq_ok_iff readsDiagnostics).mpr diagnostics,
          _, (keyed_eq_ok_iff readsFormatting).mpr formatting, rfl⟩
  | array items =>
      rw [denotesRecord_array_iff, configurationFields, forall_getElem?_cons_iff,
        forall_getElem?_cons_iff, forall_getElem?_cons_iff]
      simp only [decode, bind_eq_ok_iff]
      constructor
      · rintro ⟨_, diagnostics, _, formatting, _, analysis, _, fits, same⟩
        cases same
        exact ⟨fits, (placed_eq_ok_iff readsDiagnostics).mp diagnostics,
          (placed_eq_ok_iff readsFormatting).mp formatting,
          (placed_eq_ok_iff decodeAnalysis_eq_ok_iff).mp analysis, nofun⟩
      · rintro ⟨fits, diagnostics, formatting, analysis, _⟩
        exact ⟨_, (placed_eq_ok_iff readsDiagnostics).mpr diagnostics,
          _, (placed_eq_ok_iff readsFormatting).mpr formatting,
          _, (placed_eq_ok_iff decodeAnalysis_eq_ok_iff).mpr analysis, (), fits, rfl⟩
  | _ => exact iff_of_false (by intro read; cases read) (by intro denotes; cases denotes)

/-! ## The two forms of a record -/

theorem filter_key_cons_self (key : String) (value : Json) (rest : Json.Entries) :
    (List.filter (fun entry => entry.1 = .text key) ((.text key, value) :: rest)) =
      (.text key, value) :: rest.filter fun entry => entry.1 = .text key :=
  List.filter_cons_of_pos (decide_eq_true rfl)

theorem filter_key_cons_of_ne {key other : String} (different : other ≠ key) (value : Json)
    (rest : Json.Entries) :
    (List.filter (fun entry => entry.1 = .text key) ((.text other, value) :: rest)) =
      rest.filter fun entry => entry.1 = .text key := by
  refine List.filter_cons_of_neg ?_
  intro same
  exact different (Literal.text.inj (of_decide_eq_true same))

/-- Entries that take their keys from the beginning of a list without repetitions give
for each of its keys the entry at the same place. -/
theorem gives_leading {keys : List String} (distinct : keys.Nodup)
    {given : List (String × Json)} (leading : given.map Prod.fst <+: keys) {place : Nat}
    {key : String} (declared : keys[place]? = some key) :
    Gives (given.map fun field => (.text field.1, field.2)) key
      (given.map Prod.snd)[place]? := by
  induction given generalizing keys place with
  | nil => rfl
  | cons field rest ih =>
      rcases field with ⟨name, value⟩
      cases keys with
      | nil => cases declared
      | cons first others =>
          rcases List.cons_prefix_cons.mp leading with ⟨rfl, further⟩
          rcases List.nodup_cons.mp distinct with ⟨fresh, distinct⟩
          unfold Gives
          cases place with
          | zero =>
              cases declared
              rw [List.map_cons, filter_key_cons_self, List.filter_eq_nil_iff.mpr]
              · rfl
              · intro entry member same
                rcases List.mem_map.mp member with ⟨field, later, rfl⟩
                have listed := further.subset (List.mem_map_of_mem later)
                rw [Literal.text.inj (of_decide_eq_true same)] at listed
                exact fresh listed
          | succ place =>
              have different : name ≠ key := by
                rintro rfl
                exact fresh (List.mem_of_getElem? declared)
              rw [List.map_cons, filter_key_cons_of_ne different]
              exact ih distinct further declared

section Forms

variable {ρ : Type} {fields : List (Field ρ)} (distinct : (fields.map Field.key).Nodup)
include distinct

/-- The first few fields of a record may be given by place or by key. -/
theorem denotesRecord_array_iff_record {given : List (String × Json)}
    (leading : given.map Prod.fst <+: fields.map Field.key) (record : ρ) :
    DenotesRecord fields (.array (given.map Prod.snd)) record ↔
      DenotesRecord fields (Json.record given) record := by
  have gives {place : Nat} {field : Field ρ} (declared : fields[place]? = some field) :=
    gives_leading distinct leading
      (show (fields.map Field.key)[place]? = some field.key by
        rw [List.getElem?_map, declared, Option.map_some])
  constructor
  · intro denotes
    cases denotes with
    | byPlace fits each =>
        refine .byKey ?_ ?_
        · intro entry member
          rcases List.mem_map.mp member with ⟨field, _, rfl⟩
          exact Literal.noConfusion
        · intro field member
          rcases List.mem_iff_getElem?.mp member with ⟨place, declared⟩
          exact ⟨_, gives declared, each place field declared⟩
  · intro denotes
    cases denotes with
    | byKey named each =>
        refine .byPlace ?_ ?_
        · have fits := leading.length_le
          rw [List.length_map, List.length_map] at fits
          rw [List.length_map]
          exact fits
        · intro place field declared
          rcases each field (List.mem_of_getElem? declared) with ⟨found, givesFound, denotes⟩
          rw [(gives declared).unique givesFound]
          exact denotes

end Forms

/-! ## One field of a record -/

/-- The way to put a value into a record as the field with a key and a place. -/
inductive PutsAt (key : String) (place : Nat) : (Json → Json) → Prop where
  | byKey (before after : Json.Entries) :
      PutsAt key place fun value => .object (before ++ (.text key, value) :: after)
  | byPlace (before after : List Json) (counted : before.length = place) :
      PutsAt key place fun value => .array (before ++ value :: after)

theorem gives_put_iff {before after : Json.Entries} {key : String} {value : Json}
    {given : Option Json} :
    Gives (before ++ (.text key, value) :: after) key given ↔
      given = some value ∧ ∀ entry ∈ before ++ after, entry.1 ≠ .text key := by
  have others : (∀ entry ∈ before ++ after, entry.1 ≠ .text key) ↔
      (before.filter fun entry => entry.1 = .text key) = [] ∧
        (after.filter fun entry => entry.1 = .text key) = [] := by
    simp [List.filter_eq_nil_iff, or_imp, forall_and]
  rw [others, Gives, List.filter_append, filter_key_cons_self]
  generalize (before.filter fun entry => entry.1 = .text key) = left
  generalize (after.filter fun entry => entry.1 = .text key) = right
  cases given with
  | none => cases left <;> simp
  | some other => cases left <;> simp [@eq_comm _ other value]

theorem gives_put_other {before after : Json.Entries} {key other : String}
    (different : key ≠ other) (value replaced : Json) {given : Option Json} :
    Gives (before ++ (.text key, value) :: after) other given ↔
      Gives (before ++ (.text key, replaced) :: after) other given := by
  unfold Gives
  rw [List.filter_append, List.filter_append, filter_key_cons_of_ne different,
    filter_key_cons_of_ne different]

theorem getElem?_put_of_ne {α : Type} (before after : List α) (value replaced : α) {place : Nat}
    (elsewhere : place ≠ before.length) :
    (before ++ value :: after)[place]? = (before ++ replaced :: after)[place]? := by
  have put : before ++ replaced :: after =
      (before ++ value :: after).set before.length replaced := by
    simp
  rw [put, List.getElem?_set_ne elsewhere.symm]

section Parts

variable {ρ : Type} {fields : List (Field ρ)} (distinct : (fields.map Field.key).Nodup)
  {place : Nat} {field : Field ρ} (declared : fields[place]? = some field)
include distinct declared

/-- In a value that denotes a record, one field may be given differently, as long as it
still agrees with the record. -/
theorem DenotesRecord.replace {put : Json → Json} (puts : PutsAt field.key place put)
    {value replaced : Json} {record : ρ}
    (agrees : field.Denotes (some value) record → field.Denotes (some replaced) record)
    (denotes : DenotesRecord fields (put value) record) :
    DenotesRecord fields (put replaced) record := by
  cases puts with
  | byKey before after =>
      cases denotes with
      | byKey named each =>
          refine .byKey ?_ ?_
          · intro entry member
            rcases List.mem_append.mp member with earlier | later
            · exact named entry (List.mem_append_left _ earlier)
            · rcases List.mem_cons.mp later with rfl | later
              · exact Literal.noConfusion
              · exact named entry (List.mem_append_right _ (List.mem_cons_of_mem _ later))
          · intro other member
            rcases each other member with ⟨given, gives, denotes⟩
            by_cases same : other.key = field.key
            · -- Keys do not repeat, so this is the field that was put in.
              have equal : other = field :=
                List.inj_on_of_nodup_map distinct member (List.mem_of_getElem? declared) same
              subst equal
              rcases gives_put_iff.mp gives with ⟨rfl, once⟩
              exact ⟨some replaced, gives_put_iff.mpr ⟨rfl, once⟩, agrees denotes⟩
            · exact ⟨given, (gives_put_other (Ne.symm same) value replaced).mp gives, denotes⟩
  | byPlace before after counted =>
      cases denotes with
      | byPlace fits each =>
          refine .byPlace ?_ ?_
          · rw [List.length_append, List.length_cons] at fits ⊢
            exact fits
          · intro index other found
            have denotes := each index other found
            by_cases same : index = before.length
            · subst same
              rw [counted, declared] at found
              cases found
              rw [List.getElem?_append_right (Nat.le_refl _), Nat.sub_self] at denotes ⊢
              exact agrees denotes
            · rw [← getElem?_put_of_ne before after value replaced same]
              exact denotes

end Parts

/-- A field that is itself a record may have its own first few fields given by place or
by key, however the record around it is written. -/
theorem denotesRecord_put_array_iff_record {ρ α : Type} {fields : List (Field ρ)}
    {inner : List (Field α)} (distinct : (fields.map Field.key).Nodup)
    (innerDistinct : (inner.map Field.key).Nodup) {key : String} {default : α} {part : ρ → α}
    {place : Nat}
    (declared : fields[place]? = some (.holding key default (DenotesRecord inner) part))
    {put : Json → Json} (puts : PutsAt key place put) {given : List (String × Json)}
    (leading : given.map Prod.fst <+: inner.map Field.key) (record : ρ) :
    DenotesRecord fields (put (.array (given.map Prod.snd))) record ↔
      DenotesRecord fields (put (.record given)) record := by
  have alike := denotesRecord_array_iff_record innerDistinct leading (part record)
  exact ⟨.replace distinct declared puts alike.mp, .replace distinct declared puts alike.mpr⟩

/-! ## Configurations -/

theorem nodup_keys_switchFields : (switchFields.map Field.key).Nodup := by decide

theorem nodup_keys_analysisFields : (analysisFields.map Field.key).Nodup := by decide

theorem nodup_keys_configurationFields : (configurationFields.map Field.key).Nodup := by decide

/-- Null stands for the default at the top. -/
theorem ofOptions_eq_ok_iff (value : Json) (configuration : Configuration) :
    ofOptions value = .ok configuration ↔
      value = .null ∧ configuration = {} ∨
        DenotesRecord configurationFields value configuration := by
  cases value with
  | null =>
      constructor
      · intro read
        exact .inl ⟨rfl, (Except.ok.inj read).symm⟩
      · rintro (⟨_, rfl⟩ | denotes)
        · rfl
        · cases denotes
  | _ =>
      rw [← decode_eq_ok_iff, or_iff_right (by simp)]
      rfl

/-- Options that are a record are read as what they denote. -/
theorem PutsAt.ofOptions_eq_ok_iff {key : String} {place : Nat} {put : Json → Json}
    (puts : PutsAt key place put) (value : Json) (configuration : Configuration) :
    ofOptions (put value) = .ok configuration ↔
      DenotesRecord configurationFields (put value) configuration := by
  rw [← decode_eq_ok_iff]
  cases puts <;> rfl

/-- The sections of a configuration, each with its key, its place and the keys of its
fields in their order. -/
def sections : List (String × Nat × List String) :=
  [("diagnostics", 0, switchFields.map Field.key),
   ("formatting", 1, switchFields.map Field.key),
   ("analysis", 2, analysisFields.map Field.key)]

/-- Values that are read as the same configurations have the same result. -/
theorem toOption_eq_of_iff {first second : Except DecodeError Configuration}
    (alike : ∀ configuration, first = .ok configuration ↔ second = .ok configuration) :
    first.toOption = second.toOption := by
  cases first with
  | ok configuration =>
      rw [(alike configuration).mp rfl]
  | error fault =>
      cases second with
      | ok configuration => cases (alike configuration).mpr rfl
      | error other => rfl

/-- Reading gives a configuration exactly for the values that denote it, and for null
the default one.  The whole configuration and each of its sections may have their
first few fields given by place or by key: the result is the same, whatever else
stands around a section. -/
theorem ofOptions_accepts_what_denotes :
    (∀ value configuration, ofOptions value = .ok configuration ↔
      value = .null ∧ configuration = {} ∨
        DenotesRecord configurationFields value configuration) ∧
    (∀ given : List (String × Json),
      given.map Prod.fst <+: ["diagnostics", "formatting", "analysis"] →
        (ofOptions (.array (given.map Prod.snd))).toOption =
          (ofOptions (.record given)).toOption) ∧
    ∀ key place keys, (key, place, keys) ∈ sections → ∀ put, PutsAt key place put →
      ∀ given : List (String × Json), given.map Prod.fst <+: keys →
        (ofOptions (put (.array (given.map Prod.snd)))).toOption =
          (ofOptions (put (.record given))).toOption := by
  refine ⟨ofOptions_eq_ok_iff, ?_, ?_⟩
  · intro given leading
    apply toOption_eq_of_iff
    intro configuration
    have alike := denotesRecord_array_iff_record nodup_keys_configurationFields leading
      configuration
    rw [← decode_eq_ok_iff, ← decode_eq_ok_iff] at alike
    exact alike
  · intro key place keys listed put puts given leading
    apply toOption_eq_of_iff
    intro configuration
    rw [puts.ofOptions_eq_ok_iff, puts.ofOptions_eq_ok_iff]
    simp only [sections, List.mem_cons, List.not_mem_nil, or_false, Prod.mk.injEq] at listed
    rcases listed with ⟨rfl, rfl, rfl⟩ | ⟨rfl, rfl, rfl⟩ | ⟨rfl, rfl, rfl⟩
    · exact denotesRecord_put_array_iff_record nodup_keys_configurationFields
        nodup_keys_switchFields rfl puts leading configuration
    · exact denotesRecord_put_array_iff_record nodup_keys_configurationFields
        nodup_keys_switchFields rfl puts leading configuration
    · exact denotesRecord_put_array_iff_record nodup_keys_configurationFields
        nodup_keys_analysisFields rfl puts leading configuration

/-- The first two fields of the analysis section, by place and by key, behind a key
that is not declared and a section in the other form. -/
theorem ofOptions_accepts_what_denotes_mixed_forms :
    let around (analysis : Json) : Json := .object
      [(.text "trace", .null), (.text "diagnostics", .array [.bool false]),
        (.text "analysis", analysis)]
    let given := [("typing_enable_checks", Json.bool false),
      ("typing_show_inlay_hints", Json.bool true)]
    ofOptions (around (.array [.bool false, .bool true])) = .ok ⟨false, true, ⟨false, true, none⟩⟩ ∧
      (ofOptions (around (.array [.bool false, .bool true]))).toOption =
        (ofOptions (around (.record given))).toOption := by
  intro around given
  have puts : PutsAt "analysis" 2 around :=
    .byKey [(.text "trace", .null), (.text "diagnostics", .array [.bool false])] []
  have leading : given.map Prod.fst <+: analysisFields.map Field.key :=
    ⟨["lint_override_config_file"], rfl⟩
  exact ⟨rfl, ofOptions_accepts_what_denotes.2.2 "analysis" 2 _ (by simp [sections]) around puts
    given leading⟩

end Configuration
end LanguageServer
