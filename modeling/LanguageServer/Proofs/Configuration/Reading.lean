import LanguageServer.Proofs.Configuration.Denotation

namespace LanguageServer

/-!
# Reading by what is expected

A value is read as what is expected at its place: the whole configuration, one of its
sections, a truth value or a path.  For each of these the declared fields are listed
once.  What a record is read as depends on nothing but these fields, and on the keys of
an object being in order or an array being short enough.

Reading stops at the first fault.  Which fault that is, is told by going through the
fields in the order in which they are read.  An object is read in the order of its
keys, an array in the order of declaration; the length of an array is looked at last.
-/

namespace Expected

open LanguageServer.Configuration

/-! ## What is expected of a value -/

/-- What a value of this kind stands for. -/
def Meaning : Expected → Type
  | .boolean => Bool
  | .path => Option String
  | .configuration => Configuration
  | .diagnostics => Bool
  | .formatting => Bool
  | .analysis => AnalysisConfiguration

/-- Reads a value as what is expected. -/
def read : (expected : Expected) → Json → Except DecodeError expected.Meaning
  | .boolean => decodeFlag
  | .path => decodePath
  | .configuration => decode
  | .diagnostics => decodeSwitch .diagnostics
  | .formatting => decodeSwitch .formatting
  | .analysis => decodeAnalysis

/-- The value denotes a meaning. -/
def Denotes : (expected : Expected) → Json → expected.Meaning → Prop
  | .boolean => DenotesFlag
  | .path => DenotesPath
  | .configuration => DenotesRecord configurationFields
  | .diagnostics => DenotesRecord switchFields
  | .formatting => DenotesRecord switchFields
  | .analysis => DenotesRecord analysisFields

/-- The value denotes nothing that is expected. -/
def Malformed (expected : Expected) (value : Json) : Prop :=
  ∀ meaning, ¬ expected.Denotes value meaning

/-- The declared fields of a record in the order of their declaration, each with what is
expected of it.  Truth values and paths are no records. -/
def fields : Expected → List (String × Expected)
  | .boolean => []
  | .path => []
  | .configuration =>
      [("diagnostics", .diagnostics), ("formatting", .formatting), ("analysis", .analysis)]
  | .diagnostics => [("enabled", .boolean)]
  | .formatting => [("enabled", .boolean)]
  | .analysis =>
      [("typing_enable_checks", .boolean), ("typing_show_inlay_hints", .boolean),
       ("lint_override_config_file", .path)]

/-- The declared fields in the order in which an object is read. -/
def visited : Expected → List (String × Expected)
  | .boolean => []
  | .path => []
  | .configuration =>
      [("analysis", .analysis), ("diagnostics", .diagnostics), ("formatting", .formatting)]
  | .diagnostics => [("enabled", .boolean)]
  | .formatting => [("enabled", .boolean)]
  | .analysis =>
      [("lint_override_config_file", .path), ("typing_enable_checks", .boolean),
       ("typing_show_inlay_hints", .boolean)]

/-- What is expected under a key. -/
def underKey? (expected : Expected) (key : String) : Option Expected :=
  (expected.fields.find? fun field => field.1 = key).map Prod.snd

/-- What is expected at a place. -/
def atPlace? (expected : Expected) (place : Nat) : Option Expected :=
  expected.fields[place]?.map Prod.snd

/-- The bytes of a key, which decide about its order. -/
def bytes (key : String) : List UInt8 := key.toUTF8.data.toList

theorem visited_perm (expected : Expected) : expected.visited.Perm expected.fields := by
  cases expected <;> decide

theorem pairwise_visited (expected : Expected) :
    expected.visited.Pairwise fun first second => bytes first.1 < bytes second.1 := by
  cases expected <;> decide +kernel

theorem underKey?_of_mem (expected : Expected) :
    ∀ field ∈ expected.fields, expected.underKey? field.1 = some field.2 := by
  cases expected <;> decide

/-- Fields of fields come to an end, so what passes from the fields of a record to the record
is true of all that can be expected. -/
theorem induction_fields {motive : Expected → Prop}
    (step : ∀ expected, (∀ field ∈ expected.fields, motive field.2) → motive expected)
    (expected : Expected) : motive expected := by
  have boolean : motive .boolean := step .boolean (by simp [fields])
  have path : motive .path := step .path (by simp [fields])
  have diagnostics : motive .diagnostics := step .diagnostics (by simpa [fields] using boolean)
  have formatting : motive .formatting := step .formatting (by simpa [fields] using boolean)
  have analysis : motive .analysis := step .analysis (by simpa [fields] using ⟨boolean, path⟩)
  have configuration : motive .configuration :=
    step .configuration (by simpa [fields] using ⟨diagnostics, formatting, analysis⟩)
  cases expected <;> assumption

theorem read_eq_ok_iff (expected : Expected) (value : Json) (meaning : expected.Meaning) :
    expected.read value = .ok meaning ↔ expected.Denotes value meaning := by
  cases expected with
  | boolean => exact decodeFlag_eq_ok_iff value meaning
  | path => exact decodePath_eq_ok_iff value meaning
  | configuration => exact decode_eq_ok_iff value meaning
  | diagnostics => exact decodeSwitch_eq_ok_iff .diagnostics value meaning
  | formatting => exact decodeSwitch_eq_ok_iff .formatting value meaning
  | analysis => exact decodeAnalysis_eq_ok_iff value meaning

end Expected

namespace Configuration

/-! ## What reading depends on -/

/-- A field of an object is read alike when what is found at its key is. -/
theorem keyed_congr {α : Type} {entries others : Json.Entries} {key : String} (default : α)
    {decode : Json → Except DecodeError α}
    (alike : (Json.lookup entries key).map decode = (Json.lookup others key).map decode) :
    keyed entries key default decode = keyed others key default decode := by
  have through (entries : Json.Entries) : keyed entries key default decode =
      ((Json.lookup entries key).map decode).getD (.ok default) := by
    unfold keyed
    cases Json.lookup entries key with
    | none => rfl
    | some value => rfl
  rw [through, through, alike]

theorem placed_congr {α : Type} {items others : List Json} {place : Nat} (default : α)
    {decode : Json → Except DecodeError α}
    (alike : items[place]?.map decode = others[place]?.map decode) :
    placed items place default decode = placed others place default decode := by
  have through (items : List Json) : placed items place default decode =
      (items[place]?.map decode).getD (.ok default) := by
    unfold placed
    cases items[place]? with
    | none => rfl
    | some value => rfl
  rw [through, through, alike]

/-- What comes after a first part matters only where the first part is read. -/
theorem bind_congr_of_ok {ε α β : Type} {first : Except ε α} {next other : α → Except ε β}
    (alike : ∀ middle, first = .ok middle → next middle = other middle) :
    (first >>= next) = (first >>= other) := by
  cases first with
  | error fault => rfl
  | ok middle => exact alike middle rfl

theorem decodeSwitch_object_congr (expected : Expected) {entries others : Json.Entries}
    (checked : checkKeys ["enabled"] entries = checkKeys ["enabled"] others)
    (alike : checkKeys ["enabled"] others = .ok () →
      (Json.lookup entries "enabled").map decodeFlag =
        (Json.lookup others "enabled").map decodeFlag) :
    decodeSwitch expected (.object entries) = decodeSwitch expected (.object others) := by
  rw [decodeSwitch, decodeSwitch, checked]
  apply bind_congr_of_ok
  intro _ inOrder
  rw [keyed_congr true (alike inOrder)]

/-- Objects are read alike when their keys are found in order alike and, if they are in
order, the declared fields are read alike. -/
theorem read_object_congr {expected : Expected} {entries others : Json.Entries}
    (checked : checkKeys (expected.visited.map Prod.fst) entries =
      checkKeys (expected.visited.map Prod.fst) others)
    (alike : checkKeys (expected.visited.map Prod.fst) others = .ok () →
      ∀ field ∈ expected.fields, (Json.lookup entries field.1).map field.2.read =
        (Json.lookup others field.1).map field.2.read) :
    expected.read (.object entries) = expected.read (.object others) := by
  cases expected with
  | boolean => rfl
  | path => rfl
  | configuration =>
      change decode (.object entries) = decode (.object others)
      dsimp only [Expected.visited, List.map] at checked alike
      rw [decode, decode, checked]
      apply bind_congr_of_ok
      intro _ inOrder
      have analysis : keyed entries "analysis" {} decodeAnalysis =
          keyed others "analysis" {} decodeAnalysis :=
        keyed_congr {} (alike inOrder ("analysis", .analysis) (by decide))
      have diagnostics : keyed entries "diagnostics" true (decodeSwitch .diagnostics) =
          keyed others "diagnostics" true (decodeSwitch .diagnostics) :=
        keyed_congr true (alike inOrder ("diagnostics", .diagnostics) (by decide))
      have formatting : keyed entries "formatting" true (decodeSwitch .formatting) =
          keyed others "formatting" true (decodeSwitch .formatting) :=
        keyed_congr true (alike inOrder ("formatting", .formatting) (by decide))
      rw [analysis, diagnostics, formatting]
  | diagnostics =>
      exact decodeSwitch_object_congr .diagnostics checked fun inOrder =>
        alike inOrder ("enabled", .boolean) List.mem_cons_self
  | formatting =>
      exact decodeSwitch_object_congr .formatting checked fun inOrder =>
        alike inOrder ("enabled", .boolean) List.mem_cons_self
  | analysis =>
      change decodeAnalysis (.object entries) = decodeAnalysis (.object others)
      dsimp only [Expected.visited, List.map] at checked alike
      rw [decodeAnalysis, decodeAnalysis, checked]
      apply bind_congr_of_ok
      intro _ inOrder
      have file : keyed entries "lint_override_config_file" none decodePath =
          keyed others "lint_override_config_file" none decodePath :=
        keyed_congr none (alike inOrder ("lint_override_config_file", .path) (by decide))
      have checks : keyed entries "typing_enable_checks" true decodeFlag =
          keyed others "typing_enable_checks" true decodeFlag :=
        keyed_congr true (alike inOrder ("typing_enable_checks", .boolean) (by decide))
      have hints : keyed entries "typing_show_inlay_hints" false decodeFlag =
          keyed others "typing_show_inlay_hints" false decodeFlag :=
        keyed_congr false (alike inOrder ("typing_show_inlay_hints", .boolean) (by decide))
      rw [file, checks, hints]

theorem checkLength_congr {items others : List Json} (counted : items.length = others.length)
    (fields : Nat) : checkLength fields items = checkLength fields others := by
  rw [checkLength, checkLength, counted]

theorem decodeSwitch_array_congr (expected : Expected) {items others : List Json}
    (counted : items.length = others.length)
    (alike : items[0]?.map decodeFlag = others[0]?.map decodeFlag) :
    decodeSwitch expected (.array items) = decodeSwitch expected (.array others) := by
  rw [decodeSwitch, decodeSwitch, placed_congr true alike, checkLength_congr counted]

/-- Arrays of one length are read alike when the declared fields are. -/
theorem read_array_congr {expected : Expected} {items others : List Json}
    (counted : items.length = others.length)
    (alike : ∀ (place : Nat) (field : String × Expected), expected.fields[place]? = some field →
      items[place]?.map field.2.read = others[place]?.map field.2.read) :
    expected.read (.array items) = expected.read (.array others) := by
  cases expected with
  | boolean => rfl
  | path => rfl
  | configuration =>
      change decode (.array items) = decode (.array others)
      have diagnostics : placed items 0 true (decodeSwitch .diagnostics) =
          placed others 0 true (decodeSwitch .diagnostics) := placed_congr true (alike 0 _ rfl)
      have formatting : placed items 1 true (decodeSwitch .formatting) =
          placed others 1 true (decodeSwitch .formatting) := placed_congr true (alike 1 _ rfl)
      have analysis : placed items 2 {} decodeAnalysis = placed others 2 {} decodeAnalysis :=
        placed_congr {} (alike 2 _ rfl)
      rw [decode, decode, diagnostics, formatting, analysis, checkLength_congr counted]
  | diagnostics => exact decodeSwitch_array_congr .diagnostics counted (alike 0 _ rfl)
  | formatting => exact decodeSwitch_array_congr .formatting counted (alike 0 _ rfl)
  | analysis =>
      change decodeAnalysis (.array items) = decodeAnalysis (.array others)
      have checks : placed items 0 true decodeFlag = placed others 0 true decodeFlag :=
        placed_congr true (alike 0 _ rfl)
      have hints : placed items 1 false decodeFlag = placed others 1 false decodeFlag :=
        placed_congr false (alike 1 _ rfl)
      have file : placed items 2 none decodePath = placed others 2 none decodePath :=
        placed_congr none (alike 2 _ rfl)
      rw [decodeAnalysis, decodeAnalysis, checks, hints, file, checkLength_congr counted]

/-! ## Which fault is found -/

/-- The fault that stopped reading, if it was stopped. -/
def fault? {α : Type} : Except DecodeError α → Option DecodeError
  | .ok _ => none
  | .error fault => some fault

theorem fault?_eq_some_iff {α : Type} {result : Except DecodeError α} {fault : DecodeError} :
    fault? result = some fault ↔ result = .error fault := by
  cases result <;> simp [fault?]

/-- Of two parts the first is reported, if the fault of the second does not depend on what
the first was read as. -/
theorem fault?_bind {α β : Type} {first : Except DecodeError α}
    {next : α → Except DecodeError β} {second : Option DecodeError}
    (independent : ∀ middle, fault? (next middle) = second) :
    fault? (first >>= next) = (fault? first).or second := by
  cases first with
  | error fault => rfl
  | ok middle => exact independent middle

theorem fault?_bind_pure {α β : Type} (first : Except DecodeError α) (result : α → β) :
    fault? (first >>= fun middle => pure (result middle)) = fault? first := by
  cases first with
  | error fault => rfl
  | ok middle => rfl

/-- The fault of a field that an object gives. -/
def faultAtKey? (entries : Json.Entries) (field : String × Expected) : Option DecodeError :=
  (Json.lookup entries field.1).bind fun value => fault? (field.2.read value)

/-- The fault of a field that an array gives. -/
def faultOfItem? (given : (String × Expected) × Json) : Option DecodeError :=
  fault? (given.1.2.read given.2)

theorem fault?_keyed (entries : Json.Entries) (key : String) (part : Expected)
    (default : part.Meaning) :
    fault? (keyed entries key default part.read) = faultAtKey? entries (key, part) := by
  unfold keyed faultAtKey?
  cases Json.lookup entries key with
  | none => rfl
  | some value => rfl

theorem findSome?_cons_eq_or {α β : Type} (find : α → Option β) (first : α) (rest : List α) :
    (first :: rest).findSome? find = (find first).or (rest.findSome? find) := by
  rw [List.findSome?_cons]
  cases find first with
  | none => rfl
  | some found => rfl

theorem fault?_decodeSwitch_object (expected : Expected) (entries : Json.Entries) :
    fault? (decodeSwitch expected (.object entries)) =
      (fault? (checkKeys ["enabled"] entries)).or (faultAtKey? entries ("enabled", .boolean)) := by
  rw [← fault?_keyed entries "enabled" .boolean true]
  exact fault?_bind fun _ => rfl

/-- In an object the fields are read in the order of their keys. -/
theorem fault?_read_object {expected : Expected} (record : expected.fields ≠ [])
    (entries : Json.Entries) :
    fault? (expected.read (.object entries)) =
      (fault? (checkKeys (expected.visited.map Prod.fst) entries)).or
        (expected.visited.findSome? (faultAtKey? entries)) := by
  cases expected with
  | boolean => exact absurd rfl record
  | path => exact absurd rfl record
  | configuration =>
      rw [Expected.visited, findSome?_cons_eq_or, findSome?_cons_eq_or, findSome?_cons_eq_or,
        ← fault?_keyed entries "analysis" .analysis ({} : AnalysisConfiguration),
        ← fault?_keyed entries "diagnostics" .diagnostics true,
        ← fault?_keyed entries "formatting" .formatting true]
      exact fault?_bind fun _ => fault?_bind fun _ => fault?_bind fun _ => fault?_bind fun _ => rfl
  | diagnostics =>
      rw [Expected.visited, List.findSome?_singleton]
      exact fault?_decodeSwitch_object .diagnostics entries
  | formatting =>
      rw [Expected.visited, List.findSome?_singleton]
      exact fault?_decodeSwitch_object .formatting entries
  | analysis =>
      rw [Expected.visited, findSome?_cons_eq_or, findSome?_cons_eq_or, findSome?_cons_eq_or,
        ← fault?_keyed entries "lint_override_config_file" .path (none : Option String),
        ← fault?_keyed entries "typing_enable_checks" .boolean true,
        ← fault?_keyed entries "typing_show_inlay_hints" .boolean false]
      exact fault?_bind fun _ => fault?_bind fun _ => fault?_bind fun _ => fault?_bind fun _ => rfl

/-- The fields from a place on that an array gives, when it has an item there or not. -/
theorem findSome?_zip_drop (field : String × Expected) (rest : List (String × Expected))
    (items : List Json) (place : Nat) (default : field.2.Meaning) :
    ((field :: rest).zip (items.drop place)).findSome? faultOfItem? =
      (fault? (placed items place default field.2.read)).or
        ((rest.zip (items.drop (place + 1))).findSome? faultOfItem?) := by
  unfold placed
  cases found : items[place]? with
  | none =>
      have past := List.getElem?_eq_none_iff.mp found
      rw [List.drop_eq_nil_of_le past, List.drop_eq_nil_of_le (Nat.le_succ_of_le past)]
      simp [fault?]
  | some value =>
      rcases List.getElem?_eq_some_iff.mp found with ⟨inside, rfl⟩
      rw [List.drop_eq_getElem_cons inside, List.zip_cons_cons, findSome?_cons_eq_or]
      rfl

theorem fault?_decodeSwitch_array (expected : Expected) (items : List Json) :
    fault? (decodeSwitch expected (.array items)) =
      (([("enabled", Expected.boolean)].zip items).findSome? faultOfItem?).or
        (fault? (checkLength 1 items)) := by
  change _ = ((List.zip _ (items.drop 0)).findSome? faultOfItem?).or _
  rw [findSome?_zip_drop ("enabled", .boolean) _ items 0 true, List.zip_nil_left,
    List.findSome?_nil, Option.or_none]
  exact fault?_bind fun _ => fault?_bind_pure _ _

/-- In an array the fields are read in the order of their declaration, and the length is
looked at last. -/
theorem fault?_read_array {expected : Expected} (record : expected.fields ≠ [])
    (items : List Json) :
    fault? (expected.read (.array items)) =
      ((expected.fields.zip items).findSome? faultOfItem?).or
        (fault? (checkLength expected.fields.length items)) := by
  cases expected with
  | boolean => exact absurd rfl record
  | path => exact absurd rfl record
  | configuration =>
      change _ = ((List.zip _ (items.drop 0)).findSome? faultOfItem?).or _
      rw [Expected.fields, findSome?_zip_drop ("diagnostics", .diagnostics) _ items 0 true,
        findSome?_zip_drop ("formatting", .formatting) _ items 1 true,
        findSome?_zip_drop ("analysis", .analysis) _ items 2 ({} : AnalysisConfiguration),
        List.zip_nil_left, List.findSome?_nil, Option.or_none, Option.or_assoc, Option.or_assoc]
      exact fault?_bind fun _ => fault?_bind fun _ => fault?_bind fun _ => fault?_bind_pure _ _
  | diagnostics => exact fault?_decodeSwitch_array .diagnostics items
  | formatting => exact fault?_decodeSwitch_array .formatting items
  | analysis =>
      change _ = ((List.zip _ (items.drop 0)).findSome? faultOfItem?).or _
      rw [Expected.fields, findSome?_zip_drop ("typing_enable_checks", .boolean) _ items 0 true,
        findSome?_zip_drop ("typing_show_inlay_hints", .boolean) _ items 1 false,
        findSome?_zip_drop ("lint_override_config_file", .path) _ items 2 (none : Option String),
        List.zip_nil_left, List.findSome?_nil, Option.or_none, Option.or_assoc, Option.or_assoc]
      exact fault?_bind fun _ => fault?_bind fun _ => fault?_bind fun _ => fault?_bind_pure _ _

end Configuration
end LanguageServer
