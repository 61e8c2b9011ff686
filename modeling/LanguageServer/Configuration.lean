import LanguageServer.Json.Reader
import LanguageServer.Text.Description

namespace LanguageServer

/-!
What a client can configure.  The analysis configuration is handed to every
typed source when it is built; the other two switches belong to the server.
-/

/-- How typed sources are analysed. -/
structure AnalysisConfiguration where
  /-- Whether types are checked. -/
  enableChecks : Bool := true
  /-- Whether inferred types are shown as inlay hints. -/
  showInlayHints : Bool := false
  /-- A file that replaces the lint configuration found beside the source. -/
  lintOverrideFile : Option String := none
  deriving DecidableEq, Repr, Inhabited

/-- The configuration of the whole server. -/
structure Configuration where
  /-- Whether diagnostics are published. -/
  diagnostics : Bool := true
  /-- Whether formatting requests are answered with edits. -/
  formatting : Bool := true
  analysis : AnalysisConfiguration := {}
  deriving DecidableEq, Repr, Inhabited

/-- The analysis configuration as the server prints it. -/
def AnalysisConfiguration.describe (configuration : AnalysisConfiguration) : String :=
  Text.record "AnalysisConfiguration"
    [("typing_enable_checks", Text.flag configuration.enableChecks),
     ("typing_show_inlay_hints", Text.flag configuration.showInlayHints),
     ("lint_override_config_file",
       Text.optional (configuration.lintOverrideFile.map Text.quoted))]

/-- The configuration as the server prints it. -/
def Configuration.describe (configuration : Configuration) : String :=
  Text.record "MagikConfig"
    [("diagnostics",
       Text.record "DiagnosticsConfig" [("enabled", Text.flag configuration.diagnostics)]),
     ("formatting",
       Text.record "FormattingConfig" [("enabled", Text.flag configuration.formatting)]),
     ("analysis", configuration.analysis.describe)]

/-! ## Reading a configuration from JSON

Each part of the configuration is a record of declared fields.  An object gives
fields by key: a missing key means the field's default, and keys that are not
declared are ignored.  An array gives fields by place: a missing tail means the
defaults of its fields, and there may be no more items than fields.  Of several
faults in an object the one at the least key is reported; in an array, the first
one. -/

/-- What a value had to be. -/
inductive Expected where
  | boolean
  | path
  | configuration
  | diagnostics
  | formatting
  | analysis
  deriving DecidableEq, Repr

/-- The wording of an expectation. -/
def Expected.describe : Expected → String
  | .boolean => "a boolean"
  | .path => "path string"
  | .configuration => "struct MagikConfig"
  | .diagnostics => "struct DiagnosticsConfig"
  | .formatting => "struct FormattingConfig"
  | .analysis => "struct AnalysisConfiguration"

/-- The kind of a JSON value, with its content where a message shows it. -/
inductive Found where
  | null
  | boolean (value : Bool)
  | number (value : Number)
  | string (content : String)
  | sequence
  | map
  deriving DecidableEq, Repr

/-- The wording of what was found. -/
def Found.describe : Found → String
  | .null => "null"
  | .boolean value => "boolean `" ++ Text.flag value ++ "`"
  | .number (.integer value) => "integer `" ++ toString value ++ "`"
  | .number value => "floating point `" ++ value.render ++ "`"
  | .string content => "string " ++ Text.quoted content
  | .sequence => "sequence"
  | .map => "map"

/-- Why a value is no configuration. -/
inductive DecodeError where
  /-- A value of the wrong kind. -/
  | invalidType (found : Found) (expected : Expected)
  /-- An array with more items than there are fields. -/
  | tooManyItems (length : Nat)
  /-- A declared key that occurs twice. -/
  | duplicateKey (key : String)
  /-- A string or a key without a text. -/
  | unpairedSurrogate
  /-- A number literal that denotes no number. -/
  | numberOutOfRange
  deriving DecidableEq, Repr

/-- The wording of an error. -/
def DecodeError.message : DecodeError → String
  | .invalidType found expected =>
      "invalid type: " ++ found.describe ++ ", expected " ++ expected.describe
  | .tooManyItems length =>
      "invalid length " ++ toString length ++ ", expected fewer elements in array"
  | .duplicateKey key => "duplicate field `" ++ key ++ "`"
  | .unpairedSurrogate => "lone surrogate in a string"
  | .numberOutOfRange => "number out of range"

/-- The error of a value that is not what was expected. -/
def Json.mismatch (value : Json) (expected : Expected) : DecodeError :=
  match value with
  | .null => .invalidType .null expected
  | .bool flag => .invalidType (.boolean flag) expected
  | .number .outOfRange => .numberOutOfRange
  | .number literal => .invalidType (.number literal) expected
  | .string (.text content) => .invalidType (.string content) expected
  | .string .unpaired => .unpairedSurrogate
  | .array _ => .invalidType .sequence expected
  | .object _ => .invalidType .map expected

namespace Configuration

/-- Reads a truth value. -/
def decodeFlag : Json → Except DecodeError Bool
  | .bool value => .ok value
  | other => .error (other.mismatch .boolean)

/-- Reads a file path or its absence. -/
def decodePath : Json → Except DecodeError (Option String)
  | .null => .ok none
  | .string (.text path) => .ok (some path)
  | other => .error (other.mismatch .path)

/-- Refuses keys without a text and declared keys that occur twice. -/
def checkKeys (declared : List String) (entries : Json.Entries) : Except DecodeError Unit :=
  if entries.any fun entry => entry.1 = .unpaired then .error .unpairedSurrogate
  else
    match declared.find? fun key =>
      1 < (entries.filter fun entry => entry.1 = .text key).length with
    | some key => .error (.duplicateKey key)
    | none => .ok ()

/-- Reads a field of an object, or takes its default when the key is absent. -/
def keyed {α : Type} (entries : Json.Entries) (key : String) (default : α)
    (decode : Json → Except DecodeError α) : Except DecodeError α :=
  match Json.lookup entries key with
  | none => .ok default
  | some value => decode value

/-- Reads a field of an array, or takes its default when the item is absent. -/
def placed {α : Type} (items : List Json) (place : Nat) (default : α)
    (decode : Json → Except DecodeError α) : Except DecodeError α :=
  match items[place]? with
  | none => .ok default
  | some value => decode value

/-- Refuses an array with more items than fields. -/
def checkLength (fields : Nat) (items : List Json) : Except DecodeError Unit :=
  if items.length ≤ fields then .ok () else .error (.tooManyItems items.length)

/-- Reads a record with the single field `enabled`, which is on by default. -/
def decodeSwitch (expected : Expected) : Json → Except DecodeError Bool
  | .object entries => do
      checkKeys ["enabled"] entries
      keyed entries "enabled" true decodeFlag
  | .array items => do
      let enabled ← placed items 0 true decodeFlag
      checkLength 1 items
      return enabled
  | other => .error (other.mismatch expected)

/-- Reads an analysis configuration. -/
def decodeAnalysis : Json → Except DecodeError AnalysisConfiguration
  | .object entries => do
      checkKeys
        ["lint_override_config_file", "typing_enable_checks", "typing_show_inlay_hints"]
        entries
      let lintOverrideFile ← keyed entries "lint_override_config_file" none decodePath
      let enableChecks ← keyed entries "typing_enable_checks" true decodeFlag
      let showInlayHints ← keyed entries "typing_show_inlay_hints" false decodeFlag
      return ⟨enableChecks, showInlayHints, lintOverrideFile⟩
  | .array items => do
      let enableChecks ← placed items 0 true decodeFlag
      let showInlayHints ← placed items 1 false decodeFlag
      let lintOverrideFile ← placed items 2 none decodePath
      checkLength 3 items
      return ⟨enableChecks, showInlayHints, lintOverrideFile⟩
  | other => .error (other.mismatch .analysis)

/-- Reads a configuration as a record. -/
def decode : Json → Except DecodeError Configuration
  | .object entries => do
      checkKeys ["analysis", "diagnostics", "formatting"] entries
      let analysis ← keyed entries "analysis" {} decodeAnalysis
      let diagnostics ← keyed entries "diagnostics" true (decodeSwitch .diagnostics)
      let formatting ← keyed entries "formatting" true (decodeSwitch .formatting)
      return ⟨diagnostics, formatting, analysis⟩
  | .array items => do
      let diagnostics ← placed items 0 true (decodeSwitch .diagnostics)
      let formatting ← placed items 1 true (decodeSwitch .formatting)
      let analysis ← placed items 2 {} decodeAnalysis
      checkLength 3 items
      return ⟨diagnostics, formatting, analysis⟩
  | other => .error (other.mismatch .configuration)

/-- Reads the options a client gives at start-up.  Null means the default
configuration; anywhere below, null is no record. -/
def ofOptions : Json → Except DecodeError Configuration
  | .null => .ok {}
  | other => decode other

/-- Reads a configuration from JSON text. -/
def ofText? (text : String) : Option Configuration :=
  (Json.parse? text).bind fun value => (decode value).toOption

end Configuration

/-- Reads an analysis configuration from JSON text. -/
def AnalysisConfiguration.ofText? (text : String) : Option AnalysisConfiguration :=
  (Json.parse? text).bind fun value => (Configuration.decodeAnalysis value).toOption

/-- The analysis configuration as JSON. -/
def AnalysisConfiguration.toJson (configuration : AnalysisConfiguration) : Json :=
  .record
    [("typing_enable_checks", .bool configuration.enableChecks),
     ("typing_show_inlay_hints", .bool configuration.showInlayHints),
     ("lint_override_config_file", Json.nullable Json.str configuration.lintOverrideFile)]

end LanguageServer
