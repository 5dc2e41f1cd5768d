import RemoteAccount.Json.Form
import RemoteAccount.Text.Blank
import RemoteAccount.Text.Pieces

/-!
# Configuration

A host can be switched off, and it carries out only messages whose type URL is on its allow-list.
An entry `*` on the list allows every type.

A configuration can be built in place, read from JSON, or loaded from two environment variables
(`Config.ofEnvironment`): a truth value, and a list with commas between its entries. Blanks around a
value or an entry do not count, and blank entries are passed over, so a loaded list never has one;
`Config.check` finds the blank entries of lists that come from elsewhere.
-/

namespace RemoteAccount

/-- The entry of an allow-list that allows every type. -/
def wildcard : String := "*"

/-- How a host is set up. -/
structure Config where
  hostEnabled : Bool
  allowMessages : List String
  deriving DecidableEq

/-- What is wrong with a configuration. -/
inductive ConfigError
  | blankEntry (index : Nat)
  | invalidVariable (name value : String)
  deriving DecidableEq

def ConfigError.message : ConfigError → String
  | .blankEntry index => "allow-list entry " ++ toString index ++ " is blank"
  | .invalidVariable name value => "invalid value for " ++ name ++ ": " ++ value

namespace Config

/-- A host that is switched on and allows nothing. -/
def default : Config := ⟨true, []⟩

/-- A host that is switched on and allows everything. -/
def forTesting : Config := ⟨true, [wildcard]⟩

def withAllowMessages (allowMessages : List String) : Config := ⟨true, allowMessages⟩

def allowsAll (config : Config) : Bool :=
  config.allowMessages.any (· = wildcard)

theorem allowsAll_iff {config : Config} :
    config.allowsAll = true ↔ wildcard ∈ config.allowMessages := by
  simp [allowsAll]

/-- The first blank entry of the list is an error. -/
def check (config : Config) : Except ConfigError Unit :=
  match config.allowMessages.findIdx? Text.isBlankText with
  | some index => throw (.blankEntry index)
  | none => return ()

/-! ### Loading -/

def enabledVariable : String := "QC_ICA_HOST_ENABLED"

/-- The truth value that a word stands for. -/
def boolOfWord? (word : String) : Option Bool :=
  if word = "true" then some true else if word = "false" then some false else none

/-- The entries of a list with commas between them. -/
def entriesOfList (list : String) : List String :=
  ((Text.pieces ',' list.toList).map fun piece => String.ofList (Text.trimChars piece)).filter
    (!·.isEmpty)

/-- The configuration that two environment variables describe: whether the host is switched on, and
the allow-list. A variable that is not set, or does not hold a text, leaves the default. -/
def ofEnvironment (enabled allowed : Option Bytes) : Except ConfigError Config := do
  let hostEnabled ← match enabled.bind Bytes.text? with
    -- what is not a text counts as not set
    | none => pure default.hostEnabled
    | some word => match boolOfWord? (Text.trim word) with
      | some value => pure value
      | none => throw (.invalidVariable enabledVariable word)
  let config : Config := {
    hostEnabled
    allowMessages := (allowed.bind Bytes.text?).elim default.allowMessages entriesOfList }
  config.check
  return config

end Config

instance : JsonForm Config where
  toJson config := Json.ofFields
    [("host_enabled", JsonForm.toJson config.hostEnabled),
      ("allow_messages", JsonForm.toJson config.allowMessages)]
  ofJson? json := do
    let [some hostEnabled, some allowMessages] ←
      Json.fields? .skipped ["host_enabled", "allow_messages"] json | none
    return ⟨← JsonForm.ofJson? hostEnabled, ← JsonForm.ofJson? allowMessages⟩

end RemoteAccount
