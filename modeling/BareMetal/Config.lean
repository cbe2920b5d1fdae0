import BareMetal.Net.SocketAddress
import BareMetal.Text.Blank
import BareMetal.Time.Span

/-!
# Configuration

The settings of an allocator, read from named variables.  A variable that is not set leaves its
setting at the default; the first variable that cannot be read is reported with its text.
-/

namespace BareMetal

/-- The settings of an allocator. -/
structure Config where
  /-- The namespace whose machines are watched; all namespaces when there is none. -/
  space : Option String := none
  /-- How many objects of a kind are worked on at a time. -/
  concurrency : Nat := 10
  /-- How long to wait before looking again at something that is not ready. -/
  requeueAfter : Span := .ofSeconds 20
  /-- How long changes have to rest before they are acted on. -/
  debounce : Span := .ofSeconds 1
  /-- Where metrics are served. -/
  metricsAddress : SocketAddress := .v4 [0, 0, 0, 0] 8080
  deriving DecidableEq

/-- Why the text of a setting cannot be read. -/
inductive SettingFault where
  /-- A number was expected and the text is blank. -/
  | empty
  /-- A number was expected and something else than a digit was found. -/
  | invalidDigit
  /-- The number is beyond the range of the setting. -/
  | tooLarge
  /-- The text is no socket address. -/
  | invalidAddress
  deriving DecidableEq

/-- What a fault is called in messages. -/
def SettingFault.message : SettingFault → String
  | empty => "cannot parse integer from empty string"
  | invalidDigit => "invalid digit found in string"
  | tooLarge => "number too large to fit in target type"
  | invalidAddress => "invalid socket address syntax"

/-- A variable whose text cannot be read. -/
structure ConfigError where
  /-- The name of the variable. -/
  name : String
  /-- Its text as it was set. -/
  text : String
  /-- What is wrong with it. -/
  fault : SettingFault
  deriving DecidableEq

/-- The message for a variable that cannot be read. -/
def ConfigError.message (error : ConfigError) : String :=
  error.name ++ "=" ++ error.text ++ ": " ++ error.fault.message

namespace Config

/-- The number at or below `most` that digits spell behind the digits of `value`.  Of two faults
the one further in front is reported. -/
def readDigits (most value : Nat) : List Char → Except SettingFault Nat
  | [] => .ok value
  | c :: rest =>
      if c.isDigit then
        let value := value * 10 + (c.toNat - '0'.toNat)
        if most < value then .error .tooLarge else readDigits most value rest
      else .error .invalidDigit

/-- The number at or below `most` that a text spells, with or without a plus sign. -/
def readNumber (most : Nat) (text : List Char) : Except SettingFault Nat :=
  match text with
  | [] => .error .empty
  | ['+'] => .error .invalidDigit
  | '+' :: digits => readDigits most 0 digits
  | digits => readDigits most 0 digits

/-- The socket address that a text spells. -/
def readAddress (text : List Char) : Except SettingFault SocketAddress :=
  match SocketAddress.parse? text with
  | some address => .ok address
  | none => .error .invalidAddress

/-- The setting of a variable: its text is trimmed and read, and an unset variable gives the
default. -/
def setting {α : Type} (lookup : String → Option String) (name : String) (default : α)
    (read : List Char → Except SettingFault α) : Except ConfigError α :=
  match lookup name with
  | none => .ok default
  | some text =>
      match read (Text.trim text.toList) with
      | .ok value => .ok value
      | .error fault => .error ⟨name, text, fault⟩

/-- Whether a process can have a variable of a name with a text. -/
def isVariable (name text : String) : Bool :=
  !name.isEmpty && !name.contains '=' && !name.contains (Char.ofNat 0) &&
    !text.contains (Char.ofNat 0)

/-- The settings that variables give. -/
def ofLookup (lookup : String → Option String) : Except ConfigError Config := do
  let defaults : Config := {}
  let concurrency ← setting lookup "RECONCILE_CONCURRENCY" defaults.concurrency
    (readNumber 65535)
  let requeueAfter ← setting lookup "REQUEUE_AFTER_SECS" defaults.requeueAfter.seconds
    (readNumber (Nat.pow 2 64 - 1))
  let debounce ← setting lookup "DEBOUNCE_SECS" defaults.debounce.seconds
    (readNumber (Nat.pow 2 64 - 1))
  let metricsAddress ← setting lookup "METRICS_ADDR" defaults.metricsAddress readAddress
  return {
    space := (lookup "WATCH_NAMESPACE").filter fun name => !name.isEmpty
    concurrency
    requeueAfter := .ofSeconds requeueAfter
    debounce := .ofSeconds debounce
    metricsAddress }

end Config

end BareMetal
