import BareMetal.Config
import Mathlib.Data.List.DropRight

/-!
# What variables mean for a configuration

The text of a variable counts without the white space around it.  Numbers are digits in base ten,
with or without a plus sign and with any number of zeros in front.  A configuration is read if every
variable that is set can be read, and then has what the variables say, and the defaults where they
are not set.  Otherwise the first variable that cannot be read is told of with its whole text.
-/

namespace BareMetal

/-! ## White space around a text -/

namespace Text

/-- A text is another one with white space around it, and that one neither starts nor ends with
white space. -/
structure TrimsTo (text core : List Char) : Prop where
  /-- There is white space in front of the other one and behind it. -/
  around : ∃ front back, text = front ++ core ++ back ∧
    (∀ c ∈ front, isBlank c = true) ∧ ∀ c ∈ back, isBlank c = true
  /-- The other one does not start with white space. -/
  first : ∀ c, core.head? = some c → isBlank c = false
  /-- The other one does not end with white space. -/
  last : ∀ c, core.getLast? = some c → isBlank c = false

variable {text core : List Char}

theorem trim_eq_rdropWhile (text : List Char) :
    trim text = (text.dropWhile isBlank).rdropWhile isBlank := rfl

/-- A text is its trimmed one with white space around it. -/
theorem trimsTo_trim (text : List Char) : TrimsTo text (trim text) := by
  rw [trim_eq_rdropWhile]
  generalize behind : text.dropWhile isBlank = rest
  constructor
  case around =>
    refine ⟨text.takeWhile isBlank, rest.rtakeWhile isBlank, ?_, ?_, ?_⟩
    · rw [List.append_assoc, List.rdropWhile_append_rtakeWhile, ← behind,
        List.takeWhile_append_dropWhile]
    · exact fun c => List.mem_takeWhile_imp
    · exact fun c => List.mem_rtakeWhile_imp
  case first =>
    intro c starts
    obtain ⟨back, splits⟩ := List.rdropWhile_prefix isBlank rest
    have starts_rest : rest.head? = some c := by
      calc
        rest.head? = (rest.rdropWhile isBlank ++ back).head? := by rw [splits]
        _ = some c := by rw [List.head?_append, starts, Option.some_or]
    have solid := List.head?_dropWhile_not isBlank text
    rw [behind, starts_rest] at solid
    exact solid
  case last =>
    intro c ends
    have filled : rest.rdropWhile isBlank ≠ [] := by
      intro empty
      rw [empty] at ends
      exact nomatch ends
    rw [List.getLast?_eq_some_getLast filled] at ends
    cases ends
    simpa using List.rdropWhile_last_not isBlank rest filled

/-- Trimming gives what has white space around it. -/
theorem trimsTo_iff : TrimsTo text core ↔ trim text = core := by
  constructor
  · rintro ⟨⟨front, back, rfl, blank, blank_back⟩, first, last⟩
    have ends : core.rdropWhile isBlank = core := by
      refine List.rdropWhile_eq_self_iff.2 fun filled => ?_
      simp [last _ (List.getLast?_eq_some_getLast filled)]
    rw [trim_eq_rdropWhile, List.append_assoc, List.dropWhile_append_of_pos blank]
    cases core with
    | nil =>
        rw [List.nil_append, List.rdropWhile_eq_nil_iff]
        exact fun c member => blank_back c ((List.dropWhile_sublist _).mem member)
    | cons c rest =>
        have starts : ((c :: rest) ++ back).dropWhile isBlank = (c :: rest) ++ back := by
          simp [first c rfl]
        rw [starts, List.rdropWhile, List.reverse_append,
          List.dropWhile_append_of_pos (by simpa using blank_back)]
        exact ends
  · rintro rfl
    exact trimsTo_trim text

end Text

/-! ## Numbers -/

namespace Config

/-- A text spells a number in base ten. -/
inductive Spells : List Char → Nat → Prop
  /-- It consists of digits. -/
  | plain {digits : List Char} (filled : digits ≠ []) (all : ∀ c ∈ digits, c.isDigit = true) :
      Spells digits (Nat.ofDigitChars 10 digits 0)
  /-- It has a plus sign before the digits. -/
  | plus {digits : List Char} (filled : digits ≠ []) (all : ∀ c ∈ digits, c.isDigit = true) :
      Spells ('+' :: digits) (Nat.ofDigitChars 10 digits 0)

/-- A text spells a number up to a bound. -/
def IsNumeral (most : Nat) (text : List Char) (number : Nat) : Prop :=
  Spells text number ∧ number ≤ most

theorem le_ofDigitChars (digits : List Char) (value : Nat) :
    value ≤ Nat.ofDigitChars 10 digits value := by
  induction digits generalizing value with
  | nil => exact Nat.le_refl _
  | cons c rest ih =>
      rw [Nat.ofDigitChars_cons]
      have := ih (10 * value + (c.toNat - '0'.toNat))
      omega

/-- Digits are read if none of them makes the number too large. -/
theorem readDigits_eq_ok_iff {most value number : Nat} {digits : List Char}
    (small : value ≤ most) : readDigits most value digits = .ok number ↔
      (∀ c ∈ digits, c.isDigit = true) ∧ Nat.ofDigitChars 10 digits value = number ∧
        number ≤ most := by
  induction digits generalizing value with
  | nil =>
      simp only [readDigits, Except.ok.injEq, Nat.ofDigitChars_nil, List.not_mem_nil]
      constructor
      · rintro rfl
        exact ⟨nofun, rfl, small⟩
      · exact fun ⟨_, same, _⟩ => same
  | cons c rest ih =>
      rw [readDigits, List.forall_mem_cons, Nat.ofDigitChars_cons, Nat.mul_comm 10 value]
      cases digit : c.isDigit with
      | false => simp
      | true =>
          simp only [if_true, true_and]
          split
          · rename_i large
            have grows := le_ofDigitChars rest (value * 10 + (c.toNat - '0'.toNat))
            refine ⟨nofun, fun ⟨_, same, bounded⟩ => ?_⟩
            omega
          · rename_i bounded
            exact ih (Nat.not_lt.1 bounded)

/-- A number is read if it is spelled and not too large. -/
theorem readNumber_eq_ok_iff (most : Nat) (text : List Char) (number : Nat) :
    readNumber most text = .ok number ↔ IsNumeral most text number := by
  have plus_solid : '+'.isDigit ≠ true := by decide
  unfold readNumber IsNumeral
  split
  · refine ⟨nofun, fun ⟨spells, _⟩ => ?_⟩
    cases spells with
    | plain filled _ => exact absurd rfl filled
  · refine ⟨nofun, fun ⟨spells, _⟩ => ?_⟩
    cases spells with
    | plain _ all => exact absurd (all '+' List.mem_cons_self) plus_solid
    | plus filled _ => exact absurd rfl filled
  · rename_i digits alone
    rw [readDigits_eq_ok_iff (Nat.zero_le most)]
    constructor
    · rintro ⟨all, rfl, bounded⟩
      exact ⟨.plus (fun empty => alone (by rw [empty])) all, bounded⟩
    · rintro ⟨spells, bounded⟩
      cases spells with
      | plain _ all => exact absurd (all '+' List.mem_cons_self) plus_solid
      | plus _ all => exact ⟨all, rfl, bounded⟩
  · rename_i filled _ unsigned
    rw [readDigits_eq_ok_iff (Nat.zero_le most)]
    constructor
    · rintro ⟨all, rfl, bounded⟩
      exact ⟨.plain filled all, bounded⟩
    · rintro ⟨spells, bounded⟩
      cases spells with
      | plain _ all => exact ⟨all, rfl, bounded⟩
      | plus _ _ => exact absurd rfl (unsigned _)

/-! ## Single variables -/

/-- A value is what the text of a variable means without the white space around it, or the default
if the variable is not set. -/
inductive Gives {α : Type} (lookup : String → Option String) (name : String) (default : α)
    (means : List Char → α → Prop) : α → Prop
  /-- The variable is not set. -/
  | unset (missing : lookup name = none) : Gives lookup name default means default
  /-- The variable is set to a text that means the value. -/
  | set {text : String} {core : List Char} {value : α} (found : lookup name = some text)
      (trims : Text.TrimsTo text.toList core) (meant : means core value) :
      Gives lookup name default means value

/-- The text of a variable is valid without the white space around it, if the variable is set. -/
def IsSound (lookup : String → Option String) (name : String) (valid : List Char → Prop) : Prop :=
  ∀ text, lookup name = some text → ∃ core, Text.TrimsTo text.toList core ∧ valid core

section

variable {α : Type} {read : List Char → Except SettingFault α} {means : List Char → α → Prop}

/-- What a variable gives is valid. -/
theorem Gives.sound {lookup : String → Option String} {name : String} {default value : α}
    (gives : Gives lookup name default means value) :
    IsSound lookup name fun core => ∃ value, means core value := by
  intro text found
  cases gives with
  | unset missing => exact nomatch missing.symm.trans found
  | set set trims meant =>
      cases set.symm.trans found
      exact ⟨_, trims, value, meant⟩

theorem IsSound.gives {lookup : String → Option String} {name : String}
    (sound : IsSound lookup name fun core => ∃ value, means core value) (default : α) :
    ∃ value, Gives lookup name default means value := by
  cases found : lookup name with
  | none => exact ⟨default, .unset found⟩
  | some text =>
      obtain ⟨core, trims, value, meant⟩ := sound text found
      exact ⟨value, .set found trims meant⟩

variable (reads : ∀ core value, read core = .ok value ↔ means core value)
  (lookup : String → Option String) (name : String) (default : α)

include reads

/-- A setting is what its variable gives. -/
theorem setting_eq_ok_iff (value : α) :
    setting lookup name default read = .ok value ↔ Gives lookup name default means value := by
  rw [setting]
  constructor
  · intro given
    split at given
    · rename_i missing
      cases given
      exact .unset missing
    · rename_i text found
      split at given
      · rename_i outcome
        cases given
        exact .set found (Text.trimsTo_trim _) ((reads _ _).1 outcome)
      · exact nomatch given
  · intro gives
    cases gives with
    | unset missing => rw [missing]
    | set found trims meant =>
        rw [found]
        dsimp only
        rw [Text.trimsTo_iff.1 trims, (reads _ _).2 meant]

/-- A setting is what its variable gives, or else the variable is not sound and is told of with its
text as it was set. -/
theorem setting_cases :
    (∃ value, setting lookup name default read = .ok value ∧
      Gives lookup name default means value) ∨
    ∃ text fault, setting lookup name default read = .error ⟨name, text, fault⟩ ∧
      lookup name = some text ∧ ¬IsSound lookup name fun core => ∃ value, means core value := by
  cases outcome : setting lookup name default read with
  | ok value =>
      exact .inl ⟨value, rfl, (setting_eq_ok_iff reads lookup name default value).1 outcome⟩
  | error error =>
      have unsound : ¬IsSound lookup name fun core => ∃ value, means core value := by
        intro sound
        obtain ⟨value, gives⟩ := sound.gives default
        have given := (setting_eq_ok_iff reads lookup name default value).2 gives
        exact nomatch outcome.symm.trans given
      rw [setting] at outcome
      split at outcome
      · exact nomatch outcome
      · rename_i text found
        split at outcome
        · exact nomatch outcome
        · cases outcome
          exact .inr ⟨text, _, rfl, found, unsound⟩

end

theorem readAddress_eq_ok_iff (text : List Char) (address : SocketAddress) :
    readAddress text = .ok address ↔ SocketAddress.parse? text = some address := by
  rw [readAddress]
  cases SocketAddress.parse? text <;> simp

/-! ## All variables -/

/-- What can be set to something invalid. -/
inductive Setting where
  /-- How many objects are worked on at a time. -/
  | concurrency
  /-- How long to wait before looking again. -/
  | requeueAfter
  /-- How long changes have to rest. -/
  | debounce
  /-- Where metrics are served. -/
  | metricsAddress

namespace Setting

/-- The variable of a setting. -/
def name : Setting → String
  | concurrency => "RECONCILE_CONCURRENCY"
  | requeueAfter => "REQUEUE_AFTER_SECS"
  | debounce => "DEBOUNCE_SECS"
  | metricsAddress => "METRICS_ADDR"

/-- The settings in the order in which they are read. -/
def inOrder : List Setting := [concurrency, requeueAfter, debounce, metricsAddress]

/-- Which trimmed texts a setting may have. -/
def IsValid : Setting → List Char → Prop
  | concurrency, text => ∃ number, IsNumeral 65535 text number
  | requeueAfter, text | debounce, text => ∃ seconds, IsNumeral (Nat.pow 2 64 - 1) text seconds
  | metricsAddress, text => ∃ address, SocketAddress.parse? text = some address

/-- A setting is not set or valid. -/
def IsSound (lookup : String → Option String) (setting : Setting) : Prop :=
  Config.IsSound lookup setting.name setting.IsValid

end Setting

/-- A configuration has what variables say, and the defaults where they are not set. -/
structure IsGivenBy (config : Config) (lookup : String → Option String) : Prop where
  /-- The namespace is taken as it is, and an empty one is none. -/
  space : ∀ name, config.space = some name ↔ lookup "WATCH_NAMESPACE" = some name ∧ name ≠ ""
  /-- Ten objects of a kind are worked on at a time unless another number is given. -/
  concurrency : Gives lookup "RECONCILE_CONCURRENCY" 10 (IsNumeral 65535) config.concurrency
  /-- There are twenty seconds before another look unless another number is given. -/
  requeueAfter : ∃ seconds, config.requeueAfter = .ofSeconds seconds ∧
    Gives lookup "REQUEUE_AFTER_SECS" 20 (IsNumeral (Nat.pow 2 64 - 1)) seconds
  /-- Changes rest for one second unless another number is given. -/
  debounce : ∃ seconds, config.debounce = .ofSeconds seconds ∧
    Gives lookup "DEBOUNCE_SECS" 1 (IsNumeral (Nat.pow 2 64 - 1)) seconds
  /-- Metrics are served at port 8080 of all addresses unless another address is given. -/
  metricsAddress : Gives lookup "METRICS_ADDR" (.v4 [0, 0, 0, 0] 8080)
    (fun text address => SocketAddress.parse? text = some address) config.metricsAddress

/-- The first variable that is not valid is told of by its name and its text as it was set. -/
def TellsOfFirst (error : ConfigError) (lookup : String → Option String) : Prop :=
  ∃ front setting back, Setting.inOrder = front ++ setting :: back ∧
    (∀ earlier ∈ front, earlier.IsSound lookup) ∧ ¬setting.IsSound lookup ∧
    error.name = setting.name ∧ lookup setting.name = some error.text ∧
    error.message = setting.name ++ "=" ++ error.text ++ ": " ++ error.fault.message

theorem ofLookup_eq (lookup : String → Option String) : ofLookup lookup = do
    let concurrency ← setting lookup "RECONCILE_CONCURRENCY" 10 (readNumber 65535)
    let requeueAfter ← setting lookup "REQUEUE_AFTER_SECS" 20 (readNumber (Nat.pow 2 64 - 1))
    let debounce ← setting lookup "DEBOUNCE_SECS" 1 (readNumber (Nat.pow 2 64 - 1))
    let metricsAddress ← setting lookup "METRICS_ADDR" (.v4 [0, 0, 0, 0] 8080) readAddress
    return {
      space := (lookup "WATCH_NAMESPACE").filter fun name => !name.isEmpty
      concurrency
      requeueAfter := .ofSeconds requeueAfter
      debounce := .ofSeconds debounce
      metricsAddress } := rfl

/-- What comes of reading variables: a configuration that they give, all of them being sound, or the
first one that is not sound. -/
def Ends (lookup : String → Option String) (result : Except ConfigError Config) : Prop :=
  (∃ config, result = .ok config ∧ (∀ setting, Setting.IsSound lookup setting) ∧
    config.IsGivenBy lookup) ∨
  ∃ error, result = .error error ∧ TellsOfFirst error lookup

/-- One more setting is read after sound ones: it is sound and reading goes on, or it is told of. -/
theorem ends_bind {α : Type} {read : List Char → Except SettingFault α}
    {means : List Char → α → Prop} {lookup : String → Option String} {default : α}
    {next : α → Except ConfigError Config} (front : List Setting) (setting : Setting)
    {back : List Setting} (order : Setting.inOrder = front ++ setting :: back)
    (reads : ∀ core value, read core = .ok value ↔ means core value)
    (valid : setting.IsValid = fun core => ∃ value, means core value)
    (sound : ∀ earlier ∈ front, earlier.IsSound lookup)
    (ends : ∀ value, Gives lookup setting.name default means value →
      (∀ earlier ∈ front ++ [setting], earlier.IsSound lookup) → Ends lookup (next value)) :
    Ends lookup (Config.setting lookup setting.name default read >>= next) := by
  obtain ⟨value, given, gives⟩ | ⟨text, fault, failed, found, unsound⟩ :=
    setting_cases reads lookup setting.name default
  · rw [given]
    refine ends value gives fun earlier among => ?_
    rcases List.mem_append.1 among with before | last
    · exact sound earlier before
    · rw [List.mem_singleton.1 last, Setting.IsSound, valid]
      exact gives.sound
  · rw [failed]
    refine .inr ⟨_, rfl, front, setting, back, order, sound, ?_, rfl, found, rfl⟩
    rw [Setting.IsSound, valid]
    exact unsound

/-- A configuration is given by its variables, or the first of them that is not valid is told of. -/
theorem ends_ofLookup (lookup : String → Option String) : Ends lookup (ofLookup lookup) := by
  rw [ofLookup_eq]
  refine ends_bind [] .concurrency rfl (readNumber_eq_ok_iff _) rfl nofun ?_
  intro concurrency gives_concurrency sound
  refine ends_bind _ .requeueAfter rfl (readNumber_eq_ok_iff _) rfl sound ?_
  intro requeueAfter gives_requeueAfter sound
  refine ends_bind _ .debounce rfl (readNumber_eq_ok_iff _) rfl sound ?_
  intro debounce gives_debounce sound
  refine ends_bind _ .metricsAddress rfl readAddress_eq_ok_iff rfl sound ?_
  intro metricsAddress gives_metricsAddress sound
  refine .inl ⟨_, rfl, fun setting => sound setting ?_, ?_⟩
  · cases setting <;> simp
  · exact {
      space := by simp [Option.filter_eq_some_iff]
      concurrency := gives_concurrency
      requeueAfter := ⟨requeueAfter, rfl, gives_requeueAfter⟩
      debounce := ⟨debounce, rfl, gives_debounce⟩
      metricsAddress := gives_metricsAddress }

/-- Variables give no more than one configuration, and that one is read. -/
theorem ofLookup_of_isGivenBy {lookup : String → Option String} {config : Config}
    (given : config.IsGivenBy lookup) : ofLookup lookup = .ok config := by
  obtain ⟨space, concurrency, ⟨requeueAfter, requeueAfter_eq, gives_requeueAfter⟩,
    ⟨debounce, debounce_eq, gives_debounce⟩, metricsAddress⟩ := given
  have space_eq : (lookup "WATCH_NAMESPACE").filter (fun name => !name.isEmpty) = config.space := by
    refine Option.ext fun name => ?_
    simp [space, Option.filter_eq_some_iff]
  rw [ofLookup_eq, (setting_eq_ok_iff (readNumber_eq_ok_iff _) _ _ _ _).2 concurrency,
    (setting_eq_ok_iff (readNumber_eq_ok_iff _) _ _ _ _).2 gives_requeueAfter,
    (setting_eq_ok_iff (readNumber_eq_ok_iff _) _ _ _ _).2 gives_debounce,
    (setting_eq_ok_iff readAddress_eq_ok_iff _ _ _ _).2 metricsAddress, space_eq]
  change Except.ok (Config.mk config.space config.concurrency (.ofSeconds requeueAfter)
    (.ofSeconds debounce) config.metricsAddress) = .ok config
  rw [← requeueAfter_eq, ← debounce_eq]

/-- The variables that settings are read from. -/
def variableNames : List String := "WATCH_NAMESPACE" :: Setting.inOrder.map Setting.name

/-- What it means that configurations are read from variables. -/
structure Reads (read : (String → Option String) → Except ConfigError Config) : Prop where
  /-- A configuration is read exactly if all variables that are set are valid. -/
  succeeds_iff : ∀ lookup, (∃ config, read lookup = .ok config) ↔
    ∀ setting, Setting.IsSound lookup setting
  /-- It is the one that the variables give. -/
  gives_iff : ∀ lookup config, read lookup = .ok config ↔ config.IsGivenBy lookup
  /-- Otherwise the first variable that is not valid is told of. -/
  tells : ∀ lookup error, read lookup = .error error → TellsOfFirst error lookup
  /-- Other variables make no difference. -/
  heeds : ∀ lookup other, (∀ name ∈ variableNames, other name = lookup name) →
    read other = read lookup

/-- Configurations are read from the five variables, and as these say. -/
theorem ofLookup_reads : Reads ofLookup where
  succeeds_iff lookup := by
    obtain ⟨config, read, sound, _⟩ | ⟨error, failed, tells⟩ := ends_ofLookup lookup
    · exact ⟨fun _ => sound, fun _ => ⟨config, read⟩⟩
    · obtain ⟨_, setting, _, _, _, unsound, _⟩ := tells
      constructor
      · rintro ⟨config, read⟩
        exact nomatch failed.symm.trans read
      · exact fun sound => absurd (sound setting) unsound
  gives_iff lookup config := by
    refine ⟨fun read => ?_, ofLookup_of_isGivenBy⟩
    obtain ⟨_, read_again, _, given⟩ | ⟨error, failed, _⟩ := ends_ofLookup lookup
    · cases read_again.symm.trans read
      exact given
    · exact nomatch failed.symm.trans read
  tells lookup error failed := by
    obtain ⟨config, read, _⟩ | ⟨_, failed_again, tells⟩ := ends_ofLookup lookup
    · exact nomatch failed.symm.trans read
    · cases failed_again.symm.trans failed
      exact tells
  heeds lookup other same := by
    simp only [variableNames, Setting.inOrder, List.map_cons, List.map_nil, List.forall_mem_cons,
      Setting.name] at same
    obtain ⟨space, concurrency, requeueAfter, debounce, metricsAddress, _⟩ := same
    simp only [ofLookup_eq, setting, space, concurrency, requeueAfter, debounce, metricsAddress]

-- A delay that is one second too long is told of before an address without a host.
example : ofLookup (fun
      | "RECONCILE_CONCURRENCY" => some "\u3000+0065535\n"
      | "DEBOUNCE_SECS" => some " 18446744073709551616"
      | "METRICS_ADDR" => some ":80"
      | _ => none) =
    .error ⟨"DEBOUNCE_SECS", " 18446744073709551616", .tooLarge⟩ := by
  decide +kernel

end Config

end BareMetal
