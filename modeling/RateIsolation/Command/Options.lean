/-
  The command line.

  An option has a name that may be cut short as long as it stays its own, and
  a value: the text after an equals sign, or the next word. Every word is
  classified on its own before any is used, so that a name that could mean two
  options is refused wherever it stands; after a double dash all words are
  operands. The command takes no operands.

  * `CommandWord.classify` is the meaning of a word, `CommandLine.classify`
    that of a whole line;
  * `CommandLine.read` gives the options, or that help was asked for;
    `UsageFault` says why a line was refused.
-/
import RateIsolation.Number.Reading
import RateIsolation.Table
import RateIsolation.Text.Quoted

namespace RateIsolation

/-- The options of the command. -/
inductive CommandOption where
  | help
  | apiUrl
  | authUrl
  | burst
  | logLevel
  | output
  | metricsFile
deriving DecidableEq, Repr

namespace CommandOption

/-- All spellings, in the order in which a name cut short is compared with them. -/
def spellings : List (String × CommandOption) := [("-h", help), ("--help", help),
  ("--api-url", apiUrl), ("--auth-url", authUrl), ("--burst", burst), ("--log-level", logLevel),
  ("--output", output), ("--metrics-file", metricsFile)]

/-- An option with all its spellings, as messages call it. -/
def title (o : CommandOption) : String :=
  "/".intercalate ((spellings.filter fun e => e.2 = o).map (·.1))

end CommandOption

/-- Why a command line was refused. -/
inductive UsageFault where
  /-- A name that is short for several options. -/
  | ambiguous (word : String) (options : List String)
  /-- An option without its value. -/
  | missingValue (option : CommandOption)
  /-- A value that is no whole number. -/
  | notWhole (option : CommandOption) (value : String)
  /-- A value for an option that has none. -/
  | unusedValue (option : CommandOption) (value : String)
  /-- Words that are no options. -/
  | unrecognized (words : List String)
deriving DecidableEq, Repr

/-- The words for a fault. -/
def UsageFault.message : UsageFault → String
  | ambiguous word options =>
    "ambiguous option: " ++ word ++ " could match " ++ ", ".intercalate options
  | missingValue option => "argument " ++ option.title ++ ": expected one argument"
  | notWhole option value =>
    "argument " ++ option.title ++ ": invalid int value: " ++ Text.quoted value
  | unusedValue option value =>
    "argument " ++ option.title ++ ": ignored explicit argument " ++ Text.quoted value
  | unrecognized words => "unrecognized arguments: " ++ " ".intercalate words

/-- What follows the spelling of an option in one word. -/
inductive Attachment where
  | nothing
  /-- The text after an equals sign. -/
  | value (text : String)
  /-- The text after the letter of a spelling of one letter. -/
  | letters (text : String)
deriving DecidableEq, Repr

/-- What a word of the command line is. -/
inductive CommandWord where
  /-- A word that is no option by its form. -/
  | operand
  /-- The first double dash. -/
  | divider
  /-- An option and what is attached to it. -/
  | option (o : CommandOption) (attached : Attachment)
  /-- An option by its form that does not exist. -/
  | unknown
deriving DecidableEq, Repr

namespace CommandWord

/-- Split a word at its first equals sign. -/
def splitValue (word : List Char) : List Char × Option (List Char) :=
  match word.dropWhile (· != '=') with
  | [] => (word, none)
  | _ :: value => (word.takeWhile (· != '='), some value)

/-- Digits with at most one point among them, and at least one digit after it. -/
def isUnsignedNumber (cs : List Char) : Bool :=
  let digit (c : Char) : Bool := (Text.digitValue? c).isSome
  let whole := cs.takeWhile digit
  match cs.drop whole.length with
  | [] => !whole.isEmpty
  | '.' :: fraction => !fraction.isEmpty && fraction.all digit
  | _ => false

/-- A negative number; a line feed at its end is ignored. -/
def isNegativeNumber : List Char → Bool
  | '-' :: rest =>
    isUnsignedNumber rest || (rest.getLast? == some '\n' && isUnsignedNumber rest.dropLast)
  | _ => false

/-- The attachment of a value after an equals sign, if there is one. -/
def attachmentOf : Option (List Char) → Attachment
  | none => .nothing
  | some value => .value (String.ofList value)

/-- The option of an exact spelling. -/
def named? (name : List Char) (value : Option (List Char)) : Option CommandWord :=
  (Table.get? (String.ofList name) CommandOption.spellings).map fun o =>
    option o (attachmentOf value)

/-- The options that a word which is no exact spelling may mean, with their spellings. -/
def candidates (word : List Char) : List (String × CommandWord) :=
  match word with
  | '-' :: '-' :: _ =>
    let (name, value) := splitValue word
    (CommandOption.spellings.filter fun e => name.isPrefixOf e.1.toList).map fun (spelling, o) =>
      (spelling, option o (attachmentOf value))
  | dash :: letter :: rest =>
    let spelling := String.ofList [dash, letter]
    match Table.get? spelling CommandOption.spellings with
    | some o => [(spelling, option o (.letters (String.ofList rest)))]
    | none => []
  | _ => []

/-- The word that an exact spelling is, alone or before an equals sign. -/
def spelled? (cs : List Char) : Option CommandWord :=
  match named? cs none with
  | some w => some w
  | none =>
    match splitValue cs with
    | (name, some value) => named? name (some value)
    | _ => none

/-- The meaning of a word that no double dash precedes. -/
def classify (word : String) : Except UsageFault CommandWord :=
  let cs := word.toList
  if word = "--" then .ok divider
  else if cs.head? ≠ some '-' ∨ cs.length = 1 then .ok operand
  else
    match spelled? cs with
    | some w => .ok w
    | none =>
      match candidates cs with
      | [(_, w)] => .ok w
      | [] => .ok (if isNegativeNumber cs || cs.contains ' ' then operand else unknown)
      | several => .error (.ambiguous word (several.map (·.1)))

end CommandWord

/-- The values of the options. -/
structure CommandOptions where
  apiUrl : Option String := none
  authUrl : Option String := none
  burst : Option Int := none
  logLevel : Option String := none
  output : Option String := none
  metricsFile : Option String := none
deriving DecidableEq, Repr

/-- What a command line asks for. -/
inductive CommandRequest where
  /-- Help. -/
  | help
  /-- A run with options. -/
  | run (options : CommandOptions)
deriving DecidableEq, Repr

namespace CommandLine

/-- The words with their meanings. -/
def classify : List String → Except UsageFault (List (String × CommandWord))
  | [] => .ok []
  | word :: rest =>
    match CommandWord.classify word with
    | .error e => .error e
    | .ok .divider => .ok ((word, .divider) :: rest.map fun w => (w, .operand))
    | .ok meaning =>
      match classify rest with
      | .error e => .error e
      | .ok meanings => .ok ((word, meaning) :: meanings)

/-- Give an option its value. -/
def store (o : CommandOption) (value : String) (options : CommandOptions) :
    Except UsageFault CommandOptions :=
  match o with
  | .help => .error (.unusedValue o value)
  | .apiUrl => .ok { options with apiUrl := some value }
  | .authUrl => .ok { options with authUrl := some value }
  | .burst =>
    match readInt? value with
    | none => .error (.notWhole o value)
    | some n => .ok { options with burst := some n }
  | .logLevel => .ok { options with logLevel := some value }
  | .output => .ok { options with output := some value }
  | .metricsFile => .ok { options with metricsFile := some value }

/-- What is wrong with what is attached to the option for help, if anything: letters are let
    pass, but no value. -/
def helpFault? : Attachment → Option UsageFault
  | .nothing => none
  | .value text => some (.unusedValue .help text)
  | .letters text =>
    -- the letter itself may be repeated
    match text.toList.dropWhile (· == 'h') with
    | '=' :: value => some (.unusedValue .help (String.ofList value))
    | '-' :: rest => some (.unusedValue .help (String.ofList ('-' :: rest)))
    | _ => none

/-- Use the words in order; `extras` are those that were no options. -/
def consume (options : CommandOptions) (extras : List String) :
    List (String × CommandWord) → Except UsageFault CommandRequest
  | [] => if extras.isEmpty then .ok (.run options) else .error (.unrecognized extras)
  | (_, .option .help attached) :: _ =>
    match helpFault? attached with
    | some fault => .error fault
    | none => .ok .help
  | (_, .option o .nothing) :: (value, .operand) :: rest =>
    match store o value options with
    | .error e => .error e
    | .ok options' => consume options' extras rest
  | (_, .option o .nothing) :: _ => .error (.missingValue o)
  | (_, .option o (.value text)) :: rest =>
    match store o text options with
    | .error e => .error e
    | .ok options' => consume options' extras rest
  | (_, .option o (.letters text)) :: rest =>
    match store o text options with
    | .error e => .error e
    | .ok options' => consume options' extras rest
  | (word, _) :: rest => consume options (extras ++ [word]) rest

/-- What a command line asks for. -/
def read (words : List String) : Except UsageFault CommandRequest :=
  match classify words with
  | .error e => .error e
  | .ok meanings => consume {} [] meanings

/-! ## Texts -/

/-- How the command is called. -/
def usageLines : List String := [
  "usage: ratecheck [-h] [--api-url API_URL] [--auth-url AUTH_URL]",
  "                 [--burst BURST] [--log-level LOG_LEVEL] [--output OUTPUT]",
  "                 [--metrics-file METRICS_FILE]"]

/-- What the command does and what its options are for. -/
def helpLines : List String := usageLines ++ [
  "",
  "Check that gateway rate limits are isolated per service and per identity.",
  "",
  "options:",
  "  -h, --help            show this help message and exit",
  "  --api-url API_URL     Gateway base URL (API_GW_BASE_URL)",
  "  --auth-url AUTH_URL   Auth service base URL (AUTH_GW_BASE_URL)",
  "  --burst BURST         Requests per burst (BURST_REQUESTS)",
  "  --log-level LOG_LEVEL",
  "                        Log level (LOG_LEVEL)",
  "  --output OUTPUT       Optional path to write the JSON summary",
  "  --metrics-file METRICS_FILE",
  "                        Optional path to write Prometheus metrics"]

/-- The text of lines, each with a line end. -/
def textOf (lines : List String) : String := String.join (lines.map (· ++ "\n"))

end CommandLine

end RateIsolation
