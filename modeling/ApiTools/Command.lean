import ApiTools.Enhancement
import ApiTools.Number.Numeral

/-!
# Commands

A command says what is to be done with which files.  It is given as a list of words: its name, its
arguments in order, and options anywhere among them.
-/

namespace ApiTools

/-- What is said about the description that a command works on. -/
structure CommandSource where
  spec : String
  /-- The file of the settings, where it is named. -/
  settings? : Option String
  /-- The file of the prompts, where it is named. -/
  prompts? : Option String
  /-- Is no language model asked? -/
  withoutModel : Bool

/-- What is to be done. -/
inductive Command where
  | enhance (source : CommandSource) (directory : String) (options : EnhancementOptions)
      (dryRun : Bool) (baseline? : Option Binary64) (violationsOnly : Bool)
  | generateOverlay (source : CommandSource) (output : String) (format : OutputFormat)
  | applyOverlay (spec overlay output : String) (format : OutputFormat)
  | validate (initial enhanced : String) (violationsOnly : Bool) (baseline? : Option Binary64)
  | generate (source : CommandSource) (directory : String) (dryRun : Bool)
  | validateFunctions (directories : List String) (target? : Option Nat)

/-- Why words are no command. -/
inductive CommandRefusal where
  /-- They ask for help instead. -/
  | helpWanted
  | misused
  deriving DecidableEq, Repr

namespace Command

/-! ### Words -/

/-- What an option takes. -/
inductive OptionKind where
  /-- Nothing: it is there or not. -/
  | flag
  /-- A value of a kind. -/
  | value (isValid : String → Bool)

/-- What an argument may be. -/
inductive ArgumentKind where
  /-- Any text. -/
  | text
  /-- Any text but the empty one. -/
  | path
  deriving DecidableEq, Repr

/-- Which arguments a command takes. -/
inductive ArgumentRule where
  /-- One of each kind, in order. -/
  | each (kinds : List ArgumentKind)
  /-- Any number of one kind. -/
  | many (kind : ArgumentKind)

/-- May the text be an argument of the kind? -/
def ArgumentKind.accepts : ArgumentKind → String → Bool
  | text, _ => true
  | path, argument => !argument.isEmpty

/-- May the text be the argument at the position? -/
def ArgumentRule.accepts : ArgumentRule → (position : Nat) → String → Bool
  | each kinds, position, argument => (kinds[position]?.map (·.accepts argument)).getD false
  | many kind, _, argument => kind.accepts argument

/-- The words of a command, sorted out. -/
structure Words where
  arguments : List String := []
  /-- The values of the options that are there, empty for flags. -/
  options : List (String × String) := []

namespace Words

/-- Is the option there? -/
def has (words : Words) (name : String) : Bool := (words.options.lookup name).isSome

/-- The value of an option. -/
def value? (words : Words) (name : String) : Option String := words.options.lookup name

/-- The words with one more argument, which the rule must allow. -/
def addArgument (rule : ArgumentRule) (words : Words) (argument : String) :
    Except CommandRefusal Words :=
  if rule.accepts words.arguments.length argument then
    .ok { words with arguments := words.arguments ++ [argument] }
  else .error .misused

/-- The words with one more option, which must not be there yet. -/
def addOption (words : Words) (name value : String) : Except CommandRefusal Words :=
  if words.has name then .error .misused
  else .ok { words with options := words.options ++ [(name, value)] }

/-- The words with an option that has a value. -/
def addValue (words : Words) (name value : String) (isValid : String → Bool) :
    Except CommandRefusal Words :=
  if isValid value then words.addOption name value else .error .misused

end Words

/-- How a word is meant. -/
inductive WordKind where
  /-- Two dashes: no options follow. -/
  | divider
  /-- An option, with the value given in the same word. -/
  | option (name : String) (value? : Option String)
  /-- Letters of short options. -/
  | letters (letters : List Char)
  | argument (text : String)

/-- An option as written after its dashes. -/
def optionOf (cs : List Char) : WordKind :=
  let name := String.ofList (cs.takeWhile (· ≠ '='))
  match cs.dropWhile (· ≠ '=') with
  | _ :: value => .option name (some (String.ofList value))
  | [] => .option name none

/-- How a word is meant.  A single dash is an argument. -/
def WordKind.ofWord (word : String) : WordKind :=
  match word.toList with
  | ['-', '-'] => .divider
  | '-' :: '-' :: rest => optionOf rest
  | '-' :: c :: rest => .letters (c :: rest)
  | _ => .argument word

/-- Does the word begin with a dash, with more after it? -/
def isDashed (word : String) : Bool :=
  match WordKind.ofWord word with
  | .argument _ => false
  | _ => true

/-- The only letters of an option that are known ask for help. -/
def refusalOfLetters (letters : List Char) : CommandRefusal :=
  if letters.head? = some 'h' then .helpWanted else .misused

/-- Sorts out words, where the arguments follow a rule and the given options are known.  A word
after an option that takes a value is its value, unless it begins with a dash.  The first word that
is out of place or asks for help decides. -/
def sortWords (rule : ArgumentRule) (known : List (String × OptionKind)) : Words → List String →
    Except CommandRefusal Words
  | words, [] => .ok words
  | words, word :: rest =>
    match WordKind.ofWord word with
    | .divider => rest.foldlM (Words.addArgument rule) words
    | .argument text => do sortWords rule known (← words.addArgument rule text) rest
    | .letters letters => .error (refusalOfLetters letters)
    | .option name value? =>
      if name = "help" && value?.isNone then .error .helpWanted
      else
        match known.lookup name, value? with
        | none, _ => .error .misused
        | some .flag, some _ => .error .misused
        | some .flag, none => do sortWords rule known (← words.addOption name "") rest
        | some (.value isValid), some value => do
          sortWords rule known (← words.addValue name value isValid) rest
        | some (.value isValid), none =>
          match rest with
          | [] => .error .misused
          | value :: rest =>
            if isDashed value then .error .misused
            else do sortWords rule known (← words.addValue name value isValid) rest

/-! ### Kinds of values -/

/-- A path: any text but the empty one. -/
def pathKind : OptionKind := .value fun value => !value.isEmpty

/-- The format that a name stands for. -/
def formatNamed? (name : String) : Option OutputFormat :=
  if name = "yaml" then some .yaml else if name = "json" then some .json else none

/-- The name of a format. -/
def formatKind : OptionKind := .value fun value => (formatNamed? value).isSome

/-- A number. -/
def numberKind : OptionKind := .value fun value => (Numeral.binary? value).isSome

/-- The number of characters that a text denotes. -/
def length? (text : String) : Option Nat := Numeral.naturalBelow? (Nat.pow 2 64) text

/-- A number of characters. -/
def lengthKind : OptionKind := .value fun value => (length? value).isSome

/-- The levels of detail of the log. -/
def logLevels : List String := ["error", "warn", "info", "debug", "trace"]

/-- The option that all commands know, which has no influence on what they do. -/
def commonOption : String × OptionKind := ("log-level", .value logLevels.contains)

/-- The options of the commands that ask a language model. -/
def sourceOptions : List (String × OptionKind) :=
  [commonOption, ("config", pathKind), ("prompts", pathKind), ("no-llm", .flag)]

/-! ### Commands -/

/-- What is said about the description. -/
def sourceOf (spec : String) (words : Words) : CommandSource where
  spec := spec
  settings? := words.value? "config"
  prompts? := words.value? "prompts"
  withoutModel := words.has "no-llm"

/-- The format that is asked for. -/
def formatOf (words : Words) (default : OutputFormat) : OutputFormat :=
  ((words.value? "format").bind formatNamed?).getD default

/-- The number that is given for an option. -/
def numberOf? (words : Words) (name : String) : Option Binary64 :=
  (words.value? name).bind Numeral.binary?

/-- Reads the words of the command that enhances a description. -/
def readEnhance (rest : List String) : Except CommandRefusal Command := do
  let words ← sortWords (.each [.text, .path]) (sourceOptions ++ [("save-overlay", pathKind),
    ("save-enhanced-spec", pathKind), ("skip-overlay", .flag), ("overlay-only", .flag),
    ("format", formatKind), ("dry-run", .flag), ("baseline-seconds", numberKind),
    ("violations-only", .flag)]) {} rest
  match words.arguments with
  | [spec, directory] =>
    if words.has "skip-overlay" && words.has "overlay-only" then throw .misused
    let options : EnhancementOptions :=
      { overlayPath? := words.value? "save-overlay"
        specPath? := words.value? "save-enhanced-spec"
        skipOverlay := words.has "skip-overlay"
        overlayOnly := words.has "overlay-only"
        format := formatOf words .yaml }
    return .enhance (sourceOf spec words) directory options (words.has "dry-run")
      (numberOf? words "baseline-seconds") (words.has "violations-only")
  | _ => throw .misused

/-- Reads the words of the command that generates an overlay. -/
def readGenerateOverlay (rest : List String) : Except CommandRefusal Command := do
  let words ← sortWords (.each [.text, .path]) (sourceOptions ++ [("format", formatKind)]) {} rest
  match words.arguments with
  | [spec, output] => return .generateOverlay (sourceOf spec words) output (formatOf words .yaml)
  | _ => throw .misused

/-- Reads the words of the command that applies an overlay. -/
def readApplyOverlay (rest : List String) : Except CommandRefusal Command := do
  let words ← sortWords (.each [.text, .path, .path]) [commonOption, ("format", formatKind)] {} rest
  match words.arguments with
  | [spec, overlay, output] => return .applyOverlay spec overlay output (formatOf words .json)
  | _ => throw .misused

/-- Reads the words of the command that checks a description. -/
def readValidate (rest : List String) : Except CommandRefusal Command := do
  let words ← sortWords (.each [.text, .text])
    [commonOption, ("violations-only", .flag), ("baseline-seconds", numberKind)] {} rest
  match words.arguments with
  | [initial, enhanced] =>
    return .validate initial enhanced (words.has "violations-only")
      (numberOf? words "baseline-seconds")
  | _ => throw .misused

/-- Reads the words of the command that generates a project. -/
def readGenerate (rest : List String) : Except CommandRefusal Command := do
  let words ← sortWords (.each [.text, .path]) (sourceOptions ++ [("dry-run", .flag)]) {} rest
  match words.arguments with
  | [spec, directory] => return .generate (sourceOf spec words) directory (words.has "dry-run")
  | _ => throw .misused

/-- Reads the words of the command that audits projects. -/
def readValidateFunctions (rest : List String) : Except CommandRefusal Command := do
  let words ← sortWords (.many .path) [commonOption, ("max-length", lengthKind)] {} rest
  match words.arguments with
  | [] => throw .misused
  | directories =>
    return .validateFunctions directories ((words.value? "max-length").bind length?)

/-- The commands by name, each with the reader of its words. -/
def readers : List (String × (List String → Except CommandRefusal Command)) :=
  [("enhance", readEnhance), ("generate-overlay", readGenerateOverlay),
    ("apply-overlay", readApplyOverlay), ("validate", readValidate), ("generate", readGenerate),
    ("validate-functions", readValidateFunctions)]

/-- What words that ask for help, and about what, come to. -/
def refusalOfHelp : List String → CommandRefusal
  | [] => .helpWanted
  | topic :: rest =>
    if rest.isEmpty && (topic = "help" || (readers.lookup topic).isSome) then .helpWanted
    else .misused

/-- Reads a command.  Before its name there may be the option that all commands know, once, or
the wish for help or for the version. -/
def read (levelGiven : Bool) : List String → Except CommandRefusal Command
  | [] => .error .misused
  | word :: rest =>
    match WordKind.ofWord word with
    | .divider => .error .misused
    | .argument name =>
      if name = "help" then .error (refusalOfHelp rest)
      else
        match readers.lookup name with
        | some reader => reader rest
        | none => .error .misused
    | .letters letters =>
      .error (if letters.head? = some 'V' then .helpWanted else refusalOfLetters letters)
    | .option name value? =>
      if (name = "help" || name = "version") && value?.isNone then .error .helpWanted
      else if name ≠ commonOption.1 || levelGiven then .error .misused
      else
        match value? with
        | some level => if logLevels.contains level then read true rest else .error .misused
        | none =>
          match rest with
          | [] => .error .misused
          | level :: rest =>
            if logLevels.contains level then read true rest else .error .misused

end Command

end ApiTools
