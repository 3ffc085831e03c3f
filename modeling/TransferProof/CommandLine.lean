import TransferProof.Number.Integer
import TransferProof.Text.Similarity

/-!
# Command line

Three arguments and eight options, in any order; what follows `--` is an argument. A long option
takes its value from behind an equals sign or from the next word, whatever that looks like. Short
options take no value and may stand together. The last value of an option counts.
-/

namespace TransferProof.CommandLine

/-- The options, which are declared in this order. -/
inductive Switch where
  | amount
  | service
  | tradeId
  | tradeDate
  | confirmations
  | noProxy
  | verbose
  | help
  deriving DecidableEq, Repr

namespace Switch

def all : List Switch :=
  [.amount, .service, .tradeId, .tradeDate, .confirmations, .noProxy, .verbose, .help]

def name : Switch → Text
  | .amount => "--amount"
  | .service => "--service"
  | .tradeId => "--trade-id"
  | .tradeDate => "--trade-date"
  | .confirmations => "--confirmations"
  | .noProxy => "--no-proxy"
  | .verbose => "--verbose"
  | .help => "--help"

def letter? : Switch → Option CodePoint
  | .verbose => some 0x76
  | .help => some 0x68
  | _ => none

def takesValue : Switch → Bool
  | .noProxy => false
  | .verbose => false
  | .help => false
  | _ => true

def ofName? (name : Text) : Option Switch := all.find? fun s => s.name == name

def ofLetter? (letter : CodePoint) : Option Switch := all.find? fun s => s.letter? == some letter

end Switch

inductive Argument where
  | txHash
  | address
  | txKey
  deriving DecidableEq, Repr

def Argument.name : Argument → Text
  | .txHash => "TX_HASH"
  | .address => "ADDRESS"
  | .txKey => "TX_KEY"

inductive Misuse where
  | noSuchOption (name : Text) (similar : List Text)
  | valueNeeded (option : Switch)
  | valueRefused (option : Switch)
  | argumentMissing (argument : Argument)
  | optionMissing (option : Switch)
  | notAnInteger (option : Switch) (value : Text)
  | extraArguments (arguments : List Text)
  /-- A value that the checker itself cannot use. -/
  | unusable (message : Text)
  deriving DecidableEq, Repr

def usage : Text := "Usage: main [OPTIONS] TX_HASH ADDRESS TX_KEY\n"

/-- The options with what they are for. -/
def optionLines : List Text :=
  ["  --amount TEXT            Expected amount in XMR.  [required]",
   "  --service TEXT           Proof service address (host[:port]).",
   "  --trade-id TEXT          Identifier used in logs.",
   "  --trade-date TEXT        Trade date as epoch seconds or ISO 8601 (default:",
   "                           now).",
   "  --confirmations INTEGER  Required confirmations.",
   "  --no-proxy               Connect directly, ignoring XMR_PROOF_SOCKS5_PROXY.",
   "  -v, --verbose            Log requests and responses.",
   "  -h, --help               Show this message and exit."]

def helpText : Text :=
  usage ++ "\nOptions:\n" ++ optionLines.flatMap fun (line : Text) => line ++ ("\n" : Text)

namespace Misuse

/-- The names of options that may have been meant. -/
def suggestion : List Text → Text
  | [] => []
  | [name] => " Did you mean " ++ name ++ "?"
  | names => " (Possible options: " ++ Text.joined ", " (names.mergeSort Text.le) ++ ")"

def message : Misuse → Text
  | .noSuchOption name similar => "No such option: " ++ name ++ suggestion similar
  | .valueNeeded option => "Option " ++ Text.quoted option.name ++ " requires an argument."
  | .valueRefused option => "Option " ++ Text.quoted option.name ++ " does not take a value."
  | .argumentMissing argument => "Missing argument '" ++ argument.name ++ "'."
  | .optionMissing option => "Missing option '" ++ option.name ++ "'."
  | .notAnInteger option value =>
    "Invalid value for '" ++ option.name ++ "': " ++ Text.quoted value ++ " is not a valid integer."
  | .extraArguments [argument] => "Got unexpected extra argument (" ++ argument ++ ")"
  | .extraArguments arguments =>
    "Got unexpected extra arguments (" ++ Text.joined " " arguments ++ ")"
  | .unusable message => "Invalid value: " ++ message

/-- The words are preceded by the usage, unless an option and its value do not fit. -/
def showsUsage : Misuse → Bool
  | .valueNeeded _ => false
  | .valueRefused _ => false
  | _ => true

def text (misuse : Misuse) : Text :=
  (if misuse.showsUsage then usage ++ "Try 'main -h' for help.\n\n" else [])
    ++ "Error: " ++ misuse.message ++ "\n"

end Misuse

inductive Word where
  | argument
  /-- Only arguments follow. -/
  | lastOption
  | flags (options : List Switch)
  /-- An option with the value that is attached to it. -/
  | valued (option : Switch) (value : Option Text)
  | wrong (misuse : Misuse)

/-- The options that letters stand for. -/
def letters : Text → Except Misuse (List Switch)
  | [] => .ok []
  | c :: rest =>
    match Switch.ofLetter? c with
    | none => .error (.noSuchOption [0x2D, c] [])
    | some option =>
      match letters rest with
      | .ok options => .ok (option :: options)
      | .error misuse => .error misuse

/-- The most options that are named when one is not known. -/
def suggestions : Nat := 3

namespace Word

def ofText (word : Text) : Word :=
  match word with
  | [0x2D, 0x2D] => .lastOption
  | 0x2D :: c :: rest =>
    let (name, value) := Text.splitFirst 0x3D word
    match Switch.ofName? name, value with
    | some option, value =>
      if option.takesValue then .valued option value
      else if value.isSome then .wrong (.valueRefused option)
      else .flags [option]
    | none, _ =>
      if c = 0x2D then
        .wrong (.noSuchOption name (Text.mostSimilar suggestions name (Switch.all.map Switch.name)))
      else match letters (c :: rest) with
        | .ok options => .flags options
        | .error misuse => .wrong misuse
  | _ => .argument

end Word

/-- What a command line holds: its arguments, and its options with their values, in order. -/
structure Words where
  arguments : List Text := []
  options : List (Switch × Text) := []

namespace Words

def addArgument (words : Words) (argument : Text) : Words :=
  { words with arguments := words.arguments ++ [argument] }

def addOption (words : Words) (option : Switch) (value : Text) : Words :=
  { words with options := words.options ++ [(option, value)] }

def addFlags (words : Words) (options : List Switch) : Words :=
  options.foldl (fun words option => words.addOption option []) words

/-- Sorts what follows into arguments and options. -/
def scan (words : Words) : List Text → Except Misuse Words
  | [] => .ok words
  | word :: rest =>
    match Word.ofText word with
    | .argument => scan (words.addArgument word) rest
    | .lastOption => .ok { words with arguments := words.arguments ++ rest }
    | .flags options => scan (words.addFlags options) rest
    | .valued option (some value) => scan (words.addOption option value) rest
    | .valued option none =>
      match rest with
      | [] => .error (.valueNeeded option)
      | value :: rest => scan (words.addOption option value) rest
    | .wrong misuse => .error misuse

def has (words : Words) (option : Switch) : Bool := words.options.any fun o => o.1 == option

/-- The last value of an option. -/
def value? (words : Words) (option : Switch) : Option Text :=
  words.options.reverse.lookup option

def confirmations (words : Words) : Except Misuse (Option Int) :=
  match words.value? .confirmations with
  | none => .ok none
  | some value =>
    match value.toInt with
    | .ok count => .ok (some count)
    | .error _ => .error (.notAnInteger .confirmations value)

end Words

structure Order where
  txHash : Text
  address : Text
  txKey : Text
  amount : Text
  service : Option Text
  tradeId : Option Text
  tradeDate : Option Text
  confirmations : Option Int
  noProxy : Bool
  verbose : Bool
  deriving DecidableEq, Repr

inductive Wish where
  | help
  | check (order : Order)

/-- Reads the words of a command line that does not ask for help. A value that is no integer is
found before a missing argument, and that before a missing option. -/
def order (words : Words) : Except Misuse Order :=
  match words.confirmations with
  | .error misuse => .error misuse
  | .ok confirmations =>
    match words.arguments with
    | [] => .error (.argumentMissing .txHash)
    | [_] => .error (.argumentMissing .address)
    | [_, _] => .error (.argumentMissing .txKey)
    | txHash :: address :: txKey :: extra =>
      match words.value? .amount with
      | none => .error (.optionMissing .amount)
      | some amount =>
        if extra.isEmpty then
          .ok {
            txHash := txHash
            address := address
            txKey := txKey
            amount := amount
            service := words.value? .service
            tradeId := words.value? .tradeId
            tradeDate := words.value? .tradeDate
            confirmations := confirmations
            noProxy := words.has .noProxy
            verbose := words.has .verbose }
        else .error (.extraArguments extra)

/-- Reads a command line. A word that is wrong in itself is found before anything else, and then
whether help is asked for. -/
def read (line : List Text) : Except Misuse Wish :=
  match Words.scan {} line with
  | .error misuse => .error misuse
  | .ok words => if words.has .help then .ok .help else (order words).map .check

end TransferProof.CommandLine
