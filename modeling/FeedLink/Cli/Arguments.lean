import FeedLink.Feed
import FeedLink.Table

/-!
# Command lines

A command line is read from left to right, and the first thing that is wrong with it, or that asks
for something else than a command, decides.

```text
feeds
subscribe --feed NAME [--params JSON] [--count N] [connection flags]
request --method NAME [--params JSON] [connection flags]
```

A value follows its flag, or an equals sign behind it; after a blank it may not begin with a dash
unless it is the dash alone. No flag is given twice. `Token.ofText` tells what a word is, `scan`
reads words against the flags that are known, and `parse` reads whole command lines.
-/

namespace FeedLink.Cli

/-! ## Commands -/

/-- The flags that say what to connect to. -/
structure ConnectionFlags where
  /-- The file that holds the configuration. -/
  config : Option String
  cloudApiUrl : Option String
  gatewaySocketUrl : Option String
  gatewayGrpcUrl : Option String
  /-- The value of the authorization header. -/
  auth : Option String
  network : Option String
deriving DecidableEq, Repr

/-- What can be done. -/
inductive Command where
  /-- Prints the notifications of a feed, `count` of them if that is given. -/
  | subscribe (connection : ConnectionFlags) (feed : Feed) (params : String)
      (count : Option UInt64)
  /-- Sends a request and prints its result. -/
  | request (connection : ConnectionFlags) (method params : String)
  /-- Lists the feeds that have a type. -/
  | feeds
deriving DecidableEq, Repr

/-- What can be asked of the program instead of a command. -/
inductive Question where
  | help
  | version
deriving DecidableEq, Repr

/-- What is wrong with a command line. -/
inductive UsageError where
  | noCommand
  | unknownCommand (name : String)
  | unknownFlag (word : String)
  | unexpected (word : String)
  | valueMissing (flag : String)
  | valueUnexpected (flag : String)
  | valueInvalid (flag value : String)
  | repeated (flag : String)
  | flagMissing (flag : String)
deriving DecidableEq, Repr

def UsageError.message : UsageError → String
  | .noCommand => "a command is required"
  | .unknownCommand name => "unknown command " ++ name
  | .unknownFlag word => "unknown flag " ++ word
  | .unexpected word => "unexpected argument " ++ word
  | .valueMissing flag => "a value is required for --" ++ flag
  | .valueUnexpected flag => "--" ++ flag ++ " takes no value"
  | .valueInvalid flag value => "invalid value " ++ value ++ " for --" ++ flag
  | .repeated flag => "--" ++ flag ++ " is given more than once"
  | .flagMissing flag => "--" ++ flag ++ " is required"

/-- Why a command line holds no command. -/
inductive Stop where
  | asked (question : Question)
  | misused (e : UsageError)
deriving DecidableEq, Repr

/-! ## Words -/

/-- What a word is. -/
inductive Token where
  /-- Two dashes alone, after which there are no flags. -/
  | dashes
  /-- A flag by its name, with what follows an equals sign. -/
  | long (name : String) (value : Option String)
  /-- A flag by its letter. Whatever follows the letter does not matter. -/
  | short (letter : Char)
  | plain (text : String)
deriving DecidableEq, Repr

def Token.ofText (word : String) : Token :=
  match word.toList with
  | ['-', '-'] => .dashes
  | '-' :: '-' :: rest =>
    let (name, value) := rest.span (· ≠ '=')
    .long (.ofList name) (value.tail?.map String.ofList)
  | '-' :: letter :: _ => .short letter
  | _ => .plain word

/-! ## Flags -/

/-- What a flag does. -/
inductive Role where
  /-- It is given or not. -/
  | switch
  /-- It has a value, which must fit. -/
  | value (fits : String → Bool)
  /-- It asks something, by its name or by a letter. -/
  | asks (question : Question) (letter : Char)

/-- A flag that is known. -/
structure Flag where
  name : String
  role : Role

/-- The flags that were given, with their values. -/
abbrev Given := Table String String

/-- Notes that a flag is given. -/
def give (given : Given) (flag value : String) : Except Stop Given :=
  if Table.has flag given then .error (.misused (.repeated flag))
  else .ok (Table.set flag value given)

/-- The question that a letter asks. -/
def questionOf? (flags : List Flag) (letter : Char) : Option Question :=
  flags.findSome? fun flag =>
    match flag.role with
    | .asks question l => if l = letter then some question else none
    | .switch | .value _ => none

/-- Reads flags up to the first word that is none, and returns that word and what follows it. -/
def scan (flags : List Flag) (given : Given) :
    List String → Except Stop (Given × Option (String × List String))
  | [] => .ok (given, none)
  | word :: rest =>
    match Token.ofText word with
    | .plain text => .ok (given, some (text, rest))
    | .dashes =>
      match rest with
      | [] => .ok (given, none)
      | extra :: _ => .error (.misused (.unexpected extra))
    | .short letter =>
      match questionOf? flags letter with
      | some question => .error (.asked question)
      | none => .error (.misused (.unknownFlag word))
    | .long name value =>
      match flags.find? (·.name = name) with
      | none => .error (.misused (.unknownFlag word))
      | some flag =>
        match flag.role, value, rest with
        | .asks question _, none, _ => .error (.asked question)
        | .asks _ _, some _, _ | .switch, some _, _ =>
          .error (.misused (.valueUnexpected name))
        | .switch, none, rest => do scan flags (← give given name "") rest
        | .value fits, some value, rest =>
          if fits value then do scan flags (← give given name value) rest
          else .error (.misused (.valueInvalid name value))
        | .value _, none, [] => .error (.misused (.valueMissing name))
        | .value fits, none, value :: rest =>
          match Token.ofText value with
          | .plain value =>
            if fits value then do scan flags (← give given name value) rest
            else .error (.misused (.valueInvalid name value))
          | .dashes | .long _ _ | .short _ => .error (.misused (.valueMissing name))

/-! ## The flags of the program -/

/-- A number without a sign other than a plus, of 64 bits. -/
def count? (s : String) : Option UInt64 :=
  let digits := match s.toList with
    | '+' :: digits => digits
    | digits => digits
  let n := digits.foldl (fun n c => n * 10 + (c.toNat - '0'.toNat)) 0
  if !digits.isEmpty && digits.all Char.isDigit && n < UInt64.size then some (.ofNat n) else none

/-- A flag with any value. -/
def textFlag (name : String) : Flag := ⟨name, .value fun _ => true⟩

/-- The flags that every command has. Logs are not written, whatever their form. -/
def sharedFlags : List Flag := [⟨"json-logs", .switch⟩, ⟨"help", .asks .help 'h'⟩]

/-- The flags before a command. -/
def programFlags : List Flag := sharedFlags ++ [⟨"version", .asks .version 'V'⟩]

def connectionFlags : List Flag := [
  ⟨"config", .value fun path => !path.isEmpty⟩, textFlag "ws-url", textFlag "gateway-url",
  textFlag "grpc-url", textFlag "auth", textFlag "network"]

def subscribeFlags : List Flag :=
  sharedFlags ++ connectionFlags ++
    [textFlag "feed", textFlag "params", ⟨"count", .value fun s => (count? s).isSome⟩]

def requestFlags : List Flag :=
  sharedFlags ++ connectionFlags ++ [textFlag "method", textFlag "params"]

/-! ## Command lines -/

/-- Reads the flags of a command, which are all that follows it. -/
def scanAll (flags : List Flag) (words : List String) : Except Stop Given := do
  match ← scan flags [] words with
  | (given, none) => return given
  | (_, some (word, _)) => throw (.misused (.unexpected word))

/-- The value of a flag that has to be given. -/
def required (given : Given) (flag : String) : Except Stop String :=
  match Table.get? flag given with
  | some value => .ok value
  | none => .error (.misused (.flagMissing flag))

/-- The parameters in JSON; an empty object if none are given. -/
def paramsOf (given : Given) : String := (Table.get? "params" given).getD "\x7b\x7d"

def connectionOf (given : Given) : ConnectionFlags where
  config := Table.get? "config" given
  cloudApiUrl := Table.get? "ws-url" given
  gatewaySocketUrl := Table.get? "gateway-url" given
  gatewayGrpcUrl := Table.get? "grpc-url" given
  auth := Table.get? "auth" given
  network := Table.get? "network" given

/-- The names by which commands are called. -/
def commandNames : List String := ["subscribe", "request", "feeds", "help"]

/-- Reads what follows the name of a command. -/
def parseCommand (name : String) (words : List String) : Except Stop Command :=
  match name with
  | "subscribe" => do
    let given ← scanAll subscribeFlags words
    let feed ← required given "feed"
    return .subscribe (connectionOf given) ⟨feed⟩ (paramsOf given)
      ((Table.get? "count" given).bind count?)
  | "request" => do
    let given ← scanAll requestFlags words
    let method ← required given "method"
    return .request (connectionOf given) method (paramsOf given)
  | "feeds" => do
    let _ ← scanAll sharedFlags words
    return .feeds
  | "help" =>
    match words with
    | [] => .error (.asked .help)
    | [topic] =>
      if commandNames.contains topic then .error (.asked .help)
      else .error (.misused (.unknownCommand topic))
    | _ :: topic :: _ => .error (.misused (.unknownCommand topic))
  | name => .error (.misused (.unknownCommand name))

/-- Reads a command line. -/
def parse (words : List String) : Except Stop Command := do
  match ← scan programFlags [] words with
  | (_, none) => throw (.misused .noCommand)
  | (_, some (name, words)) => parseCommand name words

end FeedLink.Cli
