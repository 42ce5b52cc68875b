import FeedLink.Cli.Settings
import FeedLink.Cli.Watch
import FeedLink.Network

/-!
# The program

What each command does, as a function of the files that it may read and of the network. The outcome
is an exit code, what was printed, and perhaps a complaint: 0 for success, 1 for a command that
failed, and 2 for a command line that is not understood.
-/

namespace FeedLink.Cli

open Json

/-- How the program ends. -/
structure Outcome where
  code : Nat
  /-- What was printed. -/
  output : String
  /-- Why it failed. -/
  complaint : Option String
deriving DecidableEq, Repr

namespace Outcome

def success (output : String) : Outcome := ⟨0, output, none⟩

/-- A command failed, perhaps after it had printed something. -/
def failure (output complaint : String) : Outcome := ⟨1, output, some complaint⟩

def misuse (e : UsageError) : Outcome := ⟨2, "", some e.message⟩

/-- The end of a command that printed lines, of which the last step may have failed. -/
def ofLines (lines : List String) (last : Except HandlerError Unit) : Outcome :=
  let output := String.join (lines.map (· ++ "\n"))
  match last with
  | .ok () => success output
  | .error e => failure output e.message

end Outcome

/-! ## Texts -/

def programName : String := "chainfeed"

/-- The version that the program announces to servers. -/
def announcedVersion : String := programName ++ "-cli/" ++ Config.standardVersion

def versionText : String := programName ++ " " ++ Config.standardVersion ++ "\n"

def helpText : String := "Subscribe to blockchain feeds and send requests\n\nCommands:\n" ++
  "  subscribe --feed NAME [--params JSON] [--count N]\n" ++
  "  request --method NAME [--params JSON]\n" ++
  "  feeds\n\nFlags of a connection:\n" ++
  "  --config FILE, --ws-url URL, --gateway-url URL, --grpc-url ADDRESS, --auth VALUE, " ++
  "--network NAME\n"

/-- Where a feed can be subscribed to. -/
def feedNote (feed : Feed) : String :=
  if feed = .txStatus then "cloud API only"
  else if [Feed.userIntents, .userIntentSolutions, .quotes].contains feed then "gateway only"
  else if Feed.streamed.contains feed then "WebSocket and gRPC"
  else "WebSocket"

/-- How wide the column of names is. -/
def nameColumn : Nat := 26

/-- A feed and its note on one line, in two columns. -/
def feedLine (feed : Feed) : String :=
  let padding := List.replicate (nameColumn - feed.name.length) ' '
  "  " ++ feed.name ++ .ofList padding ++ " " ++ feedNote feed

/-- The list of the feeds that have a type. -/
def feedList : Outcome := .ofLines ("Built-in feeds:\n" :: Feed.builtin.map feedLine) (.ok ())

/-! ## Commands on a connection -/

/-- What a command that connects knows before it does. -/
structure Prepared where
  params : Value
  config : Config

/-- Reads the parameters and then the configuration. -/
def prepare (file : String → Except String (List UInt8)) (connection : ConnectionFlags)
    (params : String) : Except String Prepared := do
  let params ← (Value.parse params).mapError fun _ => "--params is not valid JSON"
  let config ← (connection.load file).mapError ConfigError.message
  return ⟨params, config⟩

variable {σ : Type}

/-- Subscribes, watches, unsubscribes and closes. It does not matter if unsubscribing fails. -/
def subscribe (net : Network σ) (client : Client σ) (feed : Feed) (params : Value)
    (limit : Option Nat) (s : σ) : Outcome :=
  let (channel, s) := (client.subscribeChannel feed params ⟨feed.name⟩).run s
  match channel with
  | .error e => .failure "" e.message
  | .ok channel =>
    let (deliveries, s) := (net.deliveries channel).run s
    let (_, s) := (client.unsubscribe feed).run s
    .ofLines ((watch limit 0 deliveries).1.map lineOf) (client.close.run s).1

/-- Sends a request, closes, and prints the result on several lines. -/
def request (client : Client σ) (method : String) (params : Value) (s : σ) : Outcome :=
  let (result, s) := (client.request method params).run s
  match (client.close.run s).1, result with
  | .error e, _ | .ok (), .error e => .failure "" e.message
  | .ok (), .ok value => .ofLines [value.renderPretty] (.ok ())

/-- Prepares, connects, and goes on with the connection. -/
def connected (net : Network σ) (file : String → Except String (List UInt8))
    (connection : ConnectionFlags) (params : String) (go : Value → Client σ → σ → Outcome) :
    Outcome :=
  match prepare file connection params with
  | .error complaint => .failure "" complaint
  | .ok p =>
    match net.connect p.config announcedVersion with
    | .error e => .failure "" e.toHandlerError.message
    | .ok (client, s) => go p.params client s

/-! ## Whole runs -/

/-- Carries out a command. -/
def perform (net : Network σ) (file : String → Except String (List UInt8)) : Command → Outcome
  | .feeds => feedList
  | .subscribe connection feed params count =>
    connected net file connection params fun params client s =>
      subscribe net client feed params (count.map UInt64.toNat) s
  | .request connection method params =>
    connected net file connection params fun params client s => request client method params s

/-- Runs the program on the words of a command line. -/
def run (net : Network σ) (file : String → Except String (List UInt8)) (words : List String) :
    Outcome :=
  match parse words with
  | .ok command => perform net file command
  | .error (.asked .help) => .success helpText
  | .error (.asked .version) => .success versionText
  | .error (.misused e) => .misuse e

end FeedLink.Cli
