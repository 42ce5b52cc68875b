import FeedLink.Json.Codec

/-!
# Notifications about intents and quotes

The payloads of the feeds of user intents, of solutions offered for them, and of quotes. Every field
may be missing, and some come under a second name.
-/

namespace FeedLink

open Json

/-- What a user wants done. -/
structure Intent where
  dappAddress : String
  senderAddress : String
  intentId : String
  intent : String
  timestamp : String
deriving DecidableEq

namespace Intent

/-- The record of which no field was sent. -/
def blank : Intent := ⟨"", "", "", "", ""⟩

def record : Record Intent where
  name := "IntentNotification"
  blank := blank
  fields := [
    (Field.defaulted "dapp_address" .string (·.dappAddress)
      fun a i => { i with dappAddress := a }).also ["dappAddress"],
    (Field.defaulted "sender_address" .string (·.senderAddress)
      fun a i => { i with senderAddress := a }).also ["senderAddress"],
    (Field.defaulted "intent_id" .string (·.intentId)
      fun a i => { i with intentId := a }).also ["intentID"],
    .defaulted "intent" .string (·.intent) fun a i => { i with intent := a },
    .defaulted "timestamp" .string (·.timestamp) fun a i => { i with timestamp := a }]

end Intent

/-- A solution offered for an intent. -/
structure IntentSolution where
  intentId : String
  intentSolution : String
  solutionId : String
deriving DecidableEq

namespace IntentSolution

/-- The record of which no field was sent. -/
def blank : IntentSolution := ⟨"", "", ""⟩

def record : Record IntentSolution where
  name := "IntentSolutionNotification"
  blank := blank
  fields := [
    (Field.defaulted "intent_id" .string (·.intentId)
      fun a s => { s with intentId := a }).also ["intentID"],
    (Field.defaulted "intent_solution" .string (·.intentSolution)
      fun a s => { s with intentSolution := a }).also ["intentSolution"],
    (Field.defaulted "solution_id" .string (·.solutionId)
      fun a s => { s with solutionId := a }).also ["solutionID"]]

end IntentSolution

/-- A quote offered to an application. -/
structure Quote where
  quoteId : String
  dappAddress : String
  solverAddress : String
  quote : String
  timestamp : String
deriving DecidableEq

namespace Quote

/-- The record of which no field was sent. -/
def blank : Quote := ⟨"", "", "", "", ""⟩

def record : Record Quote where
  name := "QuoteNotification"
  blank := blank
  fields := [
    .defaulted "quote_id" .string (·.quoteId) fun a q => { q with quoteId := a },
    .defaulted "dapp_address" .string (·.dappAddress) fun a q => { q with dappAddress := a },
    .defaulted "solver_address" .string (·.solverAddress) fun a q => { q with solverAddress := a },
    .defaulted "quote" .string (·.quote) fun a q => { q with quote := a },
    .defaulted "timestamp" .string (·.timestamp) fun a q => { q with timestamp := a }]

end Quote

end FeedLink
