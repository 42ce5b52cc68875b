import FeedLink.Client.Basic

/-!
# Intents, solutions and quotes

Users state intents, solvers answer with solutions and quotes. All of it goes through a gateway, and
whoever asks or submits has signed beforehand: hashes and signatures are sent as they are.
-/

namespace FeedLink

open Json

/-- A hash and the signature over it. -/
structure Signed where
  hash : List UInt8
  signature : List UInt8
deriving DecidableEq, Repr

/-- The fields of a hash and its signature. -/
def Signed.fields (s : Signed) : List (String × Value) :=
  [("hash", Params.bytes s.hash), ("signature", Params.bytes s.signature)]

/-- A solver that asks for intents. -/
structure IntentsParams where
  solver : String
  signed : Signed
  /-- Only intents for this application. -/
  application : Option String
deriving DecidableEq, Repr

def IntentsParams.toValue (p : IntentsParams) : Value :=
  .object ([("solver_address", .str p.solver)] ++ p.signed.fields ++
    Params.givenText "filters"
      ((p.application.filter fun a => !a.isEmpty).map ("dapp_address = " ++ ·)))

/-- An application that asks for solutions of its intents. -/
structure IntentSolutionsParams where
  application : String
  signed : Signed
deriving DecidableEq, Repr

def IntentSolutionsParams.toValue (p : IntentSolutionsParams) : Value :=
  .object ([("dapp_address", .str p.application)] ++ p.signed.fields)

/-- An application that asks for quotes. -/
structure QuotesParams where
  application : String
deriving DecidableEq, Repr

def QuotesParams.toValue (p : QuotesParams) : Value :=
  .object [("dapp_address", .str p.application)]

/-- An intent, from an application and on behalf of a sender. -/
structure IntentSubmission where
  application : String
  sender : String
  intent : List UInt8
  signed : Signed
deriving DecidableEq, Repr

def IntentSubmission.toValue (p : IntentSubmission) : Value :=
  .object ([("dapp_address", .str p.application), ("sender_address", .str p.sender),
    ("intent", Params.bytes p.intent)] ++ p.signed.fields)

/-- A solution of an intent, from a solver. -/
structure SolutionSubmission where
  solver : String
  intentId : String
  solution : List UInt8
  signed : Signed
deriving DecidableEq, Repr

def SolutionSubmission.toValue (p : SolutionSubmission) : Value :=
  .object ([("solver_address", .str p.solver), ("intent_id", .str p.intentId),
    ("intent_solution", Params.bytes p.solution)] ++ p.signed.fields)

/-- A question for the solutions of an intent, from its application or its sender. -/
structure SolutionsQuery where
  asker : String
  intentId : String
  signed : Signed
deriving DecidableEq, Repr

def SolutionsQuery.toValue (p : SolutionsQuery) : Value :=
  .object ([("dapp_or_sender_address", .str p.asker), ("intent_id", .str p.intentId)] ++
    p.signed.fields)

/-- A quote for an application, from a solver. -/
structure QuoteSubmission where
  application : String
  solver : String
  quote : List UInt8
  signed : Signed
deriving DecidableEq, Repr

def QuoteSubmission.toValue (p : QuoteSubmission) : Value :=
  .object ([("dapp_address", .str p.application), ("solver_address", .str p.solver),
    ("quote", Params.bytes p.quote)] ++ p.signed.fields)

namespace Client

variable {σ : Type} (c : Client σ)

/-- Refuses a hash or a signature that is empty. -/
def requireSigned (s : Signed) : Exchange σ Unit := do
  requireField "hash" !s.hash.isEmpty
  requireField "signature" !s.signature.isEmpty

/-! ## Feeds -/

def onUserIntents (p : IntentsParams) (callback : Callback) : Exchange σ Unit := do
  c.requireGateway "intents feed"
  requireField "solver address" !p.solver.isEmpty
  requireSigned p.signed
  c.subscribe .userIntents p.toValue callback

def unsubscribeUserIntents : Exchange σ Unit := c.unsubscribe .userIntents

def onIntentSolutions (p : IntentSolutionsParams) (callback : Callback) : Exchange σ Unit := do
  c.requireGateway "intent solutions feed"
  requireField "dapp address" !p.application.isEmpty
  requireSigned p.signed
  c.subscribe .userIntentSolutions p.toValue callback

def unsubscribeIntentSolutions : Exchange σ Unit := c.unsubscribe .userIntentSolutions

def onQuotes (p : QuotesParams) (callback : Callback) : Exchange σ Unit := do
  c.requireGateway "quotes feed"
  requireField "dapp address" !p.application.isEmpty
  c.subscribe .quotes p.toValue callback

def unsubscribeQuotes : Exchange σ Unit := c.unsubscribe .quotes

/-! ## Requests -/

def submitIntent (p : IntentSubmission) : Exchange σ Value := do
  c.requireGateway "intent submission"
  requireField "dapp address" !p.application.isEmpty
  requireField "sender address" !p.sender.isEmpty
  requireField "intent" !p.intent.isEmpty
  requireSigned p.signed
  c.request "blxr_submit_intent" p.toValue

def submitIntentSolution (p : SolutionSubmission) : Exchange σ Value := do
  c.requireGateway "intent solution submission"
  requireField "solver address" !p.solver.isEmpty
  requireField "intent id" !p.intentId.isEmpty
  requireField "intent solution" !p.solution.isEmpty
  requireSigned p.signed
  c.request "blxr_submit_intent_solution" p.toValue

/-- Asks for the solutions of an intent so far, which only the WebSocket of a gateway offers. -/
def intentSolutions (q : SolutionsQuery) : Exchange σ Value := do
  c.requireKind .gatewaySocket "intent solution lookup"
  requireField "intent id" !q.intentId.isEmpty
  requireField "dapp or sender address" !q.asker.isEmpty
  requireSigned q.signed
  c.request "blxr_get_intent_solutions" q.toValue

def submitQuote (p : QuoteSubmission) : Exchange σ Value := do
  c.requireGateway "quote submission"
  requireField "dapp address" !p.application.isEmpty
  requireField "solver address" !p.solver.isEmpty
  requireField "quote" !p.quote.isEmpty
  requireSigned p.signed
  c.request "blxr_submit_quote" p.toValue

end Client

end FeedLink
