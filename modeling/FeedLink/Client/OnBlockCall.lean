import FeedLink.Client.Basic

/-!
# Calls evaluated on every block

A subscriber can have calls evaluated against the state of every new block. A call has a method,
perhaps a tag and a name, and arguments of the caller's choice; in the object that is sent they are
all fields of one object.
-/

namespace FeedLink

open Json

/-- One call. -/
structure OnBlockCall where
  method : String
  tag : Option String
  /-- Told with each result, to tell calls apart. -/
  name : Option String
  /-- The arguments in ascending order of their keys. -/
  args : List (String × String)
deriving DecidableEq, Repr

namespace OnBlockCall

/-- A call of a method without arguments. -/
def new (method : String) : OnBlockCall := ⟨method, none, none, []⟩

/-- The same call under a name. -/
def named (name : String) (call : OnBlockCall) : OnBlockCall := { call with name := some name }

/-- The same call with a tag. -/
def tagged (tag : String) (call : OnBlockCall) : OnBlockCall := { call with tag := some tag }

/-- The same call with an argument, in the place of an older one under its key. -/
def arg (key value : String) (call : OnBlockCall) : OnBlockCall :=
  { call with args := insertField key value call.args }

def ethCall (target gas value data : String) : OnBlockCall :=
  (new "eth_call").arg "to" target |>.arg "gas" gas |>.arg "value" value |>.arg "data" data

def getBalance (address : String) : OnBlockCall := (new "eth_getBalance").arg "address" address

def getTransactionCount (address : String) : OnBlockCall :=
  (new "eth_getTransactionCount").arg "address" address

def getCode (address : String) : OnBlockCall := (new "eth_getCode").arg "address" address

def getStorageAt (address position : String) : OnBlockCall :=
  (new "eth_getStorageAt").arg "address" address |>.arg "pos" position

def blockNumber : OnBlockCall := new "eth_blockNumber"

/-- The fields of a call: the fixed ones, then the arguments. -/
def fields (call : OnBlockCall) : List (String × Value) :=
  [("method", .str call.method)] ++ Params.givenText "tag" call.tag ++
    Params.givenText "name" call.name ++ call.args.map fun a => (a.1, .str a.2)

/-- The object that is sent for a call. An argument under the key of a fixed field takes its
place. -/
def toValue (call : OnBlockCall) : Value := .object call.fields

end OnBlockCall

/-- Calls, and what to deliver of their results. -/
structure OnBlockParams where
  items : List String
  calls : List OnBlockCall
deriving DecidableEq, Repr

def OnBlockParams.toValue (p : OnBlockParams) : Value :=
  .object [("include", Params.texts p.items),
    ("call-params", .arr (p.calls.map OnBlockCall.toValue))]

namespace Client

variable {σ : Type} (c : Client σ)

/-- Has calls evaluated against the state of every new block. There must be one at least. -/
def onEthOnBlock (p : OnBlockParams) (callback : Callback) : Exchange σ Unit :=
  if p.calls.isEmpty then throw (.invalidParams "at least one call param is required")
  else c.subscribe .ethOnBlock p.toValue callback

def unsubscribeEthOnBlock : Exchange σ Unit := c.unsubscribe .ethOnBlock

end Client

end FeedLink
