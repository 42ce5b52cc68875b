import FeedLink.Error

/-!
# The status of a call

Every gRPC call ends with a status. `Status.toError` is what the caller of a handler is told about
one, and `Status.isPermanent` says whether trying again is pointless.
-/

namespace FeedLink.Grpc

/-- The codes of a status, in the order of their numbers. -/
inductive StatusCode where
  | ok
  | cancelled
  | unknown
  | invalidArgument
  | deadlineExceeded
  | notFound
  | alreadyExists
  | permissionDenied
  | resourceExhausted
  | failedPrecondition
  | aborted
  | outOfRange
  | unimplemented
  | internal
  | unavailable
  | dataLoss
  | unauthenticated
deriving DecidableEq, Repr, Inhabited

namespace StatusCode

def all : List StatusCode :=
  [.ok, .cancelled, .unknown, .invalidArgument, .deadlineExceeded, .notFound, .alreadyExists,
    .permissionDenied, .resourceExhausted, .failedPrecondition, .aborted, .outOfRange,
    .unimplemented, .internal, .unavailable, .dataLoss, .unauthenticated]

/-- The code with a number; any other number is unknown. -/
def ofInt (n : Int) : StatusCode :=
  if n < 0 then .unknown else (all[n.toNat]?).getD .unknown

/-- The number of a code. -/
def number : StatusCode → Nat
  | .ok => 0
  | .cancelled => 1
  | .unknown => 2
  | .invalidArgument => 3
  | .deadlineExceeded => 4
  | .notFound => 5
  | .alreadyExists => 6
  | .permissionDenied => 7
  | .resourceExhausted => 8
  | .failedPrecondition => 9
  | .aborted => 10
  | .outOfRange => 11
  | .unimplemented => 12
  | .internal => 13
  | .unavailable => 14
  | .dataLoss => 15
  | .unauthenticated => 16

def display : StatusCode → String
  | .ok => "Ok"
  | .cancelled => "Cancelled"
  | .unknown => "Unknown"
  | .invalidArgument => "InvalidArgument"
  | .deadlineExceeded => "DeadlineExceeded"
  | .notFound => "NotFound"
  | .alreadyExists => "AlreadyExists"
  | .permissionDenied => "PermissionDenied"
  | .resourceExhausted => "ResourceExhausted"
  | .failedPrecondition => "FailedPrecondition"
  | .aborted => "Aborted"
  | .outOfRange => "OutOfRange"
  | .unimplemented => "Unimplemented"
  | .internal => "Internal"
  | .unavailable => "Unavailable"
  | .dataLoss => "DataLoss"
  | .unauthenticated => "Unauthenticated"

end StatusCode

/-- How a call ended. -/
structure Status where
  code : StatusCode
  message : String
deriving DecidableEq, Repr, Inhabited

namespace Status

def unimplemented (message : String) : Status := ⟨.unimplemented, message⟩

def invalidArgument (message : String) : Status := ⟨.invalidArgument, message⟩

/-- A status as messages show it; it comes without details and without metadata. -/
def display (s : Status) : String :=
  "status: " ++ s.code.display ++ ", message: " ++ Quoted.quote s.message ++
    ", details: [], metadata: MetadataMap \x7b headers: \x7b\x7d \x7d"

/-- Will a call that ended like this end the same way again? -/
def isPermanent (s : Status) : Bool :=
  match s.code with
  | .unimplemented | .invalidArgument | .unauthenticated | .permissionDenied => true
  | _ => false

/-- Did the stream end because nobody wants it any more? -/
def isCleanEnd (s : Status) : Bool := s.code = .cancelled

/-- What the caller of a handler is told about a status. -/
def toError (s : Status) : HandlerError :=
  match s.code with
  | .unimplemented => .unsupported s.message
  | .invalidArgument => .invalidParams s.message
  | .unavailable | .cancelled | .aborted | .deadlineExceeded => .transport (.grpc s.display)
  | code => .remote ⟨Int64.ofNat code.number, s.message, none⟩

end Status

end FeedLink.Grpc
