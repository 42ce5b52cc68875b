import FeedLink.Json.Codec

/-!
# Errors of the server

A server that refuses a request answers with a code, a message and perhaps more data.
-/

namespace FeedLink

open Json

/-- A structured error that a server returned in the place of a result. -/
structure RemoteError where
  code : Int64
  message : String
  data : Option Value
deriving DecidableEq

namespace RemoteError

def record : Record RemoteError where
  name := "RemoteError"
  blank := ⟨0, "", none⟩
  fields := [
    .required "code" .int64 (·.code) fun a e => { e with code := a },
    .required "message" .string (·.message) fun a e => { e with message := a },
    .sparse "data" .value (·.data) fun a e => { e with data := a }]

/-- The error as messages show it. -/
def display (e : RemoteError) : String :=
  "code: " ++ toString e.code.toInt ++ " message: " ++ e.message ++
    match e.data with
    | some data => ", data: " ++ data.render
    | none => ""

end RemoteError

end FeedLink
