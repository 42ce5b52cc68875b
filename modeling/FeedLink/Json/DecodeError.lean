import FeedLink.Json.Printer
import FeedLink.Json.Document
import FeedLink.Text.Quoted

/-!
# Why a document is not what was asked for

A decoder names what it found and what it expected. `DecodeError.message` is the wording. A text
that is decoded while it is being read can also fail by its syntax: `ReadError` tells how.
-/

namespace FeedLink.Json

/-- What a decoder found in the place of what it expected. -/
inductive Unexpected where
  | null
  | bool (b : Bool)
  | num (n : Number)
  | str (s : String)
  | sequence
  | map
deriving DecidableEq

namespace Unexpected

/-- The finding as messages show it. -/
def display : Unexpected → String
  | .null => "null"
  | .bool b => "boolean `" ++ toString b ++ "`"
  | .num (.int i h) => "integer `" ++ String.ofList (Number.render (.int i h)) ++ "`"
  | .num (.real x h) => "floating point `" ++ String.ofList (Number.render (.real x h)) ++ "`"
  | .str s => "string " ++ Quoted.quote s
  | .sequence => "sequence"
  | .map => "map"

end Unexpected

/-- Why a document does not decode. -/
inductive DecodeError where
  /-- A value of another kind. -/
  | invalidType (found : Unexpected) (expected : String)
  /-- A value of the right kind that is out of range. -/
  | invalidValue (found : Unexpected) (expected : String)
  | missingField (name : String)
  | duplicateField (name : String)
  /-- An array that ends before a field that has no default. -/
  | invalidLength (length : Nat) (expected : String)
  /-- An array of `length` items, which are more than the record has fields. -/
  | excessItems (length : Nat)
  /-- None of the alternatives of a type fits. -/
  | noVariant (type : String)
  /-- The text is not JSON at this point. -/
  | broken (fault : Fault)
  /-- A reason in words of its own. -/
  | custom (text : String)
deriving DecidableEq

/-- The wording of a decode error. A fault of the syntax has none. -/
def DecodeError.message : DecodeError → String
  | .invalidType found expected => "invalid type: " ++ found.display ++ ", expected " ++ expected
  | .invalidValue found expected => "invalid value: " ++ found.display ++ ", expected " ++ expected
  | .missingField name => "missing field `" ++ name ++ "`"
  | .duplicateField name => "duplicate field `" ++ name ++ "`"
  | .invalidLength n expected => "invalid length " ++ toString n ++ ", expected " ++ expected
  | .excessItems n => "invalid length " ++ toString n ++ ", expected fewer elements in array"
  | .noVariant type => "data did not match any variant of untagged enum " ++ type
  | .broken _ => ""
  | .custom text => text

/-- Why a text does not decode. -/
inductive ReadError where
  /-- The text is not JSON. -/
  | malformed
  /-- The text goes on where it had to end, or an array in it does. -/
  | trailing
  /-- The text ends too early. -/
  | eof
  /-- The text holds something else than was asked for. -/
  | data (cause : DecodeError)
deriving DecidableEq

namespace ReadError

/-- A fault of the syntax. -/
def ofFault : Fault → ReadError
  | .malformed => .malformed
  | .eof => .eof

/-- A decode error met while a text is being read. An item past the last field of a record stands
where the closing bracket was due. -/
def ofDecodeError : DecodeError → ReadError
  | .broken fault => .ofFault fault
  | .excessItems _ => .trailing
  | e => .data e

end ReadError

end FeedLink.Json
