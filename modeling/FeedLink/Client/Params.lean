import FeedLink.Json.Basic
import FeedLink.Text.Base64

/-!
# Building parameters

Parameters are JSON objects. Some of their fields are always there, others only where the caller
has set them.
-/

namespace FeedLink.Params

open Json

/-- A field that is there if it was set. -/
def given (key : String) (value : Option Value) : List (String × Value) :=
  match value with
  | some v => [(key, v)]
  | none => []

/-- A text that is there if it was set. -/
def givenText (key : String) (value : Option String) : List (String × Value) :=
  given key (value.map .str)

/-- A number that is there if it was set. -/
def givenNumber (key : String) (value : Option UInt64) : List (String × Value) :=
  given key (value.map .ofUInt64)

/-- A flag that is there if it is raised. -/
def raised (key : String) (flag : Bool) : List (String × Value) :=
  if flag then [(key, .bool true)] else []

/-- A list of texts. -/
def texts (items : List String) : Value := .arr (items.map .str)

/-- A list of texts that is there unless it is empty. -/
def givenTexts (key : String) (items : List String) : List (String × Value) :=
  if items.isEmpty then [] else [(key, texts items)]

/-- Texts under keys that are there unless they are empty. -/
def givenTable (key : String) (entries : List (String × String)) : List (String × Value) :=
  if entries.isEmpty then []
  else [(key, .object (entries.map fun e => (e.1, .str e.2)))]

/-- Bytes, as Base64. -/
def bytes (b : List UInt8) : Value := .str (Base64.encode b)

/-- The items that the caller asked for, or the default where it asked for none. -/
def includeOr (wanted default : List String) : List String :=
  if wanted.isEmpty then default else wanted

end FeedLink.Params
