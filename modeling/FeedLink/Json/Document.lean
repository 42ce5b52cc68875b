import FeedLink.Json.Basic

/-!
# JSON documents as they are read

A `Document` is what a text holds, read as far as it goes: fields stand in the order of the text,
with their repetitions, and where the text stops making sense the tree has a `faulty` leaf. A
reader that walks the tree from left to right therefore meets the faults of the syntax and the
faults of the contents in the order of the text, and reports whichever comes first. A reader that
skips a part looks at it less closely, and passes some of the faults there.

`Document.value` reads a document as a plain value, and `Document.ofValue` goes back.
-/

namespace FeedLink.Json

/-- How a text fails to be JSON. -/
inductive Fault where
  /-- The text ends inside a value, or before one. -/
  | eof
  /-- Anything else. -/
  | malformed
deriving DecidableEq, Repr

/-- The key of a field. -/
inductive Key where
  | text (s : String)
  /-- A key with half of a surrogate pair. Only a reader that skips the field may pass. -/
  | unpaired
deriving DecidableEq, Repr

/-- A JSON text, read as far as it goes. -/
inductive Document where
  | null
  | bool (b : Bool)
  | num (n : Number)
  | str (s : String)
  /-- A token that stands for no value, such as a number past the largest double or a string with
  half of a surrogate pair. A reader meets the fault `read`. One that skips the token meets
  `skipped`, if anything; then the text breaks off here. -/
  | faulty (read : Fault) (skipped : Option Fault)
  /-- An array. It is `deep` if it opens more levels than a reader allows, and `stop` says why its
  text ends before the closing bracket. -/
  | arr (deep : Bool) (items : List Document) (stop : Option Fault)
  /-- An object, with its fields in the order of the text. -/
  | obj (deep : Bool) (fields : List (Key × Document)) (stop : Option Fault)
deriving Inhabited

namespace Document

/-- The text breaks off here, for readers and for those who skip. -/
def broken (fault : Fault) : Document := .faulty fault (some fault)

mutual

/-- The document of a value, which is complete at every level. -/
def ofValue : Value → Document
  | .null => .null
  | .bool b => .bool b
  | .num n => .num n
  | .str s => .str s
  | .arr items => .arr false (ofValues items) none
  | .obj fields => .obj false (ofFields fields) none

/-- The documents of the items of an array. -/
def ofValues : List Value → List Document
  | [] => []
  | v :: rest => ofValue v :: ofValues rest

/-- The documents of the fields of an object. -/
def ofFields : List (String × Value) → List (Key × Document)
  | [] => []
  | (k, v) :: rest => (.text k, ofValue v) :: ofFields rest

end

/-- Nothing more follows, or the text breaks off. -/
def ending (stop : Option Fault) (a : α) : Except Fault α :=
  match stop with
  | none => .ok a
  | some fault => .error fault

mutual

/-- The value of a document. Of fields with one key the last counts, and the fields of an object
are put into ascending order. -/
def value : Document → Except Fault Value
  | .null => .ok .null
  | .bool b => .ok (.bool b)
  | .num n => .ok (.num n)
  | .str s => .ok (.str s)
  | .faulty read _ => .error read
  | .arr true _ _ => .error .malformed
  | .arr false items stop => do
    let vs ← values items
    ending stop (.arr vs)
  | .obj true _ _ => .error .malformed
  | .obj false fields stop => do
    let vs ← fieldValues fields
    ending stop (.object vs)

/-- The values of the items of an array. -/
def values : List Document → Except Fault (List Value)
  | [] => .ok []
  | d :: rest => do
    let v ← d.value
    let vs ← values rest
    return v :: vs

/-- The fields of an object with their values, in the order of the text. -/
def fieldValues : List (Key × Document) → Except Fault (List (String × Value))
  | [] => .ok []
  | (.unpaired, _) :: _ => .error .malformed
  | (.text k, d) :: rest => do
    let v ← d.value
    let vs ← fieldValues rest
    return (k, v) :: vs

end

mutual

/-- The first fault of the syntax in a document that is skipped. Depth does not matter there, and
neither do surrogates or the size of a number. -/
def fault? : Document → Option Fault
  | .arr _ items stop => (itemsFault? items).or stop
  | .obj _ fields stop => (fieldsFault? fields).or stop
  | .faulty _ skipped => skipped
  | _ => none

/-- The first fault among items. -/
def itemsFault? : List Document → Option Fault
  | [] => none
  | d :: rest => d.fault?.or (itemsFault? rest)

/-- The first fault among the values of fields. -/
def fieldsFault? : List (Key × Document) → Option Fault
  | [] => none
  | (_, d) :: rest => d.fault?.or (fieldsFault? rest)

end

end Document

end FeedLink.Json
