import FeedLink.Json.DecodeError
import FeedLink.Json.Parser

/-!
# Codecs and records

A `Codec` reads a type from a document and writes it as a value. A `Record` is the codec of a
structure: a list of named fields, each with a codec of its own, an accessor and an update.

A record reads an object field by field in the order in which the document lists them. A name it
does not know is skipped, a field that comes a second time is refused before its value is looked
at, and when the object ends the fields that may not be missing are checked in the order of the
declaration. It also reads an array, in which the fields stand in the order of the declaration.
-/

namespace FeedLink.Json

/-- How a type is read from a document and written as a value. -/
structure Codec (α : Type) where
  read : Document → Except DecodeError α
  write : α → Value

namespace Document

/-- What a decoder that expected something else says about a document. -/
def refuse (expected : String) : Document → DecodeError
  | .null => .invalidType .null expected
  | .bool b => .invalidType (.bool b) expected
  | .num n => .invalidType (.num n) expected
  | .str s => .invalidType (.str s) expected
  | .faulty read _ => .broken read
  | .arr _ _ _ => .invalidType .sequence expected
  | .obj _ _ _ => .invalidType .map expected

/-- A fault of the syntax as a decode error. -/
def orBroken (r : Except Fault α) : Except DecodeError α := r.mapError .broken

end Document

namespace Codec

/-- Any value. -/
def value : Codec Value := ⟨fun d => Document.orBroken d.value, id⟩

def string : Codec String where
  read
    | .str s => .ok s
    | d => .error (d.refuse "a string")
  write := .str

def bool : Codec Bool where
  read
    | .bool b => .ok b
    | d => .error (d.refuse "a boolean")
  write := .bool

/-- Reads an integer between two bounds; `expected` names the type in messages. -/
def readInteger (expected : String) (low high : Int) : Document → Except DecodeError Int
  | .num (.int i h) =>
    if low ≤ i ∧ i ≤ high then .ok i else .error (.invalidValue (.num (.int i h)) expected)
  | d => .error (d.refuse expected)

/-- An unsigned integer of 64 bits; `expected` names the type in messages. -/
def unsigned (expected : String) : Codec UInt64 where
  read d := (readInteger expected 0 18446744073709551615 d).map fun i => UInt64.ofNat i.toNat
  write := .ofUInt64

def uint64 : Codec UInt64 := unsigned "u64"

/-- A size in memory, which has 64 bits. -/
def size : Codec UInt64 := unsigned "usize"

def int64 : Codec Int64 where
  read d := (readInteger "i64" (-9223372036854775808) 9223372036854775807 d).map Int64.ofInt
  write n := .num (.ofInt64 n)

/-- An optional value; null stands for its absence. -/
def option (c : Codec α) : Codec (Option α) where
  read
    | .null => .ok none
    | d => (c.read d).map some
  write
    | none => .null
    | some a => c.write a

/-- Reads the items of an array. -/
def readItems (read : Document → Except DecodeError α) :
    List Document → Except DecodeError (List α)
  | [] => .ok []
  | d :: rest => do
    let a ← read d
    let as ← readItems read rest
    return a :: as

def list (c : Codec α) : Codec (List α) where
  read
    | .arr false items stop => do
      let as ← readItems c.read items
      Document.orBroken (Document.ending stop as)
    | .arr true _ _ => .error (.broken .malformed)
    | d => .error (d.refuse "a sequence")
  write as := .arr (as.map c.write)

end Codec

/-- Where a record can do without a field. -/
inductive Absence where
  /-- The field may never be missing. -/
  | refused
  /-- An object may leave the field out, an array may not end before it. -/
  | inObjects
  /-- The field may always be missing. -/
  | anywhere
deriving DecidableEq, Repr

/-- A field of a record of type `σ`. -/
structure Field (σ : Type) where
  name : String
  /-- Other names under which the field is read. -/
  aliases : List String
  absence : Absence
  /-- Reads the field and puts it into a record. -/
  read : Document → Except DecodeError (σ → σ)
  /-- The value under which the field is written, if it is. -/
  write : σ → Option Value

namespace Field

/-- A field that may not be missing. -/
def required (name : String) (c : Codec α) (get : σ → α) (set : α → σ → σ) : Field σ :=
  ⟨name, [], .refused, fun d => (c.read d).map set, fun s => some (c.write (get s))⟩

/-- A field that keeps its default where it is missing. -/
def defaulted (name : String) (c : Codec α) (get : σ → α) (set : α → σ → σ) : Field σ :=
  ⟨name, [], .anywhere, fun d => (c.read d).map set, fun s => some (c.write (get s))⟩

/-- A field that is not written where it is absent. -/
def sparse (name : String) (c : Codec α) (get : σ → Option α) (set : Option α → σ → σ) : Field σ :=
  ⟨name, [], .anywhere, fun d => (c.option.read d).map set, fun s => (get s).map c.write⟩

/-- The same field, but an array may not end before it. -/
def keptInArrays (f : Field σ) : Field σ := { f with absence := .inObjects }

/-- The same field, also read under other names. -/
def also (f : Field σ) (aliases : List String) : Field σ := { f with aliases }

/-- Is the field read under this name? -/
def answersTo (f : Field σ) (key : String) : Bool := f.name = key || f.aliases.contains key

end Field

/-- The codec of a structure, field by field. -/
structure Record (σ : Type) where
  /-- The name of the structure in messages. -/
  name : String
  /-- The record whose fields all have their defaults. -/
  blank : σ
  /-- The fields in the order of their declaration. -/
  fields : List (Field σ)

namespace Record

/-- What an object or array has given so far: the record, and the names of the fields met. -/
structure Partial (σ : Type) where
  record : σ
  met : List String

/-- What a record expects in messages. -/
def expected (r : Record σ) : String := "struct " ++ r.name

/-- What a record expects of an array that is too short. -/
def expectedItems (r : Record σ) : String :=
  r.expected ++ " with " ++ toString r.fields.length ++
    (if r.fields.length = 1 then " element" else " elements")

/-- Reads the fields of an object in the order given. -/
def readFields (r : Record σ) :
    List (Key × Document) → Partial σ → Except DecodeError (Partial σ)
  | [], p => .ok p
  | (.unpaired, _) :: _, _ => .error (.broken .malformed)
  | (.text key, d) :: rest, p =>
    match r.fields.find? (·.answersTo key) with
    | none =>
      match d.fault? with
      | none => r.readFields rest p
      | some fault => .error (.broken fault)
    | some f =>
      if p.met.contains f.name then .error (.duplicateField f.name)
      else do
        let set ← f.read d
        r.readFields rest ⟨set p.record, f.name :: p.met⟩

/-- The record, unless a field that may not be missing was not met. -/
def complete (r : Record σ) (p : Partial σ) : Except DecodeError σ :=
  match r.fields.find? fun f => f.absence = .refused && !p.met.contains f.name with
  | some f => .error (.missingField f.name)
  | none => .ok p.record

/-- Reads the items of an array into the fields from the `index`th on; there are `length` items in
all. -/
def readItems (r : Record σ) (length : Nat) (stop : Option Fault) :
    (index : Nat) → List (Field σ) → List Document → σ → Except DecodeError σ
  | _, [], [], s => Document.orBroken (Document.ending stop s)
  | _, [], _ :: _, _ => .error (.excessItems length)
  | index, f :: fields, [], s => do
    Document.orBroken (Document.ending stop ())
    if f.absence = .anywhere then r.readItems length stop index fields [] s
    else .error (.invalidLength index r.expectedItems)
  | index, f :: fields, d :: rest, s => do
    let set ← f.read d
    r.readItems length stop (index + 1) fields rest (set s)

/-- Reads a record from an object or an array. -/
def read (r : Record σ) : Document → Except DecodeError σ
  | .obj false fields stop => do
    let p ← r.readFields fields ⟨r.blank, []⟩
    Document.orBroken (Document.ending stop ())
    r.complete p
  | .arr false items stop => r.readItems items.length stop 0 r.fields items r.blank
  | .obj true _ _ => .error (.broken .malformed)
  | .arr true _ _ => .error (.broken .malformed)
  | d => .error (d.refuse r.expected)

/-- The fields of a record that are written, in the order of their declaration. -/
def writeFields (r : Record σ) (s : σ) : List (String × Value) :=
  r.fields.filterMap fun f => (f.write s).map fun v => (f.name, v)

/-- A record as an object, its fields in the order of their declaration. -/
def write (r : Record σ) (s : σ) : Value := .obj (r.writeFields s)

/-- A record as a codec. -/
def codec (r : Record σ) : Codec σ := ⟨r.read, r.write⟩

end Record

namespace Codec

/-- Reads a type from a value. -/
def ofValue (c : Codec α) (v : Value) : Except DecodeError α := c.read (.ofValue v)

/-- Writes a type as a value whose objects list their fields in ascending order. -/
def toValue (c : Codec α) (a : α) : Value := (c.write a).sorted

/-- Writes a type as a text, in which the fields of records keep the order of their
declaration. -/
def toText (c : Codec α) (a : α) : String := (c.write a).render

/-- Reads a type from a text. Whatever comes first in the text decides: a fault of the syntax, or
something else than was asked for. -/
def ofText (c : Codec α) (s : String) : Except ReadError α :=
  match Document.parse s with
  | (d, trailing) =>
    match c.read d with
    | .error e => .error (.ofDecodeError e)
    | .ok a => if trailing then .error .trailing else .ok a

end Codec

end FeedLink.Json
