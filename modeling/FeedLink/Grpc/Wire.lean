/-!
# The wire format of messages

A message on the wire is a sequence of fields, each a tag and a payload. `Wire.fields?` cuts bytes
into fields without knowing what they mean, and `Wire.encodeField` writes one. A payload is a
varint, four or eight bytes, bytes with a length in front, or a group of fields, which no message
here has and which is only checked for its end.

Every reader returns what it read and the bytes behind it, and nothing where the bytes stop making
sense.
-/

namespace FeedLink.Grpc.Wire

/-- What a field carries. -/
inductive Payload where
  /-- A number below `2 ^ 64`. -/
  | varint (n : Nat)
  | fixed64
  | delimited (bytes : List UInt8)
  | group
  | fixed32
deriving DecidableEq, Repr

/-- A number below `2 ^ 64` in groups of seven bits, the lowest first. `i` groups have been read
and hold `value`; the tenth has room for one bit. -/
def readVarintFrom (i value : Nat) : List UInt8 → Option (Nat × List UInt8)
  | [] => none
  | b :: rest =>
    if i ≥ 9 ∧ b ≥ 2 then none
    else
      let value := value + b.toNat % 128 * Nat.pow 128 i
      if b < 128 then some (value, rest) else readVarintFrom (i + 1) value rest

def readVarint (bytes : List UInt8) : Option (Nat × List UInt8) := readVarintFrom 0 0 bytes

/-- A number in groups of seven bits, the lowest first. -/
def writeVarint (n : Nat) : List UInt8 :=
  if n < 128 then [UInt8.ofNat n] else UInt8.ofNat (n % 128 + 128) :: writeVarint (n / 128)

/-- The next `n` bytes. -/
def readBytes (n : Nat) (bytes : List UInt8) : Option (List UInt8 × List UInt8) :=
  if n ≤ bytes.length then some (bytes.take n, bytes.drop n) else none

/-- The tag and the wire type in front of a field. Tags begin at one, and both fit 32 bits. -/
def readKey (bytes : List UInt8) : Option (Nat × Nat × List UInt8) := do
  let (key, rest) ← readVarint bytes
  if key < UInt32.size ∧ key % 8 < 6 ∧ 0 < key / 8 then some (key / 8, key % 8, rest) else none

mutual

/-- The payload of a field with this tag and wire type. `room` is the number of groups that may
still be opened. -/
def readPayload (fuel room tag wireType : Nat) (bytes : List UInt8) :
    Option (Payload × List UInt8) :=
  match wireType with
  | 0 => (readVarint bytes).map fun (n, rest) => (.varint n, rest)
  | 1 => (readBytes 8 bytes).map fun (_, rest) => (.fixed64, rest)
  | 2 => do
    let (n, rest) ← readVarint bytes
    let (content, rest) ← readBytes n rest
    return (.delimited content, rest)
  | 3 => (skipGroup fuel room tag bytes).map fun rest => (.group, rest)
  | 5 => (readBytes 4 bytes).map fun (_, rest) => (.fixed32, rest)
  | _ => none
termination_by (fuel, 1)

/-- The bytes behind the end of the group with this tag. -/
def skipGroup (fuel room tag : Nat) (bytes : List UInt8) : Option (List UInt8) :=
  match fuel with
  | 0 => none
  | fuel + 1 => do
    let (inner, wireType, rest) ← readKey bytes
    if wireType = 4 then
      if inner = tag then some rest else none
    else if room = 0 then none
    else
      let (_, rest) ← readPayload fuel (room - 1) inner wireType rest
      skipGroup fuel room tag rest
termination_by (fuel, 0)

end

/-- The fields of a message. -/
def fieldsFrom (fuel room : Nat) (bytes : List UInt8) : Option (List (Nat × Payload)) :=
  match fuel, bytes with
  | _, [] => some []
  | 0, _ :: _ => none
  | fuel + 1, bytes => do
    let (tag, wireType, rest) ← readKey bytes
    let (payload, rest) ← readPayload rest.length room tag wireType rest
    let fields ← fieldsFrom fuel room rest
    return (tag, payload) :: fields

/-- How many groups may be open at once inside a message. -/
def maxGroups : Nat := 99

/-- The fields of a message that stands in so many others. -/
def fields? (depth : Nat) (bytes : List UInt8) : Option (List (Nat × Payload)) :=
  fieldsFrom bytes.length (maxGroups - depth) bytes

/-- The bytes of a field that carries a varint. -/
def encodeVarint (tag n : Nat) : List UInt8 := writeVarint (8 * tag) ++ writeVarint n

/-- The bytes of a field that carries bytes. -/
def encodeDelimited (tag : Nat) (content : List UInt8) : List UInt8 :=
  writeVarint (8 * tag + 2) ++ writeVarint content.length ++ content

end FeedLink.Grpc.Wire
