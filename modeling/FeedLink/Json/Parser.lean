import FeedLink.Json.Document

/-!
# Reading JSON

`Document.parse` reads a text into a document and never fails: where the text is not JSON, the
document has a faulty leaf. Blanks are the space, the tab, the line feed and the carriage return.
A text may nest 127 levels.

Every scanner takes the characters that are left and returns what it read together with the rest,
or the fault that stopped it.
-/

namespace FeedLink.Json

/-- What a scanner found: a token and the text behind it, or a fault. -/
inductive Scanned (α : Type) where
  | token (a : α) (rest : List Char)
  | fault (fault : Fault)

/-- A number as it is written: `significand * 10 ^ exponent` with a sign. It is `integral` if it
has neither a decimal point nor an exponent. -/
structure Numeral where
  negative : Bool
  integral : Bool
  significand : Nat
  exponent : Int
deriving DecidableEq, Repr

namespace Numeral

/-- The double nearest to the number, which may be infinite. The two bounds keep the power of ten
small where the answer is known without it. -/
def toFloat (n : Numeral) : Float :=
  let size := ((Nat.toDigits 10 n.significand).length : Int) + n.exponent
  let magnitude : Float :=
    if n.significand = 0 ∨ size < -400 then 0.0
    else if size > 400 then Float.ofBits 0x7ff0000000000000
    else Float.ofScientific n.significand (n.exponent < 0) n.exponent.natAbs
  if n.negative then -magnitude else magnitude

/-- The number as an integer of 64 bits, if it is written as one and fits. A negative zero is
no integer. -/
def integer? (n : Numeral) : Option Number :=
  if n.integral then
    if n.negative then
      if n.significand = 0 then none else Number.ofInt? (-(n.significand : Int))
    else Number.ofInt? n.significand
  else none

/-- The number itself: an integer if it is one, else the nearest double, if that is finite. -/
def number? (n : Numeral) : Option Number := n.integer?.or (Number.ofFloat? n.toFloat)

end Numeral

/-- The blanks of JSON. -/
def isBlank (c : Char) : Bool := c = ' ' || c = '\t' || c = '\n' || c = '\r'

def skipBlanks (cs : List Char) : List Char := cs.dropWhile isBlank

/-- The number with these decimal digits. -/
def digitsToNat (ds : List Char) : Nat := ds.foldl (fun n d => 10 * n + (d.toNat - '0'.toNat)) 0

/-- An exponent, if one follows the digits read so far. -/
def scanExponent (n : Numeral) : List Char → Scanned Numeral
  | c :: rest =>
    if c = 'e' ∨ c = 'E' then
      let (negative, rest) := match rest with
        | '+' :: r => (false, r)
        | '-' :: r => (true, r)
        | r => (false, r)
      let digits := rest.takeWhile Char.isDigit
      if rest.isEmpty then .fault .eof
      else if digits.isEmpty then .fault .malformed
      else
        let e : Int := digitsToNat digits
        .token { n with integral := false, exponent := n.exponent + (if negative then -e else e) }
          (rest.dropWhile Char.isDigit)
    else .token n (c :: rest)
  | [] => .token n []

/-- A fraction, if one follows the digits of the whole part, and then an exponent. -/
def scanFraction (negative : Bool) (whole : List Char) : List Char → Scanned Numeral
  | '.' :: rest =>
    let digits := rest.takeWhile Char.isDigit
    if rest.isEmpty then .fault .eof
    else if digits.isEmpty then
      .fault .malformed
    else
      scanExponent ⟨negative, false, digitsToNat (whole ++ digits), -(digits.length : Int)⟩
        (rest.dropWhile Char.isDigit)
  | rest => scanExponent ⟨negative, true, digitsToNat whole, 0⟩ rest

/-- A number behind its sign. A zero at the front stands alone. -/
def scanMagnitude (negative : Bool) : List Char → Scanned Numeral
  | [] => .fault .eof
  | '0' :: rest =>
    if (rest.head?.map Char.isDigit).getD false then .fault .malformed
    else scanFraction negative ['0'] rest
  | c :: rest =>
    if c.isDigit then
      scanFraction negative (c :: rest.takeWhile Char.isDigit) (rest.dropWhile Char.isDigit)
    else .fault .malformed

/-- A number. -/
def scanNumber : List Char → Scanned Numeral
  | '-' :: rest => scanMagnitude true rest
  | cs => scanMagnitude false cs

/-- The value of a hexadecimal digit. -/
def hexDigit? (c : Char) : Option Nat :=
  if c.isDigit then some (c.toNat - '0'.toNat)
  else if 'a' ≤ c ∧ c ≤ 'f' then some (c.toNat - 'a'.toNat + 10)
  else if 'A' ≤ c ∧ c ≤ 'F' then some (c.toNat - 'A'.toNat + 10)
  else none

def isHighSurrogate (u : Nat) : Bool := 0xD800 ≤ u && u ≤ 0xDBFF

def isLowSurrogate (u : Nat) : Bool := 0xDC00 ≤ u && u ≤ 0xDFFF

/-- The character of a pair of surrogates. -/
def joinSurrogates (high low : Nat) : Char :=
  Char.ofNat ((high - 0xD800) * 0x400 + (low - 0xDC00) + 0x10000)

/-- The character of an escape of one letter. -/
def simpleEscape? (c : Char) : Option Char :=
  match c with
  | '"' => some '"'
  | '\\' => some '\\'
  | '/' => some '/'
  | 'b' => some '\x08'
  | 'f' => some '\x0c'
  | 'n' => some '\n'
  | 'r' => some '\r'
  | 't' => some '\t'
  | _ => none

/-- Where in a string a scanner stands. -/
inductive StringState where
  /-- Between two characters. -/
  | plain
  /-- Behind a backslash. -/
  | escape
  /-- Behind `count` hexadecimal digits of a unit of UTF-16. A high surrogate may wait for it. -/
  | hex (count value : Nat) (high : Option Nat)
  /-- Behind a high surrogate, which needs another unit. -/
  | afterHigh (high : Nat)
  /-- Behind a high surrogate and a backslash. -/
  | afterHighEscape (high : Nat)

/-- What the text behind an opening quote holds: a string, with the text behind the closing quote;
a string with half of a surrogate pair; or a fault, which only a reader that skips the string meets
if such a half came first. -/
inductive ScannedString where
  | token (s : String) (rest : List Char)
  | unpaired (rest : List Char)
  | fault (unpaired : Bool) (fault : Fault)

/-- Has the text fewer bytes left than four hexadecimal digits take? -/
def isShort (cs : List Char) : Bool := (String.ofList (cs.take 4)).utf8ByteSize < 4

/-- Before the character `c` a high surrogate is given up if `c` cannot go on to its other half. -/
def StringState.settle (c : Char) : StringState → StringState × Bool
  | .afterHigh u => if c = '\\' then (.afterHigh u, true) else (.plain, false)
  | .afterHighEscape u => if c = 'u' then (.afterHighEscape u, true) else (.escape, false)
  | state => (state, true)

/-- Reads a string up to its closing quote. `acc` holds the characters so far, the last first, and
`paired` is false once half of a surrogate pair stood alone. -/
def scanString (state : StringState) (acc : List Char) (paired : Bool) :
    List Char → ScannedString
  | [] => .fault (!paired) .eof
  | c :: rest =>
    let (settled, whole) := state.settle c
    let paired := paired && whole
    match settled with
    | .afterHigh u => scanString (.afterHighEscape u) acc paired rest
    | .afterHighEscape u =>
      if isShort rest then .fault (!paired) .eof else scanString (.hex 0 0 (some u)) acc paired rest
    | .plain =>
      if c = '"' then
        if paired then .token (String.ofList acc.reverse) rest else .unpaired rest
      else if c = '\\' then scanString .escape acc paired rest
      else if c.toNat < 0x20 then .fault (!paired) .malformed
      else scanString .plain (c :: acc) paired rest
    | .escape =>
      if c = 'u' then
        if isShort rest then .fault (!paired) .eof else scanString (.hex 0 0 none) acc paired rest
      else
        match simpleEscape? c with
        | some e => scanString .plain (e :: acc) paired rest
        | none => .fault (!paired) .malformed
    | .hex count value high =>
      match hexDigit? c with
      | none => .fault (!paired) .malformed
      | some d =>
        let unit := value * 16 + d
        if count < 3 then scanString (.hex (count + 1) unit high) acc paired rest
        else
          match high with
          | some u =>
            if isLowSurrogate unit then
              scanString .plain (joinSurrogates u unit :: acc) paired rest
            else scanString .plain acc false rest
          | none =>
            if isLowSurrogate unit then scanString .plain acc false rest
            else if isHighSurrogate unit then scanString (.afterHigh unit) acc paired rest
            else scanString .plain (Char.ofNat unit :: acc) paired rest

/-- Reads the rest of one of the words `null`, `true` and `false`. -/
def scanWord (d : Document) : (word cs : List Char) → Document × Option (List Char)
  | [], rest => (d, some rest)
  | _ :: _, [] => (.broken .eof, none)
  | w :: word, c :: rest => if w = c then scanWord d word rest else (.broken .malformed, none)

/-- The document of a string whose opening quote has been read. -/
def stringDocument (cs : List Char) : Document × Option (List Char) :=
  match scanString .plain [] true cs with
  | .token s rest => (.str s, some rest)
  | .unpaired rest => (.faulty .malformed none, some rest)
  | .fault true fault => (.faulty .malformed (some fault), none)
  | .fault false fault => (.broken fault, none)

/-- The document of a number. One that breaks off at the end of the text is malformed for whoever
skips it. -/
def numberDocument (cs : List Char) : Document × Option (List Char) :=
  match scanNumber cs with
  | .fault fault => (.faulty fault (some .malformed), none)
  | .token n rest =>
    match n.number? with
    | some n => (.num n, some rest)
    | none => (.faulty .malformed none, some rest)

namespace Document

mutual

/-- Reads one value. `room` is the number of levels that may still be opened, and there is no rest
where the text breaks off. -/
def parseValue : (fuel room : Nat) → List Char → Document × Option (List Char)
  | 0, _, _ => (.broken .malformed, none)
  | fuel + 1, room, cs =>
    match skipBlanks cs with
    | [] => (.broken .eof, none)
    | '"' :: rest => stringDocument rest
    | '[' :: rest =>
      let (items, stop, rest) := parseItems fuel (room - 1) true rest
      (.arr (room == 0) items stop, rest)
    | '\x7b' :: rest =>
      let (fields, stop, rest) := parseFields fuel (room - 1) true rest
      (.obj (room == 0) fields stop, rest)
    | 'n' :: rest => scanWord .null "ull".toList rest
    | 't' :: rest => scanWord (.bool true) "rue".toList rest
    | 'f' :: rest => scanWord (.bool false) "alse".toList rest
    | c :: rest =>
      if c = '-' ∨ c.isDigit then numberDocument (c :: rest) else (.broken .malformed, none)

/-- Reads the items of an array up to the closing bracket. -/
def parseItems : (fuel room : Nat) → (first : Bool) → List Char →
    List Document × Option Fault × Option (List Char)
  | 0, _, _, _ => ([], some .malformed, none)
  | fuel + 1, room, first, cs =>
    match skipBlanks cs, first with
    | [], _ => ([], some .eof, none)
    | ']' :: rest, _ => ([], none, some rest)
    | ',' :: rest, false =>
      match skipBlanks rest with
      | ']' :: _ => ([], some .malformed, none)
      | rest => parseItem fuel room rest
    | _ :: _, false => ([], some .malformed, none)
    | cs, true => parseItem fuel room cs

/-- Reads an item and those behind it. -/
def parseItem : (fuel room : Nat) → List Char → List Document × Option Fault × Option (List Char)
  | 0, _, _ => ([], some .malformed, none)
  | fuel + 1, room, cs =>
    match parseValue fuel room cs with
    | (d, none) => ([d], some .malformed, none)
    | (d, some rest) =>
      let (ds, stop, rest) := parseItems fuel room false rest
      (d :: ds, stop, rest)

/-- Reads the fields of an object up to the closing brace. -/
def parseFields : (fuel room : Nat) → (first : Bool) → List Char →
    List (Key × Document) × Option Fault × Option (List Char)
  | 0, _, _, _ => ([], some .malformed, none)
  | fuel + 1, room, first, cs =>
    match skipBlanks cs, first with
    | [], _ => ([], some .eof, none)
    | '\x7d' :: rest, _ => ([], none, some rest)
    | ',' :: rest, false =>
      match skipBlanks rest with
      | [] => ([], some .eof, none)
      | '"' :: rest => parseField fuel room rest
      | _ => ([], some .malformed, none)
    | '"' :: rest, true => parseField fuel room rest
    | _ :: _, _ => ([], some .malformed, none)

/-- Reads a field whose opening quote has been read, and those behind it. -/
def parseField : (fuel room : Nat) → List Char →
    List (Key × Document) × Option Fault × Option (List Char)
  | 0, _, _ => ([], some .malformed, none)
  | fuel + 1, room, cs =>
    match scanString .plain [] true cs with
    | .fault true fault => ([(.unpaired, .broken fault)], some .malformed, none)
    | .fault false fault => ([], some fault, none)
    | .unpaired rest => parseFieldValue fuel room .unpaired rest
    | .token key rest => parseFieldValue fuel room (.text key) rest

/-- Reads the colon and the value of a field, and the fields behind it. -/
def parseFieldValue : (fuel room : Nat) → Key → List Char →
    List (Key × Document) × Option Fault × Option (List Char)
  | 0, _, _, _ => ([], some .malformed, none)
  | fuel + 1, room, key, cs =>
    match skipBlanks cs with
    | [] => ([(key, .broken .eof)], some .eof, none)
    | ':' :: rest =>
      match parseValue fuel room rest with
      | (d, none) => ([(key, d)], some .malformed, none)
      | (d, some rest) =>
        let (fields, stop, rest) := parseFields fuel room false rest
        ((key, d) :: fields, stop, rest)
    | _ => ([(key, .broken .malformed)], some .malformed, none)

end

/-- The levels of brackets and braces that a text may open. -/
def maxLevels : Nat := 127

/-- The document at the front of a text, and whether anything but blanks stands behind it. -/
def parse (s : String) : Document × Bool :=
  let cs := s.toList
  match parseValue (4 * cs.length + 4) maxLevels cs with
  | (d, none) => (d, false)
  | (d, some rest) => (d, !(skipBlanks rest).isEmpty)

end Document

/-- The value that a whole text stands for. -/
def Value.parse (s : String) : Except Fault Value :=
  match Document.parse s with
  | (d, trailing) => do
    let v ← d.value
    if trailing then .error .malformed else .ok v

end FeedLink.Json
