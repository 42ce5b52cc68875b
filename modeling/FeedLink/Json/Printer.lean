import FeedLink.Decimal.Shortest
import FeedLink.Json.Basic

/-!
# Writing JSON

`Value.render` writes a value without any blanks, and `Value.renderPretty` on several lines with
two spaces for each level. Fields are written in the order in which the value lists them. Inside a
string the quote, the backslash and the characters below U+0020 are escaped, and nothing else.
A double is written with the fewest digits that read back.
-/

namespace FeedLink.Json

/-- Between these powers of ten a double is written with a decimal point and no exponent. -/
def positionalExponents : Int × Int := (-5, 15)

/-- The digits of a positive decimal as JSON writes a double: positional with at least one decimal
from `1e-5` below `1e16`, and with a signed exponent outside. -/
def Number.renderDecimal (d : Decimal) : List Char :=
  let digits := Nat.toDigits 10 d.digits
  let exponent := d.exponent + digits.length - 1
  if positionalExponents.1 ≤ exponent ∧ exponent ≤ positionalExponents.2 then
    if exponent < 0 then
      ['0', '.'] ++ List.replicate (-exponent - 1).toNat '0' ++ digits
    else
      let whole := digits.take (exponent.toNat + 1)
      let fraction := digits.drop (exponent.toNat + 1)
      whole ++ List.replicate (exponent.toNat + 1 - whole.length) '0' ++ ['.'] ++
        (if fraction.isEmpty then ['0'] else fraction)
  else
    let fraction := digits.drop 1
    digits.take 1 ++ (if fraction.isEmpty then [] else '.' :: fraction) ++
      ['e', if exponent < 0 then '-' else '+'] ++ Nat.toDigits 10 exponent.natAbs

/-- A finite double as JSON writes it. -/
def Number.renderReal (x : Float) : List Char :=
  let d := Shortest.decimal x
  (if Shortest.isNegative x then ['-'] else []) ++
    (if d.digits = 0 then ['0', '.', '0'] else Number.renderDecimal d)

/-- An integer in decimal. -/
def Number.renderInt (i : Int) : List Char :=
  if i < 0 then '-' :: Nat.toDigits 10 i.natAbs else Nat.toDigits 10 i.natAbs

/-- A number as JSON writes it. -/
def Number.render : Number → List Char
  | .int i _ => Number.renderInt i
  | .real x _ => Number.renderReal x

/-- One character inside a string. -/
def escapeChar (c : Char) : List Char :=
  if c = '"' then ['\\', '"']
  else if c = '\\' then ['\\', '\\']
  else if c = '\n' then ['\\', 'n']
  else if c = '\r' then ['\\', 'r']
  else if c = '\t' then ['\\', 't']
  else if c = '\x08' then ['\\', 'b']
  else if c = '\x0c' then ['\\', 'f']
  else if c.toNat < 0x20 then
    ['\\', 'u', '0', '0', Nat.digitChar (c.toNat / 16), Nat.digitChar (c.toNat % 16)]
  else [c]

/-- A string between quotes. -/
def renderString (s : String) : List Char :=
  '"' :: s.toList.flatMap escapeChar ++ ['"']

namespace Value

mutual

/-- The characters of a value, written without blanks. -/
def chars : Value → List Char
  | .null => "null".toList
  | .bool true => "true".toList
  | .bool false => "false".toList
  | .num n => n.render
  | .str s => renderString s
  | .arr items => '[' :: charsItems items ++ [']']
  | .obj fields => '\x7b' :: charsFields fields ++ ['\x7d']

/-- Items with commas between them. -/
def charsItems : List Value → List Char
  | [] => []
  | [v] => v.chars
  | v :: rest => v.chars ++ ',' :: charsItems rest

/-- Fields with commas between them. -/
def charsFields : List (String × Value) → List Char
  | [] => []
  | [(k, v)] => renderString k ++ ':' :: v.chars
  | (k, v) :: rest => renderString k ++ ':' :: v.chars ++ ',' :: charsFields rest

end

/-- The text of a value, written without blanks. -/
def render (v : Value) : String := String.ofList v.chars

/-- A new line at a level of nesting. -/
def newline (level : Nat) : List Char := '\n' :: List.replicate (2 * level) ' '

mutual

/-- The characters of a value on several lines, for a value that stands at `level`. -/
def charsPretty (level : Nat) : Value → List Char
  | .arr [] => ['[', ']']
  | .arr items => '[' :: prettyItems (level + 1) items ++ newline level ++ [']']
  | .obj [] => ['\x7b', '\x7d']
  | .obj fields => '\x7b' :: prettyFields (level + 1) fields ++ newline level ++ ['\x7d']
  | .null => "null".toList
  | .bool true => "true".toList
  | .bool false => "false".toList
  | .num n => n.render
  | .str s => renderString s

/-- Items on lines of their own. -/
def prettyItems (level : Nat) : List Value → List Char
  | [] => []
  | [v] => newline level ++ v.charsPretty level
  | v :: rest => newline level ++ v.charsPretty level ++ ',' :: prettyItems level rest

/-- Fields on lines of their own. -/
def prettyFields (level : Nat) : List (String × Value) → List Char
  | [] => []
  | [(k, v)] => newline level ++ renderString k ++ ':' :: ' ' :: v.charsPretty level
  | (k, v) :: rest =>
    newline level ++ renderString k ++ ':' :: ' ' :: v.charsPretty level ++
      ',' :: prettyFields level rest

end

/-- The text of a value on several lines. -/
def renderPretty (v : Value) : String := String.ofList (v.charsPretty 0)

end Value

end FeedLink.Json
