import FeedLink.Json.Basic

/-!
# Reading leniently

Scripts are read without complaint: what is missing reads as null, and what is of another kind than
was asked for reads as the empty value of that kind.
-/

namespace FeedLink.Json.Lenient

/-- The field of an object. -/
def field (v : Value) (key : String) : Value := (v.field? key).getD .null

/-- Does an object have the field? -/
def present (v : Value) (key : String) : Bool := (v.field? key).isSome

/-- The text of a value. -/
def str (v : Value) : String := v.asString?.getD ""

def strAt (v : Value) (key : String) : String := str (field v key)

/-- The text of a field that is one. -/
def strAt? (v : Value) (key : String) : Option String := (field v key).asString?

/-- The items of a value. -/
def items : Value → List Value
  | .arr vs => vs
  | _ => []

def itemsAt (v : Value) (key : String) : List Value := items (field v key)

/-- One item of a value. -/
def item (v : Value) (index : Nat) : Value := (items v)[index]?.getD .null

/-- The texts of the items of a field. -/
def textsAt (v : Value) (key : String) : List String := (itemsAt v key).map str

/-- The integer that a value is. -/
def int? : Value → Option Int
  | .num (.int i _) => some i
  | _ => none

def int (v : Value) : Int := (int? v).getD 0

def intAt (v : Value) (key : String) : Int := int (field v key)

/-- The natural number that a field is. -/
def natAt? (v : Value) (key : String) : Option Nat := (int? (field v key)).map Int.toNat

def natAt (v : Value) (key : String) : Nat := (natAt? v key).getD 0

/-- Is a value true? -/
def flag : Value → Bool
  | .bool b => b
  | _ => false

def flagAt (v : Value) (key : String) : Bool := flag (field v key)

/-! ## Writing -/

def text (s : String) : Value := .str s

def nat (n : Nat) : Value := .ofNat n

def texts (l : List String) : Value := .arr (l.map text)

/-- Something that may be missing; null where it is. -/
def optional (f : α → Value) : Option α → Value
  | some a => f a
  | none => .null

def pair (a b : Value) : Value := .arr [a, b]

/-- Fields that are lists, without those that are empty. -/
def groups (named : List (String × List Value)) : List (String × Value) :=
  named.filterMap fun (name, rows) => if rows.isEmpty then none else some (name, .arr rows)

end FeedLink.Json.Lenient
