/-!
# JSON values

A JSON number is an integer of 64 bits, signed or unsigned, or a finite double, and the two are
kept apart: `5` and `5.0` differ. An object is a list of fields. Values that come from a text, or
are built with `Value.object`, list their fields in strictly ascending order of keys, which is the
order of the UTF-8 bytes; the list of a record that is about to be written keeps the order in
which the record declares its fields.
-/

namespace FeedLink.Json

/-- Does an integer fit 64 bits, with or without a sign? -/
abbrev FitsWord (i : Int) : Prop := -9223372036854775808 ≤ i ∧ i ≤ 18446744073709551615

/-- A number a JSON text can hold. -/
inductive Number where
  /-- An integer that fits 64 bits. -/
  | int (i : Int) (bounded : FitsWord i)
  /-- Any other number, rounded to a double. -/
  | real (x : Float) (finite : x.isFinite = true)
deriving DecidableEq

namespace Number

/-- The integer `i`, if it fits 64 bits. -/
def ofInt? (i : Int) : Option Number :=
  if h : FitsWord i then some (.int i h) else none

/-- The double `x`, if it is finite. -/
def ofFloat? (x : Float) : Option Number :=
  if h : x.isFinite = true then some (.real x h) else none

/-- A word of 64 bits as a number. -/
def ofUInt64 (n : UInt64) : Number :=
  .int n.toNat (by
    have h : n.toNat < UInt64.size := n.toNat_lt
    simp only [FitsWord, UInt64.size] at *
    omega)

/-- A signed word of 64 bits as a number. -/
def ofInt64 (n : Int64) : Number :=
  .int n.toInt (by
    have h₁ := n.le_toInt
    have h₂ := n.toInt_lt
    simp only [FitsWord]
    omega)

end Number

/-- A JSON value. -/
inductive Value where
  | null
  | bool (b : Bool)
  | num (n : Number)
  | str (s : String)
  | arr (items : List Value)
  | obj (fields : List (String × Value))
deriving Inhabited

mutual

/-- Equality of values, decided. -/
def Value.decEq : (a b : Value) → Decidable (a = b)
  | .null, .null => isTrue rfl
  | .bool a, .bool b =>
    if h : a = b then isTrue (by rw [h]) else isFalse (fun e => h (Value.bool.inj e))
  | .num a, .num b =>
    if h : a = b then isTrue (by rw [h]) else isFalse (fun e => h (Value.num.inj e))
  | .str a, .str b =>
    if h : a = b then isTrue (by rw [h]) else isFalse (fun e => h (Value.str.inj e))
  | .arr a, .arr b =>
    match Value.decEqItems a b with
    | isTrue h => isTrue (by rw [h])
    | isFalse h => isFalse (fun e => h (Value.arr.inj e))
  | .obj a, .obj b =>
    match Value.decEqFields a b with
    | isTrue h => isTrue (by rw [h])
    | isFalse h => isFalse (fun e => h (Value.obj.inj e))
  | .null, .bool _ | .null, .num _ | .null, .str _ | .null, .arr _ | .null, .obj _
  | .bool _, .null | .bool _, .num _ | .bool _, .str _ | .bool _, .arr _ | .bool _, .obj _
  | .num _, .null | .num _, .bool _ | .num _, .str _ | .num _, .arr _ | .num _, .obj _
  | .str _, .null | .str _, .bool _ | .str _, .num _ | .str _, .arr _ | .str _, .obj _
  | .arr _, .null | .arr _, .bool _ | .arr _, .num _ | .arr _, .str _ | .arr _, .obj _
  | .obj _, .null | .obj _, .bool _ | .obj _, .num _ | .obj _, .str _ | .obj _, .arr _ =>
    isFalse (fun e => by cases e)

/-- Equality of lists of values, decided. -/
def Value.decEqItems : (a b : List Value) → Decidable (a = b)
  | [], [] => isTrue rfl
  | [], _ :: _ => isFalse (fun e => by cases e)
  | _ :: _, [] => isFalse (fun e => by cases e)
  | x :: xs, y :: ys =>
    match Value.decEq x y, Value.decEqItems xs ys with
    | isTrue h₁, isTrue h₂ => isTrue (by rw [h₁, h₂])
    | isFalse h, _ => isFalse (fun e => h (List.cons.inj e).1)
    | _, isFalse h => isFalse (fun e => h (List.cons.inj e).2)

/-- Equality of lists of fields, decided. -/
def Value.decEqFields : (a b : List (String × Value)) → Decidable (a = b)
  | [], [] => isTrue rfl
  | [], _ :: _ => isFalse (fun e => by cases e)
  | _ :: _, [] => isFalse (fun e => by cases e)
  | (k, x) :: xs, (l, y) :: ys =>
    if h : k = l then
      match Value.decEq x y, Value.decEqFields xs ys with
      | isTrue h₁, isTrue h₂ => isTrue (by rw [h, h₁, h₂])
      | isFalse h₁, _ => isFalse (fun e => h₁ (Prod.mk.inj (List.cons.inj e).1).2)
      | _, isFalse h₂ => isFalse (fun e => h₂ (List.cons.inj e).2)
    else isFalse (fun e => h (Prod.mk.inj (List.cons.inj e).1).1)

end

instance : DecidableEq Value := Value.decEq

/-- Puts a field among fields in ascending order of keys; a field of the same key is replaced. -/
def insertField (key : String) (value : α) : List (String × α) → List (String × α)
  | [] => [(key, value)]
  | (k, v) :: rest =>
    if key < k then (key, value) :: (k, v) :: rest
    else if key = k then (key, value) :: rest
    else (k, v) :: insertField key value rest

/-- Fields in ascending order of keys; of fields with one key the last wins. -/
def sortFields (fields : List (String × α)) : List (String × α) :=
  fields.foldl (fun sorted f => insertField f.1 f.2 sorted) []

/-- The value under a key in a list of fields. -/
def lookup (key : String) : List (String × α) → Option α
  | [] => none
  | (k, v) :: rest => if k = key then some v else lookup key rest

namespace Value

/-- The object with these fields, in ascending order of keys. -/
def object (fields : List (String × Value)) : Value := .obj (sortFields fields)

/-- A word of 64 bits. -/
def ofUInt64 (n : UInt64) : Value := .num (.ofUInt64 n)

/-- A natural number; one that does not fit 64 bits becomes null. -/
def ofNat (n : Nat) : Value := ((Number.ofInt? n).map Value.num).getD .null

/-- The field `key` of an object; a value of another kind has no fields. -/
def field? (key : String) : Value → Option Value
  | .obj fields => lookup key fields
  | _ => none

/-- The text of a string value. -/
def asString? : Value → Option String
  | .str s => some s
  | _ => none

mutual

/-- The same value with the fields of every object in ascending order of keys. -/
def sorted : Value → Value
  | .arr items => .arr (sortedItems items)
  | .obj fields => .object (sortedFields fields)
  | v => v

/-- `sorted` on every item. -/
def sortedItems : List Value → List Value
  | [] => []
  | v :: rest => v.sorted :: sortedItems rest

/-- `sorted` on the value of every field. -/
def sortedFields : List (String × Value) → List (String × Value)
  | [] => []
  | (k, v) :: rest => (k, v.sorted) :: sortedFields rest

end

end Value

end FeedLink.Json
