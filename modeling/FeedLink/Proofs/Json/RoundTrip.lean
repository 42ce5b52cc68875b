import FeedLink.Proofs.Json.Scanning

/-!
# What is written is read again

A value whose numbers are integers, and that opens no more levels than a text may open, is written
as a text from which it is read again, with the fields of every object in ascending order of keys.
The reader is given fuel for four steps a character, which is enough for whatever the writer prints.

## Main definitions

* `Value.fits` — the numbers of a value are integers, and it opens few levels

## Main results

* `Document.parseValue_chars` — the text of a value is read as the document of the value
* `Document.value_ofValue` — the document of a value stands for the value
* `Document.parse_render`, `Value.parse_render` — what is written is read again
-/

namespace FeedLink.Json

namespace Value

mutual

/-- Are all numbers integers, and are at most `room` levels opened? -/
def fits : (room : Nat) → Value → Bool
  | _, .null | _, .bool _ | _, .str _ | _, .num (.int _ _) => true
  | _, .num (.real _ _) => false
  | 0, .arr _ | 0, .obj _ => false
  | room + 1, .arr items => fitsItems room items
  | room + 1, .obj fields => fitsFields room fields

/-- `fits` of every item. -/
def fitsItems (room : Nat) : List Value → Bool
  | [] => true
  | v :: rest => v.fits room && fitsItems room rest

/-- `fits` of the value of every field. -/
def fitsFields (room : Nat) : List (String × Value) → Bool
  | [] => true
  | (_, v) :: rest => v.fits room && fitsFields room rest

end

/-- What stands first in the text of a value is no blank, and no closing bracket. -/
theorem chars_eq_cons (v : Value) {room : Nat} (hfits : v.fits room = true) :
    ∃ c cs, v.chars = c :: cs ∧ isBlank c = false ∧ c ≠ ']' := by
  cases v with
  | null => exact ⟨'n', _, rfl, by decide, by decide⟩
  | bool b =>
    cases b with
    | true => exact ⟨'t', _, rfl, by decide, by decide⟩
    | false => exact ⟨'f', _, rfl, by decide, by decide⟩
  | num n =>
    cases n with
    | real => simp [fits] at hfits
    | int i hbound =>
      rw [chars, Number.render, Number.renderInt]
      split
      · exact ⟨'-', _, rfl, by decide, by decide⟩
      · obtain ⟨d, ds, hdigits, hd⟩ := toDigits_eq_cons i.natAbs
        refine ⟨d, ds, hdigits, ?_, ?_⟩
        · rw [← Bool.not_eq_true]
          intro hblank
          simp only [isBlank, Bool.or_eq_true, decide_eq_true_eq] at hblank
          rcases hblank with ((rfl | rfl) | rfl) | rfl <;> contradiction
        · rintro rfl
          contradiction
  | str s => exact ⟨'"', _, rfl, by decide, by decide⟩
  | arr items => exact ⟨'[', _, rfl, by decide, by decide⟩
  | obj fields => exact ⟨'\x7b', _, rfl, by decide, by decide⟩

theorem length_chars_pos (v : Value) {room : Nat} (hfits : v.fits room = true) :
    0 < v.chars.length := by
  obtain ⟨c, cs, hchars, -⟩ := v.chars_eq_cons hfits
  rw [hchars, List.length_cons]
  omega

/-- The same of the items of an array. -/
theorem charsItems_eq_cons (v : Value) (vs : List Value) {room : Nat}
    (hfits : fitsItems room (v :: vs) = true) :
    ∃ c cs, charsItems (v :: vs) = c :: cs ∧ isBlank c = false ∧ c ≠ ']' := by
  rw [fitsItems, Bool.and_eq_true] at hfits
  obtain ⟨c, cs, hchars, hc⟩ := v.chars_eq_cons hfits.1
  cases vs with
  | nil => exact ⟨c, cs, hchars, hc⟩
  | cons w vs =>
    refine ⟨c, cs ++ ',' :: charsItems (w :: vs), ?_, hc⟩
    rw [charsItems, hchars, List.cons_append]
    simp

/-- The characters of a field and of those behind it, without the opening quote. -/
def charsField (field : String × Value) : List (String × Value) → List Char
  | [] => field.1.toList.flatMap escapeChar ++ '"' :: ':' :: field.2.chars
  | next :: rest =>
    field.1.toList.flatMap escapeChar ++
      '"' :: ':' :: (field.2.chars ++ ',' :: '"' :: charsField next rest)

theorem charsFields_cons (field : String × Value) (fields : List (String × Value)) :
    charsFields (field :: fields) = '"' :: charsField field fields := by
  induction fields generalizing field with
  | nil => simp [charsFields, charsField, renderString]
  | cons next rest ih =>
    rw [charsFields, ih]
    · simp [charsField, renderString]
    · simp

end Value

theorem skipBlanks_of_not_blank {c : Char} (hc : isBlank c = false) (cs : List Char) :
    skipBlanks (c :: cs) = c :: cs := by
  simp [skipBlanks, hc]

/-- A comma, a bracket or a brace ends a number. -/
theorem closes_cons {c : Char} (hc : c = ',' ∨ c = ']' ∨ c = '\x7d') (cs : List Char) :
    Closes (c :: cs) := by
  rintro d hd
  obtain rfl := Option.some.inj hd
  rcases hc with rfl | rfl | rfl <;> decide

namespace Document

open Value

variable {fuel room : Nat} {cs rest : List Char}

/-! ### One step of the reader -/

theorem parseValue_quote : parseValue (fuel + 1) room ('"' :: cs) = stringDocument cs := by
  simp [parseValue, skipBlanks, isBlank]

theorem parseValue_bracket {items : List Document} {stop : Option Fault}
    {left : Option (List Char)} (hitems : parseItems fuel room true cs = (items, stop, left)) :
    parseValue (fuel + 1) (room + 1) ('[' :: cs) = (.arr false items stop, left) := by
  simp [parseValue, skipBlanks, isBlank, hitems]

theorem parseValue_brace {fields : List (Key × Document)} {stop : Option Fault}
    {left : Option (List Char)} (hfields : parseFields fuel room true cs = (fields, stop, left)) :
    parseValue (fuel + 1) (room + 1) ('\x7b' :: cs) = (.obj false fields stop, left) := by
  simp [parseValue, skipBlanks, isBlank, hfields]

theorem parseValue_number {c : Char} (hc : c = '-' ∨ c.isDigit = true) :
    parseValue (fuel + 1) room (c :: cs) = numberDocument (c :: cs) := by
  have hblank : isBlank c = false := by
    rw [← Bool.not_eq_true]
    intro hblank
    simp only [isBlank, Bool.or_eq_true, decide_eq_true_eq] at hblank
    rcases hblank with ((rfl | rfl) | rfl) | rfl <;> simp at hc
  rw [parseValue, skipBlanks_of_not_blank hblank]
  split
  case h_8 heq =>
    obtain ⟨rfl, rfl⟩ := List.cons.inj heq
    exact if_pos hc
  case h_1 heq => contradiction
  all_goals
    next heq =>
      obtain ⟨rfl, -⟩ := List.cons.inj heq
      simp at hc

/-- The first item of an array. -/
theorem parseItems_first {c : Char} (hblank : isBlank c = false) (hc : c ≠ ']') :
    parseItems (fuel + 1) room true (c :: cs) = parseItem fuel room (c :: cs) := by
  simp [parseItems, skipBlanks_of_not_blank hblank, hc]

/-- Another item of an array. -/
theorem parseItems_next {c : Char} (hblank : isBlank c = false) (hc : c ≠ ']') :
    parseItems (fuel + 1) room false (',' :: c :: cs) = parseItem fuel room (c :: cs) := by
  have hcomma : skipBlanks (',' :: c :: cs) = ',' :: c :: cs := skipBlanks_of_not_blank (by decide) _
  simp [parseItems, hcomma, skipBlanks_of_not_blank hblank, hc]

theorem parseItems_end (first : Bool) :
    parseItems (fuel + 1) room first (']' :: rest) = ([], none, some rest) := by
  simp [parseItems, skipBlanks, isBlank]

/-- An item that was read, and those behind it. -/
theorem parseItem_value {d : Document} {left : List Char} {ds : List Document}
    {stop : Option Fault} {out : Option (List Char)}
    (hvalue : parseValue fuel room cs = (d, some left))
    (hitems : parseItems fuel room false left = (ds, stop, out)) :
    parseItem (fuel + 1) room cs = (d :: ds, stop, out) := by
  simp [parseItem, hvalue, hitems]

theorem parseFields_first :
    parseFields (fuel + 1) room true ('"' :: cs) = parseField fuel room cs := by
  simp [parseFields, skipBlanks, isBlank]

theorem parseFields_next :
    parseFields (fuel + 1) room false (',' :: '"' :: cs) = parseField fuel room cs := by
  simp [parseFields, skipBlanks, isBlank]

theorem parseFields_end (first : Bool) :
    parseFields (fuel + 1) room first ('\x7d' :: rest) = ([], none, some rest) := by
  simp [parseFields, skipBlanks, isBlank]

/-- A field whose key was printed and whose value was read, and the fields behind it. -/
theorem parseField_key (k : String) {d : Document} {left : List Char}
    {fields : List (Key × Document)} {stop : Option Fault} {out : Option (List Char)}
    (hvalue : parseValue fuel room cs = (d, some left))
    (hfields : parseFields fuel room false left = (fields, stop, out)) :
    parseField (fuel + 2) room (k.toList.flatMap escapeChar ++ '"' :: ':' :: cs) =
      ((.text k, d) :: fields, stop, out) := by
  simp [parseField, scanString_flatMap, parseFieldValue, skipBlanks, isBlank, hvalue, hfields]

/-! ### What was printed -/

mutual

/-- **The text of a value is read as the document of the value.** -/
theorem parseValue_chars (v : Value) {fuel room : Nat} {rest : List Char}
    (hfits : v.fits room = true) (hfuel : 4 * v.chars.length ≤ fuel) (hrest : Closes rest) :
    parseValue fuel room (v.chars ++ rest) = (.ofValue v, some rest) := by
  have hlength := v.length_chars_pos hfits
  obtain ⟨fuel, rfl⟩ : ∃ k, fuel = k + 1 := ⟨fuel - 1, by omega⟩
  cases v with
  | null => simp [chars, parseValue, skipBlanks, isBlank, scanWord, ofValue]
  | bool b => cases b <;> simp [chars, parseValue, skipBlanks, isBlank, scanWord, ofValue]
  | num n =>
    cases n with
    | real => simp [fits] at hfits
    | int i hbound =>
      have hdocument := numberDocument_renderInt hrest hbound
      rw [chars, Number.render, ofValue, ← hdocument]
      unfold Number.renderInt
      split
      · exact parseValue_number (.inl rfl)
      · obtain ⟨d, ds, hdigits, hd⟩ := toDigits_eq_cons i.natAbs
        rw [hdigits]
        exact parseValue_number (.inr hd)
  | str s =>
    rw [chars, renderString, List.cons_append, List.cons_append, List.append_assoc,
      parseValue_quote]
    exact stringDocument_renderString s rest
  | arr items =>
    obtain ⟨room, rfl⟩ : ∃ k, room = k + 1 := by
      cases room with
      | zero => simp [fits] at hfits
      | succ room => exact ⟨room, rfl⟩
    rw [fits] at hfits
    rw [chars, List.cons_append, List.cons_append, List.append_assoc, ofValue]
    simp only [chars, List.length_cons, List.length_append] at hfuel
    refine parseValue_bracket ?_
    cases items with
    | nil =>
      obtain ⟨fuel, rfl⟩ : ∃ k, fuel = k + 1 := ⟨fuel - 1, by omega⟩
      exact parseItems_end true
    | cons v vs =>
      obtain ⟨fuel, rfl⟩ : ∃ k, fuel = k + 1 := ⟨fuel - 1, by omega⟩
      have hitems : parseItem fuel room (charsItems (v :: vs) ++ ']' :: rest) =
          (ofValues (v :: vs), none, some rest) := parseItem_charsItems v vs hfits (by omega)
      obtain ⟨c, cs, hchars, hblank, hc⟩ := charsItems_eq_cons v vs hfits
      rw [hchars] at hitems ⊢
      exact (parseItems_first hblank hc).trans hitems
  | obj fields =>
    obtain ⟨room, rfl⟩ : ∃ k, room = k + 1 := by
      cases room with
      | zero => simp [fits] at hfits
      | succ room => exact ⟨room, rfl⟩
    rw [fits] at hfits
    rw [chars, List.cons_append, List.cons_append, List.append_assoc, ofValue]
    simp only [chars, List.length_cons, List.length_append] at hfuel
    refine parseValue_brace ?_
    obtain ⟨fuel, rfl⟩ : ∃ k, fuel = k + 1 := ⟨fuel - 1, by omega⟩
    cases fields with
    | nil => exact parseFields_end true
    | cons field fields =>
      have hchars := charsFields_cons field fields
      rw [hchars, List.length_cons] at hfuel
      rw [hchars]
      exact parseFields_first.trans (parseField_charsFields field fields hfits (by omega))
termination_by sizeOf v

theorem parseItem_charsItems (v : Value) (vs : List Value) {fuel room : Nat} {rest : List Char}
    (hfits : fitsItems room (v :: vs) = true)
    (hfuel : 4 * (charsItems (v :: vs)).length < fuel) :
    parseItem fuel room (charsItems (v :: vs) ++ ']' :: rest) =
      (ofValues (v :: vs), none, some rest) := by
  rw [fitsItems, Bool.and_eq_true] at hfits
  have hlength := v.length_chars_pos hfits.1
  cases vs with
  | nil =>
    rw [charsItems] at hfuel ⊢
    obtain ⟨fuel, rfl⟩ : ∃ k, fuel = k + 2 := ⟨fuel - 2, by omega⟩
    have hvalue : parseValue (fuel + 1) room (v.chars ++ ']' :: rest) =
        (.ofValue v, some (']' :: rest)) :=
      parseValue_chars v hfits.1 (by omega) (closes_cons (.inr (.inl rfl)) _)
    exact parseItem_value hvalue (parseItems_end false)
  | cons w vs =>
    rw [charsItems, List.length_append, List.length_cons] at hfuel
    · rw [charsItems, List.append_assoc, List.cons_append]
      · obtain ⟨fuel, rfl⟩ : ∃ k, fuel = k + 2 := ⟨fuel - 2, by omega⟩
        have hvalue : parseValue (fuel + 1) room
            (v.chars ++ ',' :: (charsItems (w :: vs) ++ ']' :: rest)) =
              (.ofValue v, some (',' :: (charsItems (w :: vs) ++ ']' :: rest))) :=
          parseValue_chars v hfits.1 (by omega) (closes_cons (.inl rfl) _)
        have hitems : parseItem fuel room (charsItems (w :: vs) ++ ']' :: rest) =
            (ofValues (w :: vs), none, some rest) :=
          parseItem_charsItems w vs hfits.2 (by omega)
        obtain ⟨c, cs, hchars, hblank, hc⟩ := charsItems_eq_cons w vs hfits.2
        rw [hchars] at hvalue hitems ⊢
        exact parseItem_value hvalue ((parseItems_next hblank hc).trans hitems)
      · simp
    · simp
termination_by sizeOf (v :: vs)

theorem parseField_charsFields (field : String × Value) (fields : List (String × Value))
    {fuel room : Nat} {rest : List Char}
    (hfits : fitsFields room (field :: fields) = true)
    (hfuel : 4 * (charsField field fields).length < fuel) :
    parseField fuel room (charsField field fields ++ '\x7d' :: rest) =
      (ofFields (field :: fields), none, some rest) := by
  have hsmaller : sizeOf field.2 < sizeOf (field :: fields) := by
    cases field
    simp
    omega
  rw [fitsFields, Bool.and_eq_true] at hfits
  cases fields with
  | nil =>
    simp only [charsField, List.length_append, List.length_cons] at hfuel
    obtain ⟨fuel, rfl⟩ : ∃ k, fuel = k + 3 := ⟨fuel - 3, by omega⟩
    have hvalue : parseValue (fuel + 1) room (field.2.chars ++ '\x7d' :: rest) =
        (.ofValue field.2, some ('\x7d' :: rest)) :=
      parseValue_chars field.2 hfits.1 (by omega) (closes_cons (.inr (.inr rfl)) _)
    rw [charsField, List.append_assoc, List.cons_append, List.cons_append]
    exact parseField_key field.1 hvalue (parseFields_end false)
  | cons next fields =>
    simp only [charsField, List.length_append, List.length_cons] at hfuel
    obtain ⟨fuel, rfl⟩ : ∃ k, fuel = k + 3 := ⟨fuel - 3, by omega⟩
    have hvalue : parseValue (fuel + 1) room
        (field.2.chars ++ ',' :: '"' :: (charsField next fields ++ '\x7d' :: rest)) =
          (.ofValue field.2, some (',' :: '"' :: (charsField next fields ++ '\x7d' :: rest))) :=
      parseValue_chars field.2 hfits.1 (by omega) (closes_cons (.inl rfl) _)
    have hfields : parseField fuel room (charsField next fields ++ '\x7d' :: rest) =
        (ofFields (next :: fields), none, some rest) :=
      parseField_charsFields next fields hfits.2 (by omega)
    simp only [charsField, List.append_assoc, List.cons_append]
    exact parseField_key field.1 hvalue (parseFields_next.trans hfields)
termination_by sizeOf (field :: fields)

end

mutual

/-- **The document of a value stands for the value**, with its fields in order. -/
theorem value_ofValue (v : Value) : (ofValue v).value = .ok v.sorted := by
  cases v with
  | null | bool | num | str => rfl
  | arr items =>
    rw [ofValue, value, values_ofValues items]
    rfl
  | obj fields =>
    rw [ofValue, value, fieldValues_ofFields fields]
    rfl

theorem values_ofValues (items : List Value) : values (ofValues items) = .ok (sortedItems items) := by
  cases items with
  | nil => rfl
  | cons v rest =>
    rw [ofValues, values, value_ofValue v, values_ofValues rest]
    rfl

theorem fieldValues_ofFields (fields : List (String × Value)) :
    fieldValues (ofFields fields) = .ok (sortedFields fields) := by
  cases fields with
  | nil => rfl
  | cons field rest =>
    have hsmaller : sizeOf field.2 < sizeOf (field :: rest) := by
      cases field
      simp
      omega
    rw [show field :: rest = (field.1, field.2) :: rest from rfl, ofFields, fieldValues,
      value_ofValue field.2, fieldValues_ofFields rest]
    rfl

end

end Document

/-- **What is written is read as a whole text.** -/
theorem Document.parse_render {v : Value} (hfits : v.fits maxLevels = true) :
    parse v.render = (.ofValue v, false) := by
  have hread : parseValue (4 * v.chars.length + 4) maxLevels (v.chars ++ []) =
      (.ofValue v, some []) := parseValue_chars v hfits (by omega) closes_nil
  rw [List.append_nil] at hread
  simp only [parse, Value.render, String.toList_ofList, hread]
  rfl

/-- **What is written is read again**, with the fields of every object in order. -/
theorem Value.parse_render (v : Value) (hfits : v.fits Document.maxLevels = true) :
    Value.parse v.render = .ok v.sorted := by
  rw [Value.parse, Document.parse_render hfits]
  simp only [Document.value_ofValue]
  rfl

end FeedLink.Json
