import FeedLink.Json.Printer
import FeedLink.Proofs.Json.Scanning

/-!
# Written on one line

A value is written without control characters, whatever is in its texts: inside a string they are
escaped, and everything around the strings is made of visible characters. So a value that is written
without blanks has no line break, and can be printed as a line of its own.

## Main definitions

* `Json.Flat` — characters among which there are no control characters

## Main results

* `Json.Value.flat_chars` — a value is written without control characters
-/

namespace FeedLink.Json

/-- There are no control characters, and so no line breaks. -/
def Flat (cs : List Char) : Prop := ∀ c ∈ cs, 0x20 ≤ c.toNat

variable {c : Char} {cs cs' : List Char}

@[simp]
theorem flat_nil : Flat [] := List.forall_mem_nil _

@[simp]
theorem flat_cons : Flat (c :: cs) ↔ 0x20 ≤ c.toNat ∧ Flat cs := List.forall_mem_cons

@[simp]
theorem flat_append : Flat (cs ++ cs') ↔ Flat cs ∧ Flat cs' := List.forall_mem_append

theorem Flat.subset (hcs : Flat cs) (hsubset : cs' ⊆ cs) : Flat cs' := fun c hc =>
  hcs c (hsubset hc)

theorem Flat.newline_notMem (hcs : Flat cs) : '\n' ∉ cs := fun hmem =>
  absurd (hcs _ hmem) (by decide)

/-! ### Numbers -/

theorem flat_replicate_zero (n : Nat) : Flat (List.replicate n '0') := fun c hc => by
  rw [List.eq_of_mem_replicate hc]
  decide

theorem flat_toDigits (n : Nat) : Flat (Nat.toDigits 10 n) := fun c hc => by
  have hdigit := Char.isDigit_iff_toNat.mp (isDigit_of_mem_toDigits hc)
  exact Nat.le_trans (by decide) hdigit.1

theorem flat_renderDecimal (d : Decimal) : Flat (Number.renderDecimal d) := by
  have hdigits := flat_toDigits d.digits
  have htake (k : Nat) := hdigits.subset (List.take_subset k _)
  have hdrop (k : Nat) := hdigits.subset (List.drop_subset k _)
  simp only [Number.renderDecimal]
  split_ifs <;>
    simp [hdigits, htake, hdrop, flat_replicate_zero, flat_toDigits, -List.drop_one]

theorem flat_render (n : Number) : Flat n.render := by
  cases n with
  | int i bounded =>
    rw [Number.render, Number.renderInt]
    split <;> simp [flat_toDigits]
  | real x finite =>
    rw [Number.render, Number.renderReal]
    split <;> split <;> simp [flat_renderDecimal]

/-! ### Strings -/

/-- What is a control character is escaped. -/
theorem flat_escapeChar (c : Char) : Flat (escapeChar c) := by
  have hdigit : ∀ n < 16, 0x20 ≤ (Nat.digitChar n).toNat := by decide
  have hescaped (hlt : c.toNat < 0x20) : Flat
      ['\\', 'u', '0', '0', Nat.digitChar (c.toNat / 16), Nat.digitChar (c.toNat % 16)] := by
    have hhigh := hdigit (c.toNat / 16) (by omega)
    have hlow := hdigit (c.toNat % 16) (by omega)
    simp [hhigh, hlow]
  unfold escapeChar
  split_ifs with _ _ _ _ _ _ _ hlt
  case neg => simpa using hlt
  all_goals first
    | exact hescaped ‹c.toNat < 0x20›
    | simp

theorem flat_renderString (s : String) : Flat (renderString s) := by
  have hinside : Flat (s.toList.flatMap escapeChar) := fun c hc => by
    obtain ⟨d, -, hd⟩ := List.mem_flatMap.mp hc
    exact flat_escapeChar d c hd
  simp [renderString, hinside]

/-! ### Values -/

namespace Value

mutual

/-- **A value is written without control characters.** -/
theorem flat_chars (v : Value) : Flat v.chars := by
  cases v with
  | null => simp [chars]
  | bool b => cases b <;> simp [chars]
  | num n => exact flat_render n
  | str s => exact flat_renderString s
  | arr items => simp [chars, flat_charsItems items]
  | obj fields => simp [chars, flat_charsFields fields]

theorem flat_charsItems (items : List Value) : Flat (charsItems items) := by
  match items with
  | [] => exact flat_nil
  | [v] => exact flat_chars v
  | v :: w :: rest => simp [charsItems, flat_chars v, flat_charsItems (w :: rest)]

theorem flat_charsFields (fields : List (String × Value)) : Flat (charsFields fields) := by
  match fields with
  | [] => exact flat_nil
  | [(k, v)] => simp [charsFields, flat_renderString, flat_chars v]
  | (k, v) :: f :: rest =>
    simp [charsFields, flat_renderString, flat_chars v, flat_charsFields (f :: rest)]

end

/-- The text of a value is one line. -/
theorem newline_notMem_render (v : Value) : '\n' ∉ v.render.toList := by
  rw [render, String.toList_ofList]
  exact v.flat_chars.newline_notMem

end Value

end FeedLink.Json
