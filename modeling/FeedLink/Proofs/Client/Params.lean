import FeedLink.Client.Subscriptions
import FeedLink.Proofs.Json.Fields

/-!
# Finding parameters again

The fields of parameters that are there only where the caller has set them come one by one, each
under a key of its own. So no key comes twice, and what stands under a key of the object is what was
put there.

All of them can be told at once by a table of keys, with a value for each field that is there and
none for each that was left out. The object of a table holds what the table says, and nothing else.

## Main definitions

* `Params.sent` — the object that holds what a table says
* `Params.flag?`, `Params.texts?`, `Params.keyed?` — fields that are left out where they say nothing

## Main results

* `Json.Value.field?_object_of_mem` — what stands under a key of an object
* `Params.keys_given`, `Params.keys_raised` — a field has its key, if it is there
* `Params.lookup_append`, `Params.lookup_given`, `Params.lookup_raised` — what stands under a key
* `Params.field?_sent`, `Params.field?_sent_of_notMem` — what an object holds that a table tells
* `NewTxParams.nodup_keys`, `PendingTxParams.nodup_keys` — no key comes twice
-/

namespace FeedLink

namespace Json

/-- What stands under a key of an object in which no key comes twice. -/
theorem Value.field?_object_of_mem {fields : List (String × Value)} {k : String} {v : Value}
    (hkeys : (fields.map Prod.fst).Nodup) (hmem : (k, v) ∈ fields) :
    (Value.object fields).field? k = some v :=
  (lookup_sortFields hkeys k).trans (lookup_of_mem hkeys hmem)

end Json

namespace Params

open Json

theorem keys_refl (fields : List (String × Value)) :
    (fields.map Prod.fst).Sublist (fields.map Prod.fst) :=
  .refl _

theorem keys_append {fields fields' : List (String × Value)} {keys keys' : List String}
    (hfields : (fields.map Prod.fst).Sublist keys)
    (hfields' : (fields'.map Prod.fst).Sublist keys') :
    ((fields ++ fields').map Prod.fst).Sublist (keys ++ keys') := by
  rw [List.map_append]
  exact hfields.append hfields'

theorem keys_given (key : String) (value : Option Value) :
    ((given key value).map Prod.fst).Sublist [key] := by
  cases value with
  | none => exact List.nil_sublist _
  | some v => exact List.Sublist.refl _

theorem keys_raised (key : String) (flag : Bool) :
    ((raised key flag).map Prod.fst).Sublist [key] := by
  cases flag with
  | false => exact List.nil_sublist _
  | true => exact List.Sublist.refl _

theorem lookup_append (k : String) (fields fields' : List (String × Value)) :
    lookup k (fields ++ fields') = (lookup k fields).or (lookup k fields') := by
  induction fields with
  | nil => rfl
  | cons field rest ih =>
    obtain ⟨key, v⟩ := field
    rw [List.cons_append, lookup, lookup, ih]
    split <;> rfl

theorem lookup_given (k key : String) (value : Option Value) :
    lookup k (given key value) = if key = k then value else none := by
  cases value with
  | none => exact (ite_self none).symm
  | some v => rfl

theorem lookup_raised (k key : String) (flag : Bool) :
    lookup k (raised key flag) = if key = k ∧ flag then some (.bool true) else none := by
  cases flag with
  | false => simp [raised, lookup]
  | true => simp [raised, lookup]

/-! ### Tables -/

/-- The fields of a table that are there. -/
def present (table : List (String × Option Value)) : List (String × Value) :=
  table.filterMap fun row => row.2.map (row.1, ·)

/-- The object that holds what a table says. -/
def sent (table : List (String × Option Value)) : Value := .object (present table)

variable {table : List (String × Option Value)} {key : String} {value : Option Value}

@[simp] theorem present_cons (row : String × Option Value) (table : List (String × Option Value)) :
    present (row :: table) = given row.1 row.2 ++ present table := by
  obtain ⟨key, value⟩ := row
  cases value <;> rfl

theorem keys_present (table : List (String × Option Value)) :
    ((present table).map Prod.fst).Sublist (table.map Prod.fst) := by
  induction table with
  | nil => exact .slnil
  | cons row rest ih =>
    rw [present_cons]
    exact keys_append (keys_given row.1 row.2) ih

theorem lookup_present_of_notMem (hkey : key ∉ table.map Prod.fst) :
    lookup key (present table) = none :=
  lookup_eq_none_iff.mpr fun hmem => hkey ((keys_present table).subset hmem)

theorem lookup_present (hkeys : (table.map Prod.fst).Nodup) (hmem : (key, value) ∈ table) :
    lookup key (present table) = value := by
  induction table with
  | nil => simp at hmem
  | cons row rest ih =>
    obtain ⟨hfirst, hrest⟩ := List.nodup_cons.mp hkeys
    rw [present_cons, lookup_append, lookup_given]
    rcases List.mem_cons.mp hmem with rfl | hmem
    · rw [if_pos rfl, lookup_present_of_notMem hfirst, Option.or_none]
    · have hne : row.1 ≠ key := fun heq => hfirst (heq.symm ▸ List.mem_map_of_mem hmem)
      rw [if_neg hne, Option.none_or, ih hrest hmem]

/-- **The object of a table holds what the table says.** -/
theorem field?_sent (hkeys : (table.map Prod.fst).Nodup) (hmem : (key, value) ∈ table) :
    (sent table).field? key = value :=
  (lookup_sortFields ((keys_present table).nodup hkeys) key).trans (lookup_present hkeys hmem)

/-- The object of a table holds nothing else. -/
theorem field?_sent_of_notMem (hkeys : (table.map Prod.fst).Nodup)
    (hkey : key ∉ table.map Prod.fst) : (sent table).field? key = none :=
  (lookup_sortFields ((keys_present table).nodup hkeys) key).trans (lookup_present_of_notMem hkey)

/-! ### Rows

What is built field by field is a table of as many rows. -/

/-- A flag that is there only if it is raised. -/
def flag? (raised : Bool) : Option Value := if raised then some (.bool true) else none

/-- A list that is there only if it has an item. -/
def texts? (items : List String) : Option Value :=
  if items = [] then none else some (.arr (items.map .str))

/-- Texts under keys that are there only if there is one. -/
def keyed? (entries : List (String × String)) : Option Value :=
  if entries = [] then none else some (.object (entries.map fun e => (e.1, .str e.2)))

@[simp] theorem present_nil : present [] = [] := rfl

@[simp] theorem given_some (key : String) (v : Value) : given key (some v) = [(key, v)] := rfl

@[simp] theorem givenText_some (key text : String) :
    givenText key (some text) = [(key, .str text)] := rfl

theorem given_flag? (key : String) (flag : Bool) : given key (flag? flag) = raised key flag := by
  cases flag <;> rfl

theorem given_texts? (key : String) (items : List String) :
    given key (texts? items) = givenTexts key items := by
  cases items <;> rfl

theorem given_keyed? (key : String) (entries : List (String × String)) :
    given key (keyed? entries) = givenTable key entries := by
  cases entries <;> rfl

theorem given_text (key : String) (text : Option String) :
    given key (text.map .str) = givenText key text := rfl

theorem given_number (key : String) (number : Option UInt64) :
    given key (number.map .ofUInt64) = givenNumber key number := rfl

end Params

open Json

/-- The fields of the parameters of new transactions. -/
def NewTxParams.fields (p : NewTxParams) : List (String × Value) :=
  [("include", Params.texts p.items)] ++ Params.givenText "filters" p.filters ++
    Params.givenText "blockchain_network" p.network ++ Params.givenText "project" p.project

theorem NewTxParams.nodup_keys (p : NewTxParams) : (p.fields.map Prod.fst).Nodup :=
  (Params.keys_append (Params.keys_append (Params.keys_append (Params.keys_refl _)
    (Params.keys_given "filters" _)) (Params.keys_given "blockchain_network" _))
    (Params.keys_given "project" _)).nodup (by simp)

/-- The fields of the parameters of pending transactions. -/
def PendingTxParams.fields (p : PendingTxParams) : List (String × Value) :=
  [("include", Params.texts p.items), ("duplicates", .bool p.duplicates)] ++
    Params.givenText "filters" p.filters ++ Params.givenText "blockchain_network" p.network ++
    Params.givenText "project" p.project

theorem PendingTxParams.nodup_keys (p : PendingTxParams) : (p.fields.map Prod.fst).Nodup :=
  (Params.keys_append (Params.keys_append (Params.keys_append (Params.keys_refl _)
    (Params.keys_given "filters" _)) (Params.keys_given "blockchain_network" _))
    (Params.keys_given "project" _)).nodup (by simp)

end FeedLink
