/-!
# Tables

A table is a list of entries with distinct keys. `Table.get?` is the view through which the other
operations are described: `set` changes what one key finds, `erase` makes one key find nothing, and
neither is seen through any other key.
-/

namespace FeedLink

/-- Entries under keys. -/
abbrev Table (α β : Type) := List (α × β)

namespace Table

variable {α β : Type} [DecidableEq α]

/-- The entry under a key. -/
def get? (key : α) : Table α β → Option β
  | [] => none
  | (k, v) :: rest => if k = key then some v else get? key rest

/-- Takes out every entry under a key. -/
def erase (key : α) : Table α β → Table α β
  | [] => []
  | (k, v) :: rest => if k = key then erase key rest else (k, v) :: erase key rest

/-- Puts an entry under a key, in the place of an older one. -/
def set (key : α) (value : β) (t : Table α β) : Table α β := (key, value) :: erase key t

/-- Is there an entry under the key? -/
def has (key : α) (t : Table α β) : Bool := (get? key t).isSome

/-- The keys of a table. -/
def keys (t : Table α β) : List α := t.map Prod.fst

@[simp] theorem get?_nil (key : α) : get? key ([] : Table α β) = none := rfl

theorem get?_erase (key other : α) (t : Table α β) :
    get? other (erase key t) = if key = other then none else get? other t := by
  induction t with
  | nil => simp [erase]
  | cons e rest ih =>
    obtain ⟨k, v⟩ := e
    by_cases hk : k = key
    · subst hk
      simp only [erase, if_true, ih, get?]
      by_cases ho : k = other <;> simp [ho]
    · simp only [erase, if_neg hk, get?, ih]
      by_cases ho : k = other
      · subst ho
        have : ¬key = k := fun h => hk h.symm
        simp [this]
      · simp [ho]

theorem get?_set (key other : α) (value : β) (t : Table α β) :
    get? other (set key value t) = if key = other then some value else get? other t := by
  by_cases h : key = other
  · simp [set, get?, h]
  · simp [set, get?, h, get?_erase]

@[simp] theorem get?_set_self (key : α) (value : β) (t : Table α β) :
    get? key (set key value t) = some value := by simp [get?_set]

@[simp] theorem get?_erase_self (key : α) (t : Table α β) : get? key (erase key t) = none := by
  simp [get?_erase]

end Table

end FeedLink
