import FeedLink.Proofs.Socket.Correlator
import FeedLink.Proofs.Socket.Waiting

/-!
# The ledger of registrations

A history is a list of operations on one correlator. What becomes of a registration is read off the
operations that follow it: the first that settles its key settles it, and no other operation,
earlier or later, of its own key or of another one, has a say. A key that is registered again is
settled by that, so that the history of a key is a chain of registrations, each settled by the next
operation that names the key, and at most the last one is pending.

Everything is shown for one operation first. From there a ticket is followed through a history
(`settlement?_performAll`), and the keys of the table are followed as a whole (`keys_performAll`).

## Main definitions

* `Operation`, `Correlator.performAll` — a history, and what it makes of a correlator
* `Operation.settles?`, `settledBy?` — how an operation, or a history, settles a key
* `unsettled` — the registrations of a history that nothing settles

## Main results

* `Correlator.Coherent.stands_performAll` — a registration through a history
* `Correlator.keys_performAll` — the table through a history
* `Correlator.each_registration_settled_once`
-/

namespace FeedLink.Socket

open Json

/-! ### Histories -/

/-- What is done to a correlator. -/
inductive Operation where
  | register (id : RequestId) (what : String)
  | dispatch (key : String) (outcome : Outcome)
  | evict (key : String)
  | clear

namespace Operation

/-- The settlement that an operation brings to the registration under a key. -/
def settles? (key : String) : Operation → Option Settlement
  | .register id _ => if id.key = key then some .dropped else none
  | .dispatch k outcome => if k = key then some (.reply outcome) else none
  | .evict k => if k = key then some .dropped else none
  | .clear => some .dropped

/-- The key that an operation registers. -/
def registers? : Operation → Option String
  | .register id _ => some id.key
  | .dispatch .. | .evict _ | .clear => none

end Operation

/-- The settlement that a history brings to a registration under a key that is pending before it. -/
def settledBy? (key : String) (later : List Operation) : Option Settlement :=
  later.findSome? (·.settles? key)

/-- The keys of the registrations that nothing after them settles. -/
def unsettled : List Operation → List String
  | [] => []
  | op :: later =>
    (op.registers?.filter fun key => (settledBy? key later).isNone).toList ++ unsettled later

@[simp] theorem settledBy?_nil (key : String) : settledBy? key [] = none := rfl

theorem settledBy?_cons (key : String) (op : Operation) (later : List Operation) :
    settledBy? key (op :: later) = (op.settles? key).or (settledBy? key later) := by
  rw [settledBy?, settledBy?, List.findSome?_cons]
  cases op.settles? key <;> rfl

namespace Correlator

/-- A correlator after an operation. -/
def perform (c : Correlator) : Operation → Correlator
  | .register id what => (c.register id what).2
  | .dispatch key outcome => (c.dispatch key outcome).2
  | .evict key => (c.evict key).2
  | .clear => c.clear.2

/-- A correlator after a history. -/
def performAll (c : Correlator) (ops : List Operation) : Correlator := ops.foldl perform c

@[simp] theorem performAll_nil (c : Correlator) : c.performAll [] = c := rfl

@[simp] theorem performAll_cons (c : Correlator) (op : Operation) (ops : List Operation) :
    c.performAll (op :: ops) = (c.perform op).performAll ops := rfl

variable {c : Correlator} {key : String} {ticket : Ticket}

/-! ### One operation -/

theorem fst_settle (c : Correlator) (key : String) (v : Settlement) :
    (c.settle key v).1 = c.contains key := by
  rw [settle, contains, Table.has]
  cases Table.get? key c.pending <;> rfl

/-- A registration drops what is pending under its key first. -/
theorem register_settle (c : Correlator) (id : RequestId) (what : String) :
    (c.settle id.key .dropped).2.register id what = c.register id what := by
  have hnone : Table.get? id.key (c.settle id.key .dropped).2.pending = none := by
    rw [get?_pending_settle, if_pos rfl]
  rw [register, register, settle_of_none hnone]

/-- So every registration is one under a key that is not pending. -/
theorem exists_register_of_none (hc : c.Coherent) (id : RequestId) (what : String) :
    ∃ c' : Correlator, c' = (c.settle id.key .dropped).2 ∧ c'.Coherent ∧
      Table.get? id.key c'.pending = none ∧ c.register id what = c'.register id what := by
  refine ⟨_, rfl, hc.settle id.key .dropped, ?_, (register_settle c id what).symm⟩
  rw [get?_pending_settle, if_pos rfl]

theorem Coherent.perform (hc : c.Coherent) (op : Operation) : (c.perform op).Coherent := by
  cases op with
  | register id what =>
    obtain ⟨c', -, hc', hnone, heq⟩ := exists_register_of_none hc id what
    show (c.register id what).2.Coherent
    rw [heq]
    exact hc'.register hnone what
  | dispatch key outcome => exact hc.settle key (.reply outcome)
  | evict key => exact hc.settle key .dropped
  | clear => exact hc.clear

theorem Coherent.performAll (hc : c.Coherent) (ops : List Operation) :
    (c.performAll ops).Coherent := by
  induction ops generalizing c with
  | nil => exact hc
  | cons op rest ih => exact ih (hc.perform op)

/-- A registration under a key stands where its settlement says: in the table while it has none,
and among the settled ones with that settlement after. -/
def Stands (c : Correlator) (key : String) (ticket : Ticket) : Option Settlement → Prop
  | none => Table.get? key c.pending = some ticket
  | some v => c.settlement? ticket = some v

theorem stands_settle (hp : Table.get? key c.pending = some ticket) (k : String)
    (v : Settlement) :
    (c.settle k v).2.Stands key ticket (if k = key then some v else none) := by
  by_cases hk : k = key
  · rw [if_pos hk]
    show (c.settle k v).2.settlement? ticket = some v
    rw [settlement?_settle, hk, if_pos hp]
  · rw [if_neg hk]
    show Table.get? key (c.settle k v).2.pending = some ticket
    rw [get?_pending_settle, if_neg hk, hp]

/-- A pending registration is settled by an operation that settles its key, and by no other. -/
theorem Coherent.stands_perform (hc : c.Coherent)
    (hp : Table.get? key c.pending = some ticket) (op : Operation) :
    (c.perform op).Stands key ticket (op.settles? key) := by
  cases op with
  | register id what =>
    obtain ⟨c', rfl, -, hnone, heq⟩ := exists_register_of_none hc id what
    have hdropped := stands_settle hp id.key .dropped
    show (c.register id what).2.Stands key ticket (if id.key = key then some .dropped else none)
    rw [heq]
    by_cases hk : id.key = key
    · rw [if_pos hk] at hdropped ⊢
      exact (settlement?_register hnone what ticket).trans hdropped
    · rw [if_neg hk] at hdropped ⊢
      refine (get?_pending_register hnone what key).trans ?_
      rw [if_neg hk]
      exact hdropped
  | dispatch k outcome => exact stands_settle hp k (.reply outcome)
  | evict k => exact stands_settle hp k .dropped
  | clear => exact settlement?_clear_of_pending hp

/-- **What is settled stays settled as it is.** -/
theorem Coherent.perform_of_settled (hc : c.Coherent) {v : Settlement}
    (hs : c.settlement? ticket = some v) (op : Operation) :
    (c.perform op).settlement? ticket = some v := by
  have hnot : ∀ k, Table.get? k c.pending ≠ some ticket := by
    intro k hk
    rw [hc.unsettled hk] at hs
    contradiction
  have hsettle : ∀ (k : String) (v' : Settlement),
      (c.settle k v').2.settlement? ticket = some v := by
    intro k v'
    rw [settlement?_settle_of_ne (hnot k), hs]
  cases op with
  | register id what =>
    obtain ⟨c', rfl, -, hnone, heq⟩ := exists_register_of_none hc id what
    show (c.register id what).2.settlement? ticket = some v
    rw [heq, settlement?_register hnone, hsettle]
  | dispatch k outcome => exact hsettle k (.reply outcome)
  | evict k => exact hsettle k .dropped
  | clear =>
    show c.clear.2.settlement? ticket = some v
    rw [settlement?_clear, if_neg, hs]
    intro hmem
    obtain ⟨⟨k, _⟩, hentry, rfl⟩ := List.mem_map.mp hmem
    exact hnot k ((Table.mem_iff_get? hc.distinct).mp hentry)

/-! ### A registration through a history -/

theorem Coherent.performAll_of_settled (hc : c.Coherent) {v : Settlement}
    (hs : c.settlement? ticket = some v) (ops : List Operation) :
    (c.performAll ops).settlement? ticket = some v := by
  induction ops generalizing c with
  | nil => exact hs
  | cons op rest ih => exact ih (hc.perform op) (hc.perform_of_settled hs op)

/-- **A registration is settled by the first operation that settles its key**, and stays pending
until there is one. -/
theorem Coherent.stands_performAll (hc : c.Coherent)
    (hp : Table.get? key c.pending = some ticket) (ops : List Operation) :
    (c.performAll ops).Stands key ticket (settledBy? key ops) := by
  induction ops generalizing c with
  | nil => exact hp
  | cons op rest ih =>
    have hstep := hc.stands_perform hp op
    rw [settledBy?_cons]
    cases hv : op.settles? key with
    | none =>
      rw [hv] at hstep
      exact ih (hc.perform op) hstep
    | some v =>
      rw [hv] at hstep
      exact (hc.perform op).performAll_of_settled hstep rest

theorem Coherent.settlement?_performAll (hc : c.Coherent)
    (hp : Table.get? key c.pending = some ticket) (ops : List Operation) :
    (c.performAll ops).settlement? ticket = settledBy? key ops := by
  have hrun := hc.stands_performAll hp ops
  cases hv : settledBy? key ops with
  | none =>
    rw [hv] at hrun
    exact (hc.performAll ops).unsettled hrun
  | some v =>
    rw [hv] at hrun
    exact hrun

theorem Coherent.pending_performAll_iff (hc : c.Coherent)
    (hp : Table.get? key c.pending = some ticket) (ops : List Operation) (other : String) :
    Table.get? other (c.performAll ops).pending = some ticket ↔
      other = key ∧ settledBy? key ops = none := by
  have hrun := hc.stands_performAll hp ops
  constructor
  · intro hother
    have hnone : settledBy? key ops = none := by
      rw [← hc.settlement?_performAll hp ops]
      exact (hc.performAll ops).unsettled hother
    rw [hnone] at hrun
    exact ⟨(hc.performAll ops).key_eq hother hrun, hnone⟩
  · rintro ⟨rfl, hnone⟩
    rw [hnone] at hrun
    exact hrun

/-! ### The table through a history -/

theorem keys_settle (c : Correlator) (k : String) (v : Settlement) :
    Table.keys (c.settle k v).2.pending =
      (Table.keys c.pending).filter fun key => (if k = key then some v else none).isNone := by
  have hpending : (c.settle k v).2.pending = Table.erase k c.pending := by
    rw [settle]
    split
    · next hnone => exact (Table.erase_of_none hnone).symm
    · rfl
  rw [hpending, Table.erase_eq_filter, Table.keys, Table.keys, List.filter_map]
  congr 1
  apply List.filter_congr
  intro e _
  by_cases he : e.1 = k
  · simp [he]
  · simp [he, Ne.symm he]

/-- An operation leaves the keys that it does not settle, and adds the one that it registers. -/
theorem keys_perform (hc : c.Coherent) (op : Operation) :
    (Table.keys (c.perform op).pending).Perm
      (((Table.keys c.pending).filter fun key => (op.settles? key).isNone) ++
        op.registers?.toList) := by
  cases op with
  | register id what =>
    obtain ⟨c', rfl, -, hnone, heq⟩ := exists_register_of_none hc id what
    show (Table.keys (c.register id what).2.pending).Perm _
    rw [heq, register_of_none hnone, Table.set_of_none hnone]
    show (id.key :: Table.keys (c.settle id.key .dropped).2.pending).Perm _
    rw [keys_settle]
    exact (List.perm_append_singleton ..).symm
  | dispatch k outcome =>
    show (Table.keys (c.settle k (.reply outcome)).2.pending).Perm _
    rw [keys_settle]
    simp [Operation.registers?, Operation.settles?]
  | evict k =>
    show (Table.keys (c.settle k .dropped).2.pending).Perm _
    rw [keys_settle]
    simp [Operation.registers?, Operation.settles?]
  | clear => simp [perform, Table.keys, Operation.registers?, Operation.settles?]

/-- **The table holds what was pending before the history and is not settled by it, and the
registrations of the history that are not settled.** -/
theorem keys_performAll (hc : c.Coherent) (ops : List Operation) :
    (Table.keys (c.performAll ops).pending).Perm
      (((Table.keys c.pending).filter fun key => (settledBy? key ops).isNone) ++
        unsettled ops) := by
  induction ops generalizing c with
  | nil => simp [unsettled]
  | cons op rest ih =>
    have hkept : ((Table.keys c.pending).filter fun key => (op.settles? key).isNone).filter
          (fun key => (settledBy? key rest).isNone) =
        (Table.keys c.pending).filter fun key => (settledBy? key (op :: rest)).isNone := by
      rw [List.filter_filter]
      apply List.filter_congr
      intro key _
      rw [settledBy?_cons]
      cases op.settles? key <;> simp
    have hadded : op.registers?.toList.filter (fun key => (settledBy? key rest).isNone) =
        (op.registers?.filter fun key => (settledBy? key rest).isNone).toList := by
      cases op.registers? with
      | none => rfl
      | some key =>
        rw [Option.toList_some, Option.filter_some, List.filter_cons, List.filter_nil]
        split <;> rfl
    have hstep := (keys_perform hc op).filter fun key => (settledBy? key rest).isNone
    rw [List.filter_append, hkept, hadded] at hstep
    refine (ih (hc.perform op)).trans ((hstep.append_right _).trans ?_)
    rw [List.append_assoc]
    rfl

theorem keys_performAll_empty (ops : List Operation) :
    (Table.keys (empty.performAll ops).pending).Perm (unsettled ops) :=
  keys_performAll coherent_empty ops

/-- The number of pending registrations is the number of those that nothing settled. -/
theorem size_performAll_empty (ops : List Operation) :
    (empty.performAll ops).size = (unsettled ops).length := by
  rw [← (keys_performAll_empty ops).length_eq]
  exact (List.length_map _).symm

theorem contains_performAll_empty (ops : List Operation) (key : String) :
    (empty.performAll ops).contains key = true ↔ key ∈ unsettled ops := by
  rw [← (keys_performAll_empty ops).mem_iff, contains, Table.has_eq_true_iff,
    ← not_iff_not, ← Table.get?_eq_none_iff, Option.eq_none_iff_forall_ne_some, not_exists]

/-! ### What a registration comes to -/

/-- A registration puts its ticket into the table, under its key. -/
theorem get?_pending_register_self (hc : c.Coherent) (id : RequestId) (what : String) :
    Table.get? id.key (c.register id what).2.pending = some (c.register id what).1.ticket := by
  obtain ⟨c', -, -, hnone, heq⟩ := exists_register_of_none hc id what
  rw [heq, get?_pending_register hnone, if_pos rfl, ticket_register]

/-- **Every registration is settled exactly once.** After any history, and whatever its id, a
registration is in the table, under its key, until the first later operation that dispatches or
evicts the key, clears the table or registers the key again. Its waiter is told what that operation
says, however late it asks and whatever comes after, and runs into its deadline only if there was no
such operation. A dispatch and an evict tell whether the key is pending and touch no other
registration, a clear tells how many registrations there are, and that number is the number of those
that nothing has settled. A number has the key of the string that it is written as. -/
theorem each_registration_settled_once (earlier : List Operation) (id : RequestId)
    (what : String) :
    let before := empty.performAll earlier
    let waiter := (before.register id what).1
    let registered := (before.register id what).2
    -- the registration and its waiter
    (∀ (later : List Operation) (key : String),
      Table.get? key (registered.performAll later).pending = some waiter.ticket ↔
        key = id.key ∧ settledBy? id.key later = none) ∧
    (∀ later : List Operation,
      (registered.performAll later).settlement? waiter.ticket = settledBy? id.key later) ∧
    (∀ (later : List Operation) (h : Handler) (s : Settings) (now deadline : Duration),
      ({ h with correlator := registered.performAll later } : Handler).replyResult s now waiter
          deadline = waited s what deadline now (settledBy? id.key later)) ∧
    -- the table
    (∀ (key : String) (outcome : Outcome),
      (before.dispatch key outcome).1 = before.contains key ∧
      (∀ other, Table.get? other (before.dispatch key outcome).2.pending =
        if key = other then none else Table.get? other before.pending) ∧
      ∀ ticket, (before.dispatch key outcome).2.settlement? ticket =
        if Table.get? key before.pending = some ticket then some (.reply outcome)
        else before.settlement? ticket) ∧
    (∀ key : String,
      (before.evict key).1 = before.contains key ∧
      (∀ other, Table.get? other (before.evict key).2.pending =
        if key = other then none else Table.get? other before.pending) ∧
      ∀ ticket, (before.evict key).2.settlement? ticket =
        if Table.get? key before.pending = some ticket then some .dropped
        else before.settlement? ticket) ∧
    (∀ key : String, before.contains key = true ↔ key ∈ unsettled earlier) ∧
    before.clear.1 = before.size ∧ before.clear.2.size = 0 ∧
    before.size = (unsettled earlier).length ∧
    ∀ n : UInt64, (RequestId.number n).key = (RequestId.string (toString n.toNat)).key := by
  intro before waiter registered
  have hbefore : before.Coherent := coherent_empty.performAll earlier
  have hregistered : registered.Coherent := hbefore.perform (.register id what)
  have hpending : Table.get? id.key registered.pending = some waiter.ticket :=
    get?_pending_register_self hbefore id what
  refine ⟨fun later key => hregistered.pending_performAll_iff hpending later key,
    fun later => hregistered.settlement?_performAll hpending later, ?_, ?_, ?_,
    contains_performAll_empty earlier, rfl, rfl, size_performAll_empty earlier, fun _ => rfl⟩
  · intro later h s now deadline
    rw [Handler.replyResult_eq, hregistered.settlement?_performAll hpending later]
    rfl
  · intro key outcome
    exact ⟨fst_settle before key _, fun other => get?_pending_settle before key other _,
      fun ticket => settlement?_settle before key _ ticket⟩
  · intro key
    exact ⟨fst_settle before key _, fun other => get?_pending_settle before key other _,
      fun ticket => settlement?_settle before key _ ticket⟩

/-- A number takes the key of the string that it is written as. -/
def numberAfterString : List Operation :=
  [.register (.string "5") "subscribe", .register (.number 5) "request",
    .dispatch "5" (.ok (.str "x")), .evict "5"]

/-- The string is dropped, and the number is told the reply, however late it asks. -/
theorem number_takes_key_of_string :
    let told (waiter : PendingReply) :=
      ({ Handler.initial ⟨0⟩ with correlator := empty.performAll numberAfterString } :
        Handler).replyResult .standard (.ofSeconds 3600) waiter .zero
    let string := empty.register (.string "5") "subscribe"
    told string.1 = some (.error .noResponse) ∧
      told (string.2.register (.number 5) "request").1 = some (.ok (.str "x")) ∧
      (empty.performAll numberAfterString).size = 0 := by
  intro told string
  obtain ⟨-, -, hstring, -⟩ :=
    each_registration_settled_once [] (.string "5") "subscribe"
  obtain ⟨-, -, hnumber, -⟩ :=
    each_registration_settled_once (numberAfterString.take 1) (.number 5) "request"
  exact ⟨hstring (numberAfterString.drop 1) (.initial ⟨0⟩) .standard (.ofSeconds 3600) .zero,
    hnumber (numberAfterString.drop 2) (.initial ⟨0⟩) .standard (.ofSeconds 3600) .zero, rfl⟩

end Correlator

end FeedLink.Socket
