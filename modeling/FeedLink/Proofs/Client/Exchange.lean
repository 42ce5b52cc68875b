import FeedLink.Client.Intents
import FeedLink.Client.Monitoring

/-!
# Running an exchange

An exchange that consists of several goes on with the second only if the first succeeded, and it is
left in the state in which the last one left it. An operation of a client begins with its rules, and
these change nothing: the first one that is broken decides how the operation ends, and if none is
broken it is as if they were not there.

## Main definitions

* `HandlerError.IsRefusal` — an operation was refused before anything was sent
* `Rule` — a rule of an operation, and how the operation is refused that breaks it
* `Rule.broken?` — the first rule that is broken

## Main results

* `Exchange.run_bind_of_ok`, `Exchange.run_bind_of_error` — two exchanges, one after the other
* `Client.run_statusSubscription_of_some`, `Client.run_statusSubscription_of_none` — looking up the
  id of the status of transactions
* `Rule.run_check_bind` — an exchange behind a rule
-/

namespace FeedLink

namespace Exchange

variable {σ α β : Type} {x : Exchange σ α} {f : α → Exchange σ β} {s s' : σ} {a : α}
  {e : HandlerError}

theorem run_bind_of_ok (hrun : x.run s = (.ok a, s')) : (x >>= f).run s = (f a).run s' := by
  show ExceptT.bindCont f (x.run s).1 (x.run s).2 = (f a).run s'
  rw [hrun]
  rfl

theorem run_bind_of_error (hrun : x.run s = (.error e, s')) :
    (x >>= f).run s = (.error e, s') := by
  show ExceptT.bindCont f (x.run s).1 (x.run s).2 = (.error e, s')
  rw [hrun]
  rfl

end Exchange

namespace Client

variable {σ : Type} {c : Client σ} {s : σ}

theorem run_statusSubscription_of_some {id : SubscriptionId}
    (hid : c.subscriptionId? s .txStatus = some id) : c.statusSubscription.run s = (.ok id, s) := by
  have hget : (get : Exchange σ σ).run s = (.ok s, s) := rfl
  rw [statusSubscription, Exchange.run_bind_of_ok hget, hid]
  rfl

theorem run_statusSubscription_of_none (hid : c.subscriptionId? s .txStatus = none) :
    c.statusSubscription.run s = (.error (.notSubscribed .txStatus), s) := by
  have hget : (get : Exchange σ σ).run s = (.ok s, s) := rfl
  rw [statusSubscription, Exchange.run_bind_of_ok hget, hid]
  rfl

end Client

/-- How an operation is refused before anything is sent. -/
inductive HandlerError.IsRefusal : HandlerError → Prop
  | unsupported (what : String) : IsRefusal (.unsupported what)
  | invalidParams (reason : String) : IsRefusal (.invalidParams reason)
  | notSubscribed (feed : Feed) : IsRefusal (.notSubscribed feed)

/-- A rule of an operation, and how the operation is refused that breaks it. -/
structure Rule where
  kept : Bool
  refusal : HandlerError
  isRefusal : refusal.IsRefusal

namespace Rule

variable {σ α : Type} {x : Exchange σ α} {rule : Rule} {s : σ}

/-- The first of some rules that is broken. -/
def broken? (rules : List Rule) : Option Rule := rules.find? (!·.kept)

/-- Refuses whoever breaks a rule. -/
def check (rule : Rule) : Exchange σ Unit := if rule.kept then pure () else throw rule.refusal

theorem run_check_bind :
    (rule.check >>= fun _ => x).run s =
      if rule.kept then x.run s else (.error rule.refusal, s) := by
  cases hkept : rule.kept with
  | true =>
    have hcheck : (rule.check : Exchange σ Unit).run s = (.ok (), s) := by
      rw [check, hkept]
      rfl
    rw [Exchange.run_bind_of_ok hcheck]
    rfl
  | false =>
    have hcheck : (rule.check : Exchange σ Unit).run s = (.error rule.refusal, s) := by
      rw [check, hkept]
      rfl
    rw [Exchange.run_bind_of_error hcheck]
    rfl

/-- A rule that is written as a condition. -/
theorem run_ite_throw {p : Prop} [Decidable p] (hkept : rule.kept = !decide p) :
    (if p then throw rule.refusal else x : Exchange σ α).run s =
      (rule.check >>= fun _ => x).run s := by
  rw [run_check_bind, hkept]
  by_cases hp : p <;> simp [hp]
  rfl

end Rule

end FeedLink
