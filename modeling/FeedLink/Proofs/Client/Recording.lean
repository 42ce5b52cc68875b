import FeedLink.Client.Recording
import FeedLink.Proofs.Client.Exchange
import Mathlib.Data.List.Basic

/-!
# What reaches a recording handler

A recording handler tells which calls an exchange makes. `Makes` says that an exchange makes certain
calls in their order and no others, whatever the handler has been planned to answer: it goes on as
long as its calls succeed, and ends with the error of the first that fails. `Obeys` says that an
exchange does so behind rules: where one of them is broken, nothing reaches the handler.

Both are put together from the pieces of the exchange: `Makes.bind` for two exchanges, one after the
other, `Obeys.check_of_kept` for a rule in front of an exchange.

## Main definitions

* `Planned.error?` — the error with which a call ends that is planned to fail
* `Recorder.Makes` — an exchange makes these calls
* `Recorder.Obeys` — an exchange has these rules, and then makes these calls

## Main results

* `Recorder.makes_perform`, `Recorder.makes_request` — one call
* `Recorder.Makes.bind` — the calls of two exchanges, one after the other
* `Recorder.Obeys.check_of_kept` — a rule is put in front
-/

namespace FeedLink

open Json

variable {α β : Type}

/-- The error with which a call ends that is planned to fail. -/
def Planned.error? : Planned → Option HandlerError
  | .fails e => some e
  | .asUsual | .returns _ => none

namespace Recorder

/-- An exchange makes these calls, in this order and no others: all of them if none is planned to
fail, and else those up to the first that is, with whose error it ends. -/
structure Makes (steps : List Asked) (x : Exchange Recorder α) (r : Recorder) : Prop where
  all : (∀ plan ∈ r.planned.take steps.length, plan.error? = none) →
    ∃ a r', x.run r = (.ok a, r') ∧ r'.asked = r.asked ++ steps ∧
      r'.planned = r.planned.drop steps.length
  upTo {before after : List Planned} {e : HandlerError} :
    r.planned = before ++ .fails e :: after → before.length < steps.length →
      (∀ plan ∈ before, plan.error? = none) →
    ∃ r', x.run r = (.error e, r') ∧ r'.asked = r.asked ++ steps.take (before.length + 1)

/-- An exchange has these rules, and then makes these calls. The first rule that is broken decides
how the exchange ends, and nothing reaches the handler. -/
structure Obeys (rules : List Rule) (steps : List Asked) (x : Exchange Recorder α) (r : Recorder) :
    Prop where
  refused {rule : Rule} : Rule.broken? rules = some rule → x.run r = (.error rule.refusal, r)
  made : Rule.broken? rules = none → Makes steps x r

variable {steps steps' : List Asked} {x : Exchange Recorder α} {f : α → Exchange Recorder β}
  {r : Recorder} {rule : Rule} {rules : List Rule}

/-! ### Exchanges that make no call, or one -/

theorem makes_pure (a : α) : Makes [] (pure a) r where
  all _ := ⟨a, r, rfl, (List.append_nil _).symm, rfl⟩
  upTo _ hlength _ := absurd hlength (Nat.not_lt_zero _)

/-- What a recording handler knows once it was asked something. -/
def noted (asked : Asked) (r : Recorder) : Recorder :=
  { r with asked := r.asked ++ [asked], planned := r.planned.tail }

theorem run_ask_bind (asked : Asked) (f : Planned → Exchange Recorder α) (r : Recorder) :
    (ask asked >>= f).run r = (f (r.planned.head?.getD .asUsual)).run (r.noted asked) :=
  Exchange.run_bind_of_ok rfl

/-- An exchange that asks one thing, and fails if and only if that is planned to fail. -/
theorem makes_ask {asked : Asked} {f : Planned → Exchange Recorder α}
    (hfails : ∀ e r, (f (.fails e)).run r = (.error e, r))
    (hsucceeds : ∀ plan r, plan.error? = none → ∃ a r', (f plan).run r = (.ok a, r') ∧
      r'.asked = r.asked ∧ r'.planned = r.planned) :
    Makes [asked] (ask asked >>= f) r where
  all hplans := by
    have hplan : (r.planned.head?.getD .asUsual).error? = none := by
      cases hplanned : r.planned with
      | nil => rfl
      | cons plan rest => exact hplans plan (by simp [hplanned])
    obtain ⟨a, r', hrun, hasked, hleft⟩ := hsucceeds _ (r.noted asked) hplan
    refine ⟨a, r', (run_ask_bind asked f r).trans hrun, hasked, hleft.trans ?_⟩
    exact List.drop_one.symm
  upTo {before after e} hplanned hlength _ := by
    obtain rfl : before = [] := List.length_eq_zero_iff.mp (Nat.lt_one_iff.mp hlength)
    refine ⟨r.noted asked, ?_, rfl⟩
    rw [run_ask_bind, hplanned]
    exact hfails e _

theorem makes_perform {asked : Asked} {change : Recorder → Recorder}
    (hasked : ∀ r, (change r).asked = r.asked) (hplanned : ∀ r, (change r).planned = r.planned) :
    Makes [asked] (perform asked change) r := by
  refine makes_ask (fun e r => rfl) fun plan r hplan => ?_
  cases plan with
  | fails e => contradiction
  | asUsual => exact ⟨(), change r, rfl, hasked r, hplanned r⟩
  | returns v => exact ⟨(), change r, rfl, hasked r, hplanned r⟩

/-- A call that returns nothing is noted, and makes its change unless it is planned to fail. -/
theorem run_perform (asked : Asked) (change : Recorder → Recorder) (r : Recorder) :
    (perform asked change).run r =
      match (r.planned.head?.getD .asUsual).error? with
      | some e => (.error e, r.noted asked)
      | none => (.ok (), change (r.noted asked)) := by
  rw [perform, run_ask_bind]
  cases r.planned.head?.getD .asUsual <;> rfl

theorem eq_of_run_perform {asked : Asked} {change : Recorder → Recorder} {r r' : Recorder}
    (hrun : (perform asked change).run r = (.ok (), r')) : r' = change (r.noted asked) := by
  rw [run_perform] at hrun
  split at hrun
  · have hfailed : Except.error _ = Except.ok () := congrArg Prod.fst hrun
    contradiction
  · exact (congrArg Prod.snd hrun).symm

theorem eq_of_run_perform_error {asked : Asked} {change : Recorder → Recorder} {r r' : Recorder}
    {e : HandlerError} (hrun : (perform asked change).run r = (.error e, r')) :
    r' = r.noted asked := by
  rw [run_perform] at hrun
  split at hrun
  · exact (congrArg Prod.snd hrun).symm
  · have hsucceeded : Except.ok () = Except.error e := congrArg Prod.fst hrun
    contradiction

section Handler

variable (kind : EndpointKind) (feed : Feed) (method : String) (params : Value)
  (callback : Callback)

theorem makes_subscribe :
    Makes [.subscribe feed params] ((handler kind).subscribe feed params callback) r :=
  makes_perform (fun _ => rfl) fun _ => rfl

theorem makes_unsubscribe : Makes [.unsubscribe feed] ((handler kind).unsubscribe feed) r :=
  makes_perform (fun _ => rfl) fun _ => rfl

theorem makes_request : Makes [.request method params] ((handler kind).request method params) r :=
  by
  refine makes_ask (fun e r => rfl) fun plan r hplan => ?_
  cases plan with
  | fails e => contradiction
  | asUsual => exact ⟨_, r, rfl, rfl, rfl⟩
  | returns v => exact ⟨v, r, rfl, rfl, rfl⟩

end Handler

/-! ### Exchanges one after the other -/

/-- **The calls of two exchanges, one after the other.** The plans for the second are what the first
has left. -/
theorem Makes.bind (hfirst : Makes steps x r)
    (hsecond : ∀ a r', x.run r = (.ok a, r') → Makes steps' (f a) r') :
    Makes (steps ++ steps') (x >>= f) r where
  all hplans := by
    rw [List.length_append, List.take_add] at hplans
    obtain ⟨a, r₁, hrun, hasked, hplanned⟩ :=
      hfirst.all fun plan hmem => hplans plan (List.mem_append_left _ hmem)
    obtain ⟨b, r₂, hrun', hasked', hplanned'⟩ := (hsecond a r₁ hrun).all fun plan hmem =>
      hplans plan (List.mem_append_right _ (hplanned ▸ hmem))
    refine ⟨b, r₂, (Exchange.run_bind_of_ok hrun).trans hrun', ?_, ?_⟩
    · rw [hasked', hasked, List.append_assoc]
    · rw [hplanned', hplanned, List.drop_drop, List.length_append]
  upTo {before after e} hplanned hlength hbefore := by
    by_cases hfails : before.length < steps.length
    · -- the first exchange fails
      obtain ⟨r₁, hrun, hasked⟩ := hfirst.upTo hplanned hfails hbefore
      refine ⟨r₁, Exchange.run_bind_of_error hrun, hasked.trans ?_⟩
      rw [List.take_append_of_le_length hfails]
    · have hle : steps.length ≤ before.length := Nat.le_of_not_lt hfails
      have hearlier : r.planned.take steps.length = before.take steps.length := by
        rw [hplanned, List.take_append_of_le_length hle]
      obtain ⟨a, r₁, hrun, hasked, hleft⟩ :=
        hfirst.all fun plan hmem => hbefore plan (List.mem_of_mem_take (hearlier ▸ hmem))
      rw [hplanned, List.drop_append_of_le_length hle] at hleft
      have hlength' : (before.drop steps.length).length < steps'.length := by
        rw [List.length_append] at hlength
        rw [List.length_drop]
        omega
      obtain ⟨r₂, hrun', hasked'⟩ := (hsecond a r₁ hrun).upTo hleft hlength' fun plan hmem =>
        hbefore plan (List.mem_of_mem_drop hmem)
      refine ⟨r₂, (Exchange.run_bind_of_ok hrun).trans hrun', ?_⟩
      have hcount : before.length + 1 - steps.length = before.length - steps.length + 1 := by omega
      rw [hasked', hasked, List.append_assoc, List.length_drop, List.take_append, hcount,
        List.take_of_length_le (Nat.le_succ_of_le hle)]

theorem Makes.bind_pure (hmakes : Makes steps x r) (g : α → β) :
    Makes steps (x >>= fun a => pure (g a)) r := by
  have hboth := hmakes.bind fun a r' _ => makes_pure (r := r') (g a)
  rwa [List.append_nil] at hboth

/-! ### Exchanges behind rules -/

theorem Makes.obeys (hmakes : Makes steps x r) : Obeys [] steps x r where
  refused hbroken := nomatch hbroken
  made _ := hmakes

/-- The same runs make the same calls. -/
theorem Obeys.congr {y : Exchange Recorder α} (hobeys : Obeys rules steps y r)
    (hrun : x.run r = y.run r) : Obeys rules steps x r where
  refused hbroken := hrun.trans (hobeys.refused hbroken)
  made hkept := by
    obtain ⟨all, upTo⟩ := hobeys.made hkept
    exact ⟨hrun ▸ all, hrun ▸ upTo⟩

/-- **A rule is put in front.** What comes behind it is only reached if the rule is kept. -/
theorem Obeys.check_of_kept (hobeys : rule.kept = true → Obeys rules steps x r) :
    Obeys (rule :: rules) steps (rule.check >>= fun _ => x) r := by
  cases hkept : rule.kept with
  | true =>
    have hrun : (rule.check >>= fun _ => x).run r = x.run r := by
      rw [Rule.run_check_bind, hkept, if_pos rfl]
    have hbroken : Rule.broken? (rule :: rules) = Rule.broken? rules := by
      rw [Rule.broken?, List.find?_cons_of_neg (by simp [hkept])]
      rfl
    have hbehind := (hobeys hkept).congr hrun
    exact ⟨fun h => hbehind.refused (hbroken ▸ h), fun h => hbehind.made (hbroken ▸ h)⟩
  | false =>
    have hbroken : Rule.broken? (rule :: rules) = some rule := by
      rw [Rule.broken?, List.find?_cons_of_pos (by simp [hkept])]
    constructor
    · intro rule' hrule'
      obtain rfl := Option.some.inj (hbroken.symm.trans hrule')
      rw [Rule.run_check_bind, hkept, if_neg Bool.false_ne_true]
    · intro hnone
      rw [hbroken] at hnone
      contradiction

theorem Obeys.check (hobeys : Obeys rules steps x r) :
    Obeys (rule :: rules) steps (rule.check >>= fun _ => x) r :=
  Obeys.check_of_kept fun _ => hobeys

theorem Obeys.bind_pure (hobeys : Obeys rules steps x r) (g : α → β) :
    Obeys rules steps (x >>= fun a => pure (g a)) r where
  refused hbroken := Exchange.run_bind_of_error (hobeys.refused hbroken)
  made hkept := (hobeys.made hkept).bind_pure g

end Recorder

end FeedLink
