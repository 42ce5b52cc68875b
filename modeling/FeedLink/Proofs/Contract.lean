import FeedLink.Call
import FeedLink.Notification
import FeedLink.Table
import FeedLink.Proofs.Json.RoundTrip

/-!
# The contract of a handler

What callers may rely on does not depend on what is spoken to the server. `Contract` is the handler
that a caller has in mind: it holds feeds, each for a callback, until it is closed, and it answers
at once. A script says what is asked of it, one thing after the other.

A `Binding` takes several steps for one thing that is asked, and what happens in between is up to
the world outside. Its plays are the runs in which the world does its part: nothing is asked before
the last call has returned, and the server grants what it is asked for. The result of a call is owed
from the step in which the call begins, where the contract has given it already, to the step in
which it returns; apart from what is owed, a binding that keeps the contract is always where the
contract is.

## Main definitions

* `Contract.run` — what the contract makes of a script
* `Binding.Plays` — a run of a binding, the script that it plays, and what is observed of it
* `Binding.Simulation` — the binding is where the contract is, apart from what it owes
* `Binding.Keeps` — the binding keeps the contract, and can always go on

## Main results

* `Binding.Simulation.play` — a play leads to where the contract is led by its script
* `Binding.Simulation.keeps` — a binding that simulates the contract keeps it
-/

namespace FeedLink

open Json

/-- What is asked of a handler. -/
inductive Ask where
  | subscribe (feed : Feed) (params : Value) (callback : Callback)
  | unsubscribe (feed : Feed)
  | close
  /-- The server has a payload for whoever holds a feed. -/
  | push (feed : Feed) (payload : Value)

/-- What can be observed of a handler. -/
inductive Observation where
  | returned (result : CallResult)
  | notified (callback : Callback) (delivery : Delivery)
deriving DecidableEq

/-- The handler that a caller has in mind. -/
structure Contract where
  closed : Bool
  /-- The feeds that are held, with their callbacks. -/
  held : Table Feed Callback

namespace Contract

def initial : Contract := ⟨false, []⟩

variable (d : Decoders)

/-- What is observed of one thing that is asked, and what it leaves. -/
def step (c : Contract) : Ask → Contract × List Observation
  | .subscribe feed _ callback =>
    if c.closed then (c, [.returned (.error .notConnected)])
    else if Table.has feed c.held then (c, [.returned (.error (.alreadySubscribed feed))])
    else ({ c with held := Table.set feed callback c.held }, [.returned (.ok none)])
  | .unsubscribe feed => ({ c with held := Table.erase feed c.held }, [.returned (.ok none)])
  | .close => (⟨true, []⟩, [.returned (.ok none)])
  | .push feed payload =>
    match Table.get? feed c.held with
    | some callback => (c, [.notified callback (d.decode feed payload)])
    | none => (c, [])

/-- What is observed of a script, and what it leaves. -/
def run : Contract → List Ask → Contract × List Observation
  | c, [] => (c, [])
  | c, ask :: script =>
    let (c, observed) := c.step d ask
    let (c, more) := run c script
    (c, observed ++ more)

/-- May this be asked for? A push is for a feed that is held, and its payload is one that a text can
carry, the fields of its objects in order. -/
def Admits (c : Contract) : Ask → Prop
  | .push feed payload =>
    (∃ callback, Table.get? feed c.held = some callback) ∧ payload.sorted = payload ∧
      payload.fits (Document.maxLevels - 2) = true
  | .subscribe .. | .unsubscribe _ | .close => True

/-- May the script be asked for? -/
def AdmitsAll : Contract → List Ask → Prop
  | _, [] => True
  | c, ask :: script => c.Admits ask ∧ AdmitsAll (c.step d ask).1 script

variable {d} {c : Contract} {feed : Feed} {callback : Callback}

theorem step_subscribe_of_closed (hclosed : c.closed = true) (params : Value) :
    c.step d (.subscribe feed params callback) = (c, [.returned (.error .notConnected)]) :=
  if_pos hclosed

theorem step_subscribe_of_held (hopen : c.closed = false) (hheld : Table.has feed c.held = true)
    (params : Value) : c.step d (.subscribe feed params callback) =
      (c, [.returned (.error (.alreadySubscribed feed))]) := by
  simp only [step, hopen, hheld, if_true, Bool.false_eq_true, if_false]

theorem step_subscribe_of_free (hopen : c.closed = false) (hfree : Table.has feed c.held = false)
    (params : Value) : c.step d (.subscribe feed params callback) =
      ({ c with held := Table.set feed callback c.held }, [.returned (.ok none)]) := by
  simp only [step, hopen, hfree, Bool.false_eq_true, if_false]

theorem step_push_of_held (hheld : Table.get? feed c.held = some callback) (payload : Value) :
    c.step d (.push feed payload) = (c, [.notified callback (d.decode feed payload)]) := by
  simp only [step, hheld]

variable (d)

theorem run_single (c : Contract) (ask : Ask) : c.run d [ask] = c.step d ask := by
  simp only [run, List.append_nil]

theorem run_append (c : Contract) (script more : List Ask) :
    c.run d (script ++ more) =
      (((c.run d script).1.run d more).1,
        (c.run d script).2 ++ ((c.run d script).1.run d more).2) := by
  induction script generalizing c with
  | nil => rfl
  | cons ask rest ih => simp only [List.cons_append, run, ih, List.append_assoc]

/-- Pushes for a feed that is held go to its callback, in turn. -/
theorem run_pushes {d : Decoders} (hheld : Table.get? feed c.held = some callback)
    (payloads : List Value) :
    c.run d (payloads.map (.push feed)) =
      (c, payloads.map fun p => .notified callback (d.decode feed p)) := by
  induction payloads with
  | nil => rfl
  | cons payload rest ih =>
    simp only [List.map_cons, run, step_push_of_held hheld, ih, List.singleton_append]

end Contract

/-- A machine that can be asked for what the contract can be asked for. -/
structure Binding (σ ε : Type) where
  step : σ → Duration → ε → σ × List Observation
  /-- The world does its part with this event, and asks for this. -/
  Does : σ → Duration → ε → List Ask → Prop
  /-- No call waits. -/
  Idle : σ → Prop

namespace Binding

variable {σ ε : Type} {b : Binding σ ε} {d : Decoders} {h h' h'' start : σ}
  {events more : List (Duration × ε)} {script asks : List Ask}
  {observed rest owed : List Observation} {c : Contract}

/-- The world does its part along a run, which plays a script. -/
inductive Plays (b : Binding σ ε) :
    σ → List (Duration × ε) → List Ask → List Observation → σ → Prop
  | nil (h : σ) : Plays b h [] [] [] h
  | cons {h h' : σ} {now : Duration} {event : ε} {events : List (Duration × ε)}
      {asks script : List Ask} {observed : List Observation}
      (does : b.Does h now event asks)
      (plays : Plays b (b.step h now event).1 events script observed h') :
      Plays b h ((now, event) :: events) (asks ++ script) ((b.step h now event).2 ++ observed) h'

theorem Plays.append (hplays : b.Plays h events script observed h')
    (hmore : b.Plays h' more asks rest h'') :
    b.Plays h (events ++ more) (script ++ asks) (observed ++ rest) h'' := by
  induction hplays with
  | nil => exact hmore
  | cons hdoes _ ih =>
    rw [List.append_assoc, List.append_assoc]
    exact .cons hdoes (ih hmore)

/-- One step in which the world does its part. -/
theorem Plays.single {now : Duration} {event : ε} (hdoes : b.Does h now event asks) :
    b.Plays h [(now, event)] asks (b.step h now event).2 (b.step h now event).1 := by
  have hplays := Plays.cons hdoes (.nil _)
  rwa [List.append_nil, List.append_nil] at hplays

/-- The binding keeps the contract. What has been observed is what the script makes of the contract,
up to what a call owes that waits. Every call can be brought to return, and every script that may be
asked for can be played. -/
structure Keeps (b : Binding σ ε) (d : Decoders) (start : σ) : Prop where
  observed : ∀ {events script observed h}, b.Plays start events script observed h →
    ∃ owed, (Contract.initial.run d script).2 = observed ++ owed ∧ (b.Idle h → owed = [])
  returns : ∀ {events script observed h}, b.Plays start events script observed h →
    ∃ more rest h', b.Plays start (events ++ more) script (observed ++ rest) h' ∧ b.Idle h'
  plays : ∀ {script}, Contract.initial.AdmitsAll d script →
    ∃ events observed h, b.Plays start events script observed h ∧ b.Idle h

/-- The binding is where the contract is, apart from what it owes. -/
structure Simulation (b : Binding σ ε) (d : Decoders)
    (Follows : Contract → List Observation → σ → Prop) : Prop where
  /-- Each step in which the world does its part keeps it there. -/
  step : ∀ {c owed h now event asks}, Follows c owed h → b.Does h now event asks →
    ∃ owed', Follows (c.run d asks).1 owed' (b.step h now event).1 ∧
      owed ++ (c.run d asks).2 = (b.step h now event).2 ++ owed'
  /-- Nothing is owed where no call waits. -/
  settled : ∀ {c owed h}, Follows c owed h → b.Idle h → owed = []
  /-- A call that waits can be brought to return. -/
  returns : ∀ {c owed h}, Follows c owed h →
    ∃ events observed h', b.Plays h events [] observed h' ∧ b.Idle h'
  /-- What may be asked for can be asked for where no call waits. -/
  begins : ∀ {c h ask}, Follows c [] h → b.Idle h → c.Admits ask →
    ∃ now event, b.Does h now event [ask]

namespace Simulation

variable {Follows : Contract → List Observation → σ → Prop}

/-- **A play leads to where the contract is led by its script.** -/
theorem play (hsim : b.Simulation d Follows) (hplays : b.Plays h events script observed h')
    (hfollows : Follows c owed h) :
    ∃ owed', Follows (c.run d script).1 owed' h' ∧
      owed ++ (c.run d script).2 = observed ++ owed' := by
  induction hplays generalizing c owed with
  | nil => exact ⟨owed, hfollows, List.append_nil owed⟩
  | @cons h h' now event events asks script observed hdoes hplays ih =>
    obtain ⟨owed₁, hfollows₁, hstep⟩ := hsim.step hfollows hdoes
    obtain ⟨owed₂, hfollows₂, hrest⟩ := ih hfollows₁
    rw [Contract.run_append]
    refine ⟨owed₂, hfollows₂, ?_⟩
    rw [← List.append_assoc, hstep, List.append_assoc, hrest, List.append_assoc]

/-- A script that may be asked for can be played, and every call of it returns. -/
theorem exists_play (hsim : b.Simulation d Follows) (hfollows : Follows c [] h) (hidle : b.Idle h)
    (hadmits : c.AdmitsAll d script) :
    ∃ events observed h', b.Plays h events script observed h' ∧ b.Idle h' := by
  induction script generalizing c h with
  | nil => exact ⟨[], [], h, .nil h, hidle⟩
  | cons ask script ih =>
    obtain ⟨hask, hscript⟩ := hadmits
    obtain ⟨now, event, hdoes⟩ := hsim.begins hfollows hidle hask
    obtain ⟨owed₁, hfollows₁, -⟩ := hsim.step hfollows hdoes
    obtain ⟨more, rest, h₂, hreturns, hidle₂⟩ := hsim.returns hfollows₁
    obtain ⟨owed₂, hfollows₂, -⟩ := hsim.play hreturns hfollows₁
    obtain rfl := hsim.settled hfollows₂ hidle₂
    obtain ⟨events, observed, h₃, hplays, hidle₃⟩ := ih hfollows₂ hidle₂ hscript
    exact ⟨_, _, h₃, (Plays.single hdoes).append (hreturns.append hplays), hidle₃⟩

/-- **A binding that simulates the contract keeps it.** -/
theorem keeps (hsim : b.Simulation d Follows) (hstart : Follows .initial [] start)
    (hidle : b.Idle start) : b.Keeps d start where
  observed hplays := by
    obtain ⟨owed, hfollows, hobserved⟩ := hsim.play hplays hstart
    exact ⟨owed, hobserved, hsim.settled hfollows⟩
  returns hplays := by
    obtain ⟨owed, hfollows, -⟩ := hsim.play hplays hstart
    obtain ⟨more, rest, h', hmore, hidle'⟩ := hsim.returns hfollows
    have hall := hplays.append hmore
    rw [List.append_nil] at hall
    exact ⟨more, rest, h', hall, hidle'⟩
  plays hadmits := hsim.exists_play hstart hidle hadmits

end Simulation

/-- Two bindings that keep the contract cannot be told apart by a script. -/
theorem Keeps.agree {σ' ε' : Type} {b' : Binding σ' ε'} {start' k : σ'}
    {events' : List (Duration × ε')} {observed' : List Observation} (hkeeps : b.Keeps d start)
    (hkeeps' : b'.Keeps d start') (hplays : b.Plays start events script observed h)
    (hplays' : b'.Plays start' events' script observed' k) (hidle : b.Idle h) (hidle' : b'.Idle k) :
    observed = observed' := by
  obtain ⟨owed, hobserved, howed⟩ := hkeeps.observed hplays
  obtain ⟨owed', hobserved', howed'⟩ := hkeeps'.observed hplays'
  rw [howed hidle, List.append_nil] at hobserved
  rw [howed' hidle', List.append_nil] at hobserved'
  exact hobserved.symm.trans hobserved'

end Binding

end FeedLink
