import FeedLink.Proofs.Socket.Delivery
import FeedLink.Proofs.Utf8
import FeedLink.Socket.Scenario

/-!
# What a recovery subscribes to again

Attaching a connection empties the registry and writes a subscribe request for every subscription
that was in it: for the active ones, and for the replays of earlier recoveries that were still
waiting. A reservation that is no replay is left out, since its caller learns of the loss anyway.
The requests are written in ascending order of feeds, under one fresh id after the other, and the
connection answers each of them on its own. Whatever it answers, an id is used up, so that one
answer has no influence on the request of another feed; and a request that is refused leaves nothing
behind, so that it has none on what is held for another feed.

## Main definitions

* `ReplayAttempt`, `attempts` — the requests that a recovery writes, with the answers to them
* `Handler.Replays` — the attempts are those that a recovery should make
* `Handler.HoldsOnly` — a handler holds what the accepted attempts reserve, and nothing else

## Main results

* `Handler.wrote_replayAll` — what making subscriptions again adds to the tables
* `Handler.reattachment_replays_what_was_lost`
-/

namespace FeedLink.Socket

open Json

/-! ### Attempts -/

/-- A request that a recovery writes: the subscription that it makes again, the count of which its
id is made, and the answer of the connection. -/
structure ReplayAttempt where
  lost : Subscription
  number : Nat
  failure : Option TransportError
deriving DecidableEq

namespace ReplayAttempt

/-- The request of the subscription, under its new id. -/
def request (a : ReplayAttempt) : Request := a.lost.request.withFreshId a.number

def key (a : ReplayAttempt) : String := a.request.id.key

/-- The frame that is sent. -/
def frame (link : LinkId) (a : ReplayAttempt) : Output := .sent link a.request.text a.failure

/-- What is reserved for an attempt that was accepted. -/
def slot (a : ReplayAttempt) : Slot := .reserved a.request a.lost.callback (some a.lost.id)

def isAccepted (a : ReplayAttempt) : Bool := a.failure.isNone

end ReplayAttempt

/-- What is attempted for subscriptions one after the other, the first with the `n`th id. -/
def attempts (n : Nat) : List Subscription → List (Option TransportError) → List ReplayAttempt
  | [], _ => []
  | lost :: rest, failures =>
    ⟨lost, n, failures.head?.getD none⟩ :: attempts (n + 1) rest failures.tail

variable {n : Nat} {subscriptions : List Subscription} {failures : List (Option TransportError)}
  {f : Feed} {a : ReplayAttempt}

theorem map_lost_attempts (n : Nat) (subscriptions : List Subscription)
    (failures : List (Option TransportError)) :
    (attempts n subscriptions failures).map ReplayAttempt.lost = subscriptions := by
  induction subscriptions generalizing n failures with
  | nil => rfl
  | cons lost rest ih => rw [attempts, List.map_cons, ih]

/-- Ids do not depend on answers. -/
theorem map_request_attempts (n : Nat) (subscriptions : List Subscription)
    (failures failures' : List (Option TransportError)) :
    (attempts n subscriptions failures).map ReplayAttempt.request =
      (attempts n subscriptions failures').map ReplayAttempt.request := by
  induction subscriptions generalizing n failures failures' with
  | nil => rfl
  | cons lost rest ih =>
    rw [attempts, attempts, List.map_cons, List.map_cons, ih]
    rfl

theorem number_le_of_mem (ha : a ∈ attempts n subscriptions failures) : n ≤ a.number := by
  induction subscriptions generalizing n failures with
  | nil => contradiction
  | cons lost rest ih =>
    rcases List.mem_cons.mp ha with rfl | ha
    · exact Nat.le_refl n
    · exact Nat.le_of_succ_le (ih ha)

theorem not_issued_of_mem (ha : a ∈ attempts n subscriptions failures) : ¬Issued n a.key := by
  rintro ⟨m, hm, hkey⟩
  have heq : a.number = m := key_fresh_inj.mp hkey
  exact absurd (number_le_of_mem ha) (Nat.not_le.mpr (heq ▸ hm))

theorem nodup_keys_attempts (n : Nat) (subscriptions : List Subscription)
    (failures : List (Option TransportError)) :
    ((attempts n subscriptions failures).map ReplayAttempt.key).Nodup := by
  induction subscriptions generalizing n failures with
  | nil => exact List.nodup_nil
  | cons lost rest ih =>
    refine List.nodup_cons.mpr ⟨fun hmem => ?_, ih _ _⟩
    obtain ⟨a, ha, hkey⟩ := List.mem_map.mp hmem
    exact not_issued_of_mem ha ⟨n, Nat.lt_succ_self n, hkey⟩

/-- What is attempted for a feed depends on the answer to it alone. -/
theorem filter_attempts_congr {failures' : List (Option TransportError)}
    (hd : (subscriptions.map (·.feed)).Nodup)
    (hanswer : answerTo f subscriptions failures = answerTo f subscriptions failures') :
    (attempts n subscriptions failures).filter (·.lost.feed = f) =
      (attempts n subscriptions failures').filter (·.lost.feed = f) := by
  induction subscriptions generalizing n failures failures' with
  | nil => rfl
  | cons lost rest ih =>
    rw [List.map_cons, List.nodup_cons] at hd
    rw [answerTo, answerTo] at hanswer
    rw [attempts, attempts]
    by_cases hf : lost.feed = f
    · -- no other attempt is for the feed
      have hrest : ∀ failures, (attempts (n + 1) rest failures).filter (·.lost.feed = f) = [] := by
        intro failures
        rw [List.filter_eq_nil_iff]
        intro a ha hfeed
        have hlost : a.lost ∈ rest := map_lost_attempts (n + 1) rest failures ▸
          List.mem_map_of_mem ha
        exact hd.1 (List.mem_map.mpr ⟨a.lost, hlost, by simpa [hf] using hfeed⟩)
      rw [if_pos hf, if_pos hf] at hanswer
      rw [List.filter_cons_of_pos (by simpa using hf), List.filter_cons_of_pos (by simpa using hf),
        hrest, hrest, hanswer]
    · rw [if_neg hf, if_neg hf] at hanswer
      rw [List.filter_cons_of_neg (by simpa using hf), List.filter_cons_of_neg (by simpa using hf),
        ih hd.2 hanswer]

/-! ### The order of what is lost -/

namespace Registry

variable {r : Registry} {lost : Subscription}

theorem pairwise_insertByFeed {l : List Subscription}
    (hl : l.Pairwise fun a b => a.feed.name ≤ b.feed.name) (lost : Subscription) :
    (insertByFeed lost l).Pairwise fun a b => a.feed.name ≤ b.feed.name := by
  induction l with
  | nil => exact List.pairwise_singleton ..
  | cons first rest ih =>
    obtain ⟨hfirst, hrest⟩ := List.pairwise_cons.mp hl
    unfold insertByFeed
    split
    · next hlt =>
      have hlt : lost.feed.name < first.feed.name := hlt
      refine List.pairwise_cons.mpr ⟨fun b hb => ?_, hl⟩
      rcases List.mem_cons.mp hb with rfl | hb
      · exact le_of_lt hlt
      · exact le_trans (le_of_lt hlt) (hfirst b hb)
    · next hnlt =>
      refine List.pairwise_cons.mpr ⟨fun b hb => ?_, ih hrest⟩
      rcases List.mem_cons.mp ((insertByFeed_perm lost rest).mem_iff.mp hb) with rfl | hb
      · exact not_lt.mp hnlt
      · exact hfirst b hb

/-- **What is subscribed to again ascends strictly.** -/
theorem pairwise_replayables (hr : r.Coherent) :
    (r.replayables.map (·.feed)).Pairwise (· < ·) := by
  have hle : r.replayables.Pairwise fun a b => a.feed.name ≤ b.feed.name := by
    unfold replayables
    induction r.slots.filterMap replayable with
    | nil => exact .nil
    | cons lost rest ih => exact pairwise_insertByFeed ih lost
  have hne : r.replayables.Pairwise fun a b => a.feed ≠ b.feed :=
    List.pairwise_map.mp (nodup_replayables hr)
  refine List.pairwise_map.mpr (hle.imp₂ (fun a b hle hne => ?_) hne)
  have hname : a.feed.name ≠ b.feed.name := fun heq => hne (congrArg Feed.mk heq)
  exact lt_of_le_of_ne hle hname

end Registry

/-! ### What an attempt adds -/

namespace Handler

/-- The attempts that the connection accepted. -/
def accepted (as : List ReplayAttempt) : List ReplayAttempt := as.filter ReplayAttempt.isAccepted

/-- What attempts add to what was written and reserved before. -/
structure Wrote (link : LinkId) (as : List ReplayAttempt) (r r' : Replaying) : Prop where
  outputs : r'.outputs = r.outputs ++ as.map (ReplayAttempt.frame link)
  count : r'.handler.nextId = r.handler.nextId + as.length
  slots : r'.handler.registry.slots.Perm
    ((accepted as).map (fun a => (a.lost.feed, a.slot)) ++ r.handler.registry.slots)
  tokens : r'.handler.registry.byToken.Perm
    ((accepted as).map (fun a => (a.key, a.lost.feed)) ++ r.handler.registry.byToken)
  pending : (Table.keys r'.handler.correlator.pending).Perm
    ((accepted as).map ReplayAttempt.key ++ Table.keys r.handler.correlator.pending)

theorem Wrote.refl (link : LinkId) (r : Replaying) : Wrote link [] r r :=
  ⟨(List.append_nil _).symm, rfl, .refl _, .refl _, .refl _⟩

/-- Attempts after attempts. -/
theorem Wrote.trans {link : LinkId} {as as' : List ReplayAttempt} {r r' r'' : Replaying}
    (h : Wrote link as r r') (h' : Wrote link as' r' r'') : Wrote link (as ++ as') r r'' where
  outputs := by rw [h'.outputs, h.outputs, List.map_append, List.append_assoc]
  count := by rw [h'.count, h.count, List.length_append, Nat.add_assoc]
  slots := by
    rw [accepted, List.filter_append, List.map_append, List.append_assoc]
    exact h'.slots.trans ((h.slots.append_left _).trans (List.perm_append_comm_assoc ..))
  tokens := by
    rw [accepted, List.filter_append, List.map_append, List.append_assoc]
    exact h'.tokens.trans ((h.tokens.append_left _).trans (List.perm_append_comm_assoc ..))
  pending := by
    rw [accepted, List.filter_append, List.map_append, List.append_assoc]
    exact h'.pending.trans ((h.pending.append_left _).trans (List.perm_append_comm_assoc ..))

variable {h : Handler} {s : Settings} {now : Duration} {link : LinkId} {r : Replaying}
  {lost : Subscription}

/-- **One attempt.** -/
theorem wrote_replay (hr : ReplayingFrom h r)
    (hfree : Table.get? lost.feed r.handler.registry.slots = none)
    (failure : Option TransportError) :
    Wrote link [⟨lost, r.handler.nextId, failure⟩] r (replay s now link r lost failure) := by
  have hremade := remade_replay s now link hr.tables.token_fresh lost failure
  have hpending := hr.tables.pending_fresh
  generalize replay s now link r lost failure = r' at hremade ⊢
  cases hremade with
  | held hheld => simp [Table.has, hfree] at hheld
  | refused =>
    refine ⟨rfl, rfl, .refl _, .refl _, ?_⟩
    have hsame := Correlator.pending_evict_register hpending ("resubscribe to " ++ lost.feed.name)
    exact .of_eq (congrArg Table.keys hsame)
  | accepted hres =>
    have hregistered := Correlator.register_of_none hpending ("resubscribe to " ++ lost.feed.name)
    obtain ⟨-, rfl⟩ := Registry.insertReserved_eq_ok_iff.mp hres
    refine ⟨rfl, rfl, .of_eq ?_, .of_eq ?_, .of_eq ?_⟩
    · exact Table.set_of_none hfree _
    · exact Table.set_of_none hr.tables.token_fresh _
    · rw [hregistered]
      exact congrArg Table.keys (Table.set_of_none hpending _)

/-- **All attempts, one after the other.** -/
theorem wrote_replayAll (hr : ReplayingFrom h r) (hd : (subscriptions.map (·.feed)).Nodup)
    (hfree : ∀ a ∈ subscriptions, Table.get? a.feed r.handler.registry.slots = none) :
    Wrote link (attempts r.handler.nextId subscriptions failures) r
      (replayAll s now link r subscriptions failures) := by
  induction subscriptions generalizing r failures with
  | nil => exact .refl link r
  | cons lost rest ih =>
    rw [List.map_cons, List.nodup_cons] at hd
    have hone : Wrote link [⟨lost, r.handler.nextId, failures.head?.getD none⟩] r
        (replay s now link r lost (failures.head?.getD none)) :=
      wrote_replay hr (hfree lost (List.mem_cons_self ..)) _
    have hfree' : ∀ a ∈ rest, Table.get? a.feed
        (replay s now link r lost (failures.head?.getD none)).handler.registry.slots = none := by
      intro a ha
      rw [slots_replay_of_ne hr fun heq => hd.1 (heq ▸ List.mem_map_of_mem ha)]
      exact hfree a (List.mem_cons_of_mem _ ha)
    refine hone.trans ?_
    rw [show r.handler.nextId + 1 = _ from hone.count.symm]
    exact ih (hr.replay lost _) hd.2 hfree'

/-- The attempts of a handler that attaches a connection with these answers. -/
def attempting (h : Handler) (failures : List (Option TransportError)) : List ReplayAttempt :=
  attempts h.nextId h.registry.replayables failures

theorem Coherent.wrote_replaying (hc : h.Coherent) (s : Settings) (now : Duration)
    (hr : h.reader.isRedialing = true) (link : LinkId) (failures : List (Option TransportError)) :
    Wrote link (h.attempting failures) ⟨h.attachedTo link, [], []⟩
      (replaying s now h link failures) :=
  wrote_replayAll (hc.replayingFrom_start hr link) (Registry.nodup_replayables hc.tables.registry)
    fun _ _ => rfl

/-! ### A recovery -/

variable {as as' : List ReplayAttempt}

/-- A recovery has to make the subscription again: its feed is active, or reserved for a replay of
it that still waits. -/
def Lost (h : Handler) (lost : Subscription) : Prop :=
  Table.get? lost.feed h.registry.slots = some (.active lost) ∨
    Table.get? lost.feed h.registry.slots =
      some (.reserved lost.request lost.callback (some lost.id))

/-- The attempts are those that a recovery should make. -/
structure Replays (h : Handler) (as : List ReplayAttempt) : Prop where
  ascending : (as.map fun a => Utf8.bytesOf a.lost.feed.name).Pairwise (· < ·)
  lost_iff : ∀ lost, lost ∈ as.map ReplayAttempt.lost ↔ h.Lost lost
  distinct : (as.map ReplayAttempt.key).Nodup
  fresh : ∀ a ∈ as, ¬Issued h.nextId a.key

/-- A handler holds what attempts reserve, and nothing else: no feed is active, and no request
waits but theirs. -/
structure HoldsOnly (h : Handler) (as : List ReplayAttempt) : Prop where
  slots : h.registry.slots.Perm (as.map fun a => (a.lost.feed, a.slot))
  tokens : h.registry.byToken.Perm (as.map fun a => (a.key, a.lost.feed))
  ids : h.registry.byId = []
  routes : ∀ x, h.registry.route x = none
  pending : (Table.keys h.correlator.pending).Perm (as.map ReplayAttempt.key)

theorem mem_replayables_iff_lost (hc : h.registry.Coherent) :
    lost ∈ h.registry.replayables ↔ h.Lost lost := by
  rw [Registry.mem_replayables hc]
  refine ⟨slot_of_replayable, ?_⟩
  rintro (hslot | hslot) <;> rw [Registry.replayable?, hslot] <;> rfl

theorem Coherent.replays (hc : h.Coherent) (failures : List (Option TransportError)) :
    h.Replays (h.attempting failures) where
  ascending := by
    have hfeeds := Registry.pairwise_replayables hc.tables.registry
    rw [← map_lost_attempts h.nextId h.registry.replayables failures, List.map_map,
      List.pairwise_map] at hfeeds
    exact List.pairwise_map.mpr (hfeeds.imp fun {a b} hlt => Utf8.bytesOf_lt_iff.mpr hlt)
  lost_iff := fun lost => by
    rw [attempting, map_lost_attempts]
    exact mem_replayables_iff_lost hc.tables.registry
  distinct := nodup_keys_attempts ..
  fresh := fun _ => not_issued_of_mem

theorem exists_of_isDialing (hdialing : h.isDialing = true) :
    ∃ backoff, h.reader = .dialing backoff := by
  unfold isDialing at hdialing
  split at hdialing
  · exact ⟨_, ‹_›⟩
  · contradiction

/-- A dial that succeeds attaches its connection, unless the handler was closed meanwhile. -/
theorem step_dialed (hdialing : h.isDialing = true) (hopen : h.state ≠ .closed)
    (failures : List (Option TransportError)) :
    h.step s now (.dialed (.ok link) failures) = h.attach s now link failures := by
  obtain ⟨backoff, hreader⟩ := exists_of_isDialing hdialing
  simp only [step, hreader, dialed, if_neg hopen]

theorem Coherent.holdsOnly_attach (hc : h.Coherent) (s : Settings) (now : Duration)
    (hr : h.reader.isRedialing = true) (link : LinkId) (failures : List (Option TransportError)) :
    (h.attach s now link failures).1.HoldsOnly (accepted (h.attempting failures)) := by
  have hwrote := hc.wrote_replaying s now hr link failures
  have hids := (hc.replaying_reserved s now hr link failures).1
  have hpending := (hc.redialing hr).2
  rw [attach_eq]
  refine ⟨?_, ?_, hids, fun x => ?_, ?_⟩
  · simpa [attachedTo, Registry.empty] using hwrote.slots
  · simpa [attachedTo, Registry.empty] using hwrote.tokens
  · simp only [Registry.route, hids, Table.get?_nil]
  · simpa [attachedTo, hpending, Table.keys] using hwrote.pending

theorem HoldsOnly.slot_of_forall_ne (hh : h.HoldsOnly as) (hne : ∀ a ∈ as, a.lost.feed ≠ f) :
    Table.get? f h.registry.slots = none := by
  rw [Table.get?_eq_none_iff, Table.keys, (hh.slots.map Prod.fst).mem_iff, List.map_map]
  intro hmem
  obtain ⟨a, ha, hfeed⟩ := List.mem_map.mp hmem
  exact hne a ha hfeed

/-- How a feed is held depends on the attempts for it alone. -/
theorem HoldsOnly.slots_congr {h' : Handler} (hh : h.HoldsOnly (accepted as))
    (hh' : h'.HoldsOnly (accepted as')) (hd : Table.Distinct h.registry.slots)
    (hd' : Table.Distinct h'.registry.slots)
    (hsame : as.filter (·.lost.feed = f) = as'.filter (·.lost.feed = f)) :
    Table.get? f h.registry.slots = Table.get? f h'.registry.slots := by
  have hfeed : ∀ as : List ReplayAttempt,
      Table.get? f ((accepted as).map fun a => (a.lost.feed, a.slot)) =
        Table.get? f ((accepted (as.filter (·.lost.feed = f))).map
          fun a => (a.lost.feed, a.slot)) := by
    intro as
    rw [← Table.get?_filter, List.filter_map, accepted, accepted, List.filter_filter,
      List.filter_filter]
    simp only [Function.comp_def, Bool.and_comm]
  rw [Table.get?_of_perm hh.slots hd, Table.get?_of_perm hh'.slots hd', hfeed as, hfeed as', hsame]

/-- **A recovery makes again what was lost, and nothing else.** -/
theorem reattachment_replays_what_was_lost (s : Settings) (first : LinkId)
    (events : List (Duration × Event)) (now : Duration) (link : LinkId)
    (hdialing : ((initial first).after s events).isDialing = true)
    (hopen : ((initial first).after s events).state ≠ .closed)
    (failures : List (Option TransportError)) :
    let h := (initial first).after s events
    let as := h.attempting failures
    let h' := (h.step s now (.dialed (.ok link) failures)).1
    h.Replays as ∧
      (∀ a ∈ as, ∃ params, a.request = .subscribe a.number a.lost.feed params ∧
        LastSubscribe s a.lost.feed params a.lost.callback (moments s (initial first) events)) ∧
      (h.step s now (.dialed (.ok link) failures)).2 = as.map (ReplayAttempt.frame link) ∧
      h'.HoldsOnly (accepted as) ∧
      (∀ f request callback,
        Table.get? f h.registry.slots = some (.reserved request callback none) →
          (∀ a ∈ as, a.lost.feed ≠ f) ∧ Table.get? f h'.registry.slots = none) ∧
      ∀ failures',
        (h.attempting failures').map ReplayAttempt.request = as.map ReplayAttempt.request ∧
        ∀ f, answerTo f h.registry.replayables failures' =
            answerTo f h.registry.replayables failures →
          (h.attempting failures').filter (·.lost.feed = f) = as.filter (·.lost.feed = f) ∧
          Table.get? f (h.step s now (.dialed (.ok link) failures')).1.registry.slots =
            Table.get? f h'.registry.slots := by
  intro h as h'
  have hreach : Reachable s h := (Reachable.initial first).after events
  have hc := hreach.coherent
  obtain ⟨backoff, hreader⟩ := exists_of_isDialing hdialing
  have hr : h.reader.isRedialing = true := Reader.isRedialing_of_dialing hreader
  have hreg := hc.tables.registry
  have hdistinct : ∀ failures, Table.Distinct (h.attach s now link failures).1.registry.slots :=
    fun failures => (hc.attach hr hopen failures).tables.registry.distinct
  have hholds := hc.holdsOnly_attach s now hr link
  have hreplays := hc.replays failures
  have hstep : ∀ failures,
      h.step s now (.dialed (.ok link) failures) = h.attach s now link failures :=
    step_dialed hdialing hopen
  rw [show h' = (h.attach s now link failures).1 from congrArg Prod.fst (hstep failures)]
  refine ⟨hreplays, fun a ha => ?_, ?_, hholds failures, fun f request callback hslot => ?_,
    fun failures' => ⟨map_request_attempts .., fun f hanswer => ?_⟩⟩
  · have hlost := (hreplays.lost_iff a.lost).mp (List.mem_map_of_mem ha)
    rcases hlost with hslot | hslot
    all_goals
      obtain ⟨n, params, hlast, hrequest⟩ := lastSubscribe_of_held s first events hslot
      exact ⟨params, congrArg (·.withFreshId a.number) hrequest, hlast⟩
  · rw [hstep]
    exact (hc.wrote_replaying s now hr link failures).outputs
  · have hnone : ∀ a ∈ as, a.lost.feed ≠ f := by
      rintro a ha rfl
      have hlost := (hreplays.lost_iff a.lost).mp (List.mem_map_of_mem ha)
      rcases hlost with hlost | hlost <;> simp [hslot] at hlost
    refine ⟨hnone, (hholds failures).slot_of_forall_ne fun a ha => ?_⟩
    exact hnone a (List.mem_of_mem_filter ha)
  · rw [hstep]
    have hsame := filter_attempts_congr (n := h.nextId) (Registry.nodup_replayables hreg) hanswer
    refine ⟨hsame, ?_⟩
    exact (hholds failures').slots_congr (hholds failures) (hdistinct _) (hdistinct _) hsame

/-- A connection is lost while a replay waits, a feed is active, and a subscribe has yet to be
acknowledged. -/
def mixedLoss : List (Duration × Event) :=
  lostSubscription ++ [(.zero, .dialed (.ok ⟨1⟩) []),
    (.zero, .subscribe ⟨"b"⟩ .newBlocks .null ⟨"g"⟩ none),
    (.zero, .received ⟨1⟩ "\x7b\"id\":\"3\",\"result\":\"y\"\x7d"),
    (.zero, .subscribe ⟨"c"⟩ .bdnBlocks .null ⟨"h"⟩ none), (.zero, .lost ⟨1⟩ .closed)]

/-- The replay is made again though the request before it is refused, and the subscribe is not. -/
theorem waiting_replay_is_made_again :
    let h := (initial ⟨0⟩).after .standard mixedLoss
    let refused : ReplayAttempt :=
      ⟨⟨.newBlocks, .subscribe 3 .newBlocks .null, ⟨"g"⟩, ⟨"y"⟩⟩, 5, some .closed⟩
    let made : ReplayAttempt := ⟨⟨.newTxs, .subscribe 2 .newTxs .null, ⟨"f"⟩, ⟨"x"⟩⟩, 6, none⟩
    let (h', outputs) := h.step .standard .zero (.dialed (.ok ⟨2⟩) [some .closed])
    outputs = [refused.frame ⟨2⟩, made.frame ⟨2⟩] ∧ h'.HoldsOnly [made] ∧
      (∃ request callback, Table.get? .bdnBlocks h.registry.slots =
        some (.reserved request callback none)) ∧
      Table.get? .bdnBlocks h'.registry.slots = none := by
  intro h refused made
  have hopen : h.state ≠ .closed := by decide +kernel
  have hdialing : h.isDialing = true := by decide +kernel
  have hattempting : h.attempting [some .closed] = [refused, made] := by decide +kernel
  have hplain : Table.get? .bdnBlocks h.registry.slots =
      some (.reserved (.subscribe 4 .bdnBlocks .null) ⟨"h"⟩ none) := by decide +kernel
  obtain ⟨-, -, houtputs, hholds, hdropped, -⟩ := reattachment_replays_what_was_lost .standard ⟨0⟩
    mixedLoss .zero ⟨2⟩ hdialing hopen [some .closed]
  change _ = (h.attempting _).map _ at houtputs
  change HoldsOnly _ (accepted (h.attempting _)) at hholds
  rw [hattempting] at houtputs hholds
  exact ⟨houtputs, hholds, ⟨_, _, hplain⟩, (hdropped _ _ _ hplain).2⟩

end Handler

end FeedLink.Socket
