import FeedLink.Socket.Link
import Mathlib.Data.List.Basic

/-!
# What is accepted is written

A link accepts texts until it is closed, and its writer has two phases that empty one queue. Between
the phases nothing gets lost, and nothing overtakes anything: what has been written, what the writer
holds and what is still in the queue are together what was accepted, in the order in which it was. A
writer that has ended has nothing left, since it only ends when the queue is empty, and nothing is
put into the queue of a closed link.

All this is about a socket that takes what it is given, and in time. One that does not makes the
writer stop, and what it has left is lost.

## Main definitions

* `Socket.Link.Turn.Smooth` — the turn is not one of a socket that fails
* `Socket.Link.accepted` — the texts that were accepted during a run
* `Socket.Link.written` — what was written
* `Socket.Link.Balanced` — what was accepted has been written, is held, or waits

## Main results

* `Socket.Link.Balanced.step` — a turn keeps the balance
* `Socket.Link.balanced_run` — a run keeps it
* `Socket.Link.exists_finish` — a closed link can be brought to its end
* `Socket.Link.accepted_is_written` — what becomes of what is sent
-/

namespace FeedLink.Socket.Link

variable {s : LinkSettings} {l : Link} {turn : Turn} {turns : List Turn} {text : String}

/-- The socket takes what it is given, and in time. -/
def Turn.Smooth : Turn → Prop
  | .refuses | .expires => False
  | _ => True

instance : DecidablePred Turn.Smooth := fun turn =>
  match turn with
  | .refuses | .expires => .isFalse id
  | .send _ | .close | .reads _ | .readerNotices | .takes | .writes | .writerNotices | .finishes =>
    .isTrue trivial

/-- What a turn puts into the queue. -/
def queued (s : LinkSettings) (l : Link) : Turn → List String
  | .send text =>
    match (l.send s text).2 with
    | .ok () => [text]
    | .error _ => []
  | _ => []

/-- The texts that were accepted during a run. -/
def accepted (s : LinkSettings) : Link → List Turn → List String
  | _, [] => []
  | l, turn :: rest => l.queued s turn ++ accepted s (l.step s turn).1 rest

/-- What was written. -/
def written (effects : List Effect) : List Outgoing :=
  effects.filterMap fun
    | .wrote message => some message
    | _ => none

/-- What the writer has still to write, the oldest first. -/
def pending (l : Link) : List String := l.held.toList ++ l.waiting

/-- **What was accepted has been written, is held, or waits**, in this order. The writer leaves its
first phase only when the link is closed, and ends with nothing left and a goodbye. -/
structure Balanced (s : LinkSettings) (l : Link) (accepted : List String)
    (wrote : List Outgoing) : Prop where
  order : l.writer ≠ .done → wrote ++ l.pending.map .text = accepted.map .text
  ended : l.writer = .done → l.pending = [] ∧ wrote = accepted.map .text ++ [.goodbye]
  closing : l.writer ≠ .writing → l.closed
  room : l.waiting.length ≤ s.capacity.toNat

/-! ### One turn -/

@[simp] theorem written_nil : written [] = [] := rfl

@[simp] theorem written_append (effects more : List Effect) :
    written (effects ++ more) = written effects ++ written more :=
  List.filterMap_append ..

/-- What a turn of the reader leaves alone. -/
theorem receive_cases (s : LinkSettings) (l : Link) (incoming : Incoming) :
    (l.receive s incoming).1 = l ∨ (l.receive s incoming).1 = l.close := by
  cases incoming with
  | binary bytes => simp only [receive, accept]; grind
  | text | control | goodbye | ended | cut | garbled => simp only [receive, accept]; grind

theorem send_of_closed (hclosed : l.closed) (text : String) :
    l.send s text = (l, .error .closed) := if_pos hclosed

theorem send_of_full (hopen : ¬l.closed) (hfull : s.capacity.toNat ≤ l.waiting.length)
    (text : String) : l.send s text = (l.close, .error .queueFull) := by
  rw [send, if_neg hopen, if_pos hfull]

theorem send_of_room (hopen : ¬l.closed) (hroom : l.waiting.length < s.capacity.toNat)
    (text : String) : l.send s text = ({ l with waiting := l.waiting ++ [text] }, .ok ()) := by
  rw [send, if_neg hopen, if_neg (Nat.not_le.mpr hroom)]

namespace Balanced

variable {before : List String} {wrote : List Outgoing}

theorem initial (s : LinkSettings) : Balanced s initial [] [] where
  order _ := rfl
  ended := nofun
  closing := nofun
  room := Nat.zero_le _

theorem close (hbalanced : Balanced s l before wrote) : Balanced s l.close before wrote :=
  ⟨hbalanced.order, hbalanced.ended, fun _ => rfl, hbalanced.room⟩

theorem send (hbalanced : Balanced s l before wrote) (text : String) :
    Balanced s (l.send s text).1 (before ++ l.queued s (.send text)) wrote := by
  by_cases hclosed : l.closed
  · simpa only [queued, send_of_closed hclosed, List.append_nil] using hbalanced
  by_cases hfull : s.capacity.toNat ≤ l.waiting.length
  · simpa only [queued, send_of_full hclosed hfull, List.append_nil] using hbalanced.close
  -- a link that is open is in its first phase, so what is queued comes last
  have hroom : l.waiting.length < s.capacity.toNat := Nat.not_le.mp hfull
  have hwriting : l.writer = .writing := by
    by_contra hleft
    exact hclosed (hbalanced.closing hleft)
  have horder := hbalanced.order (by simp [hwriting])
  simp only [queued, send_of_room hclosed hroom]
  refine ⟨fun _ => ?_, fun hdone => ?_, hbalanced.closing, ?_⟩
  · rw [List.map_append, ← horder]
    simp [pending]
  · simp [hwriting] at hdone
  · rw [List.length_append]
    exact hroom

theorem reads (hbalanced : Balanced s l before wrote) (incoming : Incoming) :
    Balanced s (l.receive s incoming).1 before wrote := by
  rcases receive_cases s l incoming with hsame | hclosed
  · rwa [hsame]
  · rw [hclosed]
    exact hbalanced.close

/-- The writer takes a text out of the queue and holds it. -/
theorem takes (hbalanced : Balanced s l before wrote) (hleft : l.writer ≠ .done)
    (hheld : l.held = none) {rest : List String} (hwaiting : l.waiting = text :: rest) :
    Balanced s { l with waiting := rest, held := some text } before wrote := by
  have horder := hbalanced.order hleft
  have hroom := hbalanced.room
  rw [hwaiting, List.length_cons] at hroom
  refine ⟨fun _ => ?_, fun hdone => absurd hdone hleft, hbalanced.closing, Nat.le_of_succ_le hroom⟩
  simpa [pending, hheld, hwaiting] using horder

/-- The socket takes the text that the writer holds. -/
theorem writes (hbalanced : Balanced s l before wrote) (hheld : l.held = some text) :
    Balanced s { l with held := none } before (wrote ++ [.text text]) := by
  have hleft : l.writer ≠ .done := fun hdone => by
    simpa [pending, hheld] using (hbalanced.ended hdone).1
  have horder := hbalanced.order hleft
  refine ⟨fun _ => ?_, fun hdone => absurd hdone hleft, hbalanced.closing, hbalanced.room⟩
  simpa [pending, hheld] using horder

theorem writerNotices (hbalanced : Balanced s l before wrote) (hclosed : l.closed)
    (hwriting : l.writer = .writing) : Balanced s { l with writer := .flushing } before wrote :=
  ⟨fun _ => hbalanced.order (by simp [hwriting]), nofun, fun _ => hclosed, hbalanced.room⟩

/-- The writer has nothing left, and says goodbye. -/
theorem finishes (hbalanced : Balanced s l before wrote) (hflushing : l.writer = .flushing)
    (hnone : l.pending = []) :
    Balanced s { l with writer := .done } before (wrote ++ [.goodbye]) := by
  have horder := hbalanced.order (by simp [hflushing])
  refine ⟨fun hleft => absurd rfl hleft, fun _ => ⟨hnone, ?_⟩, fun _ => ?_, hbalanced.room⟩
  · rw [hnone, List.map_nil, List.append_nil] at horder
    rw [horder]
  · exact hbalanced.closing (by simp [hflushing])

/-- **A turn keeps the balance.** -/
theorem step (hbalanced : Balanced s l before wrote) (hsmooth : turn.Smooth) :
    Balanced s (l.step s turn).1 (before ++ l.queued s turn)
      (wrote ++ written (l.step s turn).2) := by
  cases turn with
  | send text => simpa [Link.step, written] using hbalanced.send text
  | close => simpa [Link.step, queued] using hbalanced.close
  | reads incoming =>
    have hquiet : written ((l.receive s incoming).2.map Effect.received).toList = [] := by
      cases (l.receive s incoming).2 <;> rfl
    simpa [Link.step, queued, hquiet] using hbalanced.reads incoming
  | readerNotices =>
    rw [Link.step]
    split <;> simpa [queued, written] using hbalanced
  | takes =>
    rw [Link.step]
    split
    · next hwriting hheld hwaiting =>
      simpa [queued] using hbalanced.takes (by simp [hwriting]) hheld hwaiting
    · next hflushing hheld hwaiting =>
      simpa [queued] using hbalanced.takes (by simp [hflushing]) hheld hwaiting
    · simpa [queued] using hbalanced
  | writes =>
    rw [Link.step]
    split
    · next hheld => simpa [queued, written] using hbalanced.writes hheld
    · simpa [queued] using hbalanced
  | writerNotices =>
    rw [Link.step]
    split
    · next hclosed hwriting _ => simpa [queued] using hbalanced.writerNotices hclosed hwriting
    · simpa [queued] using hbalanced
  | finishes =>
    rw [Link.step]
    split
    · next hflushing hheld hwaiting =>
      have hpending : l.pending = [] := by simp [pending, hheld, hwaiting]
      simpa [queued, written] using hbalanced.finishes hflushing hpending
    · simpa [queued] using hbalanced
  | refuses | expires => exact hsmooth.elim

end Balanced

/-! ### Runs -/

/-- **A run keeps the balance.** -/
theorem balanced_run {before : List String} {wrote : List Outgoing}
    (hbalanced : Balanced s l before wrote) (hsmooth : ∀ turn ∈ turns, turn.Smooth) :
    Balanced s (l.run s turns).1 (before ++ accepted s l turns)
      (wrote ++ written (l.run s turns).2) := by
  induction turns generalizing l before wrote with
  | nil => simpa [run, accepted] using hbalanced
  | cons turn rest ih =>
    obtain ⟨hfirst, hrest⟩ := List.forall_mem_cons.mp hsmooth
    simpa [run, accepted] using ih (hbalanced.step hfirst) hrest

/-! ### Links that are closed -/

theorem closed_step (hclosed : l.closed) (turn : Turn) : (l.step s turn).1.closed := by
  cases turn with
  | send text =>
    show (l.send s text).1.closed
    rwa [send_of_closed hclosed]
  | close => rfl
  | reads incoming =>
    show (l.receive s incoming).1.closed
    rcases receive_cases s l incoming with hsame | hmarked
    · rwa [hsame]
    · rw [hmarked]
      rfl
  | readerNotices | takes | writes | writerNotices | finishes =>
    rw [step]
    split <;> exact hclosed
  | refuses =>
    rw [step]
    split
    · rfl
    · rfl
    · rfl
    · exact hclosed
  | expires =>
    rw [step]
    split
    · rfl
    · exact hclosed

/-- A link that was closed stays closed. -/
theorem closed_run (hclosed : l.closed) (turns : List Turn) : (l.run s turns).1.closed := by
  induction turns generalizing l with
  | nil => exact hclosed
  | cons turn rest ih => exact ih (closed_step hclosed turn)

/-- The writer of a closed link has said goodbye, and holds nothing. -/
structure Ended (l : Link) : Prop where
  closed : l.closed
  held : l.held = none
  writer : l.writer = .done

theorem Balanced.ended_of_done {before : List String} {wrote : List Outgoing}
    (hbalanced : Balanced s l before wrote) (hdone : l.writer = .done) : l.Ended where
  closed := hbalanced.closing (by simp [hdone])
  held := by simpa using (List.append_eq_nil_iff.mp (hbalanced.ended hdone).1).1
  writer := hdone

namespace Ended

theorem close_eq (hended : l.Ended) : l.close = l := by
  rw [close, ← hended.closed]

/-- Nothing happens to a link that has ended. -/
theorem step (hended : l.Ended) (turn : Turn) :
    (l.step s turn).1 = l ∧ written (l.step s turn).2 = [] ∧ l.queued s turn = [] := by
  cases turn with
  | send text =>
    have hsend := send_of_closed (s := s) hended.closed text
    exact ⟨congrArg Prod.fst hsend, rfl, by rw [queued, hsend]⟩
  | close => exact ⟨hended.close_eq, rfl, rfl⟩
  | reads incoming =>
    refine ⟨?_, ?_, rfl⟩
    · rcases receive_cases s l incoming with hsame | hmarked
      · exact hsame
      · exact hmarked.trans hended.close_eq
    · show written ((l.receive s incoming).2.map Effect.received).toList = []
      cases (l.receive s incoming).2 <;> rfl
  | readerNotices => simp [Link.step, queued, written, hended.closed]
  | takes | writes | writerNotices | finishes | refuses | expires =>
    simp [Link.step, queued, hended.held, hended.writer]

theorem run (hended : l.Ended) (turns : List Turn) :
    (l.run s turns).1 = l ∧ written (l.run s turns).2 = [] ∧ accepted s l turns = [] := by
  induction turns with
  | nil => exact ⟨rfl, rfl, rfl⟩
  | cons turn rest ih =>
    obtain ⟨hsame, hquiet, hrefused⟩ := hended.step (s := s) turn
    obtain ⟨hsame', hquiet', hrefused'⟩ := ih
    refine ⟨?_, ?_, ?_⟩
    · simp [Link.run, hsame, hsame']
    · simp [Link.run, hsame, hquiet, hquiet']
    · simp [accepted, hsame, hrefused, hrefused']

end Ended

/-- The writer that flushes can be brought to its end. -/
theorem exists_finish_of_flushing (hflushing : l.writer = .flushing) (hheld : l.held = none) :
    ∃ more, (∀ turn ∈ more, turn.Smooth) ∧ (l.run s more).1.writer = .done := by
  obtain ⟨closed, waiting, held, writer⟩ := l
  obtain rfl : writer = .flushing := hflushing
  obtain rfl : held = none := hheld
  induction waiting with
  | nil => exact ⟨[.finishes], by decide, rfl⟩
  | cons text rest ih =>
    obtain ⟨more, hsmooth, hdone⟩ := ih
    exact ⟨.takes :: .writes :: more, by simpa [Turn.Smooth] using hsmooth, hdone⟩

/-- **A closed link can be brought to its end**: the writer goes through with the text that it
holds, notices that the link is closed, and flushes. -/
theorem exists_finish (hclosed : l.closed) :
    ∃ more, (∀ turn ∈ more, turn.Smooth) ∧ (l.run s more).1.writer = .done := by
  obtain ⟨closed, waiting, held, writer⟩ := l
  obtain rfl : closed = true := hclosed
  cases writer with
  | done => exact ⟨[], by simp, rfl⟩
  | writing | flushing =>
    obtain ⟨more, hsmooth, hdone⟩ :=
      exists_finish_of_flushing (s := s) (l := ⟨true, waiting, none, .flushing⟩) rfl rfl
    refine ⟨.writes :: .writerNotices :: more, by simpa [Turn.Smooth] using hsmooth, ?_⟩
    cases held <;> exact hdone

/-! ### What becomes of what is sent -/

/-- **What becomes of what is sent.** A link that was closed stays closed, and refuses everything.
An open link refuses a text exactly if its queue is full, and then it is closed and the text is not
queued. What is written is at all times a beginning of what was accepted. The writer that has ended
has written all of it, each text once, and then one goodbye, and it writes nothing more; and a link
that was closed can always be brought there. -/
theorem accepted_is_written {effects : List Effect} (hsmooth : ∀ turn ∈ turns, turn.Smooth)
    (hrun : initial.run s turns = (l, effects)) :
    (l.closed → ∀ more text, (l.run s more).1.closed ∧
      (l.run s more).1.send s text = ((l.run s more).1, .error .closed)) ∧
    (¬l.closed → ∀ text,
      ((l.send s text).2 = .error .queueFull ↔ l.waiting.length = s.capacity.toNat) ∧
      (l.waiting.length = s.capacity.toNat → l.send s text = (l.close, .error .queueFull)) ∧
      (l.waiting.length ≠ s.capacity.toNat →
        l.send s text = ({ l with waiting := l.waiting ++ [text] }, .ok ()))) ∧
    (l.writer ≠ .done → written effects <+: (accepted s initial turns).map .text) ∧
    (l.writer = .done →
      written effects = (accepted s initial turns).map .text ++ [.goodbye] ∧
      ∀ more, (l.run s more).1 = l ∧ written (l.run s more).2 = [] ∧ accepted s l more = []) ∧
    (l.closed → ∃ more, (∀ turn ∈ more, turn.Smooth) ∧ (l.run s more).1.writer = .done) := by
  have hbalanced := balanced_run (Balanced.initial s) hsmooth
  rw [hrun, List.nil_append, List.nil_append] at hbalanced
  have hroom : l.waiting.length ≤ s.capacity.toNat := hbalanced.room
  refine ⟨fun hclosed more text => ?_, fun hopen text => ?_, fun hleft => ?_, fun hdone => ?_,
    exists_finish⟩
  · have hstill := closed_run (s := s) hclosed more
    exact ⟨hstill, send_of_closed hstill text⟩
  · by_cases hfull : l.waiting.length = s.capacity.toNat
    · have hsend := send_of_full hopen (Nat.le_of_eq hfull.symm) text
      simp [hsend, hfull]
    · have hsend := send_of_room hopen (Nat.lt_of_le_of_ne hroom hfull) text
      simp [hsend, hfull]
  · exact ⟨_, hbalanced.order hleft⟩
  · exact ⟨(hbalanced.ended hdone).2, (hbalanced.ended_of_done hdone).run⟩

/-- Room for one text, which is what a configuration gets that asks for none. -/
def narrow : LinkSettings := .ofConfig { Config.standard with queueCapacity := 0 }

/-- The writer holds a text and another waits when a third one comes, and the link is closed. -/
def crowded : List Turn :=
  [.send "a", .takes, .send "b", .send "c", .writes, .writerNotices, .takes, .writes, .finishes]

/-- What the turns do. -/
def crowdedEffects : List Effect :=
  [.sent (.ok ()), .sent (.ok ()), .sent (.error .queueFull), .wrote (.text "a"),
    .wrote (.text "b"), .wrote .goodbye]

/-- The general result about these turns. -/
theorem crowded_is_written :
    (∀ turn ∈ crowded, turn.Smooth) ∧
      initial.run narrow crowded = (⟨true, [], none, .done⟩, crowdedEffects) ∧
      accepted narrow initial crowded = ["a", "b"] ∧
      written crowdedEffects = [.text "a", .text "b", .goodbye] := by
  have hsmooth : ∀ turn ∈ crowded, turn.Smooth := by decide
  have hrun : initial.run narrow crowded = (⟨true, [], none, .done⟩, crowdedEffects) := rfl
  obtain ⟨-, -, -, hdone, -⟩ := accepted_is_written hsmooth hrun
  exact ⟨hsmooth, hrun, rfl, (hdone rfl).1⟩

end FeedLink.Socket.Link
