import FeedLink.Proofs.Inbound
import FeedLink.Proofs.Socket.Waiting

/-!
# Which replies settle who waits

A frame that answers a request has its key, and a result or an error. Whether it reaches who waits
under the key depends on the rest of its shape: a frame with the method of a push is never looked at
as a reply, and an error that is not an object is passed over, so that the frame counts for its
result, or for nothing when it has none. In every other shape a reply that bears a pending key
settles it. Whoever waits for a frame that counts for nothing waits on until the time is up.

## Main definitions

* `Handler.Answered` — an outcome has reached who waits under a key

## Main results

* `Handler.answered_received_iff` — a frame brings the outcome that it is the reply with
* `Handler.settles_unless_misshapen`
-/

namespace FeedLink.Socket

open Json

namespace Handler

variable {h : Handler} {s : Settings} {now : Duration} {link : LinkId} {text key : String}
  {outcome : Outcome}

/-- An outcome has reached who waits under a key, and nothing is pending there any more. -/
def Answered (h : Handler) (key : String) (outcome : Outcome) : Prop :=
  h.correlator.contains key = false ∧
    ∃ w ∈ h.waiters, w.key = key ∧ h.correlator.settlement? w.ticket = some (.reply outcome)

/-- A frame leaves everybody where they wait. -/
theorem waiters_received (hreading : h.reader = .reading link) (s : Settings) (now : Duration)
    (text : String) : (h.step s now (.received link text)).1.waiters = h.waiters := by
  simp only [step, hreading, if_true, waiters]
  rw [calls_readOn, calls_handleText]
  have hbatches : (h.handleText s text).1.readOn.batches = h.batches := by
    have hkeep : (h.handleText s text).1.batches = h.batches := by
      rcases handleText_cases s h text with heq | ⟨k, o, -, heq⟩ <;> rw [heq]
      rfl
    rw [← hkeep]
    unfold readOn
    split <;> rfl
  rw [hbatches]

theorem correlator_received (hc : h.Coherent) (hreading : h.reader = .reading link) (s : Settings)
    (now : Duration) (text : String) :
    (h.step s now (.received link text)).1.correlator =
      (h.perform s now (frameEffect text)).1 := by
  rw [correlator_step s now hc, show h.effect s now (.received link text) = frameEffect text by
    simp only [effect, hreading, if_true]]

/-- **A frame brings the outcome that it is the reply with** to who waits under its key, and to
nobody else. -/
theorem answered_received_iff (hr : Reachable s h) (hreading : h.reader = .reading link)
    (hpending : h.correlator.contains key = true) (now : Duration) :
    (h.step s now (.received link text)).1.Answered key outcome ↔
      Inbound.parse text = .ok (.reply key outcome) := by
  have hc := hr.coherent
  obtain ⟨ticket, hticket⟩ := Table.has_eq_true_iff.mp hpending
  obtain ⟨w, hw, rfl, rfl⟩ := hc.tables.owned hticket
  rw [Answered, waiters_received hreading, correlator_received hc hreading]
  unfold frameEffect
  split
  · next k o hparse =>
    have hpending' : Table.get? w.key (h.correlator.dispatch k o).2.pending =
        if k = w.key then none else Table.get? w.key h.correlator.pending :=
      Correlator.get?_pending_settle ..
    have hsettled (t : Ticket) : (h.correlator.dispatch k o).2.settlement? t =
        if Table.get? k h.correlator.pending = some t then some (.reply o)
        else h.correlator.settlement? t := Correlator.settlement?_settle ..
    simp only [perform, Correlator.contains, Table.has_eq_false_iff, hpending', hsettled, hparse]
    constructor
    · rintro ⟨hgone, w', hw', hkey, hreply⟩
      have hkw : k = w.key := by
        by_contra hne
        rw [if_neg hne, hticket] at hgone
        contradiction
      have hticket' : Table.get? k h.correlator.pending = some w'.ticket := by
        have hown : Table.get? w'.key h.correlator.pending = some w.ticket := by rw [hkey, hticket]
        rw [hkw, hticket, hc.tables.ticket_eq hw' hown]
      rw [if_pos hticket'] at hreply
      obtain rfl := Settlement.reply.inj (Option.some.inj hreply)
      rw [hkw]
    · intro hreply
      obtain ⟨rfl, rfl⟩ := Inbound.reply.inj (Except.ok.inj hreply)
      exact ⟨if_pos rfl, w, hw, rfl, if_pos hticket⟩
  · next hother =>
    refine iff_of_false (fun hanswered => ?_) (hother _ _)
    rw [show (h.perform s now .nothing).1 = h.correlator from rfl, hpending] at hanswered
    exact absurd hanswered.1.symm Bool.false_ne_true

/-- **A reply settles who waits for it unless it is misshapen.** A frame from the connection answers
a request or a subscribe whose key is pending. It takes the key out of the correlator and brings an
outcome to who waits under it, which is an error if the frame has one, exactly if the frame has not
the method of a push and its error is an object; when nothing comes of it, the key stays pending. -/
theorem settles_unless_misshapen (hr : Reachable s h) (hreading : h.reader = .reading link)
    (now : Duration) {frame : Value} (hparse : Value.parse text = .ok frame)
    (hanswers : Inbound.Answers frame key) (hpending : h.correlator.contains key = true) :
    ((∃ outcome, (h.step s now (.received link text)).1.Answered key outcome ∧
          (Inbound.Fails frame → ∃ e, outcome = .error e)) ↔
        ¬Inbound.LooksLikePush frame ∧ Inbound.ErrorIsObject frame) ∧
      ((∃ outcome, (h.step s now (.received link text)).1.Answered key outcome) ∨
        (h.step s now (.received link text)).1.correlator = h.correlator) := by
  have hframe : Inbound.parse text = .ok (Inbound.ofValue frame) := by rw [Inbound.parse, hparse]; rfl
  have hreply (outcome : Outcome) : (h.step s now (.received link text)).1.Answered key outcome ↔
      ¬Inbound.LooksLikePush frame ∧ Inbound.outcome? frame = some outcome := by
    rw [answered_received_iff hr hreading hpending, hframe, Except.ok.injEq,
      Inbound.ofValue_eq_reply_iff, and_iff_right hanswers.key]
  refine ⟨?_, ?_⟩
  · simp only [hreply]
    rw [← Inbound.exists_outcome_iff hanswers]
    constructor
    · rintro ⟨outcome, ⟨hmethod, hout⟩, hfails⟩
      exact ⟨hmethod, outcome, hout, hfails⟩
    · rintro ⟨hmethod, outcome, hout, hfails⟩
      exact ⟨outcome, ⟨hmethod, hout⟩, hfails⟩
  · rw [correlator_received hr.coherent hreading, frameEffect, hframe]
    split
    · next k outcome heq =>
      obtain ⟨hmethod, -, hout⟩ := Inbound.ofValue_eq_reply_iff.mp (Except.ok.inj heq)
      exact .inl ⟨outcome, (hreply outcome).mpr ⟨hmethod, hout⟩⟩
    · exact .inr rfl

/-- A request waits for its reply on the first connection. -/
def requestInFlight : Handler :=
  (initial ⟨0⟩).after .standard [(.zero, .request ⟨"r"⟩ "ping" .null none)]

/-- An error that does not decode is still the outcome of the request. -/
theorem malformed_error_settles :
    ∃ e, (requestInFlight.step .standard .zero
      (.received ⟨0⟩ "\x7b\"id\":\"1\",\"error\":\x7b\x7d\x7d")).1.Answered "1" (.error e) := by
  have hreachable : Reachable .standard requestInFlight := (Reachable.initial ⟨0⟩).after _
  have hparse : Value.parse "\x7b\"id\":\"1\",\"error\":\x7b\x7d\x7d" =
      .ok (.obj [("error", .obj []), ("id", .str "1")]) := by cbv
  have hfails : Inbound.Fails (.obj [("error", .obj []), ("id", .str "1")]) :=
    ⟨.obj [], rfl, by simp⟩
  obtain ⟨hsettles, -⟩ := settles_unless_misshapen hreachable rfl .zero hparse
    ⟨rfl, .inr hfails⟩ rfl
  obtain ⟨outcome, hanswered, herror⟩ :=
    hsettles.mpr ⟨by simp [Inbound.LooksLikePush, Value.field?, lookup], fun _ => ⟨[], rfl⟩⟩
  obtain ⟨e, rfl⟩ := herror hfails
  exact ⟨e, hanswered⟩

/-- A result that names the method of a push, and an error that is a string: the request that they
answer waits on. -/
theorem misshapen_replies_are_lost :
    (Reachable .standard requestInFlight ∧ requestInFlight.link = some ⟨0⟩ ∧
      requestInFlight.correlator.contains "1" = true) ∧
    ∀ text ∈ ["\x7b\"id\":\"1\",\"method\":\"subscribe\",\"result\":\"pong\"\x7d",
        "\x7b\"id\":\"1\",\"error\":\"overloaded\"\x7d"],
      ∃ frame, Value.parse text = .ok frame ∧ Inbound.Answers frame "1" ∧
        (requestInFlight.step .standard .zero (.received ⟨0⟩ text)).1.correlator.contains "1" =
          true := by
  refine ⟨⟨(Reachable.initial ⟨0⟩).after _, rfl, rfl⟩, ?_⟩
  simp only [List.forall_mem_cons]
  refine ⟨⟨.obj [("id", .str "1"), ("method", .str "subscribe"), ("result", .str "pong")], ?_⟩,
    ⟨.obj [("error", .str "overloaded"), ("id", .str "1")], ?_⟩, by simp⟩
  · refine ⟨?_, ⟨rfl, .inl rfl⟩, ?_⟩ <;> cbv
  · refine ⟨?_, ⟨rfl, .inr ⟨_, rfl, by simp⟩⟩, ?_⟩ <;> cbv

end Handler

end FeedLink.Socket
