import FeedLink.Cli.Program
import FeedLink.Client.Recording
import FeedLink.Proofs.Json.Printing

/-!
# How far a watch goes

A watch with a limit prints notifications, in the order in which they are delivered, until it has
printed as many as the limit says; errors do not count. It then takes nothing more out of the
channel, whatever is delivered later. Since it looks at the limit only after it has printed
something, a limit of zero is kept as if it were one.

What is printed takes one line for each notification, for no value is written with a line break.

## Main definitions

* `Cli.notifications` — the notifications among deliveries
* `Cli.KeepsCount` — what is to be printed and what is to be left for a limit

## Main results

* `Cli.KeepsCount.unique` — a limit determines what is printed and what is left
* `Cli.keepsCount_watch` — a watch keeps its limit, and a limit of zero like one of one
* `Cli.keepsCount_watch_iff` — when a watch keeps the limit that it was given
* `Cli.splitOn_ofLines` — what is printed is one line for each notification
* `Cli.counted_watch_stops` — the same of the whole command
-/

namespace FeedLink.Cli

open Json

/-! ### What a limit asks for -/

/-- The notifications among deliveries, in their order. -/
def notifications (ds : List Delivery) : List Notification := ds.filterMap Except.toOption

theorem notifications_append (ds ds' : List Delivery) :
    notifications (ds ++ ds') = notifications ds ++ notifications ds' :=
  List.filterMap_append

variable {n : Nat} {ds left left' : List Delivery} {printed printed' : List Notification}

/-- What is printed of deliveries and what is left of them is what a limit asks for. Deliveries are
taken in turn, and the notifications among them are printed. None is taken when as many were printed
as the limit says, and some are left only then. -/
structure KeepsCount (n : Nat) (ds : List Delivery) (printed : List Notification)
    (left : List Delivery) : Prop where
  printed_eq : printed = (notifications ds).take n
  taken : ∃ taken, ds = taken ++ left ∧ notifications taken = printed ∧
    ∀ before d after, taken = before ++ d :: after → (notifications before).length < n
  left_eq : printed.length < n → left = []

namespace KeepsCount

theorem nil (n : Nat) : KeepsCount n [] [] [] where
  printed_eq := List.take_nil.symm
  taken := ⟨[], rfl, rfl, by simp⟩
  left_eq _ := rfl

/-- Nothing is taken where nothing is wanted. -/
theorem zero (ds : List Delivery) : KeepsCount 0 ds [] ds where
  printed_eq := rfl
  taken := ⟨[], rfl, rfl, by simp⟩
  left_eq hlt := absurd hlt (Nat.not_lt_zero _)

/-- One more delivery is taken in front, while something is wanted. -/
theorem cons (d : Delivery) (hn : 0 < n + (notifications [d]).length)
    (hkeeps : KeepsCount n ds printed left) :
    KeepsCount (n + (notifications [d]).length) (d :: ds) (notifications [d] ++ printed) left where
  printed_eq := by
    have hcons : notifications (d :: ds) = notifications [d] ++ notifications ds :=
      notifications_append [d] ds
    rw [hcons, Nat.add_comm, List.take_length_add_append, ← hkeeps.printed_eq]
  taken := by
    obtain ⟨taken, rfl, rfl, hearlier⟩ := hkeeps.taken
    refine ⟨d :: taken, rfl, notifications_append [d] taken, fun before d' after hsplit => ?_⟩
    cases before with
    | nil => exact hn
    | cons b before =>
      obtain ⟨rfl, hrest⟩ := List.cons.inj hsplit
      have hcons : notifications (d :: before) = notifications [d] ++ notifications before :=
        notifications_append [d] before
      rw [hcons, List.length_append, Nat.add_comm]
      exact Nat.add_lt_add_right (hearlier before d' after hrest) _
  left_eq hlt := hkeeps.left_eq (by rw [List.length_append] at hlt; omega)

/-- An error is taken, if something is still wanted, and nothing is printed. -/
theorem error (e : HandlerError) (hn : 0 < n) (hkeeps : KeepsCount n ds printed left) :
    KeepsCount n (.error e :: ds) printed left :=
  hkeeps.cons (.error e) hn

/-- A notification is printed, and one less is wanted of the rest. -/
theorem ok (x : Notification) (hkeeps : KeepsCount n ds printed left) :
    KeepsCount (n + 1) (.ok x :: ds) (x :: printed) left :=
  hkeeps.cons (.ok x) (Nat.succ_pos n)

/-- Where a limit was reached, it does not matter what is delivered later. -/
theorem append (hkeeps : KeepsCount n ds printed left) (hfull : printed.length = n)
    (more : List Delivery) : KeepsCount n (ds ++ more) printed (left ++ more) where
  printed_eq := by
    have hlength : n ≤ (notifications ds).length := by
      rw [hkeeps.printed_eq, List.length_take] at hfull
      omega
    rw [notifications_append, List.take_append_of_le_length hlength]
    exact hkeeps.printed_eq
  taken := by
    obtain ⟨taken, rfl, hprinted, hearlier⟩ := hkeeps.taken
    exact ⟨taken, List.append_assoc .., hprinted, hearlier⟩
  left_eq hlt := absurd hfull (Nat.ne_of_lt hlt)

/-- **A limit determines what is printed and what is left.** -/
theorem unique (hkeeps : KeepsCount n ds printed left) (hkeeps' : KeepsCount n ds printed' left') :
    printed = printed' ∧ left = left' := by
  have hprinted : printed = printed' := hkeeps.printed_eq.trans hkeeps'.printed_eq.symm
  refine ⟨hprinted, ?_⟩
  subst hprinted
  obtain ⟨taken, hds, htaken, hearlier⟩ := hkeeps.taken
  obtain ⟨taken', hds', htaken', hearlier'⟩ := hkeeps'.taken
  -- Whoever took more did so after the limit had been reached.
  rcases List.append_eq_append_iff.mp (hds.symm.trans hds') with
    ⟨rest, rfl, hleft⟩ | ⟨rest, rfl, hleft⟩
  · cases rest with
    | nil => exact hleft
    | cons d after =>
      have hnone := hkeeps.left_eq (htaken ▸ hearlier' taken d after rfl)
      simp [hnone] at hleft
  · cases rest with
    | nil => exact hleft.symm
    | cons d after =>
      have hnone := hkeeps'.left_eq (htaken' ▸ hearlier taken' d after rfl)
      simp [hnone] at hleft

end KeepsCount

/-! ### What a watch does -/

/-- A watch that has printed some goes on to what is left of its limit. -/
theorem keepsCount_watch_of_lt {seen : Nat} (hseen : seen < n) (ds : List Delivery) :
    KeepsCount (n - seen) ds (watch (some n) seen ds).1 (watch (some n) seen ds).2 := by
  induction ds generalizing seen with
  | nil => exact .nil _
  | cons d rest ih =>
    cases d with
    | error e => exact (ih hseen).error e (Nat.sub_pos_of_lt hseen)
    | ok x =>
      rw [watch]
      split
      · next henough =>
        have hone : n - seen = 0 + 1 := by
          have hle : n ≤ seen + 1 := by simpa [isEnough] using henough
          omega
        rw [hone]
        exact (KeepsCount.zero rest).ok x
      · next hnot =>
        have hmore : seen + 1 < n := by simpa [isEnough] using hnot
        have hone : n - seen = (n - (seen + 1)) + 1 := by omega
        rw [hone]
        exact (ih hmore).ok x

/-- A limit of zero is treated like one of one. -/
theorem watch_zero (seen : Nat) (ds : List Delivery) :
    watch (some 0) seen ds = watch (some 1) seen ds := by
  have henough : isEnough (some 0) (seen + 1) = isEnough (some 1) (seen + 1) := by
    simp [isEnough]
  induction ds with
  | nil => rfl
  | cons d rest ih =>
    cases d with
    | error e => exact ih
    | ok x =>
      have hone : isEnough (some 1) (seen + 1) = true := by simp [isEnough]
      rw [watch, watch, henough, if_pos hone, if_pos hone]

/-- **A watch keeps its limit**, and a limit of zero as if it were one. -/
theorem keepsCount_watch (n : Nat) (ds : List Delivery) :
    KeepsCount (max n 1) ds (watch (some n) 0 ds).1 (watch (some n) 0 ds).2 := by
  cases n with
  | zero =>
    rw [watch_zero]
    exact keepsCount_watch_of_lt Nat.zero_lt_one ds
  | succ n =>
    rw [Nat.max_eq_left (Nat.succ_pos n)]
    exact keepsCount_watch_of_lt (Nat.succ_pos n) ds

/-- **A watch keeps the limit that it was given** unless that is zero and something is
delivered. -/
theorem keepsCount_watch_iff (n : Nat) (ds : List Delivery) :
    KeepsCount n ds (watch (some n) 0 ds).1 (watch (some n) 0 ds).2 ↔ n ≠ 0 ∨ ds = [] := by
  have hkeeps := keepsCount_watch n ds
  constructor
  · intro hzero
    by_contra! hnot
    obtain ⟨rfl, hds⟩ := hnot
    obtain ⟨hprinted, hleft⟩ := hzero.unique (.zero ds)
    rw [hprinted, hleft] at hkeeps
    exact hds (hkeeps.left_eq Nat.zero_lt_one)
  · rintro (hn | rfl)
    · rwa [Nat.max_eq_left (Nat.pos_of_ne_zero hn)] at hkeeps
    · exact .nil n

/-- Once a watch has printed what was wanted, it does not matter what is delivered later. -/
theorem watch_append (hn : n ≠ 0) (hlength : n ≤ (notifications ds).length) (more : List Delivery) :
    watch (some n) 0 (ds ++ more) =
      ((watch (some n) 0 ds).1, (watch (some n) 0 ds).2 ++ more) := by
  have hkeeps := (keepsCount_watch_iff n ds).mpr (.inl hn)
  have hfull : (watch (some n) 0 ds).1.length = n := by
    rw [hkeeps.printed_eq, List.length_take, Nat.min_eq_left hlength]
  have hmore := (keepsCount_watch_iff n (ds ++ more)).mpr (.inl hn)
  obtain ⟨hprinted, hleft⟩ := hmore.unique (hkeeps.append hfull more)
  exact Prod.ext hprinted hleft

/-! ### What is printed -/

theorem output_ofLines (lines : List String) (last : Except HandlerError Unit) :
    (Outcome.ofLines lines last).output = String.join (lines.map (· ++ "\n")) := by
  cases last <;> rfl

/-- Lines can be told apart again if none of them has a line break. -/
theorem splitOn_join {lines : List String} (hlines : ∀ l ∈ lines, '\n' ∉ l.toList) :
    (String.join (lines.map (· ++ "\n"))).toList.splitOn '\n' =
      lines.map String.toList ++ [[]] := by
  rw [String.toList_join]
  induction lines with
  | nil => rfl
  | cons l rest ih =>
    obtain ⟨hl, hrest⟩ := List.forall_mem_cons.mp hlines
    have hfirst : ((l :: rest).map (· ++ "\n")).flatMap String.toList =
        l.toList ++ '\n' :: (rest.map (· ++ "\n")).flatMap String.toList := by
      simp
    rw [hfirst, List.splitOn_append_cons_self_of_not_mem hl, ih hrest, List.map_cons,
      List.cons_append]

/-- **What is printed of notifications** is one line for each of them. -/
theorem splitOn_ofLines (printed : List Notification) (last : Except HandlerError Unit) :
    (Outcome.ofLines (printed.map lineOf) last).output.toList.splitOn '\n' =
      printed.map (fun x => (lineOf x).toList) ++ [[]] := by
  have hlines : ∀ l ∈ printed.map lineOf, '\n' ∉ l.toList := fun l hl => by
    obtain ⟨x, -, rfl⟩ := List.mem_map.mp hl
    exact x.toValue.newline_notMem_render
  rw [output_ofLines, splitOn_join hlines, List.map_map]
  rfl

/-- What was printed, and how the last step ended, is all that is seen of a command that has
subscribed. -/
theorem subscribe_eq {σ : Type} (net : Network σ) (client : Client σ) (feed : Feed)
    (params : Value) (n : Nat) {channel : Channel} {s s₁ s₂ : σ}
    (hchannel : (client.subscribeChannel feed params ⟨feed.name⟩).run s = (.ok channel, s₁))
    (hds : (net.deliveries channel).run s₁ = (ds, s₂)) :
    subscribe net client feed params (some n) s =
      .ofLines ((watch (some n) 0 ds).1.map lineOf)
        (client.close.run ((client.unsubscribe feed).run s₂).2).1 := by
  simp only [subscribe, hchannel, hds]
  rfl

/-- **A watch with a count stops after so many notifications.** It prints the first ones that are
delivered, as many as the count says, each on a line of its own and without counting errors, and it
takes nothing more out of the channel before it unsubscribes and closes, whatever is delivered
later. The exception is a count of zero, which is kept like a count of one. -/
theorem counted_watch_stops (n : Nat) (ds : List Delivery) :
    (KeepsCount n ds (watch (some n) 0 ds).1 (watch (some n) 0 ds).2 ↔ n ≠ 0 ∨ ds = []) ∧
      KeepsCount (max n 1) ds (watch (some n) 0 ds).1 (watch (some n) 0 ds).2 ∧
      (∀ more : List Delivery, n ≠ 0 → n ≤ (notifications ds).length →
        watch (some n) 0 (ds ++ more) =
          ((watch (some n) 0 ds).1, (watch (some n) 0 ds).2 ++ more)) ∧
      ∀ {σ : Type} (net : Network σ) (client : Client σ) (feed : Feed) (params : Value)
        (channel : Channel) (s s₁ s₂ : σ),
        (client.subscribeChannel feed params ⟨feed.name⟩).run s = (.ok channel, s₁) →
        (net.deliveries channel).run s₁ = (ds, s₂) →
        (subscribe net client feed params (some n) s =
          .ofLines ((watch (some n) 0 ds).1.map lineOf)
            (client.close.run ((client.unsubscribe feed).run s₂).2).1) ∧
        (subscribe net client feed params (some n) s).output.toList.splitOn '\n' =
          (watch (some n) 0 ds).1.map (fun x => (lineOf x).toList) ++ [[]] := by
  refine ⟨keepsCount_watch_iff n ds, keepsCount_watch n ds,
    fun more hn hlength => watch_append hn hlength more, ?_⟩
  intro σ net client feed params channel s s₁ s₂ hchannel hds
  have houtcome := subscribe_eq net client feed params n hchannel hds
  exact ⟨houtcome, houtcome ▸ splitOn_ofLines _ _⟩

/-- Notifications, one of them with a line break, and an error among them. -/
def mixed : List Delivery :=
  [.ok (.raw (.str "a")), .error .notConnected, .ok (.raw (.str "b\n")), .ok (.raw .null)]

/-- A network whose handlers record, and whose channels are all given the same. -/
def recording : Network Recorder where
  socket _ := .opened .empty
  gateway _ := .opened .empty
  handler := Recorder.handler
  deliveries _ := pure mixed

/-- The general result about the first two notifications, which another one later does not
change. -/
theorem two_of_mixed_printed :
    KeepsCount 2 mixed [.raw (.str "a"), .raw (.str "b\n")] [.ok (.raw .null)] ∧
      watch (some 2) 0 (mixed ++ [.ok (.raw (.str "c"))]) =
        ([.raw (.str "a"), .raw (.str "b\n")], [.ok (.raw .null), .ok (.raw (.str "c"))]) ∧
      (subscribe recording ⟨recording.handler .gatewaySocket, "Mainnet"⟩ .newBlocks .null (some 2)
        .empty).output.toList.splitOn '\n' =
          [(lineOf (.raw (.str "a"))).toList, (lineOf (.raw (.str "b\n"))).toList, []] := by
  obtain ⟨hkeeps, -, hlater, hprogram⟩ := counted_watch_stops 2 mixed
  exact ⟨hkeeps.mpr (.inl (by decide)), hlater _ (by decide) (by decide),
    (hprogram recording ⟨recording.handler .gatewaySocket, "Mainnet"⟩ .newBlocks .null
      (.empty ⟨Feed.newBlocks.name⟩) _ _ _ rfl rfl).2⟩

/-- A count of zero does not keep a notification from being printed. -/
theorem zero_prints_one :
    (watch (some 0) 0 mixed).1 = [.raw (.str "a")] ∧
      ¬ KeepsCount 0 mixed (watch (some 0) 0 mixed).1 (watch (some 0) 0 mixed).2 := by
  refine ⟨rfl, fun hkeeps => ?_⟩
  have hprinted : [Notification.raw (.str "a")] = [] := hkeeps.printed_eq
  exact List.cons_ne_nil _ _ hprinted

end FeedLink.Cli
