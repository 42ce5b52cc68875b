import FeedLink.Grpc.Metadata
import FeedLink.Proofs.Json.Storing

/-!
# Stored configurations

A configuration that is stored and loaded again is the same but for its spans of time, of which the
whole milliseconds are stored, and of these 64 bits. No name is read under which nothing is written,
so no default takes the place of what was stored, and an absent text stays apart from an empty one.
A configuration that was loaded has nothing but whole milliseconds, so it does not change any more.

The spans decide nothing about what is dialed and what is presented there.

## Main definitions

* `Duration.truncated`, `Duration.stored` — a span in whole milliseconds, and what is stored of it
* `Config.truncated` — a configuration in whole milliseconds
* `Config.Survives` — what is loaded of a configuration, and is as good as the configuration

## Main results

* `Config.stores_stored` — what is loaded of any configuration
* `Config.stored_of_read` — a configuration that was loaded does not change any more
* `Config.survives_storing`
-/

namespace FeedLink

open Json
open Record (restores_nil_iff restores_defaulted_iff)

namespace Duration

/-- A span without the millisecond that has begun. -/
def truncated (d : Duration) : Duration := .ofMillis d.millis

/-- A span as it is stored: 64 bits of its whole milliseconds. -/
def stored (d : Duration) : Duration := .ofMillis (UInt64.ofNat d.millis).toNat

@[simp] theorem stored_ofMillis (n : UInt64) : stored (.ofMillis n.toNat) = .ofMillis n.toNat := by
  rw [stored, millis_ofMillis, UInt64.ofNat_toNat]

@[simp] theorem stored_stored (d : Duration) : d.stored.stored = d.stored := stored_ofMillis _

/-- The milliseconds of a span of less than so many are fewer. -/
theorem millis_lt {d : Duration} {n : Nat} (hlt : d < .ofMillis n) : d.millis < n := by
  rw [lt_def, nanos_ofMillis] at hlt
  rw [millis]
  omega

/-- Nothing but the millisecond that has begun is lost of a span that 64 bits can count. -/
theorem stored_of_lt {d : Duration} (hlt : d < .ofMillis UInt64.size) : d.stored = d.truncated := by
  rw [stored, truncated, UInt64.toNat_ofNat_of_lt' (millis_lt hlt)]

end Duration

namespace Timeouts

variable {t : Timeouts} {d : Duration}

/-- All spans. -/
def all (t : Timeouts) : List Duration :=
  [t.requestWait, t.unsubscribeCeiling, t.unsubscribeInitial, t.reconnectCeiling,
    t.reconnectInitial, t.closeWait, t.grpcUnsubscribeWait, t.handshake, t.grpcDial]

/-- Changes every span. -/
def map (f : Duration → Duration) (t : Timeouts) : Timeouts where
  requestWait := f t.requestWait
  unsubscribeCeiling := f t.unsubscribeCeiling
  unsubscribeInitial := f t.unsubscribeInitial
  reconnectCeiling := f t.reconnectCeiling
  reconnectInitial := f t.reconnectInitial
  closeWait := f t.closeWait
  grpcUnsubscribeWait := f t.grpcUnsubscribeWait
  handshake := f t.handshake
  grpcDial := f t.grpcDial

theorem map_congr {f g : Duration → Duration} (hspans : ∀ d ∈ t.all, f d = g d) :
    t.map f = t.map g := by
  simp only [all, List.forall_mem_cons] at hspans
  obtain ⟨h₁, h₂, h₃, h₄, h₅, h₆, h₇, h₈, h₉, -⟩ := hspans
  simp only [map, *]

/-- Every span is stored as it is. -/
def Whole (t : Timeouts) : Prop := ∀ d ∈ t.all, d.stored = d

instance (t : Timeouts) : Decidable t.Whole := inferInstanceAs (Decidable (∀ d ∈ _, _))

theorem whole_map_stored (t : Timeouts) : (t.map Duration.stored).Whole := by
  simp [Whole, all, map]

theorem Whole.map_eq (hwhole : t.Whole) : t.map Duration.stored = t := map_congr (g := id) hwhole

/-! ### A span -/

theorem millis_atomic : millis.Atomic :=
  ⟨fun _ => rfl, fun d => (Codec.atomic_unsigned "u64").fits (UInt64.ofNat d.millis)⟩

theorem ofValue_millis (d : Duration) : millis.ofValue (millis.write d) = .ok d.stored :=
  congrArg (Except.map fun n : UInt64 => Duration.ofMillis n.toNat)
    (Codec.ofValue_unsigned "u64" (UInt64.ofNat d.millis))

theorem write_stored (d : Duration) : millis.write d.stored = millis.write d := by
  show Value.ofUInt64 (UInt64.ofNat d.stored.millis) = .ofUInt64 (UInt64.ofNat d.millis)
  rw [Duration.stored, Duration.millis_ofMillis, UInt64.ofNat_toNat]

theorem readsBack_millis (hwhole : d.stored = d) : millis.ReadsBack d := by
  rw [Codec.ReadsBack, Codec.toValue, millis_atomic.sorted, ofValue_millis, hwhole]

theorem stored_of_millis {doc : Document} (hread : millis.read doc = .ok d) : d.stored = d := by
  obtain ⟨n, -, rfl⟩ := map_eq_ok_iff.mp hread
  exact Duration.stored_ofMillis n

/-! ### All spans -/

theorem independent : record.Independent :=
  ⟨by decide, by simp [record, Field.commutes_defaulted], by decide⟩

theorem storable (room : Nat) (t : Timeouts) : ∀ f ∈ record.fields, f.Storable room t := by
  simp [record, Field.storable_of_atomic millis_atomic]

theorem restores (hwhole : t.Whole) : Record.Restores t record.fields record.blank t := by
  have hback : ∀ d ∈ t.all, millis.ReadsBack d := fun d hd => readsBack_millis (hwhole d hd)
  simp only [all, List.forall_mem_cons] at hback
  simp [record, restores_defaulted_iff, restores_nil_iff, hback]

theorem write_map_stored (t : Timeouts) :
    record.codec.write (t.map Duration.stored) = record.codec.write t := by
  simp [Record.codec, Record.write, Record.writeFields, record, Field.defaulted, map, write_stored]

/-- Spans that were loaded are stored as they are. -/
theorem whole_of_read {doc : Document} (hread : record.codec.read doc = .ok t) : t.Whole := by
  have hkeeps : ∀ {name : String} {get : Timeouts → Duration}
      {set : Duration → Timeouts → Timeouts}, (∀ d t, d.stored = d → t.Whole → (set d t).Whole) →
        (Field.defaulted name millis get set).Keeps Whole :=
    fun hset => Field.keeps_defaulted fun doc d hd t => hset d t (stored_of_millis hd)
  refine Record.of_read (by decide) ?_ hread
  simp only [record, List.forall_mem_cons]
  refine ⟨hkeeps ?_, hkeeps ?_, hkeeps ?_, hkeeps ?_, hkeeps ?_, hkeeps ?_, hkeeps ?_, hkeeps ?_,
    hkeeps ?_, by simp⟩ <;> simp +contextual [Whole, all]

end Timeouts

namespace Config

variable {c b : Config} {d : Document}

/-- A configuration in whole milliseconds. -/
def truncated (c : Config) : Config := { c with timeouts := c.timeouts.map .truncated }

/-- A configuration as it is stored. -/
def stored (c : Config) : Config := { c with timeouts := c.timeouts.map .stored }

theorem stored_of_lt (hspans : ∀ d ∈ c.timeouts.all, d < .ofMillis UInt64.size) :
    c.stored = c.truncated := by
  rw [stored, truncated, Timeouts.map_congr fun d hd => Duration.stored_of_lt (hspans d hd)]

theorem stored_of_whole (hwhole : c.timeouts.Whole) : c.stored = c := by
  rw [stored, hwhole.map_eq]

/-! ### Storing and loading -/

theorem independent : record.Independent :=
  ⟨by decide, by simp [record, Field.commutes_defaulted], by decide⟩

theorem storable (hwhole : c.timeouts.Whole) :
    ∀ f ∈ record.fields, f.Storable (Document.maxLevels - 1) c := by
  have htimeouts : Timeouts.record.codec.ofValue (Timeouts.record.codec.write c.timeouts) =
      Timeouts.record.codec.ofValue (Timeouts.record.codec.toValue c.timeouts) := by
    rw [Timeouts.independent.ofValue_write (Timeouts.storable 0 _) (Timeouts.restores hwhole),
      Timeouts.independent.readsBack (Timeouts.restores hwhole)]
  have hfits : (Timeouts.record.codec.write c.timeouts).fits (Document.maxLevels - 1) = true :=
    Record.fits_write (Timeouts.storable (Document.maxLevels - 2) c.timeouts)
  simpa [record, Field.storable_of_atomic, Codec.Atomic.option, Codec.size] using
    Field.storable_defaulted htimeouts hfits

theorem restores (hwhole : c.timeouts.Whole) :
    Record.Restores c record.fields record.blank c := by
  have htimeouts : Timeouts.record.codec.ReadsBack c.timeouts :=
    Timeouts.independent.readsBack (Timeouts.restores hwhole)
  simp [record, restores_defaulted_iff, restores_nil_iff, Codec.size, htimeouts]

theorem write_stored (c : Config) : record.codec.write c.stored = record.codec.write c := by
  show Value.obj (record.writeFields c.stored) = .obj (record.writeFields c)
  simp [Record.writeFields, record, Field.defaulted, stored, Timeouts.write_map_stored]

/-- **What is loaded of a configuration** is what was stored of it. -/
theorem stores_stored (c : Config) : record.codec.Stores c c.stored := by
  have hwhole : c.stored.timeouts.Whole := Timeouts.whole_map_stored _
  have hstores : record.codec.Stores c.stored c.stored :=
    independent.stores (storable hwhole) (restores hwhole)
  constructor
  · simpa only [Codec.toText, write_stored] using hstores.text
  · simpa only [Codec.toValue, write_stored] using hstores.value

/-- **A configuration that was loaded** is stored as it is. -/
theorem stored_of_read (hread : record.codec.read d = .ok c) : c.stored = c := by
  refine stored_of_whole (Record.of_read (P := fun c => c.timeouts.Whole) (by decide) ?_ hread)
  have hother : ∀ {α : Type} {name : String} {codec : Codec α} {get : Config → α}
      {set : α → Config → Config}, (∀ a c, (set a c).timeouts = c.timeouts) →
        (Field.defaulted name codec get set).Keeps fun c => c.timeouts.Whole :=
    fun hset => Field.keeps_defaulted fun _ a _ c hc => (hset a c).symm ▸ hc
  simp only [record, List.forall_mem_cons]
  refine ⟨hother ?_, hother ?_, hother ?_, hother ?_, hother ?_, hother ?_, hother ?_, hother ?_,
    hother ?_, hother ?_, Field.keeps_defaulted ?_, by simp⟩
  case refine_11 => exact fun _ t ht c _ => Timeouts.whole_of_read ht
  all_goals exact fun _ _ => rfl

/-! ### What a loaded configuration is good for -/

/-- What is loaded of a configuration is accepted like it, and what is dialed and presented there is
the same. -/
structure Survives (c b : Config) : Prop where
  stores : record.codec.Stores c b
  validate : b.validate = c.validate
  endpoint : b.endpoint = c.endpoint
  authValue : b.authValue = c.authValue
  socketEndpoint : ∀ version, b.socketEndpoint version = c.socketEndpoint version
  callMetadata : ∀ version, Grpc.callMetadata b version = Grpc.callMetadata c version

/-- The spans of time decide nothing of this. -/
theorem survives_stored (c : Config) : c.Survives c.stored where
  stores := stores_stored c
  validate := rfl
  endpoint := rfl
  authValue := rfl
  socketEndpoint _ := rfl
  callMetadata _ := rfl

/-- **Configurations survive being stored.** What has begun of a millisecond is lost once, and
nothing ever after. -/
theorem survives_storing :
    (∀ c : Config, (∀ d ∈ c.timeouts.all, d < .ofMillis UInt64.size) → c.Survives c.truncated) ∧
    (∀ s c, record.codec.ofText s = .ok c → c.Survives c) ∧
    (∀ v c, record.codec.ofValue v = .ok c → c.Survives c) := by
  have hloaded : ∀ {d c}, record.codec.read d = .ok c → c.Survives c := by
    intro d c hread
    have hsurvives := survives_stored c
    rwa [stored_of_read hread] at hsurvives
  refine ⟨fun c hspans => ?_, fun s c htext => ?_, fun v c hvalue => hloaded hvalue⟩
  · rw [← stored_of_lt hspans]
    exact survives_stored c
  · obtain ⟨d, hread⟩ := Codec.exists_read_of_ofText htext
    exact hloaded hread

/-- A gateway that is waited for a millisecond and a half, with an empty account and no secret. -/
def impatient : Config :=
  { forEndpoint .gatewaySocket "ws://gw" "h" with
    accountId := some ""
    timeouts := { Timeouts.standard with requestWait := ⟨1500000⟩ } }

theorem impatient_survives :
    impatient.truncated.timeouts.requestWait = .ofMillis 1 ∧
      impatient.Survives impatient.truncated ∧
      ∃ c, record.codec.ofText "[null,\"ws://gw\",null,\"h\"]" = .ok c ∧ c.Survives c := by
  have htext : record.codec.ofText "[null,\"ws://gw\",null,\"h\"]" =
      .ok (forEndpoint .gatewaySocket "ws://gw" "h") := by cbv
  obtain ⟨htruncated, hloaded, -⟩ := survives_storing
  exact ⟨by decide, htruncated impatient (by decide), _, htext, hloaded _ _ htext⟩

end Config

end FeedLink
