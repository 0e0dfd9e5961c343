import V2vBft.Engine.RadioNetwork
import V2vBft.Engine.RelaySchedule

/-! The relay schedulers of a fleet on a channel that loses nothing: how many vehicles relay a packet. -/

namespace V2vBft.Engine

open Wire Pbft App Library.GuardedRun Library.Alarm

structure FleetRadio where
  timing : RelayTiming
  vehicles : List ℤ
  epoch : ℕ
  pubKey : ℤ → Bytes
  sign : ℤ → Bytes → Bytes

def FleetRadio.config (F : FleetRadio) (id : ℤ) : RelayTiming :=
  { F.timing with relay := { F.timing.relay with replicaId := id } }

def FleetRadio.threshold (F : FleetRadio) : ℤ := consensusRelayCarrierThreshold F.timing.relay

def FleetRadio.relayFrame (F : FleetRadio) (id : ℤ) (p : ScheduledRelay) : RadioFrame :=
  let inner := gossipSerialize p.relay.relayEpoch p.relay.raw
  ⟨.consensusRelay, id, -1, F.pubKey id, F.sign id inner, inner⟩

structure FleetRadio.Sound (F : FleetRadio) : Prop where
  distinct : F.vehicles.Nodup
  members : ∀ id ∈ F.vehicles, 0 ≤ id ∧ id < F.timing.relay.totalVehicles
  registered : ∀ id ∈ F.vehicles, F.timing.relay.registeredKey id = some (F.pubKey id)
  verifies : ∀ id ∈ F.vehicles, ∀ bytes, F.timing.relay.verifyBytes (F.pubKey id) bytes (F.sign id bytes) = true
  epoch : F.epoch < uint32Modulus

-- onAir: relays on their way, with the vehicles they have yet to reach
structure RelayFleet where
  now : ℤ
  vehicle : ℤ → RelayScheduler
  aired : ℤ → List (ScheduledRelay × ℤ)
  retired : ℤ → Bool
  onAir : List (ℤ × RadioFrame)

def RelayFleet.initial : RelayFleet := ⟨0, fun _ => ⟨[], [], [], none⟩, fun _ => [], fun _ => false, []⟩

inductive FleetEvent
  | hear (now : ℤ) (id : ℤ) (frame : RadioFrame)
  | deliver (index : ℕ)
  | timer (id : ℤ) (complete : List RelayKey)
  | cancel (now : ℤ) (id : ℤ)
  | retire (now : ℤ) (id : ℤ)

-- onWSM drops a vehicle's own frames, and a departed or crashed vehicle drops all
def FleetRadio.hear (F : FleetRadio) (s : RelayFleet) (now id : ℤ) (frame : RadioFrame) : RelayFleet :=
  if s.retired id || decide (frame.fromReplicaId = id) then { s with now := now }
  else
    { s with
      now := now
      vehicle := Function.update s.vehicle id ((s.vehicle id).handleFrame (F.config id) frame F.epoch false now).2 }

def fleetStep (F : FleetRadio) (s : RelayFleet) : FleetEvent → RelayFleet
  | .hear now id frame => F.hear s now id frame
  | .deliver index =>
    match s.onAir[index]? with
    | none => s
    | some (id, frame) => { F.hear s s.now id frame with onAir := s.onAir.eraseIdx index }
  | .timer id complete =>
    match (s.vehicle id).timer with
    | none => s
    | some now =>
      let flushed := (s.vehicle id).flushDueConsensusRelays (F.config id) complete F.epoch (s.retired id) now
      { s with
        now := now
        vehicle := Function.update s.vehicle id flushed.2
        aired := Function.update s.aired id (flushed.1.map (fun p => (p, now)) ++ s.aired id)
        onAir := s.onAir ++ flushed.1.flatMap fun p =>
          (F.vehicles.filter fun j => decide (j ≠ id)).map fun j => (j, F.relayFrame id p) }
  | .cancel now id =>
    { s with now := now, vehicle := Function.update s.vehicle id (s.vehicle id).cancelPendingConsensusRelays }
  | .retire now id => { s with now := now, retired := Function.update s.retired id true }

def FleetRadio.reaches (F : FleetRadio) (s : RelayFleet) (now : ℤ) : Prop :=
  s.now ≤ now ∧ ∀ id ∈ F.vehicles, ∀ t ∈ (s.vehicle id).timer, now ≤ t

instance (F : FleetRadio) (s : RelayFleet) (now : ℤ) : Decidable (F.reaches s now) :=
  inferInstanceAs (Decidable (s.now ≤ now ∧ ∀ id ∈ F.vehicles, ∀ t ∈ (s.vehicle id).timer, now ≤ t))

-- no timer goes off while a relay is on its way
def FleetRadio.inOrder (F : FleetRadio) (s : RelayFleet) : FleetEvent → Prop
  | .hear now id _ => id ∈ F.vehicles ∧ F.reaches s now
  | .deliver _ => True
  | .timer id _ => id ∈ F.vehicles ∧ s.onAir = [] ∧ ∀ t ∈ (s.vehicle id).timer, F.reaches s t
  | .cancel now id => id ∈ F.vehicles ∧ F.reaches s now
  | .retire now id => id ∈ F.vehicles ∧ F.reaches s now

instance (F : FleetRadio) (s : RelayFleet) : ∀ ev, Decidable (F.inOrder s ev)
  | .hear now id _ => inferInstanceAs (Decidable (id ∈ F.vehicles ∧ F.reaches s now))
  | .deliver _ => inferInstanceAs (Decidable True)
  | .timer id _ =>
    inferInstanceAs (Decidable (id ∈ F.vehicles ∧ s.onAir = [] ∧ ∀ t ∈ (s.vehicle id).timer, F.reaches s t))
  | .cancel now id => inferInstanceAs (Decidable (id ∈ F.vehicles ∧ F.reaches s now))
  | .retire now id => inferInstanceAs (Decidable (id ∈ F.vehicles ∧ F.reaches s now))

-- time goes on, while relays may come late, in any order or not at all
def FleetRadio.inTime (F : FleetRadio) (s : RelayFleet) : FleetEvent → Prop
  | .deliver _ => True
  | .timer id _ => id ∈ F.vehicles ∧ ∀ t ∈ (s.vehicle id).timer, F.reaches s t
  | .hear now id _ | .cancel now id | .retire now id => id ∈ F.vehicles ∧ F.reaches s now

instance (F : FleetRadio) (s : RelayFleet) : ∀ ev, Decidable (F.inTime s ev)
  | .deliver _ => inferInstanceAs (Decidable True)
  | .timer id _ => inferInstanceAs (Decidable (id ∈ F.vehicles ∧ ∀ t ∈ (s.vehicle id).timer, F.reaches s t))
  | .hear now id _ | .cancel now id | .retire now id => inferInstanceAs (Decidable (id ∈ F.vehicles ∧ F.reaches s now))

def RelayFleet.hasAired (s : RelayFleet) (key : RelayKey) (id : ℤ) : Bool :=
  decide (key ∈ (s.aired id).map fun a => a.1.key)

structure FleetRadio.Relayable (F : FleetRadio) (p : ScheduledRelay) : Prop where
  framed : p.relay.raw ≠ [] ∧ p.relay.relayEpoch < uint32Modulus
  current : signed32 F.epoch ≤ signed32 p.relay.relayEpoch
  parsed : ∃ request, F.timing.relay.parsePacket p.relay.raw = some request ∧ isConsensusRelayEligible request = true ∧
    p.key = consensusRelayKey F.timing.relay p.relay.raw request

structure SchedulersInv (F : FleetRadio) (s : RelayFleet) : Prop where
  each : ∀ id ∈ F.vehicles, RelayInv (F.config id) ⟨s.now, s.vehicle id, s.aired id⟩
  reached : ∀ x ∈ s.onAir, x.1 ∈ F.vehicles

structure FleetInv (F : FleetRadio) (s : RelayFleet) : Prop extends SchedulersInv F s where
  relayable : ∀ id ∈ F.vehicles, ∀ p ∈ (s.vehicle id).pending, F.Relayable p
  heard : ∀ i ∈ F.vehicles, ∀ j ∈ F.vehicles, i ≠ j → s.retired j = false → ∀ a ∈ s.aired i,
    (a.1.key, i) ∈ (s.vehicle j).carriers ∨ F.Relayable a.1 ∧ (j, F.relayFrame i a.1) ∈ s.onAir
  few : ∀ key, (F.vehicles.countP (s.hasAired key) : ℤ) ≤ F.threshold

variable {F : FleetRadio} {s : RelayFleet} {cfg : RelayTiming} {c : RelayScheduler} {key : RelayKey} {raw : Bytes}
  {request : Request} {relayEpoch : ℕ} {now : ℤ} {departed : Bool}

lemma inTime_of_inOrder {ev : FleetEvent} (h : F.inOrder s ev) : F.inTime s ev := by
  cases ev with
  | timer id complete => exact ⟨h.1, h.2.2⟩
  | _ => exact h

lemma schedulersInv_initial : SchedulersInv F .initial :=
  ⟨fun _ _ => relayInv_initial, fun _ hx => absurd hx List.not_mem_nil⟩

lemma fleetInv_initial : FleetInv F .initial where
  toSchedulersInv := schedulersInv_initial
  relayable := fun _ _ _ hp => absurd hp List.not_mem_nil
  heard := fun _ _ _ _ _ _ _ ha => absurd ha List.not_mem_nil
  few := fun key => by
    have hnone : F.vehicles.countP (RelayFleet.initial.hasAired key) = 0 :=
      List.countP_eq_zero.mpr fun _ _ => by simp [RelayFleet.hasAired, RelayFleet.initial]
    rw [hnone]
    exact zero_le_one.trans (le_max_left _ _)

lemma carriers_maybeRelay :
    c.carriers ⊆ (c.maybeRelayResdbConsensusBytes cfg departed raw relayEpoch now).carriers := by
  unfold RelayScheduler.maybeRelayResdbConsensusBytes RelayScheduler.scheduleConsensusRelay
  repeat' split
  all_goals exact List.Subset.refl _

lemma carriers_observe (carrier : ℤ) : c.carriers ⊆ (c.observeConsensusRelayCarrier cfg key carrier).carriers := by
  unfold RelayScheduler.observeConsensusRelayCarrier
  dsimp only
  repeat' split
  all_goals first | exact List.Subset.refl _ | exact List.subset_cons_self _ _

lemma carrier_observed {carrier : ℤ} (hcarrier : 0 ≤ carrier) :
    (key, carrier) ∈ (c.observeConsensusRelayCarrier cfg key carrier).carriers := by
  unfold RelayScheduler.observeConsensusRelayCarrier
  split
  next hold => exact List.contains_iff_mem.mp (hold.resolve_left (not_lt.mpr hcarrier))
  next =>
    dsimp only
    repeat' split
    all_goals exact List.mem_cons_self

lemma carriers_handleFrame (frame : RadioFrame) (currentEpoch : ℕ) :
    c.carriers ⊆ (c.handleFrame cfg frame currentEpoch departed now).2.carriers := by
  unfold RelayScheduler.handleFrame
  cases frame.type with
  | resdbConsensus =>
    simp only [RelayScheduler.handleResdbConsensusMessage]
    repeat' split
    all_goals first | exact List.Subset.refl _ | exact carriers_maybeRelay
  | consensusRelay =>
    simp only [RelayScheduler.handleResdbConsensusRelay]
    repeat' split
    all_goals first
      | exact List.Subset.refl _
      | exact carriers_observe _
      | exact List.Subset.trans (carriers_observe _) carriers_maybeRelay

lemma pending_schedule : ∀ p ∈ (c.scheduleConsensusRelay cfg key raw request relayEpoch now).pending,
    p ∈ c.pending ∨ p.relay = ⟨key, raw, relayEpoch⟩ := by
  intro p hp
  unfold RelayScheduler.scheduleConsensusRelay at hp
  split at hp
  next => exact Or.inl hp
  next =>
    split at hp
    next => exact Or.inl hp
    next =>
      split at hp
      next => exact Or.inl hp
      next => exact (List.mem_append.mp hp).imp_right fun h => by rw [List.mem_singleton.mp h]

lemma pending_maybeRelay : ∀ p ∈ (c.maybeRelayResdbConsensusBytes cfg departed raw relayEpoch now).pending,
    p ∈ c.pending ∨ raw ≠ [] ∧ ∃ request, cfg.relay.parsePacket raw = some request ∧
      isConsensusRelayEligible request = true ∧ p.relay = ⟨consensusRelayKey cfg.relay raw request, raw, relayEpoch⟩ := by
  intro p hp
  unfold RelayScheduler.maybeRelayResdbConsensusBytes at hp
  split at hp
  next => exact Or.inl hp
  next hopen =>
    split at hp
    next => exact Or.inl hp
    next request hparse =>
      split at hp
      next => exact Or.inl hp
      next heligible =>
        split at hp
        next => exact Or.inl hp
        next =>
          refine (pending_schedule p hp).imp_right fun hrelay => ⟨?_, request, hparse, by simpa using heligible, hrelay⟩
          rintro rfl
          exact hopen (by simp)

lemma pending_observe (carrier : ℤ) :
    ∀ p ∈ (c.observeConsensusRelayCarrier cfg key carrier).pending, p ∈ c.pending := by
  intro p hp
  unfold RelayScheduler.observeConsensusRelayCarrier at hp
  dsimp only at hp
  repeat' split at hp
  all_goals first | exact hp | exact (List.mem_filter.mp hp).1

lemma relayable_maybeRelay {id : ℤ} (hepoch : relayEpoch < uint32Modulus)
    (hcurrent : signed32 F.epoch ≤ signed32 relayEpoch) (hold : ∀ p ∈ c.pending, F.Relayable p) :
    ∀ p ∈ (c.maybeRelayResdbConsensusBytes (F.config id) departed raw relayEpoch now).pending, F.Relayable p := by
  intro p hp
  rcases pending_maybeRelay p hp with h | ⟨hne, request, hparse, heligible, hrelay⟩
  · exact hold p h
  · refine ⟨?_, ?_, request, ?_, heligible, ?_⟩
    · rw [hrelay]
      exact ⟨hne, hepoch⟩
    · rw [hrelay]
      exact hcurrent
    · rw [hrelay]
      exact hparse
    · rw [ScheduledRelay.key, hrelay]
      rfl

lemma relayable_handleFrame {id : ℤ} (frame : RadioFrame) (hepoch : F.epoch < uint32Modulus)
    (hold : ∀ p ∈ c.pending, F.Relayable p) :
    ∀ p ∈ (c.handleFrame (F.config id) frame F.epoch departed now).2.pending, F.Relayable p := by
  unfold RelayScheduler.handleFrame
  cases frame.type with
  | resdbConsensus =>
    simp only [RelayScheduler.handleResdbConsensusMessage]
    repeat' split
    all_goals first | exact hold | exact relayable_maybeRelay hepoch le_rfl hold
  | consensusRelay =>
    simp only [RelayScheduler.handleResdbConsensusRelay]
    split
    next => exact hold
    next =>
      split
      next => exact hold
      next =>
        split
        next => exact hold
        next epoch raw hparse =>
          have hbound : epoch < uint32Modulus := by
            unfold gossipParse at hparse
            split at hparse
            next => exact absurd hparse (by simp)
            next =>
              split at hparse
              next => exact absurd hparse (by simp)
              next =>
                rw [← (Prod.mk.inj (Option.some.inj hparse)).1]
                exact readU32_lt _ _
          split
          next => exact hold
          next hfresh =>
            split
            next => exact hold
            next =>
              split
              next => exact hold
              next =>
                have hobserved : ∀ key, ∀ p ∈ (c.observeConsensusRelayCarrier (F.config id) key
                    frame.fromReplicaId).pending, F.Relayable p :=
                  fun key p hp => hold p (pending_observe frame.fromReplicaId p hp)
                split
                next => exact hobserved _
                next => exact relayable_maybeRelay hbound (not_lt.mp hfresh) (hobserved _)

lemma carrier_of_relay {frame : RadioFrame} {currentEpoch : ℕ} (hcarrier : 0 ≤ frame.fromReplicaId)
    (htype : frame.type = .consensusRelay) (hbytes : frame.resdbBytes ≠ [])
    (hauth : consensusRelayCarrierIsAuthenticated cfg.relay frame.fromReplicaId frame.pubKey = true)
    (hverify : cfg.relay.verifyBytes frame.pubKey frame.resdbBytes frame.sig = true)
    (hframe : gossipParse frame.resdbBytes = some (relayEpoch, raw)) (hcurrent : signed32 currentEpoch ≤ signed32 relayEpoch)
    (hparse : cfg.relay.parsePacket raw = some request) (heligible : isConsensusRelayEligible request = true) :
    (consensusRelayKey cfg.relay raw request, frame.fromReplicaId) ∈
      (c.handleFrame cfg frame currentEpoch departed now).2.carriers := by
  have hobserved := @carrier_observed cfg c (consensusRelayKey cfg.relay raw request) frame.fromReplicaId hcarrier
  unfold RelayScheduler.handleFrame
  rw [htype]
  simp only [RelayScheduler.handleResdbConsensusRelay, hbytes, hauth, hverify, hframe, hparse, heligible,
    not_lt.mpr hcurrent, Bool.not_true, Bool.or_self, Bool.false_eq_true, if_false]
  split
  next => exact hobserved
  next => exact carriers_maybeRelay hobserved

lemma carrier_of_relayFrame {i j : ℤ} {p : ScheduledRelay} (hF : F.Sound) (hi : i ∈ F.vehicles) (hp : F.Relayable p) :
    (p.key, i) ∈ (c.handleFrame (F.config j) (F.relayFrame i p) F.epoch departed now).2.carriers := by
  obtain ⟨request, hparse, heligible, hkey⟩ := hp.parsed
  have hauth : consensusRelayCarrierIsAuthenticated (F.config j).relay i (F.pubKey i) = true := by
    simp [consensusRelayCarrierIsAuthenticated, FleetRadio.config, hF.members i hi, hF.registered i hi]
  rw [hkey]
  exact carrier_of_relay (hF.members i hi).1 rfl (List.append_ne_nil_of_right_ne_nil _ hp.framed.1) hauth
    (hF.verifies i hi _) (gossipParse_serialize hp.framed.2 hp.framed.1) hp.current hparse heligible

lemma SchedulersInv.reaches_now (h : SchedulersInv F s) : F.reaches s s.now := by
  refine ⟨le_rfl, fun id hid t ht => ?_⟩
  have hinv := h.each id hid
  obtain ⟨p, hp, rfl⟩ := List.mem_map.mp (show t ∈ _ from ((Option.mem_def.mp ht) ▸ hinv.timer : AtEarliest (some t) _).1)
  exact hinv.ahead p hp

lemma SchedulersInv.waits (h : SchedulersInv F s) (hnow : F.reaches s now) {id : ℤ} (hid : id ∈ F.vehicles) :
    RelayInv (F.config id) ⟨now, s.vehicle id, s.aired id⟩ := (h.each id hid).waits (hnow.2 id hid)

lemma SchedulersInv.hear (h : SchedulersInv F s) {id : ℤ} (hnow : F.reaches s now) (frame : RadioFrame) :
    SchedulersInv F (F.hear s now id frame) := by
  unfold FleetRadio.hear
  split
  next => exact ⟨fun j hj => h.waits hnow hj, h.reached⟩
  next =>
    refine ⟨fun j hj => ?_, h.reached⟩
    by_cases hj' : j = id
    · subst hj'
      simpa only [Function.update_self] using (h.waits hnow hj).handleFrame frame F.epoch false
    · simpa only [Function.update_of_ne hj'] using h.waits hnow hj

lemma SchedulersInv.timer (h : SchedulersInv F s) {id : ℤ} (hid : id ∈ F.vehicles)
    (hnow : ∀ t ∈ (s.vehicle id).timer, F.reaches s t) (complete : List RelayKey) :
    SchedulersInv F (fleetStep F s (.timer id complete)) := by
  simp only [fleetStep]
  split
  next => exact h
  next now htimer =>
    refine ⟨fun j hj => ?_, fun x hx => ?_⟩
    · by_cases hj' : j = id
      · subst hj'
        simpa only [Function.update_self] using (h.each j hid).flush htimer complete F.epoch (s.retired j)
      · simpa only [Function.update_of_ne hj'] using h.waits (hnow now htimer) hj
    · rcases List.mem_append.mp hx with hold | hnew
      · exact h.reached x hold
      · simp only [List.mem_flatMap, List.mem_map, List.mem_filter] at hnew
        obtain ⟨p, -, j, ⟨hj, -⟩, rfl⟩ := hnew
        exact hj

lemma SchedulersInv.cancel (h : SchedulersInv F s) {id : ℤ} (hid : id ∈ F.vehicles) (hnow : F.reaches s now) :
    SchedulersInv F (fleetStep F s (.cancel now id)) := by
  refine ⟨fun j hj => ?_, h.reached⟩
  by_cases hj' : j = id
  · subst hj'
    have hcancelled := RelayInv.step ⟨s.now, s.vehicle j, s.aired j⟩ (.cancel now) (h.each j hid) ⟨hnow.1, hnow.2 j hid⟩
    simpa only [fleetStep, relayStep, Function.update_self] using hcancelled
  · simpa only [fleetStep, Function.update_of_ne hj'] using h.waits hnow hj

lemma SchedulersInv.step (s : RelayFleet) (ev : FleetEvent) (h : SchedulersInv F s) (hok : F.inTime s ev) :
    SchedulersInv F (fleetStep F s ev) := by
  cases ev with
  | hear now id frame => exact h.hear hok.2 frame
  | deliver index =>
    simp only [fleetStep]
    split
    next => exact h
    next id frame hget =>
      have hheard := @SchedulersInv.hear F s s.now h id h.reaches_now frame
      exact ⟨hheard.each, fun x hx => h.reached x (List.mem_of_mem_eraseIdx hx)⟩
  | timer id complete => exact h.timer hok.1 hok.2 complete
  | cancel now id => exact h.cancel hok.1 hok.2
  | retire now id => exact ⟨fun j hj => h.waits hok.2 hj, h.reached⟩

lemma FleetInv.hear (hF : F.Sound) (h : FleetInv F s) {id : ℤ} (hnow : F.reaches s now) (frame : RadioFrame) :
    FleetInv F (F.hear s now id frame) := by
  refine ⟨h.toSchedulersInv.hear hnow frame, ?_, ?_, ?_⟩ <;> unfold FleetRadio.hear
  · split
    next => exact h.relayable
    next =>
      intro j hj
      by_cases hj' : j = id
      · subst hj'
        simpa only [Function.update_self] using relayable_handleFrame frame hF.epoch (h.relayable j hj)
      · simpa only [Function.update_of_ne hj'] using h.relayable j hj
  · split
    next => exact h.heard
    next =>
      intro i hi j hj hne hactive a ha
      refine (h.heard i hi j hj hne hactive a ha).imp_left fun hold => ?_
      by_cases hj' : j = id
      · subst hj'
        simpa only [Function.update_self] using carriers_handleFrame frame F.epoch hold
      · simpa only [Function.update_of_ne hj'] using hold
  · split <;> exact h.few

lemma mem_eraseIdx_of_ne {α : Type*} {l : List α} {x y : α} {index : ℕ} (hx : x ∈ l) (hy : l[index]? = some y)
    (hne : x ≠ y) : x ∈ l.eraseIdx index := by
  obtain ⟨k, hk⟩ := List.mem_iff_getElem?.mp hx
  refine List.mem_eraseIdx_iff_getElem?.mpr ⟨k, ?_, hk⟩
  rintro rfl
  exact hne (Option.some.inj (hk.symm.trans hy))

lemma FleetInv.deliver (hF : F.Sound) (h : FleetInv F s) (index : ℕ) : FleetInv F (fleetStep F s (.deliver index)) := by
  simp only [fleetStep]
  split
  next => exact h
  next id frame hget =>
    have hheard := @FleetInv.hear F s s.now hF h id h.reaches_now frame
    have hsame : (F.hear s s.now id frame).aired = s.aired ∧ (F.hear s s.now id frame).retired = s.retired ∧
        (F.hear s s.now id frame).onAir = s.onAir := by
      unfold FleetRadio.hear
      split <;> exact ⟨rfl, rfl, rfl⟩
    refine ⟨⟨hheard.each, fun x hx => h.reached x (List.mem_of_mem_eraseIdx hx)⟩, hheard.relayable,
      fun i hi j hj hne hactive a ha => ?_, hheard.few⟩
    rcases hheard.heard i hi j hj hne hactive a ha with hold | ⟨hrelay, hair⟩
    · exact Or.inl hold
    · by_cases harrived : (j, F.relayFrame i a.1) = (id, frame)
      · obtain ⟨rfl, rfl⟩ := Prod.mk.inj harrived
        have hopen : ¬(s.retired j || decide ((F.relayFrame i a.1).fromReplicaId = j)) = true := by
          simp only [Bool.or_eq_true, decide_eq_true_eq, not_or, Bool.not_eq_true]
          exact ⟨hsame.2.1 ▸ hactive, hne⟩
        refine Or.inl ?_
        simp only [FleetRadio.hear, if_neg hopen, Function.update_self]
        exact carrier_of_relayFrame hF hi hrelay
      · exact Or.inr ⟨hrelay, mem_eraseIdx_of_ne (hsame.2.2 ▸ hair) hget harrived⟩

lemma FleetInv.airers_le (hF : F.Sound) (h : FleetInv F s) (hair : s.onAir = []) {id : ℤ} (hid : id ∈ F.vehicles)
    (hactive : s.retired id = false) (hown : s.hasAired key id = false) :
    (F.vehicles.countP (s.hasAired key) : ℤ) ≤ (s.vehicle id).state.carrierCount key := by
  have hnodup : ((F.vehicles.filter (s.hasAired key)).map fun i => (key, i)).Nodup :=
    (hF.distinct.filter _).map fun _ _ heq => (Prod.mk.inj heq).2
  have hsub : ((F.vehicles.filter (s.hasAired key)).map fun i => (key, i)) ⊆
      (s.vehicle id).carriers.filter fun c => decide (c.1 = key) := by
    intro x hx
    obtain ⟨i, hi, rfl⟩ := List.mem_map.mp hx
    obtain ⟨hmem, hhas⟩ := List.mem_filter.mp hi
    have hne : i ≠ id := by
      rintro rfl
      exact absurd (hown.symm.trans hhas) (by simp)
    obtain ⟨a, ha, rfl⟩ := List.mem_map.mp (of_decide_eq_true hhas)
    have hcarrier := (h.heard i hmem id hid hne hactive a ha).resolve_right fun hlate =>
      absurd (hair ▸ hlate.2) List.not_mem_nil
    exact List.mem_filter.mpr ⟨hcarrier, by simp⟩
  have hle := (hnodup.subperm hsub).length_le
  rw [List.length_map, ← List.countP_eq_length_filter, ← List.countP_eq_length_filter] at hle
  exact Int.ofNat_le.mpr hle

lemma mem_flushed {complete : List RelayKey} {currentEpoch : ℕ} {inactive : Bool} {p : ScheduledRelay}
    (hp : p ∈ (c.flushDueConsensusRelays cfg complete currentEpoch inactive now).1) :
    p ∈ c.pending ∧ inactive = false ∧ c.state.carrierCount p.key < consensusRelayCarrierThreshold cfg.relay := by
  obtain ⟨hdue, hsent⟩ := List.mem_filter.mp hp
  simp only [Bool.and_eq_true, decide_eq_true_eq, Bool.not_eq_true'] at hsent
  exact ⟨(List.mem_filter.mp hdue).1, hsent.1.1.2, hsent.1.1.1⟩

lemma countP_or_le {α : Type*} (l : List α) (p q : α → Bool) :
    l.countP (fun x => p x || q x) ≤ l.countP p + l.countP q := by
  induction l with
  | nil => simp
  | cons x l ih =>
    simp only [List.countP_cons]
    cases p x <;> cases q x <;> simp <;> omega

lemma FleetInv.few_flushed (hF : F.Sound) (h : FleetInv F s) (hair : s.onAir = []) {id : ℤ} (hid : id ∈ F.vehicles)
    {sent : List ScheduledRelay} (hsent : ∀ p ∈ sent, p ∈ (s.vehicle id).pending ∧ s.retired id = false ∧
      (s.vehicle id).state.carrierCount p.key < F.threshold) (key : RelayKey) :
    (F.vehicles.countP (fun i => s.hasAired key i ||
      decide (i = id ∧ key ∈ sent.map ScheduledRelay.key)) : ℤ) ≤ F.threshold := by
  by_cases hkey : key ∈ sent.map ScheduledRelay.key
  · obtain ⟨p, hp, rfl⟩ := List.mem_map.mp hkey
    obtain ⟨hpending, hactive, hwanted⟩ := hsent p hp
    have hown : s.hasAired p.key id = false := by
      refine decide_eq_false fun haired => ?_
      exact (List.nodup_append.mp (h.each id hid).once).2.2 _ (List.mem_map_of_mem hpending) _ haired rfl
    have hknown := h.airers_le hF hair hid hactive hown
    have hone : F.vehicles.countP (fun i => decide (i = id)) ≤ 1 := by
      have hcount := List.nodup_iff_count_le_one.mp hF.distinct id
      rw [List.count_eq_countP] at hcount
      exact hcount
    have hsplit : F.vehicles.countP (fun i => s.hasAired p.key i || decide (i = id ∧ p.key ∈ sent.map ScheduledRelay.key)) ≤
        F.vehicles.countP (s.hasAired p.key) + F.vehicles.countP (fun i => decide (i = id)) := by
      refine le_trans (List.countP_mono_left fun i _ hi => ?_) (countP_or_le _ _ _)
      simp only [Bool.or_eq_true, decide_eq_true_eq] at hi ⊢
      exact hi.imp_right And.left
    omega
  · refine le_trans (le_of_eq (congrArg Nat.cast (List.countP_congr fun i _ => ?_))) (h.few key)
    simp [hkey]

lemma FleetInv.timer (hF : F.Sound) (h : FleetInv F s) {id : ℤ} (hid : id ∈ F.vehicles) (hair : s.onAir = [])
    (hnow : ∀ t ∈ (s.vehicle id).timer, F.reaches s t) (complete : List RelayKey) :
    FleetInv F (fleetStep F s (.timer id complete)) := by
  have hkept := h.toSchedulersInv.timer hid hnow complete
  simp only [fleetStep] at hkept ⊢
  split
  next => exact h
  next now htimer =>
    simp only [htimer] at hkept
    set flushed := (s.vehicle id).flushDueConsensusRelays (F.config id) complete F.epoch (s.retired id) now with hdef
    have hsent : ∀ p ∈ flushed.1, p ∈ (s.vehicle id).pending ∧ s.retired id = false ∧
        (s.vehicle id).state.carrierCount p.key < F.threshold := fun p hp => mem_flushed hp
    refine ⟨hkept, fun j hj p hp => ?_, fun i hi j hj hne hactive a ha => ?_, fun key => ?_⟩
    · by_cases hj' : j = id
      · subst hj'
        simp only [Function.update_self] at hp
        exact h.relayable j hj p (List.mem_filter.mp hp).1
      · simp only [Function.update_of_ne hj'] at hp
        exact h.relayable j hj p hp
    · have hcarriers : (Function.update s.vehicle id flushed.2 j).carriers = (s.vehicle j).carriers := by
        by_cases hj' : j = id
        · subst hj'
          rw [Function.update_self]
          rfl
        · rw [Function.update_of_ne hj']
      simp only [hcarriers]
      have hold : ∀ a ∈ s.aired i, (a.1.key, i) ∈ (s.vehicle j).carriers := fun a ha =>
        (h.heard i hi j hj hne hactive a ha).resolve_right fun hlate => absurd (hair ▸ hlate.2) List.not_mem_nil
      by_cases hi' : i = id
      · subst hi'
        simp only [Function.update_self] at ha
        rcases List.mem_append.mp ha with hnew | hbefore
        · obtain ⟨p, hp, rfl⟩ := List.mem_map.mp hnew
          refine Or.inr ⟨h.relayable i hi p (hsent p hp).1, ?_⟩
          simp only [hair, List.nil_append, List.mem_flatMap, List.mem_map, List.mem_filter]
          exact ⟨p, hp, j, ⟨hj, by simpa using Ne.symm hne⟩, rfl⟩
        · exact Or.inl (hold a hbefore)
      · simp only [Function.update_of_ne hi'] at ha
        exact Or.inl (hold a ha)
    · refine le_trans (le_of_eq (congrArg Nat.cast (List.countP_congr fun i _ => ?_))) (h.few_flushed hF hair hid hsent key)
      by_cases hi' : i = id
      · subst hi'
        simp [RelayFleet.hasAired, or_comm]
      · simp [RelayFleet.hasAired, hi']

lemma FleetInv.step (hF : F.Sound) (s : RelayFleet) (ev : FleetEvent) (h : FleetInv F s) (hok : F.inOrder s ev) :
    FleetInv F (fleetStep F s ev) := by
  have hkept := h.toSchedulersInv.step s ev (inTime_of_inOrder hok)
  cases ev with
  | hear now id frame => exact h.hear hF hok.2 frame
  | deliver index => exact h.deliver hF index
  | timer id complete => exact h.timer hF hok.1 hok.2.1 hok.2.2 complete
  | cancel now id =>
    refine ⟨hkept, fun j hj p hp => ?_, fun i hi j hj hne hactive a ha => ?_, h.few⟩
    · by_cases hj' : j = id
      · subst hj'
        simp only [fleetStep, Function.update_self] at hp
        exact absurd hp List.not_mem_nil
      · simp only [fleetStep, Function.update_of_ne hj'] at hp
        exact h.relayable j hj p hp
    · refine (h.heard i hi j hj hne hactive a ha).imp_left fun hold => ?_
      by_cases hj' : j = id
      · subst hj'
        simpa only [fleetStep, Function.update_self, RelayScheduler.cancelPendingConsensusRelays] using hold
      · simpa only [fleetStep, Function.update_of_ne hj'] using hold
  | retire now id =>
    refine ⟨hkept, h.relayable, fun i hi j hj hne hactive a ha => ?_, h.few⟩
    refine h.heard i hi j hj hne ?_ a ha
    by_cases hj' : j = id
    · subst hj'
      simp [fleetStep] at hactive
    · simpa only [fleetStep, Function.update_of_ne hj'] using hactive

structure RelaysSuppressed (F : FleetRadio) (s : RelayFleet) : Prop where
  few : ∀ key, (F.vehicles.countP (s.hasAired key) : ℤ) ≤ F.threshold
  once : ∀ id ∈ F.vehicles, ((s.aired id).map fun a => a.1.key).Nodup

theorem relays_suppressed (F : FleetRadio) (hF : F.Sound) (events : List FleetEvent)
    (hok : Guarded (fleetStep F) F.inOrder .initial events) :
    RelaysSuppressed F (run (fleetStep F) .initial events) := by
  have hinv := hok.invariant (FleetInv.step hF) fleetInv_initial
  exact ⟨hinv.few, fun id hid => (List.nodup_append.mp (hinv.each id hid).once).2.1⟩

-- four replicas hear the PREPARE of replica 0: the first two in rank relay it, the third one need not
def fourReplicas : FleetRadio where
  timing := secondReplica
  vehicles := [0, 1, 2, 3]
  epoch := 1
  pubKey := fun _ => []
  sign := fun _ _ => [7]

lemma fourReplicas_sound : fourReplicas.Sound where
  distinct := by decide
  members := by decide
  registered := fun _ _ => rfl
  verifies := fun _ _ _ => rfl
  epoch := by decide

def heardByAll : List FleetEvent :=
  [.hear 100 1 preparePacket, .hear 100 2 preparePacket, .hear 100 3 preparePacket, .timer 1 [],
    .deliver 2, .deliver 0, .deliver 0, .timer 2 [], .deliver 0, .deliver 0, .deliver 0, .timer 3 []]

theorem relays_suppressed_heardByAll :
    RelaysSuppressed fourReplicas (run (fleetStep fourReplicas) .initial heardByAll) :=
  relays_suppressed fourReplicas fourReplicas_sound heardByAll (by decide +kernel)

example : fourReplicas.vehicles.map (fun id => ((run (fleetStep fourReplicas) .initial heardByAll).aired id).length) =
    [0, 1, 1, 0] := by decide +kernel

def RelayFleet.signatures (s : RelayFleet) (id : ℤ) : List PacketSignature :=
  (s.aired id).map fun a => ⟨id + 1, some .consensusRelay, gossipSerialize a.1.relay.relayEpoch a.1.relay.raw⟩

structure RadioLinked (F : FleetRadio) (n : RadioNetwork) (s : RelayFleet) : Prop where
  relay : ∀ id ∈ F.vehicles, (n.vehicle (id + 1)).relay = (s.vehicle id).state
  signed : ∀ id ∈ F.vehicles, (n.signed.filter fun σ => decide (σ.signer = id + 1)) = s.signatures id

def FleetRadio.radioEvent (F : FleetRadio) (s : RelayFleet) : FleetEvent → Option RadioEvent
  | .hear _ id frame =>
    if s.retired id || decide (frame.fromReplicaId = id) then none else some ⟨id + 1, .receive frame F.epoch false⟩
  | .deliver index =>
    s.onAir[index]?.bind fun x =>
      if s.retired x.1 || decide (x.2.fromReplicaId = x.1) then none else some ⟨x.1 + 1, .receive x.2 F.epoch false⟩
  | .timer id complete =>
    (s.vehicle id).timer.map fun now => ⟨id + 1, .flush ((s.vehicle id).dueKeys now) complete F.epoch (s.retired id)⟩
  | .cancel _ id => some ⟨id + 1, .flush ((s.vehicle id).pending.map ScheduledRelay.key) [] F.epoch true⟩
  | .retire _ _ => none

variable {P : RadioParties} {n : RadioNetwork}

lemma config_succ (hP : P.radio = F.timing.relay) (id : ℤ) : P.config (id + 1) = (F.config id).relay := by
  rw [RadioParties.config, hP, add_sub_cancel_right]
  rfl

lemma RadioLinked.initial (primaryId : ℤ) : RadioLinked F (.initial P primaryId) .initial :=
  ⟨fun _ _ => rfl, fun _ _ => rfl⟩

lemma RadioLinked.hear (hP : P.radio = F.timing.relay) (h : RadioLinked F n s) (now : ℤ) {id : ℤ} (hid : id ∈ F.vehicles)
    (frame : RadioFrame) (hopen : ¬(s.retired id || decide (frame.fromReplicaId = id)) = true) :
    RadioLinked F (radioStep P n ⟨id + 1, .receive frame F.epoch false⟩) (F.hear s now id frame) := by
  rw [FleetRadio.hear, if_neg hopen]
  refine ⟨fun j hj => ?_, h.signed⟩
  by_cases hj' : j = id
  · subst hj'
    have hstate := (@state_handleFrame (F.config j) (s.vehicle j) now frame F.epoch false).2
    simp only [radioStep, RadioEvent.viewEvent, RadioVehicle.afterTake, Function.update_self, config_succ hP,
      h.relay j hj, hstate]
  · have hne : j + 1 ≠ id + 1 := fun heq => hj' (add_right_cancel heq)
    simp only [radioStep, RadioEvent.viewEvent, RadioVehicle.afterTake, Function.update_of_ne hne,
      Function.update_of_ne hj', h.relay j hj]

lemma RadioLinked.timer (hP : P.radio = F.timing.relay) (h : RadioLinked F n s) (hinv : SchedulersInv F s) {id : ℤ}
    (hid : id ∈ F.vehicles) (htimer : (s.vehicle id).timer = some now) (complete : List RelayKey) :
    RadioLinked F
      (radioStep P n ⟨id + 1, .flush ((s.vehicle id).dueKeys now) complete F.epoch (s.retired id)⟩)
      (fleetStep F s (.timer id complete)) := by
  have hnodup := (List.nodup_append.mp (hinv.each id hid).once).1
  obtain ⟨hsent, hstate⟩ := @state_flushDue (F.config id) (s.vehicle id) now hnodup complete F.epoch (s.retired id)
  simp only [fleetStep, htimer]
  refine ⟨fun j hj => ?_, fun j hj => ?_⟩
  · by_cases hj' : j = id
    · subst hj'
      simp only [radioStep, RadioEvent.viewEvent, RadioVehicle.afterTake, Function.update_self, config_succ hP,
        h.relay j hj, hstate]
    · have hne : j + 1 ≠ id + 1 := fun heq => hj' (add_right_cancel heq)
      simp only [radioStep, RadioEvent.viewEvent, RadioVehicle.afterTake, Function.update_of_ne hne,
        Function.update_of_ne hj', h.relay j hj]
  · simp only [radioStep, RadioEvent.viewEvent, RadioVehicle.afterTake, config_succ hP, h.relay id hid, hsent,
      List.map_map, List.filter_append, h.signed j hj, RelayFleet.signatures]
    by_cases hj' : j = id
    · subst hj'
      rw [Function.update_self, List.map_append, List.map_map, List.filter_eq_self.mpr]
      · rfl
      · intro σ hσ
        obtain ⟨p, -, rfl⟩ := List.mem_map.mp hσ
        simp
    · rw [Function.update_of_ne hj', List.filter_eq_nil_iff.mpr, List.nil_append]
      intro σ hσ
      obtain ⟨p, -, rfl⟩ := List.mem_map.mp hσ
      simpa using Ne.symm hj'

lemma RadioLinked.cancel (hP : P.radio = F.timing.relay) (h : RadioLinked F n s) {id : ℤ} (hid : id ∈ F.vehicles) :
    RadioLinked F
      (radioStep P n ⟨id + 1, .flush ((s.vehicle id).pending.map ScheduledRelay.key) [] F.epoch true⟩)
      (fleetStep F s (.cancel now id)) := by
  have hnone : flushDueConsensusRelays (F.config id).relay (s.vehicle id).state
      ((s.vehicle id).pending.map ScheduledRelay.key) [] F.epoch true =
        ([], (s.vehicle id).cancelPendingConsensusRelays.state) := by
    have hall : ∀ p ∈ (s.vehicle id).pending, p.relay.key ∈ (s.vehicle id).pending.map ScheduledRelay.key :=
      fun p hp => List.mem_map_of_mem hp
    simp only [flushDueConsensusRelays, Bool.not_true, Bool.and_false, Bool.false_and, List.filter_false, List.map_nil]
    simp only [RelayScheduler.state, RelayScheduler.cancelPendingConsensusRelays, List.map_nil]
    rw [List.filter_eq_nil_iff.mpr]
    intro p hp
    obtain ⟨q, hq, rfl⟩ := List.mem_map.mp hp
    simpa using hall q hq
  refine ⟨fun j hj => ?_, fun j hj => ?_⟩
  · by_cases hj' : j = id
    · subst hj'
      simp only [fleetStep, radioStep, RadioEvent.viewEvent, RadioVehicle.afterTake, Function.update_self, config_succ hP,
        h.relay j hj, hnone]
    · have hne : j + 1 ≠ id + 1 := fun heq => hj' (add_right_cancel heq)
      simp only [fleetStep, radioStep, RadioEvent.viewEvent, RadioVehicle.afterTake, Function.update_of_ne hne,
        Function.update_of_ne hj', h.relay j hj]
  · simp only [radioStep, RadioEvent.viewEvent, RadioVehicle.afterTake, config_succ hP, h.relay id hid, hnone,
      List.map_nil, List.nil_append]
    exact h.signed j hj

lemma RadioLinked.of_same {s' : RelayFleet} (h : RadioLinked F n s) (hvehicle : s'.vehicle = s.vehicle)
    (haired : s'.aired = s.aired) : RadioLinked F n s' := by
  refine ⟨fun id hid => ?_, fun id hid => ?_⟩
  · rw [hvehicle]
    exact h.relay id hid
  · rw [RelayFleet.signatures, haired]
    exact h.signed id hid

lemma hear_dropped {id : ℤ} {frame : RadioFrame} (hdrop : (s.retired id || decide (frame.fromReplicaId = id)) = true) :
    F.hear s now id frame = { s with now := now } := if_pos hdrop

lemma RadioLinked.step (hP : P.radio = F.timing.relay) (h : RadioLinked F n s) (hinv : SchedulersInv F s)
    (ev : FleetEvent) (hok : F.inTime s ev) :
    RadioLinked F (run (radioStep P) n (F.radioEvent s ev).toList) (fleetStep F s ev) := by
  cases ev with
  | hear now id frame =>
    simp only [FleetRadio.radioEvent, fleetStep]
    split
    next hdrop =>
      rw [hear_dropped hdrop]
      exact h.of_same rfl rfl
    next hopen => exact h.hear hP now hok.1 frame hopen
  | deliver index =>
    simp only [FleetRadio.radioEvent, fleetStep]
    rcases hget : s.onAir[index]? with _ | ⟨id, frame⟩
    · exact h
    · simp only [Option.bind_some]
      split
      next hdrop =>
        simp only [hear_dropped hdrop]
        exact h.of_same rfl rfl
      next hopen =>
        exact (h.hear hP s.now (hinv.reached _ (List.mem_of_getElem? hget)) frame hopen).of_same rfl rfl
  | timer id complete =>
    simp only [FleetRadio.radioEvent]
    cases htimer : (s.vehicle id).timer with
    | none =>
      simp only [fleetStep, htimer]
      exact h
    | some now => exact h.timer hP hinv hok.1 htimer complete
  | cancel now id => exact h.cancel hP hok.1
  | retire now id => exact h.of_same rfl rfl

def FleetRadio.radioEvents (F : FleetRadio) : RelayFleet → List FleetEvent → List RadioEvent
  | _, [] => []
  | s, ev :: events => (F.radioEvent s ev).toList ++ F.radioEvents (fleetStep F s ev) events

lemma RadioLinked.over_run (hP : P.radio = F.timing.relay) (h : RadioLinked F n s) (hinv : SchedulersInv F s)
    {events : List FleetEvent} (hok : Guarded (fleetStep F) F.inTime s events) :
    RadioLinked F (run (radioStep P) n (F.radioEvents s events)) (run (fleetStep F) s events) := by
  induction events generalizing s n with
  | nil => exact h
  | cons ev events ih =>
    rw [FleetRadio.radioEvents, run_append, run_cons]
    exact ih (h.step hP hinv ev hok.1) (hinv.step s ev hok.1) hok.2

theorem fleet_refines_radio (F : FleetRadio) (P : RadioParties) (hP : P.radio = F.timing.relay) (primaryId : ℤ)
    (events : List FleetEvent) (hok : Guarded (fleetStep F) F.inTime .initial events) :
    RadioLinked F (run (radioStep P) (.initial P primaryId) (F.radioEvents .initial events))
      (run (fleetStep F) .initial events) :=
  (RadioLinked.initial primaryId).over_run hP schedulersInv_initial hok

def fourParties : RadioParties where
  membership :=
    { ids := {1, 2, 3, 4}, faulty := ∅, f := 1, maxProcessTxn := 4, enableViewchange := false
      faulty_subset := by decide, faulty_card := by decide, card_ids := by decide }
  radio := secondReplica.relay
  parseOther := fun _ => none
  serializeOther := fun _ => []

-- all three relay before a frame of theirs arrives, and most of these frames never do
def heardByFew : List FleetEvent :=
  [.hear 100 1 preparePacket, .hear 100 2 preparePacket, .hear 100 3 preparePacket, .timer 1 [], .timer 2 [],
    .timer 3 [], .deliver 2, .deliver 3]

theorem fleet_refines_radio_heardByFew :
    RadioLinked fourReplicas
      (run (radioStep fourParties) (.initial fourParties 1) (fourReplicas.radioEvents .initial heardByFew))
      (run (fleetStep fourReplicas) .initial heardByFew) :=
  fleet_refines_radio fourReplicas fourParties rfl 1 heardByFew (by decide +kernel)

end V2vBft.Engine
