import V2vBft.Engine.ConsensusRelay
import V2vBft.Library.Alarm
import V2vBft.Library.GuardedRun

/-! When the relays of type 11 go out: their slots, the one timer over them, and that none goes out twice. -/

namespace V2vBft.Engine

open Wire Pbft App Library.GuardedRun Library.Alarm

structure RelayTiming where
  relay : RelayConfig
  baseDelay : ℤ
  slotDelay : ℤ

structure ScheduledRelay where
  relay : PendingConsensusRelay
  rank : ℤ
  fireTime : ℤ
  deriving DecidableEq, Repr

structure RelayScheduler where
  seen : List RelayKey
  carriers : List (RelayKey × ℤ)
  pending : List ScheduledRelay
  timer : Option ℤ
  deriving DecidableEq, Repr

def RelayScheduler.state (c : RelayScheduler) : RelayState := ⟨c.seen, c.carriers, c.pending.map ScheduledRelay.relay⟩

def consensusRelayRank (cfg : RelayConfig) (request : Request) : ℤ :=
  let n := max 1 cfg.totalVehicles
  let original := if 0 < request.senderId then request.senderId - 1 else 0
  (cfg.replicaId - original - 1 + n).tmod n

def relayFireTime (cfg : RelayTiming) (request : Request) (now : ℤ) : ℤ :=
  now + max 0 (cfg.baseDelay + consensusRelayRank cfg.relay request * cfg.slotDelay)

def RelayScheduler.scheduleConsensusRelayFlush (c : RelayScheduler) : RelayScheduler :=
  { c with timer := rearm c.timer (c.pending.map ScheduledRelay.fireTime) }

def RelayScheduler.scheduleConsensusRelay (cfg : RelayTiming) (c : RelayScheduler) (key : RelayKey) (raw : Bytes)
    (request : Request) (relayEpoch : ℕ) (now : ℤ) : RelayScheduler :=
  if c.state.isPending key then c
  else if decide (0 < request.senderId) && decide (request.senderId - 1 = cfg.relay.replicaId) then c
  else if consensusRelayCarrierThreshold cfg.relay ≤ c.state.carrierCount key then c
  else
    RelayScheduler.scheduleConsensusRelayFlush
      { c with
        pending := c.pending ++
          [⟨⟨key, raw, relayEpoch⟩, consensusRelayRank cfg.relay request, relayFireTime cfg request now⟩] }

def RelayScheduler.maybeRelayResdbConsensusBytes (cfg : RelayTiming) (c : RelayScheduler) (departed : Bool)
    (raw : Bytes) (relayEpoch : ℕ) (now : ℤ) : RelayScheduler :=
  if !cfg.relay.gossipEnabled || departed || decide (raw = []) then c
  else
    match cfg.relay.parsePacket raw with
    | none => c
    | some request =>
      if !isConsensusRelayEligible request then c
      else if consensusRelayKey cfg.relay raw request ∈ c.seen then c
      else
        RelayScheduler.scheduleConsensusRelay cfg { c with seen := consensusRelayKey cfg.relay raw request :: c.seen }
          (consensusRelayKey cfg.relay raw request) raw request relayEpoch now

def RelayScheduler.observeConsensusRelayCarrier (cfg : RelayTiming) (c : RelayScheduler) (key : RelayKey) (carrier : ℤ) :
    RelayScheduler :=
  if carrier < 0 ∨ c.carriers.contains (key, carrier) then c
  else
    let c := { c with carriers := (key, carrier) :: c.carriers }
    if c.state.carrierCount key < consensusRelayCarrierThreshold cfg.relay then c
    else if !c.state.isPending key then c
    else
      RelayScheduler.scheduleConsensusRelayFlush
        { c with pending := c.pending.filter fun p => decide (p.relay.key ≠ key), timer := none }

def RelayScheduler.handleResdbConsensusMessage (cfg : RelayTiming) (c : RelayScheduler) (frame : RadioFrame)
    (currentEpoch : ℕ) (departed : Bool) (now : ℤ) : Option Bytes × RelayScheduler :=
  if frame.toReplicaId ≠ -1 ∧ frame.toReplicaId ≠ cfg.relay.replicaId then (none, c)
  else if frame.resdbBytes = [] then (none, c)
  else if !cfg.relay.verifyBytes frame.pubKey frame.resdbBytes frame.sig then (none, c)
  else
    (some frame.resdbBytes, c.maybeRelayResdbConsensusBytes cfg departed frame.resdbBytes currentEpoch now)

def RelayScheduler.handleResdbConsensusRelay (cfg : RelayTiming) (c : RelayScheduler) (frame : RadioFrame)
    (currentEpoch : ℕ) (departed : Bool) (now : ℤ) : Option Bytes × RelayScheduler :=
  if frame.resdbBytes = [] then (none, c)
  else if !consensusRelayCarrierIsAuthenticated cfg.relay frame.fromReplicaId frame.pubKey ||
      !cfg.relay.verifyBytes frame.pubKey frame.resdbBytes frame.sig then (none, c)
  else
    match gossipParse frame.resdbBytes with
    | none => (none, c)
    | some (epoch, raw) =>
      if signed32 epoch < signed32 currentEpoch then (none, c)
      else
        match cfg.relay.parsePacket raw with
        | none => (none, c)
        | some request =>
          if !isConsensusRelayEligible request then (none, c)
          else
            let c := c.observeConsensusRelayCarrier cfg (consensusRelayKey cfg.relay raw request) frame.fromReplicaId
            if consensusRelayKey cfg.relay raw request ∈ c.seen then (none, c)
            else (some raw, c.maybeRelayResdbConsensusBytes cfg departed raw epoch now)

def RelayScheduler.handleFrame (cfg : RelayTiming) (c : RelayScheduler) (frame : RadioFrame) (currentEpoch : ℕ)
    (departed : Bool) (now : ℤ) : Option Bytes × RelayScheduler :=
  match frame.type with
  | .resdbConsensus => c.handleResdbConsensusMessage cfg frame currentEpoch departed now
  | .consensusRelay => c.handleResdbConsensusRelay cfg frame currentEpoch departed now

-- the timer has just fired at `now`
def RelayScheduler.flushDueConsensusRelays (cfg : RelayTiming) (c : RelayScheduler) (complete : List RelayKey)
    (currentEpoch : ℕ) (inactive : Bool) (now : ℤ) : List ScheduledRelay × RelayScheduler :=
  let due := c.pending.filter fun p => decide (p.fireTime ≤ now)
  let sent := due.filter fun p =>
    decide (c.state.carrierCount p.relay.key < consensusRelayCarrierThreshold cfg.relay) && !inactive &&
      decide (currentEpoch ≤ p.relay.relayEpoch) && decide (p.relay.key ∉ complete)
  (sent,
    RelayScheduler.scheduleConsensusRelayFlush
      { c with pending := c.pending.filter fun p => !decide (p.fireTime ≤ now), timer := none })

def RelayScheduler.cancelPendingConsensusRelays (c : RelayScheduler) : RelayScheduler :=
  { c with pending := [], timer := none }

inductive RelayEvent
  | frame (now : ℤ) (frame : RadioFrame) (currentEpoch : ℕ) (departed : Bool)
  | timer (complete : List RelayKey) (currentEpoch : ℕ) (inactive : Bool)
  | cancel (now : ℤ)

structure RelayRun where
  now : ℤ
  scheduler : RelayScheduler
  aired : List (ScheduledRelay × ℤ)

def RelayRun.initial : RelayRun := ⟨0, ⟨[], [], [], none⟩, []⟩

def relayStep (cfg : RelayTiming) (r : RelayRun) : RelayEvent → RelayRun
  | .frame now frame currentEpoch departed =>
    ⟨now, (r.scheduler.handleFrame cfg frame currentEpoch departed now).2, r.aired⟩
  | .timer complete currentEpoch inactive =>
    match r.scheduler.timer with
    | none => r
    | some now =>
      let flushed := r.scheduler.flushDueConsensusRelays cfg complete currentEpoch inactive now
      ⟨now, flushed.2, flushed.1.map (fun p => (p, now)) ++ r.aired⟩
  | .cancel now => ⟨now, r.scheduler.cancelPendingConsensusRelays, r.aired⟩

-- events come in the order of time, and none overtakes a timer that stands
def inTimeOrder (r : RelayRun) : RelayEvent → Prop
  | .frame now _ _ _ => r.now ≤ now ∧ ∀ t ∈ r.scheduler.timer, now ≤ t
  | .timer _ _ _ => True
  | .cancel now => r.now ≤ now ∧ ∀ t ∈ r.scheduler.timer, now ≤ t

instance (r : RelayRun) : ∀ ev, Decidable (inTimeOrder r ev)
  | .frame now _ _ _ => inferInstanceAs (Decidable (r.now ≤ now ∧ ∀ t ∈ r.scheduler.timer, now ≤ t))
  | .timer _ _ _ => inferInstanceAs (Decidable True)
  | .cancel now => inferInstanceAs (Decidable (r.now ≤ now ∧ ∀ t ∈ r.scheduler.timer, now ≤ t))

def ScheduledRelay.key (p : ScheduledRelay) : RelayKey := p.relay.key

structure RelayInv (cfg : RelayTiming) (r : RelayRun) : Prop where
  timer : AtEarliest r.scheduler.timer (r.scheduler.pending.map ScheduledRelay.fireTime)
  ahead : ∀ p ∈ r.scheduler.pending, r.now ≤ p.fireTime
  once : (r.scheduler.pending.map ScheduledRelay.key ++ r.aired.map fun a => a.1.key).Nodup
  seen : ∀ key ∈ r.scheduler.pending.map ScheduledRelay.key ++ r.aired.map fun a => a.1.key, key ∈ r.scheduler.seen
  wanted : ∀ p ∈ r.scheduler.pending,
    r.scheduler.state.carrierCount p.key < consensusRelayCarrierThreshold cfg.relay
  foreign : ∀ key ∈ r.scheduler.pending.map ScheduledRelay.key ++ r.aired.map fun a => a.1.key,
    ¬(0 < key.senderId ∧ key.senderId - 1 = cfg.relay.replicaId)
  onTime : ∀ a ∈ r.aired, a.2 = a.1.fireTime

variable {cfg : RelayTiming} {r : RelayRun} {c : RelayScheduler} {now : ℤ} {aired : List (ScheduledRelay × ℤ)}
  {key : RelayKey} {raw : Bytes} {request : Request} {relayEpoch : ℕ}

lemma relayInv_initial : RelayInv cfg .initial where
  timer := rfl
  ahead := fun _ hp => absurd hp List.not_mem_nil
  once := List.nodup_nil
  seen := fun _ hk => absurd hk List.not_mem_nil
  wanted := fun _ hp => absurd hp List.not_mem_nil
  foreign := fun _ hk => absurd hk List.not_mem_nil
  onTime := fun _ ha => absurd ha List.not_mem_nil

lemma RelayInv.waits {now' : ℤ} (h : RelayInv cfg r) (hnow : ∀ t ∈ r.scheduler.timer, now' ≤ t) :
    RelayInv cfg ⟨now', r.scheduler, r.aired⟩ := by
  refine ⟨h.timer, fun p hp => ?_, h.once, h.seen, h.wanted, h.foreign, h.onTime⟩
  cases htimer : r.scheduler.timer with
  | none =>
    have hnil := (htimer ▸ h.timer : AtEarliest none _).eq_nil
    simp only [List.map_eq_nil_iff] at hnil
    exact absurd (hnil ▸ hp) List.not_mem_nil
  | some t =>
    have hle := (htimer ▸ h.timer : AtEarliest (some t) _).le (List.mem_map_of_mem hp)
    exact (hnow t (by simp [htimer])).trans hle

lemma isPending_iff : c.state.isPending key = true ↔ key ∈ c.pending.map ScheduledRelay.key := by
  simp only [RelayState.isPending, RelayScheduler.state, List.any_eq_true, List.mem_map, decide_eq_true_eq]
  constructor
  · rintro ⟨_, ⟨p, hp, rfl⟩, hkey⟩
    exact ⟨p, hp, hkey⟩
  · rintro ⟨p, hp, hkey⟩
    exact ⟨_, ⟨p, hp, rfl⟩, hkey⟩

lemma RelayInv.schedule (h : RelayInv cfg ⟨now, c, aired⟩) (hseen : key ∈ c.seen)
    (hnew : key ∉ c.pending.map ScheduledRelay.key ++ aired.map fun a => a.1.key) (hsender : key.senderId = request.senderId) :
    RelayInv cfg ⟨now, c.scheduleConsensusRelay cfg key raw request relayEpoch now, aired⟩ := by
  unfold RelayScheduler.scheduleConsensusRelay
  split
  next => exact h
  next =>
    split
    next => exact h
    next hown =>
      split
      next => exact h
      next hfew =>
        have hsplit : ∀ (P : RelayKey → Prop),
            (∀ k ∈ c.pending.map ScheduledRelay.key ++ aired.map fun a => a.1.key, P k) → P key →
            ∀ k ∈ (c.pending ++ [ScheduledRelay.mk ⟨key, raw, relayEpoch⟩ (consensusRelayRank cfg.relay request)
              (relayFireTime cfg request now)]).map ScheduledRelay.key ++ aired.map fun a => a.1.key, P k := by
          intro P hall hkey k hk
          simp only [List.map_append, List.map_singleton, List.append_assoc, List.mem_append, List.mem_singleton] at hk
          rcases hk with hk | rfl | hk
          · exact hall k (List.mem_append_left _ hk)
          · exact hkey
          · exact hall k (List.mem_append_right _ hk)
        refine ⟨?_, fun p hp => ?_, ?_, hsplit _ h.seen hseen, fun p hp => ?_, hsplit _ h.foreign ?_, h.onTime⟩
        · have happend := h.timer.append (relayFireTime cfg request now)
          simpa only [RelayScheduler.scheduleConsensusRelayFlush, List.map_append, List.map_singleton] using happend
        · rcases List.mem_append.mp hp with hold | hlast
          · exact h.ahead p hold
          · rw [List.mem_singleton.mp hlast]
            exact le_add_of_nonneg_right (le_max_left _ _)
        · simp only [RelayScheduler.scheduleConsensusRelayFlush, List.map_append, List.map_singleton,
            List.append_assoc, List.singleton_append]
          exact List.nodup_middle.mpr (List.nodup_cons.mpr ⟨hnew, h.once⟩)
        · rcases List.mem_append.mp hp with hold | hlast
          · exact h.wanted p hold
          · rw [List.mem_singleton.mp hlast]
            exact not_le.mp hfew
        · rw [hsender]
          simpa only [Bool.and_eq_true, decide_eq_true_eq] using hown

lemma RelayInv.maybeRelay (h : RelayInv cfg ⟨now, c, aired⟩) (departed : Bool) :
    RelayInv cfg ⟨now, c.maybeRelayResdbConsensusBytes cfg departed raw relayEpoch now, aired⟩ := by
  unfold RelayScheduler.maybeRelayResdbConsensusBytes
  split
  next => exact h
  next =>
    split
    next => exact h
    next request _ =>
      split
      next => exact h
      next =>
        split
        next => exact h
        next hfresh =>
          refine RelayInv.schedule ?_ List.mem_cons_self (fun hk => hfresh (h.seen _ hk)) rfl
          exact ⟨h.timer, h.ahead, h.once, fun k hk => List.mem_cons_of_mem _ (h.seen k hk), h.wanted, h.foreign, h.onTime⟩

lemma RelayInv.observe (h : RelayInv cfg ⟨now, c, aired⟩) (carrier : ℤ) :
    RelayInv cfg ⟨now, c.observeConsensusRelayCarrier cfg key carrier, aired⟩ := by
  unfold RelayScheduler.observeConsensusRelayCarrier
  split
  next => exact h
  next =>
    dsimp only
    have hother : ∀ k, k ≠ key →
        RelayState.carrierCount ⟨c.seen, (key, carrier) :: c.carriers, c.pending.map ScheduledRelay.relay⟩ k =
          c.state.carrierCount k := by
      intro k hk
      simp [RelayState.carrierCount, RelayScheduler.state, Ne.symm hk]
    split
    next hfew =>
      refine ⟨h.timer, h.ahead, h.once, h.seen, fun p hp => ?_, h.foreign, h.onTime⟩
      by_cases hkey : p.key = key
      · rw [hkey]
        exact hfew
      · exact (hother p.key hkey).trans_lt (h.wanted p hp)
    next =>
      split
      next hnone =>
        refine ⟨h.timer, h.ahead, h.once, h.seen, fun p hp => ?_, h.foreign, h.onTime⟩
        have hkey : p.key ≠ key := by
          rintro rfl
          have hpending := @isPending_iff c p.key |>.mpr (List.mem_map_of_mem hp)
          simp only [Bool.not_eq_true'] at hnone
          exact absurd (hnone.symm.trans hpending) (by simp)
        exact (hother p.key hkey).trans_lt (h.wanted p hp)
      next =>
        -- the key has carriers enough: its relay goes, and the timer is set for the others
        have hsub : (c.pending.filter fun p => decide (p.relay.key ≠ key)).Sublist c.pending := List.filter_sublist
        have hkeys := (hsub.map ScheduledRelay.key).append_right (aired.map fun a => a.1.key)
        refine ⟨atEarliest_rearm_none _, fun p hp => h.ahead p (hsub.subset hp), h.once.sublist hkeys,
          fun k hk => h.seen k (hkeys.subset hk), fun p hp => ?_, fun k hk => h.foreign k (hkeys.subset hk), h.onTime⟩
        obtain ⟨hold, hne⟩ := List.mem_filter.mp hp
        exact (hother p.key (of_decide_eq_true hne)).trans_lt (h.wanted p hold)

lemma RelayInv.handleFrame (h : RelayInv cfg ⟨now, c, aired⟩) (frame : RadioFrame) (currentEpoch : ℕ) (departed : Bool) :
    RelayInv cfg ⟨now, (c.handleFrame cfg frame currentEpoch departed now).2, aired⟩ := by
  unfold RelayScheduler.handleFrame
  cases frame.type with
  | resdbConsensus =>
    simp only [RelayScheduler.handleResdbConsensusMessage]
    repeat' split
    all_goals first | exact h | exact h.maybeRelay departed
  | consensusRelay =>
    simp only [RelayScheduler.handleResdbConsensusRelay]
    repeat' split
    all_goals first | exact h | exact h.observe frame.fromReplicaId | exact (h.observe frame.fromReplicaId).maybeRelay departed

lemma RelayInv.flush (h : RelayInv cfg r) {t : ℤ} (htimer : r.scheduler.timer = some t) (complete : List RelayKey)
    (currentEpoch : ℕ) (inactive : Bool) :
    RelayInv cfg ⟨t, (r.scheduler.flushDueConsensusRelays cfg complete currentEpoch inactive t).2,
      (r.scheduler.flushDueConsensusRelays cfg complete currentEpoch inactive t).1.map (fun p => (p, t)) ++ r.aired⟩ := by
  have hearliest : AtEarliest (some t) (r.scheduler.pending.map ScheduledRelay.fireTime) := htimer ▸ h.timer
  set due := r.scheduler.pending.filter fun p => decide (p.fireTime ≤ t) with hdue
  set sent := (r.scheduler.flushDueConsensusRelays cfg complete currentEpoch inactive t).1 with hsent
  set rest := r.scheduler.pending.filter fun p => !decide (p.fireTime ≤ t) with hrest
  have hsub : sent.Sublist due := List.filter_sublist
  have hperm : (rest ++ due).Perm r.scheduler.pending := by
    rw [hrest, hdue]
    exact List.perm_append_comm.trans (List.filter_append_perm _ r.scheduler.pending)
  have hkeys : (rest.map ScheduledRelay.key ++ (sent.map fun p => (p, t)).map (fun a => a.1.key)).Sublist
      ((rest ++ due).map ScheduledRelay.key) := by
    rw [List.map_append, List.map_map]
    exact (hsub.map ScheduledRelay.key).append_left _
  have hall : ∀ k ∈ rest.map ScheduledRelay.key ++ ((sent.map fun p => (p, t)) ++ r.aired).map (fun a => a.1.key),
      k ∈ r.scheduler.pending.map ScheduledRelay.key ++ r.aired.map fun a => a.1.key := by
    intro k hk
    rw [List.map_append, ← List.append_assoc] at hk
    rcases List.mem_append.mp hk with hk | hk
    · exact List.mem_append_left _ ((hperm.map ScheduledRelay.key).subset (hkeys.subset hk))
    · exact List.mem_append_right _ hk
  refine ⟨atEarliest_rearm_none _, fun p hp => ?_, ?_, fun k hk => h.seen k (hall k hk), fun p hp => ?_,
    fun k hk => h.foreign k (hall k hk), fun a ha => ?_⟩
  · have hlate := (List.mem_filter.mp hp).2
    simp only [Bool.not_eq_true', decide_eq_false_iff_not, not_le] at hlate
    exact hlate.le
  · have hnodup := (((hperm.map ScheduledRelay.key).append_right _).nodup_iff.mpr h.once)
    rw [List.map_append, ← List.append_assoc]
    exact hnodup.sublist (hkeys.append_right _)
  · exact h.wanted p (List.mem_filter.mp hp).1
  · rcases List.mem_append.mp ha with hnow | hold
    · obtain ⟨p, hp, rfl⟩ := List.mem_map.mp hnow
      obtain ⟨hpending, hle⟩ := List.mem_filter.mp (hsub.subset hp)
      exact le_antisymm (hearliest.le (List.mem_map_of_mem hpending)) (of_decide_eq_true hle)
    · exact h.onTime a hold

lemma RelayInv.step (r : RelayRun) (ev : RelayEvent) (h : RelayInv cfg r) (hok : inTimeOrder r ev) :
    RelayInv cfg (relayStep cfg r ev) := by
  cases ev with
  | frame now frame currentEpoch departed => exact (h.waits hok.2).handleFrame frame currentEpoch departed
  | cancel now =>
    have hnone : ∀ key ∈ r.aired.map (fun a => a.1.key),
        key ∈ r.scheduler.pending.map ScheduledRelay.key ++ r.aired.map fun a => a.1.key :=
      fun _ hk => List.mem_append_right _ hk
    exact ⟨rfl, fun _ hp => absurd hp List.not_mem_nil, h.once.sublist (List.sublist_append_right _ _),
      fun k hk => h.seen k (hnone k hk), fun _ hp => absurd hp List.not_mem_nil, fun k hk => h.foreign k (hnone k hk),
      h.onTime⟩
  | timer complete currentEpoch inactive =>
    simp only [relayStep]
    split
    next => exact h
    next t htimer => exact h.flush htimer complete currentEpoch inactive

theorem relays_scheduled (cfg : RelayTiming) (events : List RelayEvent)
    (hok : Guarded (relayStep cfg) inTimeOrder .initial events) :
    RelayInv cfg (run (relayStep cfg) .initial events) :=
  hok.invariant RelayInv.step relayInv_initial

def secondReplica : RelayTiming where
  relay :=
    { replicaId := 1, totalVehicles := 4, toleratedFaults := 1, carrierCap := 2, gossipEnabled := true
      registeredKey := fun _ => some []
      verifyBytes := fun _ _ sig => decide (sig = [7])
      sha256Hex := id
      parsePacket := fun _ => some ⟨.prepare, 3, 1, 1, ascii "tx", .batch [], false, false⟩
      serializePacket := fun _ => [] }
  baseDelay := 20
  slotDelay := 5

def preparePacket : RadioFrame := ⟨.resdbConsensus, 0, -1, [], [7], [1, 2]⟩

def heardThenDue : List RelayEvent := [.frame 100 preparePacket 1 false, .frame 110 preparePacket 1 false, .timer [] 1 false]

theorem relays_scheduled_preparePacket :
    RelayInv secondReplica (run (relayStep secondReplica) .initial heardThenDue) :=
  relays_scheduled secondReplica heardThenDue (by decide +kernel)

example : (run (relayStep secondReplica) .initial heardThenDue).aired.map Prod.snd = [120] := by decide +kernel

/-! Without its times the scheduler is the relay state that the radio network runs on. -/

@[simp] lemma state_flush : c.scheduleConsensusRelayFlush.state = c.state := rfl

lemma state_schedule : (c.scheduleConsensusRelay cfg key raw request relayEpoch now).state =
    scheduleConsensusRelay cfg.relay c.state key raw request relayEpoch := by
  unfold RelayScheduler.scheduleConsensusRelay scheduleConsensusRelay
  split
  next => rfl
  next =>
    split
    next => rfl
    next =>
      split
      next => rfl
      next =>
        rw [state_flush]
        simp [RelayScheduler.state]

lemma state_maybeRelay (departed : Bool) : (c.maybeRelayResdbConsensusBytes cfg departed raw relayEpoch now).state =
    maybeRelayResdbConsensusBytes cfg.relay c.state departed raw relayEpoch := by
  unfold RelayScheduler.maybeRelayResdbConsensusBytes maybeRelayResdbConsensusBytes
  split
  next => rfl
  next =>
    cases cfg.relay.parsePacket raw with
    | none => rfl
    | some request =>
      dsimp only
      split
      next => rfl
      next =>
        by_cases hseen : consensusRelayKey cfg.relay raw request ∈ c.seen
        · rw [if_pos hseen, if_pos (show _ ∈ c.state.seen from hseen)]
        · rw [if_neg hseen, if_neg (show _ ∉ c.state.seen from hseen)]
          exact state_schedule

lemma state_observe (carrier : ℤ) : (c.observeConsensusRelayCarrier cfg key carrier).state =
    observeConsensusRelayCarrier cfg.relay c.state key carrier := by
  unfold RelayScheduler.observeConsensusRelayCarrier observeConsensusRelayCarrier
  simp only [List.contains_iff_mem]
  by_cases hold : carrier < 0 ∨ (key, carrier) ∈ c.carriers
  · rw [if_pos hold, if_pos (show carrier < 0 ∨ (key, carrier) ∈ c.state.carriers from hold)]
  · rw [if_neg hold, if_neg (show ¬(carrier < 0 ∨ (key, carrier) ∈ c.state.carriers) from hold)]
    set c' : RelayScheduler := { c with carriers := (key, carrier) :: c.carriers }
    set st' : RelayState := { c.state with carriers := (key, carrier) :: c.state.carriers }
    have hstate : c'.state = st' := rfl
    simp only [hstate]
    by_cases hfew : st'.carrierCount key < consensusRelayCarrierThreshold cfg.relay
    · rw [if_pos hfew, if_pos hfew]
      rfl
    · rw [if_neg hfew, if_neg hfew]
      by_cases hnone : (!st'.isPending key) = true
      · -- nothing waits under this key, so the filter of the untimed model keeps all
        rw [if_pos hnone]
        simp only [RelayState.isPending, Bool.not_eq_true', List.any_eq_false, decide_eq_true_eq] at hnone
        have hall : (st'.pending.filter fun p => decide (p.key ≠ key)) = st'.pending :=
          List.filter_eq_self.mpr fun p hp => decide_eq_true (hnone p hp)
        rw [hall]
        rfl
      · rw [if_neg hnone, state_flush]
        simp [RelayScheduler.state, List.filter_map, Function.comp_def]

theorem state_handleFrame (frame : RadioFrame) (currentEpoch : ℕ) (departed : Bool) :
    (c.handleFrame cfg frame currentEpoch departed now).1 =
        (handleFrame cfg.relay c.state frame currentEpoch departed).1 ∧
      (c.handleFrame cfg frame currentEpoch departed now).2.state =
        (handleFrame cfg.relay c.state frame currentEpoch departed).2 := by
  unfold RelayScheduler.handleFrame handleFrame
  cases frame.type with
  | resdbConsensus =>
    simp only [RelayScheduler.handleResdbConsensusMessage, handleResdbConsensusMessage]
    repeat' split
    all_goals first | exact ⟨rfl, rfl⟩ | exact ⟨rfl, state_maybeRelay departed⟩
  | consensusRelay =>
    simp only [RelayScheduler.handleResdbConsensusRelay, handleResdbConsensusRelay]
    split
    next => exact ⟨rfl, rfl⟩
    next =>
      split
      next => exact ⟨rfl, rfl⟩
      next =>
        rcases gossipParse frame.resdbBytes with _ | ⟨epoch, raw⟩
        · exact ⟨rfl, rfl⟩
        · dsimp only
          split
          next => exact ⟨rfl, rfl⟩
          next =>
            cases cfg.relay.parsePacket raw with
            | none => exact ⟨rfl, rfl⟩
            | some request =>
              dsimp only
              split
              next => exact ⟨rfl, rfl⟩
              next =>
                rw [← state_observe]
                set c' := c.observeConsensusRelayCarrier cfg (consensusRelayKey cfg.relay raw request) frame.fromReplicaId
                by_cases hseen : consensusRelayKey cfg.relay raw request ∈ c'.seen
                · rw [if_pos hseen, if_pos (show _ ∈ c'.state.seen from hseen)]
                  exact ⟨rfl, rfl⟩
                · rw [if_neg hseen, if_neg (show _ ∉ c'.state.seen from hseen)]
                  exact ⟨rfl, state_maybeRelay departed⟩

def RelayScheduler.dueKeys (c : RelayScheduler) (now : ℤ) : List RelayKey :=
  (c.pending.filter fun p => decide (p.fireTime ≤ now)).map ScheduledRelay.key

lemma mem_dueKeys (hnodup : (c.pending.map ScheduledRelay.key).Nodup) {p : ScheduledRelay} (hp : p ∈ c.pending) :
    p.key ∈ c.dueKeys now ↔ p.fireTime ≤ now := by
  constructor
  · intro hkey
    obtain ⟨q, hq, heq⟩ := List.mem_map.mp hkey
    obtain ⟨hpending, hdue⟩ := List.mem_filter.mp hq
    rw [← List.inj_on_of_nodup_map hnodup hpending hp heq]
    exact of_decide_eq_true hdue
  · exact fun hdue => List.mem_map_of_mem (List.mem_filter.mpr ⟨hp, decide_eq_true hdue⟩)

theorem state_flushDue (hnodup : (c.pending.map ScheduledRelay.key).Nodup) (complete : List RelayKey)
    (currentEpoch : ℕ) (inactive : Bool) :
    (flushDueConsensusRelays cfg.relay c.state (c.dueKeys now) complete currentEpoch inactive).1 =
        (c.flushDueConsensusRelays cfg complete currentEpoch inactive now).1.map
          (fun p => gossipSerialize p.relay.relayEpoch p.relay.raw) ∧
      (flushDueConsensusRelays cfg.relay c.state (c.dueKeys now) complete currentEpoch inactive).2 =
        (c.flushDueConsensusRelays cfg complete currentEpoch inactive now).2.state := by
  have hdue : ∀ p ∈ c.pending, decide (p.relay.key ∈ c.dueKeys now) = decide (p.fireTime ≤ now) :=
    fun p hp => decide_eq_decide.mpr (mem_dueKeys hnodup hp)
  have hlate : ∀ p ∈ c.pending, decide (p.relay.key ∉ c.dueKeys now) = !decide (p.fireTime ≤ now) :=
    fun p hp => by rw [decide_not, hdue p hp]
  constructor
  · simp only [flushDueConsensusRelays, RelayScheduler.flushDueConsensusRelays]
    conv_lhs => rw [show c.state.pending = c.pending.map ScheduledRelay.relay from rfl]
    rw [List.filter_map, List.filter_map, List.map_map]
    simp only [Function.comp_def]
    rw [List.filter_congr hdue]
  · simp only [flushDueConsensusRelays, RelayScheduler.flushDueConsensusRelays, state_flush]
    simp only [RelayScheduler.state, List.filter_map, Function.comp_def]
    rw [List.filter_congr hlate]

end V2vBft.Engine
