import V2vBft.Engine.Outbound

/-! Own PBFT packets are sent again on a timer until their phase is over or their attempts are used up. -/

namespace V2vBft.Engine

open Wire Pbft App Library.GuardedRun

structure ConsensusRetryKey where
  view : ℕ
  seq : ℕ
  requestHash : Bytes
  deriving DecidableEq, Repr

-- instances_ as one list: the keys of both maps stand in the packet
structure ConsensusRetryPacket where
  key : ConsensusRetryKey
  type : RequestType
  resdbBytes : Bytes
  attempts : ℤ
  deriving DecidableEq, Repr

structure RetryConfig where
  outbound : OutboundConfig
  consensusRetryMax : ℤ
  configuredConsensusQuorum : ℤ
  sha256 : Bytes → Bytes

structure RetryState where
  outbound : OutboundState
  instances : List ConsensusRetryPacket
  timerScheduled : Bool

def RetryState.initial : RetryState := ⟨⟨false, false, []⟩, [], false⟩

def consensusRetryKey (cfg : RetryConfig) (request : Request) : ConsensusRetryKey :=
  ⟨request.currentView, request.seq, cfg.sha256 request.hash⟩

def ConsensusRetryPacket.isPhase (packet : ConsensusRetryPacket) (key : ConsensusRetryKey) (type : RequestType) : Bool :=
  decide (packet.key = key) && decide (packet.type = type)

-- the own COMMIT takes the place of the earlier phases; of the packets of one phase the first one stays
def ConsensusRetryManager.remember (instances : List ConsensusRetryPacket) (key : ConsensusRetryKey)
    (type : RequestType) (bytes : Bytes) : List ConsensusRetryPacket :=
  let phases :=
    if type = .commit then
      instances.filter fun p => !(p.isPhase key .prePrepare || p.isPhase key .prepare)
    else instances
  if phases.any fun p => p.isPhase key type then phases else phases ++ [⟨key, type, bytes, 0⟩]

def rememberConsensusRetry (cfg : RetryConfig) (s : RetryState) (bytes : Bytes) : RetryState :=
  match cfg.outbound.radio.parsePacket bytes with
  | none => s
  | some request =>
    if bytes = [] ∨ cfg.consensusRetryMax = 0 then s
    else if request.type = .newTxns then s
    else if request.senderId ≠ cfg.outbound.radio.replicaId + 1 then s
    else
      let instances :=
        ConsensusRetryManager.remember s.instances (consensusRetryKey cfg request) request.type bytes
      { s with instances := instances, timerScheduled := s.timerScheduled || !instances.isEmpty }

-- GetVerifiedVoteProgress: the votes counted here, and the quorum of the forced view if there is one
def verifiedVoteProgress (engine : Replica) (request : Request) (voteType : RequestType) : Option (ℕ × Option ℕ) :=
  if request.hash = [] then none
  else if (engine.pool.getCollector request.seq).seq ≠ request.seq then none
  else
    some ((engine.pool.getCollector request.seq).voteCount voteType request.hash,
      (engine.forcedView request).map OmnetForcedView.quorum)

def progressVoteType : RequestType → Option RequestType
  | .prePrepare => some .prepare
  | .prepare => some .commit
  | _ => none

def phaseProgressed (cfg : RetryConfig) (engine : Replica) (type : RequestType) (bytes : Bytes) : Bool :=
  match progressVoteType type, cfg.outbound.radio.parsePacket bytes with
  | some voteType, some request =>
    match verifiedVoteProgress engine request voteType with
    | none => false
    | some (count, forced) =>
      let quorum : ℤ := if 0 < forced.getD 0 then forced.getD 0 else cfg.configuredConsensusQuorum
      decide (0 < quorum) && decide (quorum ≤ count)
  | _, _ => false

-- none: the packet is dropped from the map
def retryPacket (cfg : RetryConfig) (engine : Replica) (packet : ConsensusRetryPacket) : Option ConsensusRetryPacket :=
  if phaseProgressed cfg engine packet.type packet.resdbBytes then none
  else if 0 < cfg.consensusRetryMax ∧ cfg.consensusRetryMax ≤ packet.attempts then none
  else some { packet with attempts := packet.attempts + 1 }

def retryConsensusPackets (cfg : RetryConfig) (engine : Replica) (s : RetryState) : RetryState × List Bytes :=
  if s.outbound.departed ∨ s.instances = [] then (s, [])
  else
    let kept := s.instances.filterMap (retryPacket cfg engine)
    ({ s with instances := kept, timerScheduled := s.timerScheduled || !kept.isEmpty },
      kept.map ConsensusRetryPacket.resdbBytes)

def clearConsensusRetries (s : RetryState) : RetryState := { s with instances := [], timerScheduled := false }

inductive RetryEvent
  | enqueue (toReplicaId : ℤ) (bytes : Bytes)
  | drain (nonce : ℕ)
  | timer (engine : Replica)
  | clear
  | depart
  | disableCrashComms

def drainedPackets (cfg : RetryConfig) (nonce : ℕ) (s : RetryState) : List Bytes :=
  if s.outbound.crashCommsDisabled then []
  else
    (s.outbound.outboundQueue.filter fun pkt => (signedMessage cfg.outbound nonce pkt).isSome).map
      PendingOutboundPacket.resdbBytes

def retryStep (cfg : RetryConfig) (s : RetryState) : RetryEvent → RetryState
  | .enqueue toReplicaId bytes => { s with outbound := enqueueOutbound s.outbound toReplicaId bytes }
  | .drain nonce =>
    (drainedPackets cfg nonce s).foldl (rememberConsensusRetry cfg)
      { s with outbound := (drainOutboundQueue cfg.outbound nonce s.outbound).2 }
  | .timer engine =>
    if s.timerScheduled then (retryConsensusPackets cfg engine { s with timerScheduled := false }).1 else s
  | .clear => clearConsensusRetries s
  | .depart => clearConsensusRetries { s with outbound := { s.outbound with departed := true, outboundQueue := [] } }
  | .disableCrashComms =>
    clearConsensusRetries { s with outbound := { s.outbound with crashCommsDisabled := true, outboundQueue := [] } }

def aired (cfg : RetryConfig) (s : RetryState) : RetryEvent → List Bytes
  | .drain nonce => drainedPackets cfg nonce s
  | .timer engine =>
    if s.timerScheduled then (retryConsensusPackets cfg engine { s with timerScheduled := false }).2 else []
  | _ => []

def RetryEvent.isEnqueue : RetryEvent → Bool
  | .enqueue _ _ => true
  | _ => false

def RetryEvent.isTimer : RetryEvent → Bool
  | .timer _ => true
  | _ => false

def RetryEvent.brings (bytes : Bytes) : RetryEvent → Bool
  | .enqueue _ b => decide (b = bytes)
  | _ => false

def RetryState.stopped (s : RetryState) : Bool := s.outbound.departed || s.outbound.crashCommsDisabled

structure Remembered (cfg : RetryConfig) (packet : ConsensusRetryPacket) : Prop where
  parsed : ∃ request, cfg.outbound.radio.parsePacket packet.resdbBytes = some request ∧
    request.senderId = cfg.outbound.radio.replicaId + 1 ∧ request.type = packet.type ∧ packet.type ≠ .newTxns ∧
    packet.key = consensusRetryKey cfg request
  tried : 0 ≤ packet.attempts ∧ (0 < cfg.consensusRetryMax → packet.attempts ≤ cfg.consensusRetryMax)

structure RetryInv (cfg : RetryConfig) (s : RetryState) : Prop where
  remembered : ∀ p ∈ s.instances, Remembered cfg p
  distinct : (s.instances.map fun p => (p.key, p.type)).Nodup
  timer : s.timerScheduled = true ↔ s.instances ≠ []
  stopped : s.stopped = true → s.instances = [] ∧ s.outbound.outboundQueue = []
  enabled : cfg.consensusRetryMax = 0 → s.instances = []

variable {cfg : RetryConfig} {s : RetryState} {bytes : Bytes} {ev : RetryEvent} {nonce : ℕ} {engine : Replica}

lemma retryInv_initial (cfg : RetryConfig) : RetryInv cfg .initial :=
  ⟨fun _ hp => absurd hp List.not_mem_nil, List.nodup_nil, by simp [RetryState.initial], fun _ => ⟨rfl, rfl⟩, fun _ => rfl⟩

lemma remember_cases (instances : List ConsensusRetryPacket) (key : ConsensusRetryKey) (type : RequestType)
    (bytes : Bytes) : ∃ phases : List ConsensusRetryPacket, phases.Sublist instances ∧
      (ConsensusRetryManager.remember instances key type bytes = phases ∧ phases ≠ [] ∨
        ConsensusRetryManager.remember instances key type bytes = phases ++ [⟨key, type, bytes, 0⟩] ∧
          (key, type) ∉ phases.map fun p => (p.key, p.type)) := by
  set phases := if type = .commit then
      instances.filter fun p => !(p.isPhase key .prePrepare || p.isPhase key .prepare)
    else instances with hphases
  have hsub : phases.Sublist instances := by
    rw [hphases]
    split
    · exact List.filter_sublist
    · exact List.Sublist.refl _
  refine ⟨phases, hsub, ?_⟩
  rw [ConsensusRetryManager.remember, ← hphases]
  by_cases hany : phases.any fun p => p.isPhase key type
  · obtain ⟨p, hp, -⟩ := List.any_eq_true.mp hany
    exact Or.inl ⟨if_pos hany, List.ne_nil_of_mem hp⟩
  · refine Or.inr ⟨if_neg hany, fun hmem => hany ?_⟩
    obtain ⟨p, hp, heq⟩ := List.mem_map.mp hmem
    obtain ⟨hkey, htype⟩ := Prod.mk.inj heq
    exact List.any_eq_true.mpr ⟨p, hp, by simp [ConsensusRetryPacket.isPhase, hkey, htype]⟩

lemma rememberConsensusRetry_cases (cfg : RetryConfig) (s : RetryState) (bytes : Bytes) :
    rememberConsensusRetry cfg s bytes = s ∨
      ∃ (packet : ConsensusRetryPacket) (phases : List ConsensusRetryPacket), packet.resdbBytes = bytes ∧
        Remembered cfg packet ∧ packet.attempts = 0 ∧ cfg.consensusRetryMax ≠ 0 ∧ phases.Sublist s.instances ∧
        (rememberConsensusRetry cfg s bytes = { s with instances := phases, timerScheduled := true } ∧ phases ≠ [] ∨
          rememberConsensusRetry cfg s bytes =
              { s with instances := phases ++ [packet], timerScheduled := true } ∧
            (packet.key, packet.type) ∉ phases.map fun p => (p.key, p.type)) := by
  unfold rememberConsensusRetry
  cases hparse : cfg.outbound.radio.parsePacket bytes with
  | none => exact Or.inl rfl
  | some request =>
    dsimp only
    split
    next => exact Or.inl rfl
    next hopen =>
      split
      next => exact Or.inl rfl
      next htype =>
        split
        next => exact Or.inl rfl
        next hsender =>
          obtain ⟨hbytes, hmax⟩ := not_or.mp hopen
          obtain ⟨phases, hsub, hcases⟩ :=
            remember_cases s.instances (consensusRetryKey cfg request) request.type bytes
          refine Or.inr ⟨⟨consensusRetryKey cfg request, request.type, bytes, 0⟩, phases, rfl,
            ⟨⟨request, hparse, not_not.mp hsender, rfl, htype, rfl⟩, le_rfl, le_of_lt⟩, rfl, hmax, hsub, ?_⟩
          refine hcases.imp (fun ⟨heq, hne⟩ => ⟨?_, hne⟩) (fun ⟨heq, hnew⟩ => ⟨?_, hnew⟩)
          · rw [heq, List.isEmpty_eq_false_iff.mpr hne, Bool.not_false, Bool.or_true]
          · rw [heq, List.isEmpty_eq_false_iff.mpr (by simp), Bool.not_false, Bool.or_true]

lemma RetryInv.remember (h : RetryInv cfg s) (hstopped : s.stopped = false) (bytes : Bytes) :
    RetryInv cfg (rememberConsensusRetry cfg s bytes) ∧ (rememberConsensusRetry cfg s bytes).stopped = false := by
  rcases rememberConsensusRetry_cases cfg s bytes with
    heq | ⟨packet, phases, -, hpacket, -, hmax, hsub, ⟨heq, hne⟩ | ⟨heq, hnew⟩⟩ <;> rw [heq]
  · exact ⟨h, hstopped⟩
  · refine ⟨⟨fun p hp => h.remembered p (hsub.subset hp), h.distinct.sublist (hsub.map _), by simp [hne], ?_, ?_⟩, hstopped⟩
    · exact fun hs => absurd (hstopped.symm.trans hs) (by simp)
    · exact fun hz => absurd hz hmax
  · refine ⟨⟨fun p hp => ?_, ?_, by simp, ?_, ?_⟩, hstopped⟩
    · rcases List.mem_append.mp hp with hold | hlast
      · exact h.remembered p (hsub.subset hold)
      · exact List.mem_singleton.mp hlast ▸ hpacket
    · rw [List.map_append, List.nodup_append]
      refine ⟨h.distinct.sublist (hsub.map _), List.nodup_singleton _, fun a ha b hb heq' => hnew ?_⟩
      rw [List.map_singleton, List.mem_singleton] at hb
      exact hb ▸ heq' ▸ ha
    · exact fun hs => absurd (hstopped.symm.trans hs) (by simp)
    · exact fun hz => absurd hz hmax

lemma RetryInv.remember_all (h : RetryInv cfg s) (hstopped : s.stopped = false) (packets : List Bytes) :
    RetryInv cfg (packets.foldl (rememberConsensusRetry cfg) s) := by
  induction packets generalizing s with
  | nil => exact h
  | cons bytes packets ih =>
    obtain ⟨hinv, hrun⟩ := h.remember hstopped bytes
    exact ih hinv hrun

lemma retryPacket_some {p q : ConsensusRetryPacket} (h : retryPacket cfg engine p = some q) :
    q = { p with attempts := p.attempts + 1 } ∧ (0 < cfg.consensusRetryMax → p.attempts < cfg.consensusRetryMax) := by
  unfold retryPacket at h
  split at h
  next => simp at h
  next =>
    split at h
    next => simp at h
    next hmax => exact ⟨(Option.some.inj h).symm, fun hpos => not_le.mp fun hle => hmax ⟨hpos, hle⟩⟩

lemma Remembered.retried {p q : ConsensusRetryPacket} (h : Remembered cfg p) (hq : retryPacket cfg engine p = some q) :
    Remembered cfg q := by
  obtain ⟨rfl, hmax⟩ := retryPacket_some hq
  exact ⟨h.parsed, by have := h.tried.1; simp only; omega, fun hpos => hmax hpos⟩

lemma retried_keys (instances : List ConsensusRetryPacket) :
    ((instances.filterMap (retryPacket cfg engine)).map fun p => (p.key, p.type)).Sublist
      (instances.map fun p => (p.key, p.type)) := by
  induction instances with
  | nil => exact List.Sublist.refl _
  | cons p instances ih =>
    cases hq : retryPacket cfg engine p with
    | none =>
      rw [List.filterMap_cons_none hq]
      exact ih.cons _
    | some q =>
      obtain ⟨rfl, -⟩ := retryPacket_some hq
      rw [List.filterMap_cons_some hq]
      exact ih.cons_cons _

lemma retryInv_cleared (outbound : OutboundState)
    (hqueue : (outbound.departed || outbound.crashCommsDisabled) = true → outbound.outboundQueue = []) :
    RetryInv cfg (clearConsensusRetries { s with outbound := outbound }) :=
  ⟨fun _ hp => absurd hp List.not_mem_nil, List.nodup_nil, by simp [clearConsensusRetries],
    fun hs => ⟨rfl, hqueue hs⟩, fun _ => rfl⟩

lemma enqueueOutbound_stopped (toReplicaId : ℤ) (bytes : Bytes) (h : s.stopped = true) :
    enqueueOutbound s.outbound toReplicaId bytes = s.outbound := by
  unfold RetryState.stopped at h
  unfold enqueueOutbound
  split <;> [rfl; skip]
  split <;> [rfl; skip]
  split <;> [rfl; skip]
  simp_all

lemma enqueueOutbound_flags (o : OutboundState) (toReplicaId : ℤ) (bytes : Bytes) :
    (enqueueOutbound o toReplicaId bytes).departed = o.departed ∧
      (enqueueOutbound o toReplicaId bytes).crashCommsDisabled = o.crashCommsDisabled := by
  unfold enqueueOutbound
  repeat' split
  all_goals exact ⟨rfl, rfl⟩

lemma RetryInv.step (s : RetryState) (ev : RetryEvent) (h : RetryInv cfg s) : RetryInv cfg (retryStep cfg s ev) := by
  cases ev with
  | enqueue toReplicaId bytes =>
    obtain ⟨hdeparted, hcrash⟩ := enqueueOutbound_flags s.outbound toReplicaId bytes
    refine ⟨h.remembered, h.distinct, h.timer, fun hs => ?_, h.enabled⟩
    have hstopped : s.stopped = true := by
      rw [RetryState.stopped, ← hdeparted, ← hcrash]
      exact hs
    simp only [retryStep, enqueueOutbound_stopped toReplicaId bytes hstopped]
    exact h.stopped hstopped
  | drain nonce =>
    have hempty : RetryInv cfg { s with outbound := (drainOutboundQueue cfg.outbound nonce s.outbound).2 } :=
      ⟨h.remembered, h.distinct, h.timer, fun hs => ⟨(h.stopped hs).1, rfl⟩, h.enabled⟩
    cases hstopped : s.stopped with
    | false => exact hempty.remember_all hstopped _
    | true =>
      have hnone : drainedPackets cfg nonce s = [] := by simp [drainedPackets, (h.stopped hstopped).2]
      simpa only [retryStep, hnone, List.foldl_nil] using hempty
  | timer engine =>
    simp only [retryStep]
    split
    next harmed =>
      have hne := h.timer.mp harmed
      simp only [retryConsensusPackets, hne, or_false]
      split
      next hdeparted =>
        exact absurd (h.stopped (by simp [RetryState.stopped, hdeparted])).1 hne
      next =>
        refine ⟨fun q hq => ?_, h.distinct.sublist (retried_keys s.instances), by simp, fun hs => ?_, fun hz => ?_⟩
        · obtain ⟨p, hp, hpq⟩ := List.mem_filterMap.mp hq
          exact (h.remembered p hp).retried hpq
        · exact absurd (h.stopped hs).1 hne
        · exact absurd (h.enabled hz) hne
    next => exact h
  | clear => exact retryInv_cleared s.outbound fun hs => (h.stopped hs).2
  | depart => exact retryInv_cleared _ fun _ => rfl
  | disableCrashComms => exact retryInv_cleared _ fun _ => rfl

def attemptsLeft (cfg : RetryConfig) (bytes : Bytes) (p : ConsensusRetryPacket) : ℤ :=
  if p.resdbBytes = bytes then cfg.consensusRetryMax - p.attempts else 0

def credit (cfg : RetryConfig) (bytes : Bytes) (instances : List ConsensusRetryPacket) : ℤ :=
  (instances.map (attemptsLeft cfg bytes)).sum

def queued (bytes : Bytes) (s : RetryState) : ℕ :=
  s.outbound.outboundQueue.countP fun pkt => decide (pkt.resdbBytes = bytes)

def outstandingSends (cfg : RetryConfig) (bytes : Bytes) (s : RetryState) : ℤ :=
  (1 + cfg.consensusRetryMax) * queued bytes s + credit cfg bytes s.instances

lemma RetryInv.attemptsLeft_nonneg (h : RetryInv cfg s) (hmax : 0 ≤ cfg.consensusRetryMax) (bytes : Bytes) :
    ∀ p ∈ s.instances, 0 ≤ attemptsLeft cfg bytes p := by
  intro p hp
  have hpos : 0 < cfg.consensusRetryMax := by
    refine lt_of_le_of_ne hmax fun hz => ?_
    rw [h.enabled hz.symm] at hp
    exact absurd hp List.not_mem_nil
  have htried := (h.remembered p hp).tried.2 hpos
  unfold attemptsLeft
  split <;> omega

lemma credit_sublist {phases instances : List ConsensusRetryPacket} (hsub : phases.Sublist instances)
    (hnonneg : ∀ p ∈ instances, 0 ≤ attemptsLeft cfg bytes p) :
    credit cfg bytes phases ≤ credit cfg bytes instances := by
  refine List.Sublist.sum_le_sum (hsub.map _) fun a ha => ?_
  obtain ⟨p, hp, rfl⟩ := List.mem_map.mp ha
  exact hnonneg p hp

lemma credit_remember (h : RetryInv cfg s) (hmax : 0 ≤ cfg.consensusRetryMax) (packet bytes : Bytes) :
    credit cfg bytes (rememberConsensusRetry cfg s packet).instances ≤
      credit cfg bytes s.instances + if packet = bytes then cfg.consensusRetryMax else 0 := by
  have hbonus : 0 ≤ if packet = bytes then cfg.consensusRetryMax else 0 := by split <;> omega
  rcases rememberConsensusRetry_cases cfg s packet with
    heq | ⟨p, phases, hbytes, -, htried, -, hsub, ⟨heq, -⟩ | ⟨heq, -⟩⟩ <;> rw [heq]
  · omega
  · have hle := credit_sublist hsub (h.attemptsLeft_nonneg hmax bytes)
    simp only
    omega
  · have hle := credit_sublist hsub (h.attemptsLeft_nonneg hmax bytes)
    have hlast : attemptsLeft cfg bytes p = if packet = bytes then cfg.consensusRetryMax else 0 := by
      rw [attemptsLeft, hbytes, htried, sub_zero]
    simp only [credit, List.map_append, List.map_singleton, List.sum_append, List.sum_singleton, hlast] at hle ⊢
    omega

lemma credit_remember_all (h : RetryInv cfg s) (hstopped : s.stopped = false) (hmax : 0 ≤ cfg.consensusRetryMax)
    (packets : List Bytes) (bytes : Bytes) : credit cfg bytes (packets.foldl (rememberConsensusRetry cfg) s).instances ≤
      credit cfg bytes s.instances + cfg.consensusRetryMax * packets.count bytes := by
  induction packets generalizing s with
  | nil => simp
  | cons packet packets ih =>
    obtain ⟨hinv, hrun⟩ := h.remember hstopped packet
    have hrest := ih hinv hrun
    have hfirst := credit_remember h hmax packet bytes
    rw [List.foldl_cons, List.count_cons]
    by_cases heq : packet = bytes
    · simp only [heq, if_true, beq_self_eq_true] at hfirst hrest ⊢
      push_cast
      linarith
    · simp only [heq, if_false, beq_iff_eq, add_zero] at hfirst ⊢
      linarith

lemma credit_retry (engine : Replica) (instances : List ConsensusRetryPacket)
    (hnonneg : ∀ p ∈ instances, 0 ≤ attemptsLeft cfg bytes p) :
    (((instances.filterMap (retryPacket cfg engine)).map ConsensusRetryPacket.resdbBytes).count bytes : ℤ) +
        credit cfg bytes (instances.filterMap (retryPacket cfg engine)) ≤ credit cfg bytes instances := by
  induction instances with
  | nil => simp [credit]
  | cons p instances ih =>
    obtain ⟨hp, hrest⟩ := List.forall_mem_cons.mp hnonneg
    have hih := ih hrest
    cases hq : retryPacket cfg engine p with
    | none =>
      rw [List.filterMap_cons_none hq]
      simp only [credit, List.map_cons, List.sum_cons] at hih ⊢
      omega
    | some q =>
      obtain ⟨rfl, -⟩ := retryPacket_some hq
      rw [List.filterMap_cons_some hq]
      simp only [credit, List.map_cons, List.sum_cons, List.count_cons] at hih ⊢
      by_cases hbytes : p.resdbBytes = bytes
      · simp only [attemptsLeft, hbytes, if_true, beq_self_eq_true] at hih ⊢
        push_cast
        linarith
      · simp only [attemptsLeft, hbytes, if_false, beq_iff_eq, add_zero, zero_add] at hih ⊢
        linarith

lemma drainedPackets_count_le (cfg : RetryConfig) (nonce : ℕ) (s : RetryState) (bytes : Bytes) :
    (drainedPackets cfg nonce s).count bytes ≤ queued bytes s := by
  unfold drainedPackets queued
  split
  · exact Nat.zero_le _
  · rw [List.count_eq_countP, List.countP_map]
    refine (List.filter_sublist.countP_le).trans (le_of_eq (List.countP_congr fun pkt _ => ?_))
    simp

lemma queued_enqueue (toReplicaId : ℤ) (b bytes : Bytes) (s : RetryState) :
    queued bytes { s with outbound := enqueueOutbound s.outbound toReplicaId b } ≤
      queued bytes s + if b = bytes then 1 else 0 := by
  unfold queued enqueueOutbound
  repeat' split
  all_goals simp_all [List.countP_append]

lemma sends_step (hmax : 0 ≤ cfg.consensusRetryMax) (h : RetryInv cfg s) (bytes : Bytes) (ev : RetryEvent) :
    ((aired cfg s ev).count bytes : ℤ) + outstandingSends cfg bytes (retryStep cfg s ev) ≤
      outstandingSends cfg bytes s + if ev.brings bytes then 1 + cfg.consensusRetryMax else 0 := by
  have hcredit : 0 ≤ credit cfg bytes s.instances := List.sum_nonneg fun a ha => by
    obtain ⟨p, hp, rfl⟩ := List.mem_map.mp ha
    exact h.attemptsLeft_nonneg hmax bytes p hp
  have hstop : (0 : ℤ) ≤ (1 + cfg.consensusRetryMax) * queued bytes s := by positivity
  cases ev with
  | enqueue toReplicaId b =>
    have hle := queued_enqueue toReplicaId b bytes s
    simp only [aired, retryStep, outstandingSends, RetryEvent.brings, List.count_nil, Nat.cast_zero, zero_add,
      decide_eq_true_eq]
    have hcast : (queued bytes { s with outbound := enqueueOutbound s.outbound toReplicaId b } : ℤ) ≤
        queued bytes s + if b = bytes then 1 else 0 := by exact_mod_cast hle
    split at hcast
    next hb =>
      rw [if_pos hb]
      nlinarith
    next hb =>
      rw [if_neg hb]
      nlinarith
  | drain nonce =>
    simp only [aired, retryStep, outstandingSends, RetryEvent.brings, Bool.false_eq_true, if_false, add_zero]
    cases hstopped : s.stopped with
    | true =>
      have hnone : drainedPackets cfg nonce s = [] := by simp [drainedPackets, (h.stopped hstopped).2]
      have hempty : queued bytes s = 0 := by simp [queued, (h.stopped hstopped).2]
      rw [hnone, hempty]
      simp [queued, drainOutboundQueue]
    | false =>
      have hempty : RetryInv cfg { s with outbound := (drainOutboundQueue cfg.outbound nonce s.outbound).2 } :=
        ⟨h.remembered, h.distinct, h.timer, fun hs => ⟨(h.stopped hs).1, rfl⟩, h.enabled⟩
      have hall := credit_remember_all hempty hstopped hmax (drainedPackets cfg nonce s) bytes
      have hqueue : ∀ (packets : List Bytes) (t : RetryState), t.outbound.outboundQueue = [] →
          queued bytes (packets.foldl (rememberConsensusRetry cfg) t) = 0 := by
        intro packets
        induction packets with
        | nil => exact fun t ht => by simp [queued, ht]
        | cons b packets ih =>
          refine fun t ht => ih _ ?_
          rcases rememberConsensusRetry_cases cfg t b with heq | ⟨_, _, -, -, -, -, -, ⟨heq, -⟩ | ⟨heq, -⟩⟩ <;> rw [heq] <;>
            exact ht
      rw [hqueue _ _ rfl]
      have hcount : ((drainedPackets cfg nonce s).count bytes : ℤ) ≤ queued bytes s := by
        exact_mod_cast drainedPackets_count_le cfg nonce s bytes
      simp only [Nat.cast_zero, mul_zero, zero_add]
      simp only at hall
      nlinarith
  | timer engine =>
    simp only [aired, retryStep, RetryEvent.brings, Bool.false_eq_true, if_false, add_zero]
    split
    next harmed =>
      simp only [retryConsensusPackets]
      split
      · simp [outstandingSends, queued]
      · have hretry := credit_retry engine s.instances (h.attemptsLeft_nonneg hmax bytes)
        simp only [outstandingSends, queued] at hretry ⊢
        linarith
    next => simp
  | clear =>
    simp only [aired, retryStep, clearConsensusRetries, outstandingSends, RetryEvent.brings, List.count_nil,
      Nat.cast_zero, zero_add, Bool.false_eq_true, if_false, add_zero]
    have hzero : credit cfg bytes [] = 0 := rfl
    rw [hzero]
    exact add_le_add le_rfl hcredit
  | depart =>
    simp only [aired, retryStep, clearConsensusRetries, outstandingSends, RetryEvent.brings, List.count_nil,
      Nat.cast_zero, Bool.false_eq_true, if_false, add_zero, queued, List.countP_nil, mul_zero, credit,
      List.map_nil, List.sum_nil]
    exact add_nonneg hstop hcredit
  | disableCrashComms =>
    simp only [aired, retryStep, clearConsensusRetries, outstandingSends, RetryEvent.brings, List.count_nil,
      Nat.cast_zero, Bool.false_eq_true, if_false, add_zero, queued, List.countP_nil, mul_zero, credit,
      List.map_nil, List.sum_nil]
    exact add_nonneg hstop hcredit

theorem sends_run (hmax : 0 ≤ cfg.consensusRetryMax) (h : RetryInv cfg s) (bytes : Bytes) (events : List RetryEvent) :
    ((collect (retryStep cfg) (aired cfg) s events).count bytes : ℤ) +
        outstandingSends cfg bytes (run (retryStep cfg) s events) ≤
      outstandingSends cfg bytes s + (1 + cfg.consensusRetryMax) * events.countP (RetryEvent.brings bytes) := by
  induction events generalizing s with
  | nil => simp [collect]
  | cons ev events ih =>
    have hrest := ih (RetryInv.step s ev h)
    have hfirst := sends_step hmax h bytes ev
    rw [collect, List.count_append, run_cons, List.countP_cons]
    split at hfirst
    next hbrings =>
      rw [if_pos hbrings]
      push_cast
      linarith
    next hbrings =>
      rw [if_neg hbrings]
      push_cast
      linarith

lemma outstandingSends_nonneg (hmax : 0 ≤ cfg.consensusRetryMax) (h : RetryInv cfg s) (bytes : Bytes) :
    0 ≤ outstandingSends cfg bytes s := by
  refine add_nonneg (by positivity) (List.sum_nonneg fun a ha => ?_)
  obtain ⟨p, hp, rfl⟩ := List.mem_map.mp ha
  exact h.attemptsLeft_nonneg hmax bytes p hp

structure RetryDiscipline (cfg : RetryConfig) (s : RetryState) (sent : List Bytes) (events : List RetryEvent) :
    Prop where
  sound : RetryInv cfg s
  bounded : ∀ bytes, (sent.count bytes : ℤ) ≤ (1 + cfg.consensusRetryMax) * events.countP (RetryEvent.brings bytes)

theorem retry_discipline (cfg : RetryConfig) (hmax : 0 ≤ cfg.consensusRetryMax) (events : List RetryEvent) :
    RetryDiscipline cfg (run (retryStep cfg) .initial events) (collect (retryStep cfg) (aired cfg) .initial events)
      events := by
  have hinv := run_invariant RetryInv.step events (retryInv_initial cfg)
  refine ⟨hinv, fun bytes => ?_⟩
  have hrun := sends_run hmax (retryInv_initial cfg) bytes events
  have hrest := outstandingSends_nonneg hmax hinv bytes
  have hzero : outstandingSends cfg bytes .initial = 0 := by
    simp [outstandingSends, queued, credit, RetryState.initial]
  linarith

def twoRetries : RetryConfig where
  outbound :=
    { shortSigner with
      radio :=
        { shortSigner.radio with parsePacket := fun _ => some ⟨.prepare, 3, 1, 1, ascii "tx", .batch [], false, false⟩ } }
  consensusRetryMax := 2
  configuredConsensusQuorum := 3
  sha256 := id

def idleEngine : Replica := .initial ⟨1, 4, 1, false⟩ 1

def preparing : List RetryEvent := [.enqueue (-1) [1, 2], .drain 0]

def threeTicks : List RetryEvent := [.timer idleEngine, .timer idleEngine, .timer idleEngine]

theorem retry_discipline_preparing :
    RetryDiscipline twoRetries (run (retryStep twoRetries) .initial (preparing ++ threeTicks))
      (collect (retryStep twoRetries) (aired twoRetries) .initial (preparing ++ threeTicks)) (preparing ++ threeTicks) :=
  retry_discipline twoRetries (by decide) (preparing ++ threeTicks)

example : collect (retryStep twoRetries) (aired twoRetries) .initial (preparing ++ threeTicks) = [[1, 2], [1, 2], [1, 2]] := by
  decide +kernel

def triedAtLeast (n : ℤ) (s : RetryState) : Prop := ∀ p ∈ s.instances, n ≤ p.attempts

lemma tried_step {n : ℤ} (h : RetryInv cfg s) (hqueue : s.outbound.outboundQueue = []) (hn : triedAtLeast n s)
    (hev : ev.isEnqueue = false) :
    (retryStep cfg s ev).outbound.outboundQueue = [] ∧
      triedAtLeast (n + if ev.isTimer then 1 else 0) (retryStep cfg s ev) := by
  cases ev with
  | enqueue toReplicaId bytes => simp [RetryEvent.isEnqueue] at hev
  | drain nonce =>
    have hnone : drainedPackets cfg nonce s = [] := by simp [drainedPackets, hqueue]
    simp only [retryStep, hnone, List.foldl_nil, RetryEvent.isTimer, Bool.false_eq_true, if_false, add_zero]
    exact ⟨rfl, hn⟩
  | timer engine =>
    simp only [retryStep, RetryEvent.isTimer, if_true]
    split
    next harmed =>
      have hne := h.timer.mp harmed
      simp only [retryConsensusPackets, hne, or_false]
      split
      next hdeparted => exact absurd (h.stopped (by simp [RetryState.stopped, hdeparted])).1 hne
      next =>
        refine ⟨hqueue, fun q hq => ?_⟩
        obtain ⟨p, hp, hpq⟩ := List.mem_filterMap.mp hq
        obtain ⟨rfl, -⟩ := retryPacket_some hpq
        exact Int.add_le_add_right (hn p hp) 1
    next harmed =>
      have hnil : s.instances = [] := by
        by_contra hne
        exact harmed (h.timer.mpr hne)
      exact ⟨hqueue, fun p hp => absurd (hnil ▸ hp) List.not_mem_nil⟩
  | clear => exact ⟨hqueue, fun p hp => absurd hp List.not_mem_nil⟩
  | depart => exact ⟨rfl, fun p hp => absurd hp List.not_mem_nil⟩
  | disableCrashComms => exact ⟨rfl, fun p hp => absurd hp List.not_mem_nil⟩

lemma tried_run {n : ℤ} {events : List RetryEvent} (h : RetryInv cfg s) (hqueue : s.outbound.outboundQueue = [])
    (hn : triedAtLeast n s) (hevents : ∀ ev ∈ events, ev.isEnqueue = false) :
    triedAtLeast (n + events.countP RetryEvent.isTimer) (run (retryStep cfg) s events) := by
  induction events generalizing s n with
  | nil => simpa using hn
  | cons ev events ih =>
    obtain ⟨hev, hrest⟩ := List.forall_mem_cons.mp hevents
    obtain ⟨hqueue', hn'⟩ := tried_step h hqueue hn hev
    have hfinal := ih (RetryInv.step s ev h) hqueue' hn' hrest
    rw [run_cons, List.countP_cons]
    convert hfinal using 1
    push_cast
    split <;> ring

theorem retry_quiescent (cfg : RetryConfig) (hmax : 0 < cfg.consensusRetryMax) (events more : List RetryEvent)
    (hqueue : (run (retryStep cfg) .initial events).outbound.outboundQueue = [])
    (hmore : ∀ ev ∈ more, ev.isEnqueue = false) (hticks : cfg.consensusRetryMax < more.countP RetryEvent.isTimer) :
    (run (retryStep cfg) .initial (events ++ more)).instances = [] ∧
      (run (retryStep cfg) .initial (events ++ more)).timerScheduled = false := by
  have hinv := run_invariant RetryInv.step events (retryInv_initial cfg)
  have hend := run_invariant RetryInv.step (events ++ more) (retryInv_initial cfg)
  have hstart : triedAtLeast 0 (run (retryStep cfg) .initial events) := fun p hp => (hinv.remembered p hp).tried.1
  have htried := tried_run hinv hqueue hstart hmore
  rw [← run_append] at htried
  have hnil : (run (retryStep cfg) .initial (events ++ more)).instances = [] := by
    refine List.eq_nil_iff_forall_not_mem.mpr fun p hp => ?_
    have hle := (hend.remembered p hp).tried.2 hmax
    have hge := htried p hp
    omega
  exact ⟨hnil, eq_false_of_ne_true fun harmed => hend.timer.mp harmed hnil⟩

theorem retry_quiescent_preparing :
    (run (retryStep twoRetries) .initial (preparing ++ threeTicks)).instances = [] ∧
      (run (retryStep twoRetries) .initial (preparing ++ threeTicks)).timerScheduled = false :=
  retry_quiescent twoRetries (by decide) preparing threeTicks (by decide +kernel) (by decide) (by decide)

end V2vBft.Engine
