import V2vBft.Rollback.Submission
import V2vBft.Engine.RequestCount

/-! The proposals of one replica: what its application and the network bring to the engine, and what it broadcasts. -/

namespace V2vBft.Rollback

open Wire Pbft Bridge Engine Library.GuardedRun
open App hiding Replica

structure BridgeCall where
  faults : ToleratedFaultState
  expected : ℤ
  hash : Bytes

-- `injected` waits in the input queue; the rest is recorded over the whole run: the ORDERs of proposeAll with their
-- epochs, the payloads of proposeCancel, the new requests of the network, the checked requests, the PRE_PREPAREs sent
structure Proposer where
  rollback : RollbackState
  node : ViewReplica
  injected : List Request
  orders : List (ℕ × Bytes)
  cancels : List Bytes
  foreign : List Request
  verified : List Request
  broadcast : List Request

def Proposer.start (s : RollbackState) (r : ViewReplica) : Proposer := ⟨s, r, [], [], [], [], [], []⟩

def Proposer.built (t : Proposer) : List Bytes := t.orders.map Prod.snd ++ t.cancels

def triesCancel (cfg : RollbackConfig) (s : RollbackState) : Bool :=
  decide (s.cancelState = .consensus) && decide (chooseCancelProposer s = cfg.replicaId) && s.rollbackLocalRecallable &&
    submitsCancel cfg s

def consensusBegun (s : RollbackState) : RollbackState := { s with cancelDrainTimer := false, cancelState := .consensus }

def leaseExpired (s : RollbackState) : RollbackState :=
  { s with
    cancelVcTimer := false
    cancelRotationIndex := s.cancelRotationIndex + 1
    cancelProposeSubmitted := false
    proposeSubmitted := false }

def builtCancel (cfg : RollbackConfig) (s : RollbackState) : OrderEvent → Option Bytes
  | .evidence (.rollback .cancelDrainTimer _) _ =>
    if s.cancelDrainTimer && s.app.cancelConsensusPending && decide (s.cancelState = .draining) &&
        triesCancel cfg (consensusBegun s) then some (cancelProposal cfg (consensusBegun s)) else none
  | .evidence (.rollback .cancelVcTimer _) _ =>
    if s.cancelVcTimer && triesCancel cfg (leaseExpired s) then some (cancelProposal cfg (leaseExpired s)) else none
  | _ => none

def builtOrder (cfg : RollbackConfig) (s : RollbackState) : OrderEvent → Option OrderCandidate
  | .orderReadiness engine cars => submitted cfg s engine cars
  | _ => none

def beginsDiscovery (s : RollbackState) : Bool :=
  match s.app.pendingOrders with
  | [] => false
  | dec :: _ => isCancelDecision dec && !s.app.repeatsCancel (CancelDecisionHdr.read dec).cancelledEpoch

def reopensSubmission (cfg : RollbackConfig) (s : RollbackState) : OrderEvent → Bool
  | .evidence (.rollback .cancelVcTimer _) _ => s.cancelVcTimer
  | .evidence (.rollback (.cancelCommitGossip senderId inner _) _) _ =>
    (adoptedAttestation cfg.toAppConfig s.app senderId inner).any fun dec =>
      !s.app.repeatsCancel (CancelDecisionHdr.read dec).cancelledEpoch
  | .evidence (.order _ _) _ => beginsDiscovery s
  | _ => false

def setsProposed : OrderEvent → Bool
  | .evidence (.rollback (.consensus _ _) _) _ => true
  | _ => false

def Proposer.submit (t : Proposer) (call : BridgeCall) (payload : Bytes) : Proposer :=
  let r := triggerConsensus call.faults call.expected call.hash t.node.engine payload
  { t with
    node := { t.node with engine := r.replica }
    injected := t.injected ++ r.injected.toList }

-- the candidate is packed in any way
def Proposer.acts (cfg : RollbackConfig) (t : Proposer) (ev : OrderEvent) (pack : OrderCandidate → Bytes)
    (call : BridgeCall) : Proposer :=
  let moved := { t with rollback := orderStep cfg t.rollback ev }
  match builtOrder cfg t.rollback ev with
  | some candidate =>
    { moved with orders := (candidate.epoch, pack candidate) :: t.orders }.submit call (pack candidate)
  | none =>
    match builtCancel cfg t.rollback ev with
    | some payload => { moved with cancels := payload :: t.cancels }.submit call payload
    | none => moved

def Proposer.engineMoves (ecfg : EngineConfig) (t : Proposer) (ev : ViewEvent) : Proposer :=
  let r := viewStep ecfg t.node ev
  { t with
    node := r.2
    verified := t.verified ++ verifiedIn r.1
    broadcast := t.broadcast ++ prePrepares r.1 }

-- engine: a message of another replica, a timer, or a step of the engine's own threads
inductive ProposerEvent
  | app (ev : OrderEvent) (own : setsProposed ev = false) (pack : OrderCandidate → Bytes) (call : BridgeCall)
  | engine (ev : ViewEvent)
  | takeInjected (env : BridgeEnv)

def proposerStep (cfg : RollbackConfig) (ecfg : EngineConfig) (t : Proposer) : ProposerEvent → Proposer
  | .app ev _ pack call => t.acts cfg ev pack call
  | .engine ev => { t with foreign := t.foreign ++ newRequests ev }.engineMoves ecfg ev
  | .takeInjected env =>
    match t.injected with
    | [] => t
    | request :: rest => { t with injected := rest }.engineMoves ecfg (.commit env (.request request))

def Proposer.Known (t : Proposer) (request : Request) : Prop :=
  request ∈ t.foreign ∨ ∃ payload ∈ t.built, request.data = .batch [payload]

def Proposer.Accounted (t : Proposer) (request : Request) : Prop := request.type = .newTxns → t.Known request

def Proposer.Backed (t : Proposer) (m : Request) : Prop :=
  ∃ request ∈ t.verified, request.hash = m.hash ∧ request.data = m.data ∧ t.Known request

structure Proposer.Sound (t : Proposer) : Prop where
  injected : ∀ request ∈ t.injected, t.Known request
  waiting : ∀ request ∈ t.node.waiting, t.Accounted request
  broadcast : ∀ m ∈ t.broadcast, t.Backed m

def Proposer.repeatsForeign (t : Proposer) (hash : Bytes) (data : BatchData) : Bool :=
  t.foreign.any fun r => decide (r.hash = hash) && decide (r.data = data)

def Proposer.ownBroadcast (t : Proposer) : List Request := t.broadcast.filter fun m => !t.repeatsForeign m.hash m.data

def Proposer.builtData (t : Proposer) : List BatchData := t.built.map fun payload => .batch [payload]

def Proposer.ownOf (t : Proposer) (d : BatchData) (hash : Bytes) (data : BatchData) : Bool :=
  !t.repeatsForeign hash data && decide (data = d)

-- a payload is broadcast, waits in the engine or waits in the input queue at most as often as it was built
def Proposer.Counted (t : Proposer) (d : BatchData) (submitted : ℕ) : Prop :=
  proposedOf (t.ownOf d) t.broadcast + newOf (t.ownOf d) t.node.waiting + newOf (t.ownOf d) t.injected + submitted ≤
    t.builtData.count d

-- the lease of a CANCEL that is settled takes back the submission of an ORDER
def staleLease (s : RollbackState) : Bool :=
  s.cancelVcTimer && s.proposeSubmitted && !s.app.cancelConsensusPending && !s.app.orderApplied

-- a CANCEL opens an epoch that the replica has not reached; one that opens none lifts no consensus behind which the
-- lease has expired
def opensLaterEpoch (s : RollbackState) (dec : Bytes) : Bool :=
  let epoch := (CancelDecisionHdr.read dec).cancelledEpoch
  if s.app.repeatsCancel epoch then !s.app.cancelConsensusPending || s.proposeSubmitted || s.app.orderApplied
  else decide (s.app.currentEpoch < (epoch + 1) % uint32Modulus)

def isLeaseExpiry : EvidenceEvent → Bool
  | .rollback .cancelVcTimer _ => true
  | _ => false

def submitsInTurn (cfg : RollbackConfig) (s : RollbackState) : OrderEvent → Bool
  | .evidence ev _ => (takenCancel cfg s ev).all (opensLaterEpoch s) && !(isLeaseExpiry ev && staleLease s)
  | .discovery _ _ _ _ _ | .orderReadiness _ _ => true

def Proposer.inTurn (cfg : RollbackConfig) (t : Proposer) : ProposerEvent → Bool
  | .app ev _ _ _ => submitsInTurn cfg t.rollback ev
  | _ => true

def ClosedToOrders (s : RollbackState) : Prop :=
  s.proposeSubmitted = true ∨ s.app.orderApplied = true ∨ s.app.cancelConsensusPending = true

structure Proposer.OncePerEpoch (t : Proposer) : Prop where
  reached : ∀ epoch ∈ t.orders.map Prod.fst, epoch ≤ t.rollback.app.currentEpoch
  nodup : (t.orders.map Prod.fst).Nodup
  closed : t.rollback.app.currentEpoch ∈ t.orders.map Prod.fst → ClosedToOrders t.rollback

variable {cfg : RollbackConfig} {ecfg : EngineConfig} {t t' : Proposer} {s : RollbackState} {request : Request}

lemma Proposer.Known.mono (hforeign : t.foreign ⊆ t'.foreign) (hbuilt : t.built ⊆ t'.built) (h : t.Known request) :
    t'.Known request := by
  rcases h with hin | ⟨payload, hmem, hdata⟩
  · exact Or.inl (hforeign hin)
  · exact Or.inr ⟨payload, hbuilt hmem, hdata⟩

lemma Proposer.Backed.mono {m : Request} (hverified : t.verified ⊆ t'.verified) (hforeign : t.foreign ⊆ t'.foreign)
    (hbuilt : t.built ⊆ t'.built) (h : t.Backed m) : t'.Backed m := by
  obtain ⟨request, hmem, hhash, hdata, hknown⟩ := h
  exact ⟨request, hverified hmem, hhash, hdata, hknown.mono hforeign hbuilt⟩

lemma Proposer.Sound.engineMoves (h : t.Sound) {ev : ViewEvent}
    (hev : ∀ request ∈ ev.requests, t.Accounted request) : (t.engineMoves ecfg ev).Sound where
  injected := h.injected
  waiting := (viewStep_carries h.waiting hev).waiting
  broadcast := by
    intro m hm
    rcases List.mem_append.mp hm with hold | hnew
    · exact (h.broadcast m hold).mono (List.subset_append_left _ _) (List.Subset.refl _) (List.Subset.refl _)
    · obtain ⟨request, hverified, htype, hknown, hcopy⟩ := (viewStep_carries h.waiting hev).sent hnew
      exact ⟨request, List.mem_append_right _ hverified, hcopy.1, hcopy.2, hknown htype⟩

lemma triggerConsensus_injected {faults : ToleratedFaultState} {expected : ℤ} {hash payload : Bytes} {r : Engine.Replica}
    (h : (triggerConsensus faults expected hash r payload).injected = some request) :
    request = newTxnsRequest hash payload := by
  rw [triggerConsensus] at h
  dsimp only at h
  repeat' split at h
  · simp at h
  · exact (Option.some.inj h).symm
  · rw [triggerCancel] at h
    repeat' split at h
    any_goals simp at h
    exact h.symm
  · rw [triggerOrder] at h
    split at h
    · exact (Option.some.inj h).symm
    · simp at h

lemma Proposer.Sound.mono (h : t.Sound) (hforeign : t.foreign ⊆ t'.foreign) (hbuilt : t.built ⊆ t'.built)
    (hinjected : t'.injected ⊆ t.injected) (hnode : t'.node = t.node) (hverified : t'.verified = t.verified)
    (hbroadcast : t'.broadcast = t.broadcast) : t'.Sound where
  injected := fun request hmem => (h.injected request (hinjected hmem)).mono hforeign hbuilt
  waiting := fun request hmem htype => (h.waiting request (hnode ▸ hmem) htype).mono hforeign hbuilt
  broadcast := fun m hm => (h.broadcast m (hbroadcast ▸ hm)).mono (hverified ▸ List.Subset.refl _) hforeign hbuilt

lemma Proposer.Sound.submit (h : t.Sound) (call : BridgeCall) {payload : Bytes} (hpayload : payload ∈ t.built) :
    (t.submit call payload).Sound where
  injected := by
    intro request hrequest
    rcases List.mem_append.mp hrequest with hold | hnew
    · exact h.injected request hold
    · rw [triggerConsensus_injected (Option.mem_toList.mp hnew)]
      exact Or.inr ⟨payload, hpayload, rfl⟩
  waiting := h.waiting
  broadcast := h.broadcast

lemma trySubmitCancelProposal_flag (hset : s.proposeSubmitted = true) :
    (trySubmitCancelProposal cfg s).proposeSubmitted = true := by
  have hpropose : ∀ u : RollbackState, u.proposeSubmitted = true → (proposeCancel cfg u).proposeSubmitted = true := by
    intro u hu
    rw [proposeCancel]
    repeat' split
    all_goals first | exact hu | rfl
  rw [trySubmitCancelProposal]
  dsimp only
  repeat' split
  all_goals first | exact hset | exact hpropose _ hset

lemma handleValidCancelJustification_flag (cert : CancelCert) (justification : Bytes) (sense : Sense) :
    (handleValidCancelJustification cfg s cert justification sense).proposeSubmitted = s.proposeSubmitted := by
  rw [handleValidCancelJustification]
  split
  · rw [beginCancelDrain]
    repeat' split
    all_goals rfl
  · rfl

lemma registerBlockedIncidentIfCrash_flag (cert : CancelCert) :
    (registerBlockedIncidentIfCrash s cert).proposeSubmitted = s.proposeSubmitted := by
  rw [registerBlockedIncidentIfCrash]
  repeat' split
  all_goals rfl

lemma broadcastCancelCert_flag (cert : CancelCert) (payload : Bytes) (sense : Sense) :
    (broadcastCancelCert cfg s cert payload sense).proposeSubmitted = s.proposeSubmitted := by
  rw [broadcastCancelCert]
  split
  · rw [handleValidCancelJustification_flag, scheduleNextCancelCertRetry_eq]
    exact registerBlockedIncidentIfCrash_flag cert
  · rfl

lemma handleCancelCert_flag (senderId : ℤ) (payload : Bytes) (sense : Sense) :
    (handleCancelCert cfg s senderId payload sense).proposeSubmitted = s.proposeSubmitted := by
  rw [handleCancelCert]
  repeat' split
  · rfl
  · rfl
  · dsimp only
    split
    · rw [handleValidCancelJustification_flag]
      exact registerBlockedIncidentIfCrash_flag _
    · exact registerBlockedIncidentIfCrash_flag _
  · rfl

lemma perceiveCrashes_flag (formed : List (CancelCert × Bytes)) (sense : Sense) :
    (perceiveCrashes cfg s formed sense).proposeSubmitted = s.proposeSubmitted := by
  induction formed generalizing s with
  | nil => rfl
  | cons c formed ih => exact ih.trans (broadcastCancelCert_flag c.1 c.2 sense)

lemma handleCancelCommitGossip_flag {senderId : ℤ} {inner : Bytes} {sense : Sense}
    (h : (adoptedAttestation cfg.toAppConfig s.app senderId inner).any (fun dec =>
      !s.app.repeatsCancel (CancelDecisionHdr.read dec).cancelledEpoch) = false) :
    (handleCancelCommitGossip cfg s senderId inner sense).proposeSubmitted = s.proposeSubmitted := by
  cases hadopt : adoptedAttestation cfg.toAppConfig s.app senderId inner with
  | none =>
    rw [handleCancelCommitGossip, hadopt]
  | some dec =>
    rw [hadopt, Option.any_some, Bool.not_eq_false'] at h
    have hrepeated := (@repeatsCancel_settleAdopted cfg s senderId inner dec _).trans h
    rw [handleCancelCommitGossip_adopted _ hadopt, beginPostCancelDiscovery_repeated hrepeated, settleAdopted_eq]

lemma foldl_onIncidentCleared_flag (clears : List (BlockedIncident × Bytes)) :
    (clears.foldl (fun s clear => onIncidentCleared s clear.1 clear.2) s).proposeSubmitted = s.proposeSubmitted := by
  induction clears generalizing s with
  | nil => rfl
  | cons clear clears ih => exact ih

lemma applyOrder_flag (order : OrderDecision) (clears : List (BlockedIncident × Bytes)) (now : ℤ) :
    (applyOrder cfg s order clears now).proposeSubmitted = s.proposeSubmitted := by
  have hcomplete : ∀ u : RollbackState, (completeRollback u order).proposeSubmitted = u.proposeSubmitted := by
    intro u
    rw [completeRollback]
    split <;> rfl
  have hfold := @foldl_onIncidentCleared_flag s.clearConsensusRetries clears
  rw [applyOrder]
  dsimp only
  split <;> exact (hcomplete _).trans hfold

lemma processOrder_flag {completed : Bool} {clears : List (BlockedIncident × Bytes)} {sense : Sense}
    (h : beginsDiscovery s = false) :
    (processOrder cfg s completed clears sense).proposeSubmitted = s.proposeSubmitted := by
  rw [processOrder]
  rw [beginsDiscovery] at h
  cases hpending : s.app.pendingOrders with
  | nil => rfl
  | cons dec rest =>
    rw [hpending] at h
    dsimp only at h ⊢
    split
    next hcancel =>
      rw [hcancel, Bool.true_and, Bool.not_eq_false'] at h
      have hrepeated := (@repeatsCancel_settleCommitted cfg
        { s with app := { s.app with pendingOrders := rest } } dec _).trans h
      rw [handleCancelCommitDecision_eq, beginPostCancelDiscovery_repeated hrepeated, settleCommitted_eq]
    next =>
      split
      · rfl
      · exact applyOrder_flag _ clears sense.now

lemma evaluateOrderReadiness_flag (engine : EngineAnswer) :
    (evaluateOrderReadiness cfg s engine).1.proposeSubmitted = s.proposeSubmitted := by
  rw [evaluateOrderReadiness]
  split <;> rfl

lemma proposeAll_flag {engine : EngineAnswer} {cars : AmbulanceCars} (hset : s.proposeSubmitted = true) :
    (proposeAll cfg s engine cars).1.proposeSubmitted = true := by
  rw [proposeAll]
  dsimp only
  repeat' split
  all_goals first | exact trySubmitCancelProposal_flag hset | exact hset | rfl

lemma evaluateAndPropose_flag {engine : EngineAnswer} {cars : AmbulanceCars} (hset : s.proposeSubmitted = true) :
    (evaluateAndPropose cfg s engine cars).1.proposeSubmitted = true := by
  have hready := (@evaluateOrderReadiness_flag cfg s engine).trans hset
  rw [evaluateAndPropose]
  dsimp only
  repeat' split
  all_goals first | exact proposeAll_flag hready | exact hready

lemma submitted_flag {engine : EngineAnswer} {cars : AmbulanceCars} {candidate : OrderCandidate}
    (h : submitted cfg s engine cars = some candidate) :
    s.proposeSubmitted = false ∧ (evaluateAndPropose cfg s engine cars).1.proposeSubmitted = true := by
  rw [submitted, evaluateAndPropose] at h
  rw [evaluateAndPropose]
  dsimp only at h ⊢
  split at h
  next primary hprimary =>
    split at h
    next hself =>
      obtain ⟨-, hopen, hstate⟩ := proposeAll_submitted h
      rw [if_pos hself]
      exact ⟨evaluateOrderReadiness_flag engine ▸ hopen, by rw [hstate]⟩
    next => simp at h
  next => simp at h

lemma clearancePoll_flag (formed : List (CancelCert × Bytes)) (cleared : List ℤ) (sense : Sense) :
    (clearancePoll cfg s formed cleared sense).proposeSubmitted = s.proposeSubmitted := by
  rw [clearancePoll]
  split
  · dsimp only
    split
    · exact perceiveCrashes_flag formed sense
    · rfl
  · rfl

lemma rollbackStep_flag {ev : RollbackEvent} (hplain : bringsClears ev = false)
    {hother : movesCandidate (.rollback ev hplain) = false}
    (hown : setsProposed (.evidence (.rollback ev hplain) hother) = false)
    (hclosed : reopensSubmission cfg s (.evidence (.rollback ev hplain) hother) = false)
    (hset : s.proposeSubmitted = true) : (rollbackStep cfg s ev).proposeSubmitted = true := by
  cases ev with
  | processOrder _ _ _ | clearCert _ _ => exact absurd hplain (by simp [bringsClears])
  | consensus _ _ => exact absurd hown (by simp [setsProposed])
  | cancelCert senderId payload sense => exact (handleCancelCert_flag senderId payload sense).trans hset
  | cancelCertFormed cert payload sense => exact (broadcastCancelCert_flag cert payload sense).trans hset
  | cancelCommitGossip senderId inner sense => exact (handleCancelCommitGossip_flag hclosed).trans hset
  | clearancePoll formed cleared sense => exact (clearancePoll_flag formed cleared sense).trans hset
  | crashSeen fresh =>
    rw [rollbackStep, sendCancelEcho]
    repeat' split
    all_goals exact hset
  | emergencySeen rid fresh =>
    rw [rollbackStep, maybeTriggerEmergencyRollback, sendCancelEcho]
    repeat' split
    all_goals exact hset
  | cancelDrainTimer =>
    rw [rollbackStep, cancelDrainTimer]
    dsimp only
    repeat' split
    all_goals first | exact hset | exact trySubmitCancelProposal_flag hset
  | cancelVcTimer =>
    have hoff : s.cancelVcTimer = false := hclosed
    rw [rollbackStep, cancelVcTimer, hoff]
    exact hset
  | cancelCertRetryTimer =>
    rw [rollbackStep, cancelCertRetryTimer]
    dsimp only
    repeat' split
    all_goals first | exact hset | (rw [scheduleNextCancelCertRetry_eq]; exact hset)
  | cancelGossipTimer =>
    rw [rollbackStep, cancelGossipTimer]
    repeat' split
    all_goals exact hset
  | orderReadiness engine => exact (evaluateOrderReadiness_flag engine).trans hset
  | orderDecided _ | decisionGossip _ _ _ | resumeTimer | orderTimeout | disableCrashComms
  | discovery _ _ _ _ _ | viewChange _ _ | enterStopZone | depart => exact hset

lemma builtOrder_some {ev : OrderEvent} {candidate : OrderCandidate} (h : builtOrder cfg s ev = some candidate) :
    ∃ engine cars, ev = .orderReadiness engine cars ∧ submitted cfg s engine cars = some candidate := by
  cases ev with
  | orderReadiness engine cars => exact ⟨engine, cars, rfl, h⟩
  | evidence ev hother => simp [builtOrder] at h
  | discovery round stores deadline settle announcement => simp [builtOrder] at h

lemma Proposer.Sound.acts (h : t.Sound) (ev : OrderEvent) (pack : OrderCandidate → Bytes) (call : BridgeCall) :
    (t.acts cfg ev pack call).Sound := by
  rw [Proposer.acts]
  dsimp only
  split
  next candidate _ =>
    refine Proposer.Sound.submit ?_ call (List.mem_append_left _ List.mem_cons_self)
    refine h.mono (List.Subset.refl _) ?_ (List.Subset.refl _) rfl rfl rfl
    exact List.subset_cons_self _ _
  next =>
    split
    next payload _ =>
      refine Proposer.Sound.submit ?_ call (List.mem_append_right _ List.mem_cons_self)
      refine h.mono (List.Subset.refl _) ?_ (List.Subset.refl _) rfl rfl rfl
      exact List.append_subset.mpr ⟨List.subset_append_left _ _, fun _ hmem =>
        List.mem_append_right _ (List.mem_cons_of_mem _ hmem)⟩
    next => exact h.mono (List.Subset.refl _) (List.Subset.refl _) (List.Subset.refl _) rfl rfl rfl

lemma proposerStep_sound (ev : ProposerEvent) (h : t.Sound) : (proposerStep cfg ecfg t ev).Sound := by
  cases ev with
  | app ev own pack call => exact h.acts ev pack call
  | engine ev =>
    have hlistening : Proposer.Sound { t with foreign := t.foreign ++ newRequests ev } :=
      h.mono (List.subset_append_left _ _) (List.Subset.refl _) (List.Subset.refl _) rfl rfl rfl
    exact hlistening.engineMoves fun request hin htype =>
      Or.inl (List.mem_append_right _ (mem_ofType.mpr ⟨hin, htype⟩))
  | takeInjected env =>
    rw [proposerStep]
    cases hqueue : t.injected with
    | nil => exact h
    | cons first rest =>
      have hrest : Proposer.Sound { t with injected := rest } :=
        h.mono (List.Subset.refl _) (List.Subset.refl _) (hqueue ▸ List.subset_cons_self _ _) rfl rfl rfl
      refine hrest.engineMoves fun request hin _ => ?_
      rw [List.mem_singleton.mp hin]
      exact h.injected first (hqueue ▸ List.mem_cons_self)

lemma Proposer.ownOf_mono (hforeign : t.foreign ⊆ t'.foreign) {d data : BatchData} {hash : Bytes}
    (h : t'.ownOf d hash data = true) : t.ownOf d hash data = true := by
  simp only [Proposer.ownOf, Proposer.repeatsForeign, Bool.and_eq_true, Bool.not_eq_true', List.any_eq_false] at h ⊢
  exact ⟨fun r hr => h.1 r (hforeign hr), h.2⟩

lemma Proposer.newOf_foreign {d : BatchData} {requests : List Request}
    (h : ∀ r ∈ requests, r.type = .newTxns → r ∈ t.foreign) : newOf (t.ownOf d) requests = 0 := by
  refine List.countP_eq_zero.mpr fun r hr hcounts => ?_
  simp only [Proposer.ownOf, Bool.and_eq_true, Bool.not_eq_true', decide_eq_true_eq] at hcounts
  obtain ⟨htype, hown, -⟩ := hcounts
  have hrepeats : t.repeatsForeign r.hash r.data = true :=
    List.any_eq_true.mpr ⟨r, h r hr htype, by simp⟩
  exact absurd (hrepeats.symm.trans hown) (by simp)

lemma Proposer.Counted.engineMoves {d : BatchData} {ev : ViewEvent} {came : ℕ} (h : t.Counted d came)
    (hcame : newOf (t.ownOf d) ev.requests ≤ came) : (t.engineMoves ecfg ev).Counted d 0 := by
  have hspends := @viewStep_spends ecfg (t.ownOf d) t.node ev
  have hbroadcast : proposedOf (t.ownOf d) (t.broadcast ++ prePrepares (viewStep ecfg t.node ev).1) =
      proposedOf (t.ownOf d) t.broadcast + proposedOf (t.ownOf d) (prePrepares (viewStep ecfg t.node ev).1) :=
    List.countP_append
  have hsame : (t.engineMoves ecfg ev).ownOf d = t.ownOf d := rfl
  rw [Spends] at hspends
  rw [Proposer.Counted] at h ⊢
  rw [hsame]
  simp only [Proposer.engineMoves, hbroadcast, Proposer.builtData, Proposer.built] at h ⊢
  omega

lemma Proposer.Counted.listen {d : BatchData} (h : t.Counted d 0) (requests : List Request) :
    Proposer.Counted { t with foreign := t.foreign ++ requests } d 0 := by
  have hown {hash : Bytes} {data : BatchData}
      (hkey : Proposer.ownOf { t with foreign := t.foreign ++ requests } d hash data = true) :
      t.ownOf d hash data = true := Proposer.ownOf_mono (List.subset_append_left _ _) hkey
  have hnew (l : List Request) : newOf (Proposer.ownOf { t with foreign := t.foreign ++ requests } d) l ≤
      newOf (t.ownOf d) l :=
    List.countP_mono_left fun r _ hr => by
      rw [Bool.and_eq_true] at hr ⊢
      exact hr.imp_right hown
  have hproposed : proposedOf (Proposer.ownOf { t with foreign := t.foreign ++ requests } d) t.broadcast ≤
      proposedOf (t.ownOf d) t.broadcast := List.countP_mono_left fun r _ hr => hown hr
  have hwaiting := hnew t.node.waiting
  have hinjected := hnew t.injected
  rw [Proposer.Counted] at h ⊢
  simp only [Proposer.builtData, Proposer.built] at h ⊢
  omega

lemma Proposer.Counted.submit {d : BatchData} (call : BridgeCall) {payload : Bytes}
    (h : t.Counted d (if BatchData.batch [payload] = d then 1 else 0)) : (t.submit call payload).Counted d 0 := by
  have hone : newOf (t.ownOf d) (triggerConsensus call.faults call.expected call.hash t.node.engine payload).injected.toList ≤
      if BatchData.batch [payload] = d then 1 else 0 := by
    cases hinjected : (triggerConsensus call.faults call.expected call.hash t.node.engine payload).injected with
    | none => exact Nat.zero_le _
    | some request =>
      rw [triggerConsensus_injected hinjected]
      split
      · exact List.countP_le_length
      next hother =>
        refine (List.countP_eq_zero.mpr fun r hr hcounts => hother ?_).le
        rw [Option.toList_some, List.mem_singleton] at hr
        subst hr
        simp only [Proposer.ownOf, Bool.and_eq_true, decide_eq_true_eq] at hcounts
        exact hcounts.2.2
  have hsame : (t.submit call payload).ownOf d = t.ownOf d := rfl
  have hwaiting : (t.submit call payload).node.waiting = t.node.waiting := rfl
  rw [Proposer.Counted] at h ⊢
  rw [hsame, hwaiting]
  simp only [Proposer.submit, newOf_append, Proposer.builtData, Proposer.built] at h ⊢
  omega

lemma Proposer.Counted.acts {d : BatchData} (h : t.Counted d 0) (ev : OrderEvent) (pack : OrderCandidate → Bytes)
    (call : BridgeCall) : (t.acts cfg ev pack call).Counted d 0 := by
  rw [Proposer.acts]
  dsimp only
  split
  next candidate _ =>
    refine Proposer.Counted.submit call ?_
    simp only [Proposer.Counted, Proposer.builtData, Proposer.built, List.map_cons, List.cons_append, List.count_cons,
      beq_iff_eq] at h ⊢
    exact Nat.add_le_add_right h _
  next =>
    split
    next payload _ =>
      refine Proposer.Counted.submit call ?_
      simp only [Proposer.Counted, Proposer.builtData, Proposer.built, List.map_append, List.map_cons, List.count_append,
        List.count_cons, beq_iff_eq] at h ⊢
      rw [← Nat.add_assoc]
      exact Nat.add_le_add_right h _
    next => exact h

lemma proposerStep_counted {d : BatchData} (ev : ProposerEvent) (h : t.Counted d 0) :
    (proposerStep cfg ecfg t ev).Counted d 0 := by
  cases ev with
  | app ev own pack call => exact h.acts ev pack call
  | engine ev =>
    refine (h.listen (newRequests ev)).engineMoves (Proposer.newOf_foreign fun r hr htype => ?_).le
    exact List.mem_append_right _ (mem_ofType.mpr ⟨hr, htype⟩)
  | takeInjected env =>
    rw [proposerStep]
    cases hqueue : t.injected with
    | nil => exact h
    | cons first rest =>
      have htaken : Proposer.Counted { t with injected := rest } d (newOf (t.ownOf d) [first]) := by
        have hsplit : newOf (t.ownOf d) t.injected = newOf (t.ownOf d) [first] + newOf (t.ownOf d) rest := by
          rw [hqueue, ← newOf_append, List.singleton_append]
        rw [Proposer.Counted, hsplit] at h
        have hsame : Proposer.ownOf { t with injected := rest } d = t.ownOf d := rfl
        rw [Proposer.Counted, hsame]
        simp only [Proposer.builtData, Proposer.built] at h ⊢
        omega
      exact htaken.engineMoves le_rfl

lemma Proposer.Counted.over_run {d : BatchData} (h : t.Counted d 0) (events : List ProposerEvent) :
    (run (proposerStep cfg ecfg) t events).Counted d 0 :=
  @run_invariant _ _ _ (fun t : Proposer => t.Counted d 0) (fun _ ev h => proposerStep_counted ev h) _ events h

lemma Proposer.ownBroadcast_subperm (h : ∀ d, t.Counted d 0) : (t.ownBroadcast.map Request.data).Subperm t.builtData := by
  refine List.subperm_ext_iff.mpr fun d _ => ?_
  have hcount : (t.ownBroadcast.map Request.data).count d = proposedOf (t.ownOf d) t.broadcast := by
    rw [List.count_eq_countP, List.countP_map, Proposer.ownBroadcast, List.countP_filter, proposedOf]
    refine List.countP_congr fun m _ => ?_
    simp [Proposer.ownOf, and_comm]
  have hcounted := h d
  rw [Proposer.Counted] at hcounted
  omega

def TurnKept (s s' : RollbackState) : Prop :=
  s.app.currentEpoch < s'.app.currentEpoch ∨
    s'.app.currentEpoch = s.app.currentEpoch ∧ (ClosedToOrders s → ClosedToOrders s')

lemma turnKept_of_app (happ : s'.app = s.app) (hset : s.proposeSubmitted = true → s'.proposeSubmitted = true) :
    TurnKept s s' := by
  refine Or.inr ⟨congrArg AppState.currentEpoch happ, fun hclosed => ?_⟩
  rw [ClosedToOrders, happ]
  exact hclosed.imp_left hset

lemma turnKept_of_noCancel {e : AppEvent} (happ : s'.app = (appStep cfg.toAppConfig s.app e).1)
    (hnone : ∀ dec, ¬TakesCancel cfg.toAppConfig s.app e dec)
    (hset : s.proposeSubmitted = true → s'.proposeSubmitted = true) : TurnKept s s' := by
  have hsame : SameEpochs s.app s'.app := by
    rw [happ]
    cases appStep_epochs cfg.toAppConfig s.app e with
    | kept hsame _ => exact hsame
    | applied _ _ hsame _ _ => exact hsame
    | cancelled dec hsrc _ _ => exact absurd hsrc (hnone dec)
  refine Or.inr ⟨hsame.current, ?_⟩
  rintro (hsubmitted | happlied | hconsensus)
  · exact Or.inl (hset hsubmitted)
  · exact Or.inr (Or.inl (hsame.applied happlied))
  · exact Or.inr (Or.inr (happ ▸ appStep_inConsensus hnone hconsensus))

lemma turnKept_of_cancel {e : AppEvent} {dec : Bytes} (happ : s'.app = (appStep cfg.toAppConfig s.app e).1)
    (htakes : TakesCancel cfg.toAppConfig s.app e dec) (hturn : opensLaterEpoch s dec = true)
    (hset : s.app.repeatsCancel (CancelDecisionHdr.read dec).cancelledEpoch = true →
      s.proposeSubmitted = true → s'.proposeSubmitted = true) : TurnKept s s' := by
  have hcancel := takesCancel_cancelled htakes
  rw [← happ] at hcancel
  rw [opensLaterEpoch] at hturn
  cases hrepeats : s.app.repeatsCancel (CancelDecisionHdr.read dec).cancelledEpoch with
  | false =>
    rw [hrepeats, if_neg Bool.false_ne_true, decide_eq_true_eq] at hturn
    exact Or.inl ((hcancel.begun hrepeats).1 ▸ hturn)
  | true =>
    obtain ⟨hepoch, happlied⟩ := hcancel.repeated hrepeats
    rw [hrepeats, if_pos rfl, Bool.or_eq_true, Bool.or_eq_true, Bool.not_eq_true'] at hturn
    refine Or.inr ⟨hepoch, fun hclosed => ?_⟩
    have hkept : s.proposeSubmitted = true ∨ s.app.orderApplied = true := by
      rcases hclosed with hsubmitted | hused | hconsensus
      · exact Or.inl hsubmitted
      · exact Or.inr hused
      · exact hturn.imp_left fun hquiet => hquiet.resolve_left (by simp [hconsensus])
    exact hkept.imp (hset hrepeats) fun hused => Or.inl (happlied ▸ hused)

lemma processOrder_turn (completed : Bool) (clears : List (BlockedIncident × Bytes)) (sense : Sense)
    (hturn : ∀ dec ∈ s.app.pendingOrders.head?.filter isCancelDecision, opensLaterEpoch s dec = true) :
    TurnKept s (processOrder cfg s completed clears sense) := by
  have happ : (processOrder cfg s completed clears sense).app =
      (appStep cfg.toAppConfig s.app (.processOrder completed (s.isRecallable sense) sense.now)).1 :=
    @processOrder_app cfg s completed clears sense
  cases htaken : s.app.pendingOrders.head?.filter isCancelDecision with
  | none =>
    have hnone (dec : Bytes) :
        ¬TakesCancel cfg.toAppConfig s.app (.processOrder completed (s.isRecallable sense) sense.now) dec := by
      rintro (⟨_, _, _, rest, -, hqueue, hdec⟩ | ⟨_, _, _, hev, -⟩)
      · rw [hqueue] at htaken
        simp [hdec] at htaken
      · cases hev
    refine turnKept_of_noCancel happ hnone fun hset => (processOrder_flag ?_).trans hset
    rw [beginsDiscovery]
    cases hqueue : s.app.pendingOrders with
    | nil => rfl
    | cons dec rest =>
      rw [hqueue] at htaken
      simp_all
  | some dec =>
    obtain ⟨hhead, hdec⟩ := Option.filter_eq_some_iff.mp htaken
    cases hqueue : s.app.pendingOrders with
    | nil => simp [hqueue] at hhead
    | cons first rest =>
      rw [hqueue, List.head?_cons, Option.some.injEq] at hhead
      obtain rfl := hhead
      refine turnKept_of_cancel happ (Or.inl ⟨completed, _, _, rest, rfl, hqueue, hdec⟩) (hturn _ htaken)
        fun hrepeats hset => (processOrder_flag ?_).trans hset
      rw [beginsDiscovery, hqueue]
      dsimp only
      rw [hrepeats, Bool.not_true, Bool.and_false]

lemma handleCancelCommitGossip_turn (senderId : ℤ) (inner : Bytes) (sense : Sense)
    (hturn : ∀ dec ∈ adoptedAttestation cfg.toAppConfig s.app senderId inner, opensLaterEpoch s dec = true) :
    TurnKept s (handleCancelCommitGossip cfg s senderId inner sense) := by
  have happ : (handleCancelCommitGossip cfg s senderId inner sense).app =
      (appStep cfg.toAppConfig s.app (.cancelCommitGossip senderId inner (s.isRecallable sense))).1 :=
    @handleCancelCommitGossip_app cfg s senderId inner sense
  cases hadopt : adoptedAttestation cfg.toAppConfig s.app senderId inner with
  | none =>
    refine turnKept_of_noCancel happ ?_ fun hset => (handleCancelCommitGossip_flag (by rw [hadopt]; rfl)).trans hset
    rintro dec (⟨_, _, _, _, hev, -⟩ | ⟨_, _, _, hev, hsome⟩)
    · cases hev
    · cases hev
      rw [hadopt] at hsome
      cases hsome
  | some dec =>
    refine turnKept_of_cancel happ (Or.inr ⟨senderId, inner, _, rfl, hadopt⟩) (hturn dec hadopt) fun hrepeats hset =>
      (handleCancelCommitGossip_flag ?_).trans hset
    rw [hadopt, Option.any_some, hrepeats]
    rfl

lemma cancelVcTimer_turn (hlease : staleLease s = false) : TurnKept s (cancelVcTimer cfg s) := by
  have happ : (cancelVcTimer cfg s).app = s.app := rollbackStep_app cfg s .cancelVcTimer
  cases hoff : s.cancelVcTimer with
  | false =>
    refine turnKept_of_app happ fun hset => ?_
    rw [cancelVcTimer, hoff]
    exact hset
  | true =>
    refine Or.inr ⟨congrArg AppState.currentEpoch happ, fun hclosed => Or.inr ?_⟩
    rw [happ]
    rcases hclosed with hsubmitted | hrest
    · rw [staleLease, hoff, hsubmitted] at hlease
      by_contra hopen
      simp_all
    · exact hrest

lemma rollbackStep_turn {ev : RollbackEvent} (hplain : bringsClears ev = false)
    {hother : movesCandidate (.rollback ev hplain) = false}
    (hown : setsProposed (.evidence (.rollback ev hplain) hother) = false)
    (hturn : submitsInTurn cfg s (.evidence (.rollback ev hplain) hother) = true) :
    TurnKept s (rollbackStep cfg s ev) := by
  have happ := rollbackStep_app cfg s ev
  rw [submitsInTurn, Bool.and_eq_true] at hturn
  cases hgossip : appEvent s ev with
  | none =>
    rw [hgossip] at happ
    cases hlease : reopensSubmission cfg s (.evidence (.rollback ev hplain) hother) with
    | false => exact turnKept_of_app happ (rollbackStep_flag hplain hown hlease)
    | true =>
      cases ev with
      | cancelVcTimer => exact cancelVcTimer_turn (Bool.eq_false_of_not_eq_true (by simpa [isLeaseExpiry] using hturn.2))
      | cancelCommitGossip _ _ _ => cases hgossip
      | _ => cases hlease
  | some e =>
    rw [hgossip] at happ
    cases ev with
    | cancelCommitGossip senderId inner sense =>
      exact handleCancelCommitGossip_turn senderId inner sense fun dec hdec => by
        have hall := hturn.1
        rw [takenCancel, hdec] at hall
        exact hall
    | processOrder _ _ _ => exact absurd hplain (by simp [bringsClears])
    | _ =>
      cases hgossip
      try
        refine turnKept_of_noCancel happ ?_ (rollbackStep_flag hplain hown rfl)
        rintro dec (⟨_, _, _, _, hev, -⟩ | ⟨_, _, _, hev, -⟩) <;> cases hev

lemma evaluateAndPropose_app (engine : EngineAnswer) (cars : AmbulanceCars) :
    (evaluateAndPropose cfg s engine cars).1.app = s.app := by
  have hready : (evaluateOrderReadiness cfg s engine).1.app = s.app := by
    rw [evaluateOrderReadiness]
    split <;> rfl
  have hpropose : ∀ u : RollbackState, (proposeAll cfg u engine cars).1.app = u.app := by
    intro u
    rw [proposeAll]
    dsimp only
    repeat' split
    all_goals first | exact trySubmitCancelProposal_app u | rfl
  rw [evaluateAndPropose]
  dsimp only
  repeat' split
  all_goals first | exact (hpropose _).trans hready | exact hready

lemma orderStep_turn {ev : OrderEvent} (hown : setsProposed ev = false) (hturn : submitsInTurn cfg s ev = true) :
    TurnKept s (orderStep cfg s ev) := by
  cases ev with
  | discovery round stores deadline settle announcement =>
    rw [orderStep, discoveryStep]
    split <;> exact turnKept_of_app rfl id
  | orderReadiness engine cars => exact turnKept_of_app (evaluateAndPropose_app engine cars) evaluateAndPropose_flag
  | evidence ev hother =>
    have hout := evidenceStep_outcome cfg s ev
    rw [orderStep]
    generalize evidenceStep cfg s ev = s' at hout ⊢
    cases hout with
    | recorded registry => exact turnKept_of_app rfl id
    | rollback ev hplain => exact rollbackStep_turn hplain hown hturn
    | order completed clears sense =>
      rw [submitsInTurn, Bool.and_eq_true] at hturn
      refine processOrder_turn completed clears sense fun dec hdec => ?_
      have hall := hturn.1
      rw [takenCancel, hdec] at hall
      exact hall

lemma submitted_open {engine : EngineAnswer} {cars : AmbulanceCars} {candidate : OrderCandidate}
    (h : submitted cfg s engine cars = some candidate) : candidate.epoch = s.app.currentEpoch ∧ ¬ClosedToOrders s := by
  obtain ⟨hgate, rfl⟩ := submitted_some h
  refine ⟨frozenCandidate_epoch cfg s, ?_⟩
  rw [readinessGate] at hgate
  rintro (hsubmitted | happlied | hconsensus)
  · simp [(submitted_flag h).1] at hsubmitted
  · simp [happlied] at hgate
  · rw [hconsensus, if_pos rfl] at hgate
    split at hgate <;> cases hgate

lemma Proposer.OncePerEpoch.moved (h : t.OncePerEpoch) (horders : t'.orders = t.orders)
    (hturn : TurnKept t.rollback t'.rollback) : t'.OncePerEpoch := by
  rcases hturn with hlater | ⟨hepoch, hclosed⟩
  · refine ⟨fun epoch hmem => ?_, horders ▸ h.nodup, fun hmem => ?_⟩
    · exact (h.reached epoch (horders ▸ hmem)).trans hlater.le
    · exact absurd (h.reached _ (horders ▸ hmem)) (not_le.mpr hlater)
  · refine ⟨fun epoch hmem => ?_, horders ▸ h.nodup, fun hmem => ?_⟩
    · rw [hepoch]
      exact h.reached epoch (horders ▸ hmem)
    · rw [hepoch, horders] at hmem
      exact hclosed (h.closed hmem)

lemma Proposer.OncePerEpoch.submits (h : t.OncePerEpoch) {engine : EngineAnswer} {cars : AmbulanceCars}
    {candidate : OrderCandidate} (hsubmitted : submitted cfg t.rollback engine cars = some candidate) (payload : Bytes)
    (horders : t'.orders = (candidate.epoch, payload) :: t.orders)
    (hmoved : t'.rollback = (evaluateAndPropose cfg t.rollback engine cars).1) : t'.OncePerEpoch := by
  obtain ⟨hepoch, hopen⟩ := submitted_open hsubmitted
  have hsame : t'.rollback.app.currentEpoch = t.rollback.app.currentEpoch := by
    rw [hmoved, evaluateAndPropose_app]
  refine ⟨fun epoch hmem => ?_, ?_, fun _ => Or.inl ?_⟩
  · rw [hsame]
    rw [horders, List.map_cons] at hmem
    rcases List.mem_cons.mp hmem with hnew | hold
    · exact (hnew.trans hepoch).le
    · exact h.reached epoch hold
  · rw [horders, List.map_cons, List.nodup_cons, hepoch]
    exact ⟨fun hmem => hopen (h.closed hmem), h.nodup⟩
  · rw [hmoved]
    exact (submitted_flag hsubmitted).2

lemma proposerStep_once (ev : ProposerEvent) (h : t.OncePerEpoch) (hturn : t.inTurn cfg ev = true) :
    (proposerStep cfg ecfg t ev).OncePerEpoch := by
  cases ev with
  | engine ev => exact ⟨h.reached, h.nodup, h.closed⟩
  | takeInjected env =>
    rw [proposerStep]
    split
    · exact h
    · exact ⟨h.reached, h.nodup, h.closed⟩
  | app ev own pack call =>
    have hkept : TurnKept t.rollback (orderStep cfg t.rollback ev) := orderStep_turn own hturn
    rw [proposerStep, Proposer.acts]
    dsimp only
    cases hbuilt : builtOrder cfg t.rollback ev with
    | some candidate =>
      obtain ⟨engine, cars, rfl, hsubmitted⟩ := builtOrder_some hbuilt
      exact h.submits hsubmitted (pack candidate) rfl rfl
    | none =>
      dsimp only
      split <;> exact h.moved rfl hkept

theorem submission_integrity (cfg : RollbackConfig) (ecfg : EngineConfig) (s : RollbackState) (primaryId : ℤ)
    (events : List ProposerEvent) :
    (∀ m ∈ (run (proposerStep cfg ecfg) (.start s (.initial ecfg primaryId)) events).broadcast,
      (run (proposerStep cfg ecfg) (.start s (.initial ecfg primaryId)) events).Backed m) ∧
    ((run (proposerStep cfg ecfg) (.start s (.initial ecfg primaryId)) events).ownBroadcast.map Request.data).Subperm
      (run (proposerStep cfg ecfg) (.start s (.initial ecfg primaryId)) events).builtData ∧
    (Guarded (proposerStep cfg ecfg) (fun t ev => t.inTurn cfg ev = true) (.start s (.initial ecfg primaryId)) events →
      ((run (proposerStep cfg ecfg) (.start s (.initial ecfg primaryId)) events).orders.map Prod.fst).Nodup) := by
  refine ⟨?_, ?_, ?_⟩
  · have hstart : (Proposer.start s (.initial ecfg primaryId)).Sound :=
      ⟨fun _ h => absurd h List.not_mem_nil, fun _ h => absurd h List.not_mem_nil, fun _ h => absurd h List.not_mem_nil⟩
    exact (run_invariant (fun _ ev h => @proposerStep_sound cfg ecfg _ ev h) events hstart).broadcast
  · have hstart (d : BatchData) : (Proposer.start s (.initial ecfg primaryId)).Counted d 0 := le_rfl
    exact Proposer.ownBroadcast_subperm fun d => (hstart d).over_run events
  · intro hturn
    have hstart : (Proposer.start s (.initial ecfg primaryId)).OncePerEpoch :=
      ⟨fun _ h => absurd h List.not_mem_nil, List.nodup_nil, fun h => absurd h List.not_mem_nil⟩
    exact (hturn.invariant (fun _ ev h => @proposerStep_once cfg ecfg _ ev h) hstart).nodup

def primaryCars : RollbackConfig := { fourRollbackCars with replicaId := 0, totalVehicles := 8 }

def eightReplicas : EngineConfig := ⟨1, 8, 10, false⟩

def redirectedOrder (hash : String) (cars : List ℕ) : ProposerEvent :=
  .engine (.commit eightCarEnv (.request { listingRequest 0 cars with type := .newTxns, hash := ascii hash }))

def packedOrder (candidate : OrderCandidate) : Bytes :=
  (ProposeHdr.mk candidate.epoch 0 5 8).bytes ++
    (List.range 8).flatMap fun (i : ℕ) => (VehicleEntry.mk i 7 0 (i % 4) 0 1 1 0 0).bytes

def acting (ev : OrderEvent) (own : setsProposed ev = false) (hash : String) : ProposerEvent :=
  .app ev own packedOrder ⟨⟨true, 1, false⟩, 8, ascii hash⟩

def overheard (ev : EvidenceEvent) (other : movesCandidate ev = false)
    (own : setsProposed (.evidence ev other) = false) : ProposerEvent := acting (.evidence ev other) own "omnet-tx-1"

def roundOfEight (epoch : ℕ) : OrderEvent :=
  let ids := (List.range 8).map fun i => ascii "veh" ++ decimalNat i
  .discovery ⟨.complete, epoch, 8⟩ ⟨ids, ids, ids, ids⟩ false false false

def firstOrder : Bytes := orderDecisionBytes 0 ((List.range 8).map fun (i : ℕ) => ((i : ℤ), i / 4))

-- an own ORDER in each of two epochs, and between them one of another replica, the own CANCEL and an expiry of its lease
def twoEpochs : List ProposerEvent :=
  [acting (roundOfEight 0) rfl "omnet-tx-0", acting (evaluated ⟨true, 0⟩) rfl "omnet-tx-0", .takeInjected eightCarEnv,
    redirectedOrder "omnet-tx-7" [0, 1, 2, 3],
    overheard (.rollback (.orderDecided firstOrder) rfl) rfl rfl,
    overheard (.order false (stopped 5)) rfl rfl,
    overheard (.rollback (.cancelCert 0 (crashCertBytes "0") ⟨6, true, 0, [0, 1]⟩) rfl) rfl rfl,
    overheard (.rollback .cancelDrainTimer rfl) rfl rfl, .takeInjected eightCarEnv,
    overheard (.rollback .cancelVcTimer rfl) rfl rfl,
    overheard (.rollback (.orderDecided (crashCancelBytes 0)) rfl) rfl rfl,
    overheard (.order false (stopped 7)) rfl rfl,
    acting (roundOfEight 1) rfl "omnet-tx-2", acting (evaluated ⟨true, 0⟩) rfl "omnet-tx-2", .takeInjected eightCarEnv]

def proposerRun (events : List ProposerEvent) : Proposer :=
  run (proposerStep primaryCars eightReplicas) (.start .initial (.initial eightReplicas 1)) events

theorem submission_integrity_twoEpochs :
    (proposerRun twoEpochs).orders.map Prod.fst = [1, 0] ∧ (proposerRun twoEpochs).broadcast.length = 4 ∧
      (proposerRun twoEpochs).ownBroadcast.length = 3 ∧
      (∀ m ∈ (proposerRun twoEpochs).broadcast, (proposerRun twoEpochs).Backed m) ∧
      ((proposerRun twoEpochs).ownBroadcast.map Request.data).Subperm (proposerRun twoEpochs).builtData ∧
      ((proposerRun twoEpochs).orders.map Prod.fst).Nodup := by
  have hran : (proposerRun twoEpochs).orders.map Prod.fst = [1, 0] ∧ (proposerRun twoEpochs).broadcast.length = 4 ∧
      (proposerRun twoEpochs).ownBroadcast.length = 3 := by decide +kernel
  obtain ⟨hbacked, hcounted, hnodup⟩ := submission_integrity primaryCars eightReplicas .initial 1 twoEpochs
  exact ⟨hran.1, hran.2.1, hran.2.2, hbacked, hcounted, hnodup (by decide +kernel)⟩

def afterRedirects : Proposer :=
  proposerRun [redirectedOrder "omnet-tx-7" [0, 1, 2, 3], redirectedOrder "omnet-tx-8" [0, 1, 2, 3, 4]]

def payloadsOf (requests : List Request) : List Bytes := requests.filterMap fun m => m.data.checkedPayload

theorem redirectedOrders_broadcast :
    payloadsOf afterRedirects.broadcast = [listingPayload 0 [0, 1, 2, 3], listingPayload 0 [0, 1, 2, 3, 4]] ∧
      (payloadsOf afterRedirects.broadcast).map (fun payload => (ProposeHdr.read payload).epoch) = [1, 1] ∧
      afterRedirects.orders = [] ∧ afterRedirects.cancels = [] ∧ afterRedirects.node.engine.consensus.info.primaryId = eightReplicas.selfId := by
  decide +kernel

end V2vBft.Rollback
