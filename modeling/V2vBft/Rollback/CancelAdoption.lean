import V2vBft.Rollback.System
import V2vBft.App.HaltInvariant

/-! A CANCEL that commits at a replica and the same CANCEL adopted from gossip: when they leave the same state. -/

namespace V2vBft.Rollback

open Wire App Arrival Library.GuardedRun

variable {cfg : RollbackConfig} {s a b : RollbackState} {dec inner : Bytes} {senderId : ℤ} {sense : Sense}

-- the state without the queue of decisions, the votes and the sending of the attestation; what is recorded of
-- the committed CANCELs is compared epoch by epoch
def RollbackState.protocol (s : RollbackState) : RollbackState :=
  { s with
    app :=
      { s.app with
        pendingOrders := []
        tombstonedEpochs := []
        committedCancels := []
        cancelGossip := .empty }
    cancelGossipSend := ⟨false, 0, [], 0⟩ }

structure SameProtocol (a b : RollbackState) : Prop where
  state : a.protocol = b.protocol
  tombstoned : ∀ e, a.app.isEpochTombstoned e = b.app.isEpochTombstoned e
  record : ∀ e, cancelRecord a.app e = cancelRecord b.app e

lemma SameProtocol.refl (s : RollbackState) : SameProtocol s s := ⟨rfl, fun _ => rfl, fun _ => rfl⟩

lemma hasCommittedCancel_record (s : AppState) (e : ℕ) : s.hasCommittedCancel e = (cancelRecord s e).isSome := by
  rw [AppState.hasCommittedCancel, cancelRecord, Option.isSome_map]
  induction s.committedCancels with
  | nil => rfl
  | cons c cancels ih =>
    obtain ⟨e', info⟩ := c
    by_cases h : e = e'
    · simp [h]
    · have hne : (e == e') = false := by simpa using h
      simp only [List.map_cons, List.mem_cons, h, false_or, List.lookup_cons, hne, ih]

lemma SameProtocol.exists_eq (h : SameProtocol a b) :
    ∃ pending tombs cancels gossip send, b = { a with
      app :=
        { a.app with
          pendingOrders := pending
          tombstonedEpochs := tombs
          committedCancels := cancels
          cancelGossip := gossip }
      cancelGossipSend := send } := by
  refine ⟨b.app.pendingOrders, b.app.tombstonedEpochs, b.app.committedCancels, b.app.cancelGossip, b.cancelGossipSend, ?_⟩
  have hstate := h.state
  rcases a with ⟨⟨⟩⟩
  rcases b with ⟨⟨⟩⟩
  simp only [RollbackState.protocol, RollbackState.mk.injEq, AppState.mk.injEq, true_and] at hstate ⊢
  simp only [hstate, and_self]

lemma SameProtocol.flags (h : SameProtocol a b) :
    a.rollbackCancelInitiated = b.rollbackCancelInitiated ∧ a.cancelVcTimer = b.cancelVcTimer ∧
      a.cancelCertRetries = b.cancelCertRetries ∧ a.rollbackReason = b.rollbackReason ∧
        a.rollbackReasonRef = b.rollbackReasonRef := by
  obtain ⟨pending, tombs, cancels, gossip, send, rfl⟩ := h.exists_eq
  exact ⟨rfl, rfl, rfl, rfl, rfl⟩

lemma SameProtocol.readinessGate (h : SameProtocol a b) : readinessGate b = readinessGate a := by
  have hcommitted : ∀ e, b.app.hasCommittedCancel e = a.app.hasCommittedCancel e := fun e => by
    rw [hasCommittedCancel_record, hasCommittedCancel_record, h.record]
  obtain ⟨pending, tombs, cancels, gossip, send, rfl⟩ := h.exists_eq
  rw [Rollback.readinessGate, hcommitted]
  rfl

lemma SameProtocol.readiness (h : SameProtocol a b) (engine : EngineAnswer) :
    (evaluateOrderReadiness cfg b engine).2 = (evaluateOrderReadiness cfg a engine).2 := by
  have hgate := h.readinessGate
  rw [evaluateOrderReadiness, evaluateOrderReadiness, hgate]
  cases Rollback.readinessGate a with
  | some outcome => rfl
  | none =>
    obtain ⟨pending, tombs, cancels, gossip, send, rfl⟩ := h.exists_eq
    rfl

lemma SameProtocol.discovery (h : SameProtocol a b) (round : DiscoveryRound) (stores : DiscoveryStores)
    (deadline settle announcement : Bool) :
    SameProtocol (rollbackStep cfg a (.discovery round stores deadline settle announcement))
      (rollbackStep cfg b (.discovery round stores deadline settle announcement)) := by
  refine ⟨?_, h.tombstoned, h.record⟩
  obtain ⟨pending, tombs, cancels, gossip, send, rfl⟩ := h.exists_eq
  rfl

structure CancelAgreement (cfg : RollbackConfig) (a b : RollbackState) : Prop where
  same : SameProtocol a b
  readiness : ∀ round stores deadline settle announcement engine,
    (evaluateOrderReadiness cfg (rollbackStep cfg a (.discovery round stores deadline settle announcement)) engine).2 =
      (evaluateOrderReadiness cfg (rollbackStep cfg b (.discovery round stores deadline settle announcement)) engine).2

lemma cancelAgreement_iff : CancelAgreement cfg a b ↔ SameProtocol a b :=
  ⟨CancelAgreement.same, fun h =>
    ⟨h, fun round stores deadline settle announcement engine =>
      ((h.discovery round stores deadline settle announcement).readiness engine).symm⟩⟩

def RollbackState.armable (s : RollbackState) : Bool :=
  s.enteredStopZone && decide (s.discovery.state = .collecting) && !s.proposeSubmitted && !s.app.orderApplied

lemma armDiscoveryTimers_eq (s : RollbackState) :
    armDiscoveryTimers s = { s with
      discoveryDeadline := s.discoveryDeadline || s.armable
      discoverySettle := s.discoverySettle || s.armable } := by
  have hgate : (!s.enteredStopZone || decide (s.discovery.state ≠ .collecting) || s.proposeSubmitted ||
      s.app.orderApplied) = !s.armable := by
    simp [RollbackState.armable]
  rw [armDiscoveryTimers, hgate]
  cases s.armable with
  | true => simp
  | false => simp only [Bool.not_false, if_true, Bool.or_false]

lemma beginPostCancelDiscovery_kept (cfg : RollbackConfig) (s : RollbackState) (e : ℕ) (reason : ℤ) (ref justification : Bytes) (sense : Sense) :
    let s' := beginPostCancelDiscovery cfg s e reason ref justification sense
    s'.rollbackCancelInitiated = s.rollbackCancelInitiated ∧ s'.cancelVcTimer = s.cancelVcTimer ∧
      s'.cancelCertRetries = s.cancelCertRetries ∧ s'.cancelGossipSend = s.cancelGossipSend ∧
        (s.app.repeatsCancel e = false → s'.rollbackReason = reason ∧ s'.rollbackReasonRef = ref) := by
  simp only [beginPostCancelDiscovery, startDiscoveryRound, armDiscoveryTimers_eq, RollbackState.resetOrderCandidate]
  by_cases hrep : s.app.repeatsCancel e = true
  · have hcond : (s.app.cancelPending && decide (s.app.cancelledEpoch = e)) = true := hrep
    simp only [hcond, hrep, if_true, true_and, Bool.true_eq_false, false_imp_iff]
  · have hcond : (s.app.cancelPending && decide (s.app.cancelledEpoch = e)) ≠ true := hrep
    rw [if_neg hcond]
    cases s.departed <;> cases s.enteredStopZone <;> exact ⟨rfl, rfl, rfl, rfl, fun _ => ⟨rfl, rfl⟩⟩

lemma beginPostCancelDiscovery_app (s : RollbackState) (e : ℕ) (reason : ℤ) (ref justification : Bytes) (sense : Sense) :
    (beginPostCancelDiscovery cfg s e reason ref justification sense).app =
      App.beginPostCancelDiscovery cfg.toAppConfig s.app e (s.isRecallable sense) := by
  simp only [beginPostCancelDiscovery, startDiscoveryRound, armDiscoveryTimers_eq, RollbackState.resetOrderCandidate]
  by_cases hcond : (s.app.cancelPending && decide (s.app.cancelledEpoch = e)) = true
  · rw [if_pos hcond, App.beginPostCancelDiscovery, if_pos hcond]
  · rw [if_neg hcond]
    cases s.departed <;> cases s.enteredStopZone <;> rfl

lemma beginPostCancelDiscovery_protocol (s : RollbackState) (e : ℕ) (reason : ℤ) (ref justification : Bytes)
    (sense : Sense) :
    (beginPostCancelDiscovery cfg s e reason ref justification sense).protocol =
      (beginPostCancelDiscovery cfg s.protocol e reason ref justification sense).protocol := by
  simp only [beginPostCancelDiscovery, startDiscoveryRound, armDiscoveryTimers_eq, RollbackState.resetOrderCandidate,
    App.beginPostCancelDiscovery]
  by_cases hcond : (s.app.cancelPending && decide (s.app.cancelledEpoch = e)) = true
  · have hcond' : (s.protocol.app.cancelPending && decide (s.protocol.app.cancelledEpoch = e)) = true := hcond
    rw [if_pos hcond, if_pos hcond']
    rfl
  · have hcond' : (s.protocol.app.cancelPending && decide (s.protocol.app.cancelledEpoch = e)) ≠ true := hcond
    simp only [if_neg hcond, if_neg hcond']
    cases hd : s.departed <;> cases hz : s.enteredStopZone <;>
      simp [RollbackState.protocol, hd, hz, RollbackState.armable, AppState.cancelTimers, RollbackState.isRecallable]

lemma lookup_filter_key_ne {β : Type*} {k e : ℕ} (h : e ≠ k) (l : List (ℕ × β)) :
    (l.filter fun c => !decide (c.1 = k)).lookup e = l.lookup e := by
  induction l with
  | nil => rfl
  | cons c l ih =>
    obtain ⟨k', info⟩ := c
    by_cases hk : k' = k
    · have hne : (e == k') = false := by simpa [hk] using h
      simp [List.lookup_cons, hk, ih, hk ▸ hne]
    · simp [List.lookup_cons, hk, ih]

lemma cancelRecord_recordCancel (s : AppState) (dec : Bytes) (gossipAdopted : Bool) (e : ℕ) :
    cancelRecord (recordCancel s dec gossipAdopted) e =
      if e = (CancelDecisionHdr.read dec).cancelledEpoch then
        some ((CancelDecisionHdr.read dec).cancelSeq, (CancelDecisionHdr.read dec).payloadDigest, dec)
      else cancelRecord s e := by
  rw [cancelRecord, recordCancel]
  by_cases he : e = (CancelDecisionHdr.read dec).cancelledEpoch
  · simp [he]
  · have hne : (e == (CancelDecisionHdr.read dec).cancelledEpoch) = false := by simpa using he
    simp only [List.lookup_cons, hne, if_neg he, lookup_filter_key_ne he, cancelRecord]

lemma isEpochTombstoned_recordCancel (s : AppState) (dec : Bytes) (gossipAdopted : Bool) (e : ℕ) :
    (recordCancel s dec gossipAdopted).isEpochTombstoned e =
      (decide (e = (CancelDecisionHdr.read dec).cancelledEpoch) || s.isEpochTombstoned e) := by
  rw [Bool.eq_iff_iff]
  simp only [recordCancel, AppState.isEpochTombstoned, Bool.or_eq_true, decide_eq_true_eq, List.mem_cons, List.map_cons]
  by_cases he : e = (CancelDecisionHdr.read dec).cancelledEpoch
  · simp [he]
  · simp [he]

lemma recordCancelVote_eq (s : AppState) (senderId : ℤ) (inner : Bytes) :
    recordCancelVote s senderId inner = { s with cancelGossip := (recordCancelVote s senderId inner).cancelGossip } := by
  rw [recordCancelVote]
  repeat' split
  all_goals rfl

lemma triggerCancelCommitGossip_eq (s : RollbackState) (e : ℕ) (attestation : Bytes) :
    triggerCancelCommitGossip cfg s e attestation =
      { s with cancelGossipSend := (triggerCancelCommitGossip cfg s e attestation).cancelGossipSend } := by
  rw [triggerCancelCommitGossip]
  split <;> rfl

lemma settleCommitted_eq (s : RollbackState) (dec : Bytes) :
    settleCommitted cfg s dec =
      { s with
        app := recordCancel s.app dec false
        consensusRetries := []
        cancelCertRetries := .stopped
        cancelProposeSubmitted := false
        cancelState := .committed
        rollbackCancelInitiated := false
        cancelVcTimer := false
        cancelDrainTimer := false
        rollbackJustification :=
          buildCancelCommitRef (recordCancel s.app dec false) (CancelDecisionHdr.read dec).cancelledEpoch
        cancelGossipSend := (settleCommitted cfg s dec).cancelGossipSend } := by
  rw [settleCommitted, broadcastCancelCommitAttestation]
  split
  · rfl
  · rw [triggerCancelCommitGossip_eq]
    rfl

lemma settleAdopted_eq (s : RollbackState) (senderId : ℤ) (inner dec : Bytes) :
    settleAdopted cfg s senderId inner dec =
      { s with
        app := recordCancel (recordCancelVote s.app senderId inner) dec true
        consensusRetries := []
        cancelProposeSubmitted := false
        cancelState := .committed
        cancelDrainTimer := false
        rollbackJustification :=
          buildCancelCommitRef (recordCancel s.app dec false) (CancelDecisionHdr.read dec).cancelledEpoch
        cancelGossipSend := (settleAdopted cfg s senderId inner dec).cancelGossipSend } := by
  have href : buildCancelCommitRef (recordCancel (recordCancelVote s.app senderId inner) dec true)
      (CancelDecisionHdr.read dec).cancelledEpoch =
        buildCancelCommitRef (recordCancel s.app dec false) (CancelDecisionHdr.read dec).cancelledEpoch := by
    simp only [buildCancelCommitRef, cancelRecord_recordCancel, if_true]
  rw [settleAdopted, triggerCancelCommitGossip_eq, ← href]
  rfl

lemma settled_protocol (s : RollbackState) (senderId : ℤ) (inner dec : Bytes) :
    (settleAdopted cfg s senderId inner dec).protocol =
      { (settleCommitted cfg s dec).protocol with
        cancelCertRetries := s.cancelCertRetries
        rollbackCancelInitiated := s.rollbackCancelInitiated
        cancelVcTimer := s.cancelVcTimer } := by
  rw [settleAdopted_eq, settleCommitted_eq, recordCancelVote_eq]
  rfl

-- the epoch's discovery has begun already: the handlers leave reason and reference alone
structure AdoptsAsCommitted (s : RollbackState) (dec : Bytes) : Prop where
  notInitiated : s.rollbackCancelInitiated = false
  noLease : s.cancelVcTimer = false
  noRetries : s.cancelCertRetries = .stopped
  described : s.app.repeatsCancel (CancelDecisionHdr.read dec).cancelledEpoch = false →
    s.rollbackReason = (CancelDecisionHdr.read dec).reason ∧ s.rollbackReasonRef ≠ []

lemma handleCancelCommitGossip_adopted (sense : Sense) (hadopt : adoptedAttestation cfg.toAppConfig s.app senderId inner = some dec) :
    handleCancelCommitGossip cfg s senderId inner sense =
      beginPostCancelDiscovery cfg (settleAdopted cfg s senderId inner dec) (CancelDecisionHdr.read dec).cancelledEpoch
        (CancelDecisionHdr.read dec).reason
        (if s.rollbackReasonRef = [] then ascii "gossip-adopted" else s.rollbackReasonRef)
        (buildCancelCommitRef (recordCancel s.app dec false) (CancelDecisionHdr.read dec).cancelledEpoch) sense := by
  rw [handleCancelCommitGossip, hadopt]
  dsimp only
  rw [settleAdopted_eq]

lemma handleCancelCommitDecision_eq (cfg : RollbackConfig) (s : RollbackState) (dec : Bytes) (sense : Sense) :
    handleCancelCommitDecision cfg s dec sense =
      beginPostCancelDiscovery cfg (settleCommitted cfg s dec) (CancelDecisionHdr.read dec).cancelledEpoch
        s.rollbackReason s.rollbackReasonRef
        (buildCancelCommitRef (recordCancel s.app dec false) (CancelDecisionHdr.read dec).cancelledEpoch) sense := by
  rw [handleCancelCommitDecision, settleCommitted_eq]

lemma repeatsCancel_settleCommitted (s : RollbackState) (dec : Bytes) (e : ℕ) :
    (settleCommitted cfg s dec).app.repeatsCancel e = s.app.repeatsCancel e := by
  rw [settleCommitted_eq]
  rfl

lemma repeatsCancel_settleAdopted (s : RollbackState) (senderId : ℤ) (inner dec : Bytes) (e : ℕ) :
    (settleAdopted cfg s senderId inner dec).app.repeatsCancel e = s.app.repeatsCancel e := by
  rw [settleAdopted_eq, recordCancelVote_eq]
  rfl

lemma beginPostCancelDiscovery_repeated {e : ℕ} (h : s.app.repeatsCancel e = true) (reason : ℤ)
    (ref justification : Bytes) : beginPostCancelDiscovery cfg s e reason ref justification sense = s := by
  rw [beginPostCancelDiscovery]
  exact if_pos h

lemma recorded_alike (hadopt : adoptedAttestation cfg.toAppConfig s.app senderId inner = some dec) (e : ℕ) :
    (handleCancelCommitDecision cfg s dec sense).app.isEpochTombstoned e =
        (handleCancelCommitGossip cfg s senderId inner sense).app.isEpochTombstoned e ∧
      cancelRecord (handleCancelCommitDecision cfg s dec sense).app e =
        cancelRecord (handleCancelCommitGossip cfg s senderId inner sense).app e := by
  have hbegin : ∀ (u : AppState) (epoch : ℕ) (r : Bool),
      (App.beginPostCancelDiscovery cfg.toAppConfig u epoch r).isEpochTombstoned e = u.isEpochTombstoned e ∧
        cancelRecord (App.beginPostCancelDiscovery cfg.toAppConfig u epoch r) e = cancelRecord u e := by
    intro u epoch r
    obtain ⟨htombs, hcancels⟩ := @beginPostCancelDiscovery_epochs cfg.toAppConfig u epoch r
    simp only [AppState.isEpochTombstoned, cancelRecord, htombs, hcancels, and_self]
  have hvote := recordCancelVote_sameEpochs (s := s.app) senderId inner
  rw [handleCancelCommitGossip_adopted _ hadopt, handleCancelCommitDecision_eq, beginPostCancelDiscovery_app,
    beginPostCancelDiscovery_app, (hbegin _ _ _).1, (hbegin _ _ _).1, (hbegin _ _ _).2, (hbegin _ _ _).2,
    settleAdopted_eq, settleCommitted_eq, isEpochTombstoned_recordCancel, isEpochTombstoned_recordCancel, cancelRecord_recordCancel,
    cancelRecord_recordCancel, hvote.isEpochTombstoned]
  refine ⟨rfl, ?_⟩
  rw [cancelRecord, cancelRecord, hvote.cancels]

lemma sameProtocol_iff (hadopt : adoptedAttestation cfg.toAppConfig s.app senderId inner = some dec) :
    SameProtocol (handleCancelCommitDecision cfg s dec sense) (handleCancelCommitGossip cfg s senderId inner sense) ↔
      AdoptsAsCommitted s dec := by
  have hcommit := handleCancelCommitDecision_eq cfg s dec sense
  have hgossip := handleCancelCommitGossip_adopted sense hadopt
  set epoch := (CancelDecisionHdr.read dec).cancelledEpoch with hepoch
  set justification := buildCancelCommitRef (recordCancel s.app dec false) epoch with hjust
  set ref := if s.rollbackReasonRef = [] then ascii "gossip-adopted" else s.rollbackReasonRef with href
  obtain ⟨hcInit, hcLease, hcRetries, -, hcDesc⟩ := beginPostCancelDiscovery_kept cfg (settleCommitted cfg s dec)
    epoch s.rollbackReason s.rollbackReasonRef justification sense
  obtain ⟨hgInit, hgLease, hgRetries, -, hgDesc⟩ := beginPostCancelDiscovery_kept cfg
    (settleAdopted cfg s senderId inner dec) epoch (CancelDecisionHdr.read dec).reason ref justification sense
  rw [← hcommit] at hcInit hcLease hcRetries hcDesc
  rw [← hgossip] at hgInit hgLease hgRetries hgDesc
  rw [repeatsCancel_settleCommitted] at hcDesc
  rw [repeatsCancel_settleAdopted] at hgDesc
  have hsettled : (settleCommitted cfg s dec).rollbackCancelInitiated = false ∧
      (settleCommitted cfg s dec).cancelVcTimer = false ∧ (settleCommitted cfg s dec).cancelCertRetries = .stopped := by
    rw [settleCommitted_eq]
    exact ⟨rfl, rfl, rfl⟩
  have hadopted : (settleAdopted cfg s senderId inner dec).rollbackCancelInitiated = s.rollbackCancelInitiated ∧
      (settleAdopted cfg s senderId inner dec).cancelVcTimer = s.cancelVcTimer ∧
        (settleAdopted cfg s senderId inner dec).cancelCertRetries = s.cancelCertRetries := by
    rw [settleAdopted_eq]
    exact ⟨rfl, rfl, rfl⟩
  rw [hsettled.1] at hcInit
  rw [hsettled.2.1] at hcLease
  rw [hsettled.2.2] at hcRetries
  rw [hadopted.1] at hgInit
  rw [hadopted.2.1] at hgLease
  rw [hadopted.2.2] at hgRetries
  constructor
  · intro h
    obtain ⟨hinit, hlease, hretries, hreason, hrefs⟩ := h.flags
    refine ⟨?_, ?_, ?_, fun hrep => ?_⟩
    · rw [← hgInit, ← hinit, hcInit]
    · rw [← hgLease, ← hlease, hcLease]
    · rw [← hgRetries, ← hretries, hcRetries]
    · rw [(hcDesc hrep).1, (hgDesc hrep).1] at hreason
      rw [(hcDesc hrep).2, (hgDesc hrep).2] at hrefs
      refine ⟨hreason, fun hempty => ?_⟩
      rw [href, if_pos hempty, hempty] at hrefs
      exact absurd hrefs (by decide)
  · intro h
    refine ⟨?_, fun e => (recorded_alike hadopt e).1, fun e => (recorded_alike hadopt e).2⟩
    have hpre : (settleAdopted cfg s senderId inner dec).protocol = (settleCommitted cfg s dec).protocol := by
      rw [settled_protocol, h.notInitiated, h.noLease, h.noRetries, settleCommitted_eq]
      rfl
    rw [hcommit, hgossip]
    cases hrep : s.app.repeatsCancel epoch with
    | true =>
      rw [beginPostCancelDiscovery_repeated ((repeatsCancel_settleCommitted s dec epoch).trans hrep),
        beginPostCancelDiscovery_repeated ((repeatsCancel_settleAdopted s senderId inner dec epoch).trans hrep), hpre]
    | false =>
      obtain ⟨hreason, hne⟩ := h.described hrep
      rw [beginPostCancelDiscovery_protocol, beginPostCancelDiscovery_protocol (settleAdopted cfg s senderId inner dec),
        hpre, href, if_neg hne, hreason]

lemma adopted_votes (hadopt : adoptedAttestation cfg.toAppConfig s.app senderId inner = some dec) :
    CancelDecisionHdr.size ≤ dec.length ∧
      cfg.faults + 1 ≤ (recordCancelVote s.app senderId inner).cancelGossip.count (CancelDecisionHdr.read dec).cancelledEpoch
        dec := by
  rw [adoptedAttestation] at hadopt
  rw [recordCancelVote]
  split at hadopt
  next => exact absurd hadopt (by simp)
  next epoch attestation hparse =>
    split at hadopt
    next hcond =>
      obtain rfl := Option.some.inj hadopt
      simp only [Bool.and_eq_true, decide_eq_true_eq] at hcond
      obtain ⟨⟨⟨hcancel, hepoch⟩, -⟩, hvotes⟩ := hcond
      have hsize : CancelDecisionHdr.size ≤ attestation.length := by
        rw [isCancelDecision, Bool.and_eq_true, decide_eq_true_eq] at hcancel
        exact hcancel.1
      refine ⟨hsize, ?_⟩
      simp only [hcancel, hepoch, decide_true, Bool.and_self, if_true]
      simpa only [GossipAccumulator.add, decide_eq_true_eq, RollbackConfig.faults] using hvotes
    next => exact absurd hadopt (by simp)

def resendsAttestation (cfg : RollbackConfig) (s : RollbackState) (dec : Bytes) : Bool :=
  if cfg.gossipEnabled && cfg.hasPrivateKey then
    !decide (cfg.faults + 1 ≤
      s.app.cancelGossip.count (CancelDecisionHdr.read dec).cancelledEpoch (dec.take CancelDecisionHdr.size))
  else s.cancelGossipSend.scheduled

lemma resend_iff (hadopt : adoptedAttestation cfg.toAppConfig s.app senderId inner = some dec) :
    (handleCancelCommitDecision cfg s dec sense).cancelGossipSend.scheduled =
        (handleCancelCommitGossip cfg s senderId inner sense).cancelGossipSend.scheduled ↔
      resendsAttestation cfg s dec = false := by
  obtain ⟨hsize, hvotes⟩ := adopted_votes hadopt
  have hne : dec ≠ [] := by
    rintro rfl
    exact absurd hsize (by decide)
  have htake : dec.take CancelDecisionHdr.size ≠ [] := by
    rw [Ne, List.take_eq_nil_iff, not_or]
    exact ⟨by decide, hne⟩
  have hgossip : (handleCancelCommitGossip cfg s senderId inner sense).cancelGossipSend.scheduled = false := by
    rw [handleCancelCommitGossip_adopted _ hadopt, (beginPostCancelDiscovery_kept _ _ _ _ _ _ _).2.2.2.1, settleAdopted,
      triggerCancelCommitGossip, if_neg hne]
    simpa [recordCancel] using hvotes
  have hcommit : (handleCancelCommitDecision cfg s dec sense).cancelGossipSend.scheduled = resendsAttestation cfg s dec := by
    rw [handleCancelCommitDecision_eq, (beginPostCancelDiscovery_kept _ _ _ _ _ _ _).2.2.2.1, settleCommitted,
      broadcastCancelCommitAttestation, resendsAttestation]
    cases cfg.gossipEnabled <;> cases cfg.hasPrivateKey <;>
      simp [triggerCancelCommitGossip, htake, recordCancel, RollbackState.clearConsensusRetries,
        RollbackState.stopCancelCertRetries]
  rw [hcommit, hgossip]

theorem cancel_adoption_agrees_iff (cfg : RollbackConfig) (s : RollbackState) (senderId : ℤ) (inner dec : Bytes)
    (sense : Sense) (hadopt : adoptedAttestation cfg.toAppConfig s.app senderId inner = some dec) :
    (CancelAgreement cfg (handleCancelCommitDecision cfg s dec sense)
        (handleCancelCommitGossip cfg s senderId inner sense) ↔ AdoptsAsCommitted s dec) ∧
      ((handleCancelCommitDecision cfg s dec sense).cancelGossipSend.scheduled =
          (handleCancelCommitGossip cfg s senderId inner sense).cancelGossipSend.scheduled ↔
        resendsAttestation cfg s dec = false) :=
  ⟨cancelAgreement_iff.trans (sameProtocol_iff hadopt), resend_iff hadopt⟩

def fourRollbackCars : RollbackConfig where
  toAppConfig := fourCars
  gossipEnabled := true
  hasPrivateKey := true
  cancelCertRetryMax := 10
  enableCancelLeaderFailover := true
  rollbackFaultModePerEpoch := true

def stopped (now : ℤ) : Sense := ⟨now, true, 0, [2, 3]⟩

def rollbackRun (events : List RollbackEvent) : RollbackState := run (rollbackStep fourRollbackCars) .initial events

def cancelVote (senderId : ℤ) (epoch : ℕ) (now : ℤ) : RollbackEvent :=
  .cancelCommitGossip senderId (gossipSerialize epoch (crashCancelBytes epoch)) (stopped now)

def witnessedCancel : List RollbackEvent :=
  [.orderDecided (orderDecisionBytes 0 [(0, 0), (1, 0), (2, 1), (3, 1)]), .processOrder false [] (stopped 5),
    .cancelCert 0 (crashCertBytes "0") (stopped 6), .cancelDrainTimer, cancelVote 0 0 7]

def fourCertified : RollbackEvent :=
  let cars := [ascii "veh0", ascii "veh1", ascii "veh2", ascii "veh3"]
  .discovery ⟨.complete, 1, 8⟩ ⟨cars, cars, cars, cars⟩ false false false

def recovered : List RollbackEvent :=
  witnessedCancel ++
    [.orderDecided (crashCancelBytes 0), .processOrder false [] (stopped 8),
      .orderDecided (orderDecisionBytes 1 [(0, 0), (1, 0), (2, 1), (3, 1)]), .processOrder false [] (stopped 9),
      cancelVote 0 1 10]

theorem cancel_adoption_agrees_iff_recovered :
    (CancelAgreement fourRollbackCars
        (handleCancelCommitDecision fourRollbackCars (rollbackRun recovered) (crashCancelBytes 1) (stopped 11))
        (handleCancelCommitGossip fourRollbackCars (rollbackRun recovered) 1 (gossipSerialize 1 (crashCancelBytes 1))
          (stopped 11)) ↔
      AdoptsAsCommitted (rollbackRun recovered) (crashCancelBytes 1)) ∧
    ((handleCancelCommitDecision fourRollbackCars (rollbackRun recovered) (crashCancelBytes 1)
          (stopped 11)).cancelGossipSend.scheduled =
        (handleCancelCommitGossip fourRollbackCars (rollbackRun recovered) 1 (gossipSerialize 1 (crashCancelBytes 1))
          (stopped 11)).cancelGossipSend.scheduled ↔
      resendsAttestation fourRollbackCars (rollbackRun recovered) (crashCancelBytes 1) = false) :=
  cancel_adoption_agrees_iff fourRollbackCars (rollbackRun recovered) 1 (gossipSerialize 1 (crashCancelBytes 1))
    (crashCancelBytes 1) (stopped 11) (by decide +kernel)

-- the adopter keeps its witness flag and the proposer's lease, and stays blocked where the committer is ready
theorem adopter_stays_witnessing :
    adoptedAttestation fourCars (rollbackRun witnessedCancel).app 1 (gossipSerialize 0 (crashCancelBytes 0)) =
        some (crashCancelBytes 0) ∧
      ¬CancelAgreement fourRollbackCars
        (handleCancelCommitDecision fourRollbackCars (rollbackRun witnessedCancel) (crashCancelBytes 0) (stopped 8))
        (handleCancelCommitGossip fourRollbackCars (rollbackRun witnessedCancel) 1
          (gossipSerialize 0 (crashCancelBytes 0)) (stopped 8)) ∧
      (handleCancelCommitGossip fourRollbackCars (rollbackRun witnessedCancel) 1
        (gossipSerialize 0 (crashCancelBytes 0)) (stopped 8)).cancelVcTimer = true ∧
      (evaluateOrderReadiness fourRollbackCars (rollbackStep fourRollbackCars
        (handleCancelCommitDecision fourRollbackCars (rollbackRun witnessedCancel) (crashCancelBytes 0) (stopped 8))
        fourCertified) ⟨true, 0⟩).2 = .ready 0 ∧
      (evaluateOrderReadiness fourRollbackCars (rollbackStep fourRollbackCars
        (handleCancelCommitGossip fourRollbackCars (rollbackRun witnessedCancel) 1
          (gossipSerialize 0 (crashCancelBytes 0)) (stopped 8))
        fourCertified) ⟨true, 0⟩).2 = .blocked .cancelWitnessPending := by
  refine ⟨by decide +kernel, fun h => ?_, by decide +kernel, by decide +kernel, by decide +kernel⟩
  exact absurd h.same.flags.1 (by decide +kernel)

end V2vBft.Rollback
