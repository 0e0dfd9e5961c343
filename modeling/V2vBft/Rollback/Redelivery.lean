import V2vBft.Rollback.CancelAdoption
import V2vBft.App.Succession

/-! The epoch of a replica over whole runs, and a CANCEL that is delivered again. -/

namespace V2vBft.Rollback

open Wire App Arrival Library.GuardedRun

variable {cfg : RollbackConfig} {s : RollbackState} {dec : Bytes} {sense : Sense} {ev : RollbackEvent}

-- none: the event is not one of the halting and releasing part
def appEvent (s : RollbackState) : RollbackEvent → Option AppEvent
  | .orderDecided dec => some (.orderDecided dec)
  | .decisionGossip senderId inner completed => some (.decisionGossip senderId inner completed)
  | .processOrder completed _ sense => some (.processOrder completed (s.isRecallable sense) sense.now)
  | .cancelCert _ payload sense => some (.cancelCert payload (s.isRecallable sense))
  | .cancelCertFormed cert _ sense => some (.cancelCertFormed cert (s.isRecallable sense))
  | .cancelCommitGossip senderId inner sense => some (.cancelCommitGossip senderId inner (s.isRecallable sense))
  | .clearancePoll formed cleared sense =>
    some (.clearancePoll (formed.map fun c => (c.1, s.isRecallable sense)) cleared sense.now)
  | .resumeTimer => some .resumeTimer
  | .orderTimeout => some .orderTimeout
  | .disableCrashComms => some .disableCrashComms
  | _ => none

lemma proposeCancel_app (s : RollbackState) : (proposeCancel cfg s).app = s.app := by
  rw [proposeCancel]
  repeat' split
  all_goals rfl

lemma trySubmitCancelProposal_app (s : RollbackState) : (trySubmitCancelProposal cfg s).app = s.app := by
  rw [trySubmitCancelProposal]
  dsimp only
  repeat' split
  all_goals first | rfl | rw [proposeCancel_app]

lemma beginCancelDrain_app (s : RollbackState) (sense : Sense) :
    (beginCancelDrain s sense).app = s.app ∧ (beginCancelDrain s sense).departed = s.departed := by
  rw [beginCancelDrain]
  repeat' split
  all_goals exact ⟨rfl, rfl⟩

lemma scheduleNextCancelCertRetry_eq (s : RollbackState) :
    scheduleNextCancelCertRetry cfg s =
      { s with cancelCertRetries := (scheduleNextCancelCertRetry cfg s).cancelCertRetries } := by
  rw [scheduleNextCancelCertRetry]
  repeat' split
  all_goals rfl

lemma registerBlockedIncidentIfCrash_eq (s : RollbackState) (cert : CancelCert) :
    registerBlockedIncidentIfCrash s cert =
      { s with incidentRegistry := (registerBlockedIncidentIfCrash s cert).incidentRegistry } := by
  rw [registerBlockedIncidentIfCrash]
  repeat' split
  all_goals rfl

lemma handleValidCancelJustification_app (s : RollbackState) (cert : CancelCert) (justification : Bytes) (sense : Sense) :
    (handleValidCancelJustification cfg s cert justification sense).app =
        (App.handleValidCancelJustification cfg.toAppConfig s.app cert.cancelledEpoch (s.isRecallable sense)).1 ∧
      (handleValidCancelJustification cfg s cert justification sense).departed = s.departed := by
  rw [handleValidCancelJustification]
  split
  next =>
    rw [(beginCancelDrain_app _ sense).1, (beginCancelDrain_app _ sense).2]
    exact ⟨rfl, rfl⟩
  next hno =>
    refine ⟨?_, rfl⟩
    rw [App.handleValidCancelJustification]
    simp only [acceptsJustification, Bool.and_eq_true, not_and, Bool.not_eq_true'] at hno
    repeat' split
    all_goals first | rfl | simp_all

lemma broadcastCancelCert_app (cfg : RollbackConfig) (s : RollbackState) (cert : CancelCert) (payload : Bytes) (sense : Sense) :
    (broadcastCancelCert cfg s cert payload sense).app =
        (App.broadcastCancelCert cfg.toAppConfig s.app cert (s.isRecallable sense)).1 ∧
      (broadcastCancelCert cfg s cert payload sense).departed = s.departed := by
  rw [broadcastCancelCert, App.broadcastCancelCert]
  split
  next =>
    rw [(handleValidCancelJustification_app _ _ _ _).1, (handleValidCancelJustification_app _ _ _ _).2,
      scheduleNextCancelCertRetry_eq, registerBlockedIncidentIfCrash_eq]
    exact ⟨rfl, rfl⟩
  next => exact ⟨rfl, rfl⟩

lemma handleCancelCert_app (s : RollbackState) (senderId : ℤ) (payload : Bytes) (sense : Sense) :
    (handleCancelCert cfg s senderId payload sense).app =
      (App.handleCancelCert cfg.toAppConfig s.app payload (s.isRecallable sense)).1 := by
  cases hcert : deserializeCancelCert payload with
  | none => simp only [handleCancelCert, App.handleCancelCert, hcert]
  | some cert =>
    simp only [handleCancelCert, App.handleCancelCert, hcert]
    rw [registerBlockedIncidentIfCrash_eq]
    repeat' split
    all_goals first | rfl | exact (handleValidCancelJustification_app _ _ _ _).1

lemma perceiveCrashes_app (formed : List (CancelCert × Bytes)) (s : RollbackState) (sense : Sense) :
    (perceiveCrashes cfg s formed sense).app =
      (App.perceiveCrashes cfg.toAppConfig s.app (formed.map fun c => (c.1, s.isRecallable sense))).1 := by
  induction formed generalizing s with
  | nil => rfl
  | cons c formed ih =>
    obtain ⟨happ, hdep⟩ := broadcastCancelCert_app cfg s c.1 c.2 sense
    have hrec : (broadcastCancelCert cfg s c.1 c.2 sense).isRecallable sense = s.isRecallable sense := by
      rw [RollbackState.isRecallable, hdep, RollbackState.isRecallable]
    have htail := ih (broadcastCancelCert cfg s c.1 c.2 sense)
    rw [hrec, happ] at htail
    exact htail

lemma clearancePoll_app (s : RollbackState) (formed : List (CancelCert × Bytes)) (cleared : List ℤ) (sense : Sense) :
    (clearancePoll cfg s formed cleared sense).app =
      (App.clearancePoll cfg.toAppConfig s.app (formed.map fun c => (c.1, s.isRecallable sense)) cleared sense.now).1 := by
  rw [clearancePoll, App.clearancePoll]
  split
  next =>
    cases cfg.enableRollback with
    | true =>
      simp only [if_true]
      rw [perceiveCrashes_app]
      rfl
    | false => rfl
  next => rfl

lemma handleCancelCommitDecision_app (s : RollbackState) (dec : Bytes) (sense : Sense) :
    (handleCancelCommitDecision cfg s dec sense).app =
      (commitCancel cfg.toAppConfig s.app dec false (s.isRecallable sense)).1 := by
  rw [handleCancelCommitDecision_eq, beginPostCancelDiscovery_app, settleCommitted_eq]
  rfl

lemma handleCancelCommitGossip_app (s : RollbackState) (senderId : ℤ) (inner : Bytes) (sense : Sense) :
    (handleCancelCommitGossip cfg s senderId inner sense).app =
      (App.handleCancelCommitGossip cfg.toAppConfig s.app senderId inner (s.isRecallable sense)).1 := by
  cases hadopt : adoptedAttestation cfg.toAppConfig s.app senderId inner with
  | none => simp only [handleCancelCommitGossip, App.handleCancelCommitGossip, hadopt]
  | some dec =>
    rw [handleCancelCommitGossip_adopted _ hadopt, beginPostCancelDiscovery_app, settleAdopted_eq]
    simp only [App.handleCancelCommitGossip, hadopt]
    rfl

lemma applyOrder_app (s : RollbackState) (order : OrderDecision) (clears : List (BlockedIncident × Bytes)) (now : ℤ) :
    (applyOrder cfg s order clears now).app = (App.applyOrder cfg.toAppConfig s.app order now).1 := rfl

lemma processOrder_app (s : RollbackState) (completed : Bool) (clears : List (BlockedIncident × Bytes)) (sense : Sense) :
    (processOrder cfg s completed clears sense).app =
      (App.processOrder cfg.toAppConfig s.app completed (s.isRecallable sense) sense.now).1 := by
  cases hqueue : s.app.pendingOrders with
  | nil => simp only [processOrder, App.processOrder, hqueue]
  | cons dec rest =>
    simp only [processOrder, App.processOrder, hqueue, processDecision]
    split
    next => exact handleCancelCommitDecision_app _ dec sense
    next => cases admittedOrder { s.app with pendingOrders := rest } dec completed <;> rfl

theorem rollbackStep_app (cfg : RollbackConfig) (s : RollbackState) (ev : RollbackEvent) :
    (rollbackStep cfg s ev).app =
      match appEvent s ev with
      | none => s.app
      | some e => (appStep cfg.toAppConfig s.app e).1 := by
  cases ev with
  | processOrder completed clears sense => exact processOrder_app s completed clears sense
  | cancelCert senderId payload sense => exact handleCancelCert_app s senderId payload sense
  | cancelCertFormed cert payload sense => exact (broadcastCancelCert_app cfg s cert payload sense).1
  | cancelCommitGossip senderId inner sense => exact handleCancelCommitGossip_app s senderId inner sense
  | clearancePoll formed cleared sense => exact clearancePoll_app s formed cleared sense
  | crashSeen fresh =>
    simp only [rollbackStep, sendCancelEcho, appEvent]
    repeat' split
    all_goals rfl
  | emergencySeen rid fresh =>
    simp only [rollbackStep, maybeTriggerEmergencyRollback, sendCancelEcho, appEvent]
    repeat' split
    all_goals rfl
  | cancelDrainTimer =>
    simp only [rollbackStep, cancelDrainTimer, appEvent]
    repeat' split
    all_goals first | rfl | exact trySubmitCancelProposal_app _
  | cancelVcTimer =>
    simp only [rollbackStep, cancelVcTimer, appEvent]
    split
    · rfl
    · exact trySubmitCancelProposal_app _
  | cancelCertRetryTimer =>
    simp only [rollbackStep, cancelCertRetryTimer, appEvent]
    repeat' split
    all_goals first | rfl | rw [scheduleNextCancelCertRetry_eq]
  | cancelGossipTimer =>
    simp only [rollbackStep, cancelGossipTimer, appEvent]
    repeat' split
    all_goals rfl
  | orderReadiness engine =>
    simp only [rollbackStep, evaluateOrderReadiness, appEvent]
    split <;> rfl
  | orderDecided _ | decisionGossip _ _ _ | resumeTimer | orderTimeout | disableCrashComms | clearCert _ _
  | discovery _ _ _ _ _ | consensus _ _ | viewChange _ _ | enterStopZone | depart => rfl

def Delivers (s : RollbackState) (ev : RollbackEvent) (dec : Bytes) : Prop :=
  (∃ completed clears sense rest, ev = .processOrder completed clears sense ∧ s.app.pendingOrders = dec :: rest ∧
    isCancelDecision dec = true) ∨
  ∃ senderId inner sense, ev = .cancelCommitGossip senderId inner sense ∧
    gossipParse inner = some ((CancelDecisionHdr.read dec).cancelledEpoch, dec) ∧ isCancelDecision dec = true

structure CancelStep (cfg : RollbackConfig) (s : RollbackState) (ev : RollbackEvent) : Prop where
  epoch : s.app.currentEpoch ≤ (rollbackStep cfg s ev).app.currentEpoch
  again : ∀ dec, Delivers s ev dec → s.app.hasCommittedCancel (CancelDecisionHdr.read dec).cancelledEpoch = true →
    SameProtocol s (rollbackStep cfg s ev)

def atRest (s : RollbackState) (dec : Bytes) : Bool :=
  let hdr := CancelDecisionHdr.read dec
  s.app.repeatsCancel hdr.cancelledEpoch && !s.app.cancelConsensusPending && decide (s.cancelState = .committed) &&
    !s.rollbackCancelInitiated && !s.cancelProposeSubmitted && !s.cancelVcTimer && !s.cancelDrainTimer &&
    decide (s.cancelCertRetries = .stopped) && decide (s.consensusRetries = []) &&
    decide (cancelRecord s.app hdr.cancelledEpoch = some (hdr.cancelSeq, hdr.payloadDigest, dec)) &&
    decide (s.rollbackJustification = buildCancelCommitRef s.app hdr.cancelledEpoch)

def stepsForward (s : AppState) (epoch : ℕ) : Bool :=
  s.repeatsCancel epoch || decide (s.currentEpoch ≤ (epoch + 1) % uint32Modulus)

def rollbackOk (cfg : RollbackConfig) (s : RollbackState) : RollbackEvent → Bool
  | .processOrder _ _ _ =>
    match s.app.pendingOrders with
    | [] => true
    | dec :: _ =>
      if !isCancelDecision dec then true
      else if s.app.hasCommittedCancel (CancelDecisionHdr.read dec).cancelledEpoch then atRest s dec
      else stepsForward s.app (CancelDecisionHdr.read dec).cancelledEpoch
  | .cancelCommitGossip senderId inner _ =>
    match adoptedAttestation cfg.toAppConfig s.app senderId inner with
    | none => true
    | some dec => stepsForward s.app (CancelDecisionHdr.read dec).cancelledEpoch
  | _ => true

lemma buildCancelCommitRef_recordCancel (s : AppState) (dec : Bytes)
    (hrecord : cancelRecord s (CancelDecisionHdr.read dec).cancelledEpoch =
      some ((CancelDecisionHdr.read dec).cancelSeq, (CancelDecisionHdr.read dec).payloadDigest, dec)) :
    buildCancelCommitRef (recordCancel s dec false) (CancelDecisionHdr.read dec).cancelledEpoch =
      buildCancelCommitRef s (CancelDecisionHdr.read dec).cancelledEpoch := by
  simp only [buildCancelCommitRef, cancelRecord_recordCancel, if_true, hrecord]

lemma handleCancelCommitDecision_rest (h : atRest s dec = true) :
    SameProtocol s (handleCancelCommitDecision cfg s dec sense) := by
  simp only [atRest, Bool.and_eq_true, Bool.not_eq_true', decide_eq_true_eq] at h
  obtain ⟨⟨⟨⟨⟨⟨⟨⟨⟨⟨hrep, hsettled⟩, hstate⟩, hinit⟩, hsubmitted⟩, hlease⟩, hdrain⟩, hretries⟩, hpackets⟩, hrecord⟩, hjust⟩ := h
  rw [handleCancelCommitDecision_eq, beginPostCancelDiscovery_repeated ((repeatsCancel_settleCommitted s dec _).trans hrep),
    settleCommitted_eq]
  have htomb : s.app.isEpochTombstoned (CancelDecisionHdr.read dec).cancelledEpoch = true := by
    apply isEpochTombstoned_of_cancel
    rw [hasCommittedCancel_record, hrecord]
    rfl
  refine ⟨?_, fun e => ?_, fun e => ?_⟩
  · rw [buildCancelCommitRef_recordCancel s.app dec hrecord]
    simp only [RollbackState.protocol, recordCancel, hsettled, hstate, hinit, hsubmitted, hlease, hdrain, hretries,
      hpackets, hjust]
  · rw [isEpochTombstoned_recordCancel]
    by_cases he : e = (CancelDecisionHdr.read dec).cancelledEpoch
    · simp [he, htomb]
    · simp [he]
  · rw [cancelRecord_recordCancel]
    split
    next he => rw [he, hrecord]
    next => rfl

lemma beginPostCancelDiscovery_repeats (s : AppState) (c : AppConfig) (e : ℕ) (recallable : Bool) :
    (App.beginPostCancelDiscovery c s e recallable).repeatsCancel e = true := by
  rw [App.beginPostCancelDiscovery]
  split
  next h => exact h
  next => simp [AppState.repeatsCancel]

lemma SameProtocol.repeatsCancel {a b : RollbackState} (h : SameProtocol a b) (e : ℕ) :
    a.app.repeatsCancel e = b.app.repeatsCancel e := by
  obtain ⟨pending, tombs, cancels, gossip, send, rfl⟩ := h.exists_eq
  rfl

lemma atRest_of_same (h : SameProtocol s (handleCancelCommitDecision cfg s dec sense)) : atRest s dec = true := by
  have hrep : s.app.repeatsCancel (CancelDecisionHdr.read dec).cancelledEpoch = true := by
    rw [h.repeatsCancel, handleCancelCommitDecision_app]
    exact beginPostCancelDiscovery_repeats _ _ _ _
  rw [handleCancelCommitDecision_eq, beginPostCancelDiscovery_repeated ((repeatsCancel_settleCommitted s dec _).trans hrep),
    settleCommitted_eq] at h
  have hrecord := h.record (CancelDecisionHdr.read dec).cancelledEpoch
  rw [cancelRecord_recordCancel, if_pos rfl] at hrecord
  have hstate := h.state
  have hjust := congrArg RollbackState.rollbackJustification hstate
  change s.rollbackJustification = buildCancelCommitRef (recordCancel s.app dec false) _ at hjust
  rw [buildCancelCommitRef_recordCancel s.app dec hrecord] at hjust
  simp only [RollbackState.protocol, recordCancel, RollbackState.mk.injEq, AppState.mk.injEq] at hstate
  simp only [atRest, hrep, hrecord, hjust, hstate, Bool.not_false, decide_true, Bool.and_self]

lemma handleCancelCommitGossip_again {senderId : ℤ} {inner : Bytes}
    (hparse : gossipParse inner = some ((CancelDecisionHdr.read dec).cancelledEpoch, dec))
    (hcommitted : s.app.hasCommittedCancel (CancelDecisionHdr.read dec).cancelledEpoch = true) :
    SameProtocol s (handleCancelCommitGossip cfg s senderId inner sense) := by
  have hnone : adoptedAttestation cfg.toAppConfig s.app senderId inner = none := by
    simp only [adoptedAttestation, hparse, isEpochTombstoned_of_cancel hcommitted, Bool.not_true, Bool.and_false,
      Bool.false_and, Bool.false_eq_true, if_false]
  have hvote := recordCancelVote_sameEpochs (s := s.app) senderId inner
  simp only [handleCancelCommitGossip, hnone]
  refine ⟨?_, fun e => (hvote.isEpochTombstoned e).symm, fun e => ?_⟩
  · rw [recordCancelVote_eq]
    rfl
  · rw [cancelRecord, cancelRecord, hvote.cancels]

lemma cancelled_epoch_le_iff {a b : AppState} {e : ℕ} (h : Cancelled a b e) :
    a.currentEpoch ≤ b.currentEpoch ↔ stepsForward a e = true := by
  rw [stepsForward, Bool.or_eq_true, decide_eq_true_eq]
  cases hrep : a.repeatsCancel e with
  | true => simp [(h.repeated hrep).1]
  | false => simp [(h.begun hrep).1]

lemma rollbackStep_epoch (cfg : RollbackConfig) (s : RollbackState) (ev : RollbackEvent) :
    (rollbackStep cfg s ev).app.currentEpoch = s.app.currentEpoch ∨
      ∃ e dec, appEvent s ev = some e ∧ TakesCancel cfg.toAppConfig s.app e dec ∧
        Cancelled s.app (rollbackStep cfg s ev).app (CancelDecisionHdr.read dec).cancelledEpoch := by
  rw [rollbackStep_app]
  cases happ : appEvent s ev with
  | none => exact Or.inl rfl
  | some e =>
    cases appStep_epochs cfg.toAppConfig s.app e with
    | kept hsame _ => exact Or.inl hsame.current
    | applied _ _ hsame _ _ => exact Or.inl hsame.current
    | cancelled dec hsrc hcancel _ => exact Or.inr ⟨e, dec, rfl, hsrc, hcancel⟩

lemma rollbackOk_processOrder {completed : Bool} {clears : List (BlockedIncident × Bytes)} {rest : List Bytes}
    (hqueue : s.app.pendingOrders = dec :: rest) (hcancel : isCancelDecision dec = true) :
    rollbackOk cfg s (.processOrder completed clears sense) =
      if s.app.hasCommittedCancel (CancelDecisionHdr.read dec).cancelledEpoch then atRest s dec
      else stepsForward s.app (CancelDecisionHdr.read dec).cancelledEpoch := by
  simp only [rollbackOk, hqueue, hcancel, Bool.not_true, Bool.false_eq_true, if_false]

lemma stepsForward_of_rest (h : atRest s dec = true) :
    stepsForward s.app (CancelDecisionHdr.read dec).cancelledEpoch = true := by
  simp only [atRest, Bool.and_eq_true] at h
  rw [stepsForward, h.1.1.1.1.1.1.1.1.1.1, Bool.true_or]

lemma rollbackOk_forward (hok : rollbackOk cfg s ev = true) {e : AppEvent} (hev : appEvent s ev = some e)
    (hsrc : TakesCancel cfg.toAppConfig s.app e dec) :
    stepsForward s.app (CancelDecisionHdr.read dec).cancelledEpoch = true := by
  rcases hsrc with ⟨completed, recallable, now, rest, rfl, hqueue, hcancel⟩ | ⟨senderId, inner, recallable, rfl, hadopt⟩
  · cases ev with
    | processOrder c clears sense =>
      rw [rollbackOk_processOrder hqueue hcancel] at hok
      split at hok
      · exact stepsForward_of_rest hok
      · exact hok
    | _ => exact absurd hev (by simp [appEvent])
  · cases ev with
    | cancelCommitGossip sid inn sense =>
      simp only [appEvent, Option.some.injEq, AppEvent.cancelCommitGossip.injEq] at hev
      obtain ⟨rfl, rfl, -⟩ := hev
      simpa only [rollbackOk, hadopt] using hok
    | _ => exact absurd hev (by simp [appEvent])

lemma popped_same {rest : List Bytes} (u : RollbackState)
    (h : SameProtocol { s with app := { s.app with pendingOrders := rest } } u) : SameProtocol s u :=
  ⟨h.state, h.tombstoned, h.record⟩

lemma cancelStep_of_ok (hok : rollbackOk cfg s ev = true) : CancelStep cfg s ev where
  epoch := by
    rcases rollbackStep_epoch cfg s ev with hsame | ⟨e, dec, hev, hsrc, hcancel⟩
    · exact hsame.ge
    · exact (cancelled_epoch_le_iff hcancel).mpr (rollbackOk_forward hok hev hsrc)
  again := by
    rintro dec (⟨completed, clears, sense, rest, rfl, hqueue, hdec⟩ | ⟨senderId, inner, sense, rfl, hparse, hdec⟩) hcommitted
    · rw [rollbackOk_processOrder hqueue hdec, if_pos hcommitted] at hok
      simp only [rollbackStep, processOrder, hqueue, hdec, if_true]
      exact popped_same _ (handleCancelCommitDecision_rest hok)
    · exact handleCancelCommitGossip_again hparse hcommitted

lemma ok_of_cancelStep (h : CancelStep cfg s ev) : rollbackOk cfg s ev = true := by
  cases ev with
  | processOrder completed clears sense =>
    cases hqueue : s.app.pendingOrders with
    | nil => simp only [rollbackOk, hqueue]
    | cons dec rest =>
      cases hdec : isCancelDecision dec with
      | false => simp only [rollbackOk, hqueue, hdec, Bool.not_false, if_true]
      | true =>
        rw [rollbackOk_processOrder hqueue hdec]
        split
        next hcommitted =>
          have hagain := h.again dec (Or.inl ⟨completed, clears, sense, rest, rfl, hqueue, hdec⟩) hcommitted
          simp only [rollbackStep, processOrder, hqueue, hdec, if_true] at hagain
          exact atRest_of_same (s := { s with app := { s.app with pendingOrders := rest } })
            ⟨hagain.state, hagain.tombstoned, hagain.record⟩
        next =>
          have hcancel := commitCancel_cancelled cfg.toAppConfig { s.app with pendingOrders := rest } dec false
            (s.isRecallable sense)
          have hepoch := h.epoch
          simp only [rollbackStep, processOrder, hqueue, hdec, if_true] at hepoch
          rw [handleCancelCommitDecision_app] at hepoch
          exact (cancelled_epoch_le_iff hcancel).mp hepoch
  | cancelCommitGossip senderId inner sense =>
    cases hadopt : adoptedAttestation cfg.toAppConfig s.app senderId inner with
    | none => simp only [rollbackOk, hadopt]
    | some dec =>
      have hcancel := commitCancel_cancelled cfg.toAppConfig (recordCancelVote s.app senderId inner) dec true
        (s.isRecallable sense)
      have hvote := recordCancelVote_sameEpochs (s := s.app) senderId inner
      have hsame : stepsForward (recordCancelVote s.app senderId inner) (CancelDecisionHdr.read dec).cancelledEpoch =
          stepsForward s.app (CancelDecisionHdr.read dec).cancelledEpoch := by
        rw [recordCancelVote_eq]
        rfl
      have hepoch := h.epoch
      simp only [rollbackStep, handleCancelCommitGossip_app, App.handleCancelCommitGossip, hadopt] at hepoch
      rw [← hvote.current] at hepoch
      simpa only [rollbackOk, hadopt, hsame] using (cancelled_epoch_le_iff hcancel).mp hepoch
  | _ => rfl

structure EpochHistory (cfg : RollbackConfig) (events : List RollbackEvent) : Prop where
  monotone : ∀ pre mid post, events = pre ++ (mid ++ post) →
    (run (rollbackStep cfg) .initial pre).app.currentEpoch ≤
      (run (rollbackStep cfg) .initial (pre ++ mid)).app.currentEpoch
  again : ∀ pre ev post dec, events = pre ++ ev :: post → Delivers (run (rollbackStep cfg) .initial pre) ev dec →
    (run (rollbackStep cfg) .initial pre).app.hasCommittedCancel (CancelDecisionHdr.read dec).cancelledEpoch = true →
      SameProtocol (run (rollbackStep cfg) .initial pre) (run (rollbackStep cfg) .initial (pre ++ [ev]))

lemma guarded_monotone {events : List RollbackEvent}
    (h : Guarded (rollbackStep cfg) (fun s ev => rollbackOk cfg s ev = true) s events) :
    s.app.currentEpoch ≤ (run (rollbackStep cfg) s events).app.currentEpoch := by
  induction events generalizing s with
  | nil => exact le_rfl
  | cons ev events ih => exact (cancelStep_of_ok h.1).epoch.trans (ih h.2)

lemma guarded_of_split {events : List RollbackEvent}
    (h : ∀ pre ev post, events = pre ++ ev :: post → rollbackOk cfg (run (rollbackStep cfg) s pre) ev = true) :
    Guarded (rollbackStep cfg) (fun s ev => rollbackOk cfg s ev = true) s events := by
  induction events generalizing s with
  | nil => trivial
  | cons ev events ih =>
    refine ⟨h [] ev events rfl, ih fun pre e post hsplit => ?_⟩
    exact h (ev :: pre) e post (by rw [hsplit, List.cons_append])

theorem epoch_history_iff (cfg : RollbackConfig) (events : List RollbackEvent) :
    EpochHistory cfg events ↔
      Guarded (rollbackStep cfg) (fun s ev => rollbackOk cfg s ev = true) .initial events := by
  constructor
  · intro h
    refine guarded_of_split fun pre ev post hsplit => ok_of_cancelStep ⟨?_, fun dec hdelivers hcommitted => ?_⟩
    · have hmono := h.monotone pre [ev] post hsplit
      rwa [run_append] at hmono
    · have hsame := h.again pre ev post dec hsplit hdelivers hcommitted
      rwa [run_append] at hsame
  · intro hok
    refine ⟨fun pre mid post hsplit => ?_, fun pre ev post dec hsplit hdelivers hcommitted => ?_⟩
    · rw [hsplit] at hok
      have hmid := (guarded_append.mp (guarded_append.mp hok).2).1
      rw [run_append]
      exact guarded_monotone hmid
    · rw [hsplit] at hok
      have hev := (guarded_append.mp hok).2.1
      rw [run_append]
      exact (cancelStep_of_ok hev).again dec hdelivers hcommitted

def adoptedThenExecuted : List RollbackEvent :=
  witnessedCancel ++ [.orderDecided (crashCancelBytes 0), cancelVote 1 0 8]

def lateCancel : List RollbackEvent := [.orderDecided (crashCancelBytes 0)]

def executed (now : ℤ) : RollbackEvent := .processOrder false [] (stopped now)

-- executed after adoption it ends the witnessing, executed after ORDER 1 it starts epoch 1 over,
-- and executed after CANCEL 1 it takes the replica from epoch 2 back to epoch 1
theorem cancel_delivered_again :
    ((rollbackRun adoptedThenExecuted).app.hasCommittedCancel 0 = true ∧
      (rollbackRun adoptedThenExecuted).rollbackCancelInitiated = true ∧
      (rollbackRun (adoptedThenExecuted ++ [executed 9])).rollbackCancelInitiated = false) ∧
    ((rollbackRun (recovered ++ lateCancel)).app.hasCommittedCancel 0 = true ∧
      (rollbackRun (recovered ++ lateCancel)).app.orderApplied = true ∧
      (rollbackRun (recovered ++ lateCancel ++ [executed 12])).app.orderApplied = false ∧
      (rollbackRun (recovered ++ lateCancel ++ [executed 12])).app.cancelPending = true) ∧
    ((rollbackRun (recovered ++ [cancelVote 1 1 11] ++ lateCancel)).app.currentEpoch = 2 ∧
      (rollbackRun (recovered ++ [cancelVote 1 1 11] ++ lateCancel ++ [executed 12])).app.currentEpoch = 1) := by
  decide +kernel

end V2vBft.Rollback
