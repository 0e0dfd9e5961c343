import V2vBft.Rollback.WaitHeartbeat
import V2vBft.Rollback.Lifecycle

namespace V2vBft.Rollback

open Wire App Arrival

variable {cfg : RollbackConfig} {s : RollbackState}

def appliedOrder (cfg : RollbackConfig) (s : RollbackState) : EvidenceEvent → Option OrderDecision
  | .order completed sense =>
    if (processTrailedOrder cfg s completed sense).isSome then
      (admitted s completed).bind fun taken =>
        (App.applyOrder cfg.toAppConfig { s.app with pendingOrders := s.app.pendingOrders.tail } taken.2 sense.now).2.applied
    else none
  | _ => none

def DiscoveryRound.IdleFor (round : DiscoveryRound) (epoch : ℕ) : Prop := round.state = .inactive ∨ round.epoch ≠ epoch

lemma beginCancelDrain_discovery (s : RollbackState) (sense : Sense) :
    (beginCancelDrain s sense).discovery = s.discovery := by
  rw [beginCancelDrain]
  repeat' split
  all_goals rfl

lemma handleValidCancelJustification_discovery (s : RollbackState) (cert : CancelCert) (justification : Bytes)
    (sense : Sense) : (handleValidCancelJustification cfg s cert justification sense).discovery = s.discovery := by
  rw [handleValidCancelJustification]
  split
  · rw [beginCancelDrain_discovery]
  · rfl

lemma broadcastCancelCert_discovery (s : RollbackState) (cert : CancelCert) (payload : Bytes) (sense : Sense) :
    (broadcastCancelCert cfg s cert payload sense).discovery = s.discovery := by
  rw [broadcastCancelCert]
  split
  · rw [handleValidCancelJustification_discovery, scheduleNextCancelCertRetry_eq, registerBlockedIncidentIfCrash_eq]
  · rfl

lemma handleCancelCert_discovery (s : RollbackState) (senderId : ℤ) (payload : Bytes) (sense : Sense) :
    (handleCancelCert cfg s senderId payload sense).discovery = s.discovery := by
  rw [handleCancelCert]
  split
  · rfl
  · dsimp only
    rw [registerBlockedIncidentIfCrash_eq]
    repeat' split
    all_goals first
      | rfl
      | exact handleValidCancelJustification_discovery _ _ _ sense

lemma perceiveCrashes_discovery (formed : List (CancelCert × Bytes)) (s : RollbackState) (sense : Sense) :
    (perceiveCrashes cfg s formed sense).discovery = s.discovery := by
  induction formed generalizing s with
  | nil => rfl
  | cons first formed ih => exact (ih _).trans (broadcastCancelCert_discovery s first.1 first.2 sense)

lemma clearancePoll_discovery (s : RollbackState) (formed : List (CancelCert × Bytes)) (cleared : List ℤ)
    (sense : Sense) : (clearancePoll cfg s formed cleared sense).discovery = s.discovery := by
  rw [clearancePoll]
  split
  · dsimp only
    split
    · exact perceiveCrashes_discovery formed _ sense
    · rfl
  · rfl

lemma beginPostCancelDiscovery_discovery (s : RollbackState) (epoch : ℕ) (reason : ℤ) (ref justification : Bytes)
    (sense : Sense) :
    (beginPostCancelDiscovery cfg s epoch reason ref justification sense).discovery = s.discovery ∨
      (beginPostCancelDiscovery cfg s epoch reason ref justification sense).discovery.epoch = nextEpoch epoch := by
  simp only [beginPostCancelDiscovery, startDiscoveryRound, armDiscoveryTimers_eq, RollbackState.resetOrderCandidate]
  by_cases hcond : (s.app.cancelPending && decide (s.app.cancelledEpoch = epoch)) = true
  · exact Or.inl (by rw [if_pos hcond])
  · rw [if_neg hcond, App.beginPostCancelDiscovery, if_neg hcond]
    cases s.departed <;> cases s.enteredStopZone
    · exact Or.inr rfl
    · exact Or.inr rfl
    · exact Or.inl rfl
    · exact Or.inl rfl

lemma applyOrder_discovery (s : RollbackState) (order : OrderDecision) (clears : List (BlockedIncident × Bytes)) (now : ℤ) :
    (applyOrder cfg s order clears now).discovery = s.discovery ∨
      (applyOrder cfg s order clears now).discovery.state = .inactive := by
  rw [applyOrder, foldl_onIncidentCleared_eq, completeRollback]
  dsimp only
  repeat' split
  all_goals first
    | exact Or.inr rfl
    | exact Or.inl rfl

lemma applyOrder_inactive {order : OrderDecision} {clears : List (BlockedIncident × Bytes)} {now : ℤ}
    (h : (App.applyOrder cfg.toAppConfig s.app order now).2.applied.isSome) :
    (applyOrder cfg s order clears now).discovery.state = .inactive := by
  rw [applyOrder]
  dsimp only
  rw [if_pos h]
  rfl

lemma processOrder_discovery (s : RollbackState) (completed : Bool) (clears : List (BlockedIncident × Bytes))
    (sense : Sense) {epoch : ℕ} (hidle : s.discovery.IdleFor epoch)
    (hcancel : ∀ dec ∈ s.app.pendingOrders.head?.filter isCancelDecision,
      nextEpoch (CancelDecisionHdr.read dec).cancelledEpoch ≠ epoch) :
    (processOrder cfg s completed clears sense).discovery.IdleFor epoch := by
  rw [processOrder]
  cases hqueue : s.app.pendingOrders with
  | nil => exact hidle
  | cons dec rest =>
    dsimp only
    split
    next htag =>
      have hother := hcancel dec (by rw [hqueue]; simp [htag])
      rw [handleCancelCommitDecision_eq]
      rcases beginPostCancelDiscovery_discovery _ _ _ _ _ sense with hsame | hnew
      · rw [DiscoveryRound.IdleFor, hsame, settleCommitted_eq]
        exact hidle
      · exact Or.inr (hnew ▸ hother)
    next =>
      split
      · exact hidle
      · rcases applyOrder_discovery _ _ _ _ with hsame | hidle'
        · rw [DiscoveryRound.IdleFor, hsame]
          exact hidle
        · exact Or.inl hidle'

lemma handleCancelCommitGossip_discovery (s : RollbackState) (senderId : ℤ) (inner : Bytes) (sense : Sense) {epoch : ℕ}
    (hidle : s.discovery.IdleFor epoch)
    (hcancel : ∀ dec ∈ adoptedAttestation cfg.toAppConfig s.app senderId inner,
      nextEpoch (CancelDecisionHdr.read dec).cancelledEpoch ≠ epoch) :
    (handleCancelCommitGossip cfg s senderId inner sense).discovery.IdleFor epoch := by
  cases hadopt : adoptedAttestation cfg.toAppConfig s.app senderId inner with
  | none =>
    rw [handleCancelCommitGossip, hadopt]
    exact hidle
  | some dec =>
    have hother := hcancel dec hadopt
    rw [handleCancelCommitGossip_adopted sense hadopt]
    rcases beginPostCancelDiscovery_discovery _ _ _ _ _ sense with hsame | hnew
    · rw [DiscoveryRound.IdleFor, hsame, settleAdopted_eq]
      exact hidle
    · exact Or.inr (hnew ▸ hother)

lemma rollbackStep_discovery (s : RollbackState) {ev : RollbackEvent} (hplain : bringsClears ev = false) {epoch : ℕ}
    (hfollows : discoveryFollows s (.rollback ev hplain) = true) (hidle : s.discovery.IdleFor epoch)
    (hcancel : ∀ dec ∈ takenCancel cfg s (.rollback ev hplain),
      nextEpoch (CancelDecisionHdr.read dec).cancelledEpoch ≠ epoch) :
    (rollbackStep cfg s ev).discovery.IdleFor epoch := by
  have hkept {s' : RollbackState} (hsame : s'.discovery = s.discovery) : s'.discovery.IdleFor epoch := by rwa [hsame]
  cases haside : standsAside ev with
  | true => exact hkept (rollbackStep_undisturbed s haside).discovery
  | false =>
    cases ev with
    | processOrder _ _ _ | clearCert _ _ => exact absurd hplain (by simp [bringsClears])
    | cancelCommitGossip senderId inner sense => exact handleCancelCommitGossip_discovery s senderId inner sense hidle hcancel
    | discovery round stores deadline settle announcement =>
      simp only [discoveryFollows, Bool.and_eq_true, Bool.or_eq_true, decide_eq_true_eq] at hfollows
      obtain ⟨hepoch, hactive⟩ := hfollows
      rcases hidle with hinactive | hother
      · exact Or.inl (hactive.resolve_left (not_not.mpr hinactive))
      · exact Or.inr (hepoch ▸ hother)
    | cancelCert senderId payload sense => exact hkept (handleCancelCert_discovery s senderId payload sense)
    | cancelCertFormed cert payload sense => exact hkept (broadcastCancelCert_discovery s cert payload sense)
    | clearancePoll formed cleared sense => exact hkept (clearancePoll_discovery s formed cleared sense)
    | orderReadiness engine =>
      refine hkept ?_
      rw [rollbackStep, evaluateOrderReadiness]
      split <;> rfl
    | depart => exact hidle
    | _ => exact absurd haside (by simp [standsAside])

lemma evidenceStep_discovery (s : RollbackState) {ev : EvidenceEvent} {epoch : ℕ}
    (hfollows : discoveryFollows s ev = true) (hidle : s.discovery.IdleFor epoch)
    (hcancel : ∀ dec ∈ takenCancel cfg s ev, nextEpoch (CancelDecisionHdr.read dec).cancelledEpoch ≠ epoch) :
    (evidenceStep cfg s ev).discovery.IdleFor epoch := by
  have hout := evidenceStep_outcome cfg s ev
  generalize evidenceStep cfg s ev = s' at hout ⊢
  cases hout with
  | rollback ev hplain => exact rollbackStep_discovery s hplain hfollows hidle hcancel
  | order completed clears sense => exact processOrder_discovery s completed clears sense hidle hcancel
  | recorded registry => exact hidle

lemma admitted_some {completed : Bool} {dec : Bytes} {order : OrderDecision} (h : admitted s completed = some (dec, order)) :
    s.app.pendingOrders = dec :: s.app.pendingOrders.tail ∧ isCancelDecision dec = false ∧
      admittedOrder { s.app with pendingOrders := s.app.pendingOrders.tail } dec completed = some order := by
  rw [admitted] at h
  cases hqueue : s.app.pendingOrders with
  | nil => simp [hqueue] at h
  | cons first rest =>
    simp only [hqueue] at h
    split at h
    · simp at h
    next hplain =>
      obtain ⟨taken, htaken, heq⟩ := Option.map_eq_some_iff.mp h
      obtain ⟨rfl, rfl⟩ := Prod.mk.inj heq
      exact ⟨rfl, Bool.not_eq_true _ ▸ hplain, htaken⟩

lemma appliedOrder_inactive {ev : EvidenceEvent} {order : OrderDecision} (h : order ∈ appliedOrder cfg s ev) :
    (evidenceStep cfg s ev).discovery.state = .inactive := by
  cases ev with
  | order completed sense =>
    rw [appliedOrder] at h
    split at h
    next hparsed =>
      obtain ⟨⟨dec, taken⟩, htaken, happlied⟩ := Option.bind_eq_some_iff.mp h
      obtain ⟨hqueue, hplain, hadmitted⟩ := admitted_some htaken
      rw [processTrailedOrder, htaken] at hparsed
      obtain ⟨certs, hcerts⟩ := Option.isSome_iff_exists.mp (Option.isSome_map ▸ hparsed)
      rw [evidenceStep, processTrailedOrder, htaken]
      dsimp only
      rw [hcerts, Option.map_some, Option.getD_some, processOrder, hqueue]
      dsimp only
      rw [hplain, if_neg (by simp), hadmitted]
      exact applyOrder_inactive (Option.isSome_iff_exists.mpr ⟨order, happlied⟩)
    next => exact absurd h (by simp)
  | _ => exact absurd h (by simp [appliedOrder])

end V2vBft.Rollback
