import V2vBft.Rollback.OrderEvidence
import V2vBft.Rollback.CancelSizeGate
import V2vBft.Engine.Trigger
import V2vBft.Bridge.CancelProposal

namespace V2vBft.Rollback

open Wire Bridge Engine
open App hiding Replica

variable {cfg : RollbackConfig} {faults : ToleratedFaultState} {expected : ℤ} {hash : Bytes} {r : Replica}
  {s : RollbackState} {engine : EngineAnswer} {cars : AmbulanceCars}

def cancelElectors (s : RollbackState) : List ℤ := sortIds s.app.committedOrderVehicleIds.dedup

def cancelProposal (cfg : RollbackConfig) (s : RollbackState) : Bytes :=
  cancelPayload s.app.cancelledEpoch (s.rollbackReason % 256).toNat s.cancelCertBytes cfg.replicaId (cancelElectors s)

def submitsCancel (cfg : RollbackConfig) (s : RollbackState) : Bool :=
  s.app.cancelConsensusPending && !s.cancelProposeSubmitted && decide (s.cancelCertBytes ≠ []) &&
    decide (cancelElectors s ≠ []) && proposeCancelGate cfg (cancelElectors s)

def cancelCall (cfg : RollbackConfig) (faults : ToleratedFaultState) (expected : ℤ) (hash : Bytes) (r : Replica)
    (s : RollbackState) : Option Triggered :=
  if submitsCancel cfg s then some (triggerConsensus faults expected hash r (cancelProposal cfg s)) else none

def orderCall (cfg : RollbackConfig) (faults : ToleratedFaultState) (expected : ℤ) (hash : Bytes) (r : Replica)
    (pack : OrderCandidate → Bytes) (s : RollbackState) (engine : EngineAnswer) (cars : AmbulanceCars) :
    Option Triggered :=
  (proposeAll cfg s engine cars).2.map fun candidate => triggerConsensus faults expected hash r (pack candidate)

structure EngineRestored (r r' : Replica) : Prop where
  registry : r'.consensus.registry = r.consensus.registry
  primary : r'.consensus.info = r.consensus.info

structure FlagsRestored (s s' : RollbackState) : Prop where
  propose : s'.proposeSubmitted = s.proposeSubmitted
  cancel : s'.cancelProposeSubmitted = s.cancelProposeSubmitted

structure FailureRestores (r : Replica) (s : RollbackState) (t : Triggered) (s' : RollbackState) : Prop where
  engine : t.rc ≠ 0 → EngineRestored r t.replica
  flags : t.rc ≠ 0 → FlagsRestored s s'

lemma cancelElectors_length (s : RollbackState) :
    (cancelElectors s).length = s.app.committedOrderVehicleIds.dedup.length :=
  (List.perm_insertionSort _ _).length_eq

lemma proposeCancel_eq (cfg : RollbackConfig) (s : RollbackState) :
    proposeCancel cfg s =
      if submitsCancel cfg s then { s with cancelProposeSubmitted := true, proposeSubmitted := true } else s := by
  have hnil : cancelElectors s = [] ↔ s.app.committedOrderVehicleIds.dedup = [] := by
    rw [← List.length_eq_zero_iff, cancelElectors_length, List.length_eq_zero_iff]
  rw [proposeCancel, submitsCancel, proposeCancelGate, cancelElectors_length]
  split
  next hclosed =>
    refine (if_neg fun hsubmits => ?_).symm
    simp only [Bool.and_eq_true, Bool.not_eq_true'] at hsubmits
    simp [hsubmits.1.1.1.1, hsubmits.1.1.1.2] at hclosed
  next hopen =>
    simp only [Bool.or_eq_true, Bool.not_eq_true', not_or, Bool.not_eq_false, Bool.not_eq_true] at hopen
    simp only [hopen, Bool.not_false, Bool.and_self, Bool.true_and, ne_eq, hnil, Bool.and_eq_true, decide_eq_true_eq]
    split
    next hrejected =>
      refine (if_neg fun hsubmits => ?_).symm
      obtain ⟨⟨hcert, helectors⟩, hsize, hquorum⟩ := hsubmits
      rcases hrejected with h | h | h | h
      · exact hcert h
      · exact helectors h
      · exact absurd hsize (not_le.mpr h)
      · exact absurd hquorum (not_le.mpr h)
    next hpassed =>
      simp only [not_or, not_lt] at hpassed
      exact (if_pos ⟨⟨hpassed.1, hpassed.2.1⟩, hpassed.2.2⟩).symm

lemma proposeAll_submitted {candidate : OrderCandidate} (h : (proposeAll cfg s engine cars).2 = some candidate) :
    s.app.cancelConsensusPending = false ∧ s.proposeSubmitted = false ∧
      (proposeAll cfg s engine cars).1 = { s with proposeSubmitted := true } := by
  rw [proposeAll] at h ⊢
  dsimp only at h
  repeat' split at h
  any_goals (simp at h; done)
  next hpending hrollback hinitiated hdone _ _ hcandidate hepoch hprimary hinstalled hpacked =>
    rw [Bool.or_eq_true, not_or, Bool.not_eq_true] at hdone
    refine ⟨by simpa using hpending, hdone.1, ?_⟩
    rw [if_neg hpending, if_neg hrollback, if_neg hinitiated, if_neg (by simpa [hdone.1] using hdone.2), hcandidate]
    dsimp only
    rw [if_neg hepoch, if_neg hprimary, if_neg hinstalled, if_neg hpacked]

lemma proposeAll_again (hsubmitted : s.proposeSubmitted = true) : (proposeAll cfg s engine cars).2 = none := by
  cases hresult : (proposeAll cfg s engine cars).2 with
  | none => rfl
  | some candidate => exact absurd hsubmitted (by simp [(proposeAll_submitted hresult).2.1])

lemma submitsCancel_open (h : submitsCancel cfg s = true) :
    s.app.cancelConsensusPending = true ∧ s.cancelProposeSubmitted = false := by
  simp only [submitsCancel, Bool.and_eq_true, Bool.not_eq_true'] at h
  exact ⟨h.1.1.1.1, h.1.1.1.2⟩

lemma cancelCall_some {t : Triggered} (h : cancelCall cfg faults expected hash r s = some t) :
    submitsCancel cfg s = true ∧ t = triggerConsensus faults expected hash r (cancelProposal cfg s) := by
  rw [cancelCall] at h
  split at h
  next hsubmits => exact ⟨hsubmits, (Option.some.inj h).symm⟩
  next => cases h

lemma cancelCall_again (hsubmitted : s.cancelProposeSubmitted = true) :
    cancelCall cfg faults expected hash r s = none := by
  rw [cancelCall, if_neg fun h => by simp [(submitsCancel_open h).2] at hsubmitted]

theorem refusedSubmission_never_restored (cfg : RollbackConfig) (faults : ToleratedFaultState) (expected : ℤ)
    (hash : Bytes) (r : Engine.Replica) (s : RollbackState) :
    (∀ t, cancelCall cfg faults expected hash r s = some t → t.rc ≠ 0 →
      EngineRestored r t.replica ∧ ¬FailureRestores r s t (proposeCancel cfg s) ∧
        ∀ hash', cancelCall cfg faults expected hash' t.replica (proposeCancel cfg s) = none) ∧
    ∀ pack engine cars t, orderCall cfg faults expected hash r pack s engine cars = some t → t.rc ≠ 0 →
      EngineRestored r t.replica ∧ ¬FailureRestores r s t (proposeAll cfg s engine cars).1 ∧
        ∀ hash' engine' cars',
          orderCall cfg faults expected hash' t.replica pack (proposeAll cfg s engine cars).1 engine' cars' = none := by
  refine ⟨fun t ht hrc => ?_, fun pack engine cars t ht hrc => ?_⟩
  · obtain ⟨hsubmits, rfl⟩ := cancelCall_some ht
    have hkept := triggerConsensus_failed hrc
    have hflags : proposeCancel cfg s = { s with cancelProposeSubmitted := true, proposeSubmitted := true } := by
      rw [proposeCancel_eq, if_pos hsubmits]
    refine ⟨⟨by rw [hkept], by rw [hkept]⟩, fun hrestores => ?_, fun hash' => ?_⟩
    · have hflag := (hrestores.flags hrc).cancel
      rw [hflags, (submitsCancel_open hsubmits).2] at hflag
      cases hflag
    · exact cancelCall_again (by rw [hflags])
  · obtain ⟨candidate, hcandidate, rfl⟩ := Option.map_eq_some_iff.mp ht
    have hkept := triggerConsensus_failed hrc
    obtain ⟨-, hopen, hflags⟩ := proposeAll_submitted hcandidate
    refine ⟨⟨by rw [hkept], by rw [hkept]⟩, fun hrestores => ?_, fun hash' engine' cars' => ?_⟩
    · have hflag := (hrestores.flags hrc).propose
      rw [hflags, hopen] at hflag
      cases hflag
    · rw [orderCall, proposeAll_again (by rw [hflags])]
      rfl

def threeCarCancel : RollbackState :=
  rollbackRun [.orderDecided (orderDecisionBytes 0 [(0, 0), (1, 0), (2, 1)]), .processOrder false [] (stopped 5),
    .cancelCert 0 (crashCertBytes "0") (stopped 6)]

def fourReplicas : EngineConfig := ⟨3, 4, 10, false⟩

def cancelRefused : Option Triggered :=
  cancelCall fourRollbackCars (configuredFaults fourRollbackCars 4) 4 (ascii "omnet-tx-0") (.initial fourReplicas 3)
    threeCarCancel

theorem refusedSubmission_never_restored_cancel :
    ∃ t, cancelRefused = some t ∧ t.rc = -1 ∧ EngineRestored (.initial fourReplicas 3) t.replica ∧
      ¬FailureRestores (.initial fourReplicas 3) threeCarCancel t (proposeCancel fourRollbackCars threeCarCancel) := by
  have hrc : cancelRefused.map Triggered.rc = some (-1) := by decide +kernel
  obtain ⟨t, ht, hminus⟩ := Option.map_eq_some_iff.mp hrc
  obtain ⟨hengine, hnot, -⟩ := (refusedSubmission_never_restored fourRollbackCars (configuredFaults fourRollbackCars 4) 4
    (ascii "omnet-tx-0") (.initial fourReplicas 3) threeCarCancel).1 t ht (by omega)
  exact ⟨t, ht, hminus, hengine, hnot⟩

-- the gate of proposeCancel passes, the bridge refuses, and the flags stay set
theorem refusedCancel_flags_stay :
    ∃ t, cancelRefused = some t ∧ t.rc = -1 ∧ t.injected = none ∧
      ¬FailureRestores (.initial fourReplicas 3) threeCarCancel t (proposeCancel fourRollbackCars threeCarCancel) := by
  have hrefused : (cancelRefused.map fun t => (t.rc, t.injected)) = some (-1, none) := by decide +kernel
  obtain ⟨t, ht, heq⟩ := Option.map_eq_some_iff.mp hrefused
  obtain ⟨hrc, hinjected⟩ := Prod.mk.inj heq
  refine ⟨t, ht, hrc, hinjected, fun hrestores => ?_⟩
  have hflag := (hrestores.flags (by omega)).cancel
  exact absurd hflag (by decide +kernel)

end V2vBft.Rollback
