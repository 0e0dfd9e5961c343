import V2vBft.Rollback.CancelAdoption
import V2vBft.Bridge.ViewCandidate

namespace V2vBft.Rollback

open Wire App Bridge

-- the bridge's faults as ResdbOmnetSetToleratedFaults leaves them at start-up
def configuredFaults (cfg : RollbackConfig) (expected : ℕ) : ToleratedFaultState :=
  if 0 ≤ cfg.toleratedFaults ∧ 0 < expected ∧ (Pbft.bftQuorumSize expected cfg.toleratedFaults).isSome then
    ⟨true, cfg.toleratedFaults, cfg.rollbackFaultModePerEpoch⟩
  else ⟨false, -1, cfg.rollbackFaultModePerEpoch⟩

def proposeCancelGate (cfg : RollbackConfig) (electors : List ℤ) : Bool :=
  let quorum := bftQuorumSize cfg.totalVehicles cfg.faults
  decide (quorum ≤ electors.length) && decide (0 ≤ quorum)

lemma proposeCancel_submits {cfg : RollbackConfig} {s : RollbackState} (hpending : s.app.cancelConsensusPending = true)
    (hnew : s.cancelProposeSubmitted = false) (hcert : s.cancelCertBytes ≠ []) (hsome : s.app.committedOrderVehicleIds ≠ []) :
    (proposeCancel cfg s).cancelProposeSubmitted = proposeCancelGate cfg s.app.committedOrderVehicleIds.dedup := by
  have helectors : s.app.committedOrderVehicleIds.dedup ≠ [] := fun h =>
    hsome ((List.dedup_eq_nil _).mp h)
  rw [proposeCancel, proposeCancelGate]
  rw [hpending, hnew, if_neg (by simp)]
  split
  next hrejected =>
    rw [hnew]
    simp only [hcert, helectors, false_or] at hrejected
    simp only [Bool.false_eq, Bool.and_eq_false_iff, decide_eq_false_iff_not]
    omega
  next hpassed =>
    simp only [hcert, helectors, false_or] at hpassed
    simp only [Bool.true_eq, Bool.and_eq_true, decide_eq_true_eq]
    omega

structure CommittedElectorate (expected : ℕ) where
  ids : List ℤ
  distinct : ids.Nodup
  range : ∀ id ∈ ids, inRange expected id = true

variable {cfg : RollbackConfig} {expected : ℕ} {E : CommittedElectorate expected} {view : ProposalView}
  {request : Pbft.Request}

structure CancelWith (E : CommittedElectorate expected) (view : ProposalView) (request : Pbft.Request) : Prop where
  kind : view.isCancel = true
  electors : view.cancelElectors = E.ids
  leader : view.cancelLeaderId ∈ E.ids
  sender : senderIsLeader request view.cancelLeaderId = true

-- the size lies on one side of both thresholds, where there are two
def SameSide (cfg : RollbackConfig) (expected n : ℕ) : Prop :=
  if 0 ≤ cfg.toleratedFaults ∧ cfg.toleratedFaults ≤ ((expected : ℤ) - 1) / 3 then
    if cfg.toleratedFaults ≤ (cfg.totalVehicles - 1) / 3 then
      (cfg.totalVehicles + cfg.toleratedFaults + 2) / 2 ≤ n ↔ 3 * cfg.toleratedFaults + 1 ≤ n
    else (n : ℤ) ≤ 3 * cfg.toleratedFaults
  else ¬(0 < cfg.totalVehicles ∧ cfg.faults ≤ (cfg.totalVehicles - 1) / 3 ∧
    (cfg.totalVehicles + cfg.faults + 2) / 2 ≤ n)

lemma proposeCancelGate_iff (electors : List ℤ) :
    proposeCancelGate cfg electors = true ↔ 0 < cfg.totalVehicles ∧ 0 ≤ cfg.faults ∧
      cfg.faults ≤ (cfg.totalVehicles - 1) / 3 ∧ (cfg.totalVehicles + cfg.faults + 2) / 2 ≤ electors.length := by
  rw [proposeCancelGate, bftQuorumSize]
  simp only [Bool.and_eq_true, decide_eq_true_eq]
  by_cases hpos : 0 < cfg.totalVehicles ∧ 0 ≤ cfg.faults
  · have hdiv : (cfg.totalVehicles - 1).tdiv 3 = (cfg.totalVehicles - 1) / 3 := Int.tdiv_eq_ediv_of_nonneg (by omega)
    have hhalf : (cfg.totalVehicles + cfg.faults + 2).tdiv 2 = (cfg.totalVehicles + cfg.faults + 2) / 2 :=
      Int.tdiv_eq_ediv_of_nonneg (by omega)
    rw [hdiv, hhalf]
    split
    · omega
    · omega
  · rw [if_pos (by omega)]
    omega

lemma faults_nonneg : 0 < cfg.totalVehicles → 0 ≤ cfg.faults := by
  intro hpos
  rw [RollbackConfig.faults, anchoredFaults]
  split
  · omega
  · exact Int.tdiv_nonneg (by omega) (by norm_num)

lemma quorum_isSome_iff :
    0 ≤ cfg.toleratedFaults ∧ 0 < expected ∧ (Pbft.bftQuorumSize expected cfg.toleratedFaults).isSome = true ↔
      0 ≤ cfg.toleratedFaults ∧ cfg.toleratedFaults ≤ ((expected : ℤ) - 1) / 3 := by
  rw [Pbft.bftQuorumSize]
  by_cases hpos : 0 < expected
  · rw [if_neg hpos.ne']
    split
    · exact iff_of_false (by simp) (by omega)
    · exact iff_of_true ⟨by omega, hpos, rfl⟩ (by omega)
  · exact iff_of_false (fun h => hpos h.2.1) (by omega)

lemma configuredFaults_active :
    faultModeActive (configuredFaults cfg expected) = true ↔
      0 ≤ cfg.toleratedFaults ∧ cfg.toleratedFaults ≤ ((expected : ℤ) - 1) / 3 := by
  rw [← quorum_isSome_iff, configuredFaults]
  split
  next hset => exact iff_of_true (by simp [faultModeActive, hset.1]) hset
  next hunset => exact iff_of_false (by simp [faultModeActive]) hunset

lemma configuredFaults_tolerated (h : faultModeActive (configuredFaults cfg expected) = true) :
    (configuredFaults cfg expected).toleratedF = cfg.toleratedFaults := by
  rw [configuredFaults] at h ⊢
  split
  · rfl
  next hunset =>
    rw [if_neg hunset] at h
    simp [faultModeActive] at h

lemma CancelWith.accepts_iff (h : CancelWith E view request) :
    (buildCancelViewCandidate view expected (configuredFaults cfg expected) request).isSome = true ↔
      (0 ≤ cfg.toleratedFaults ∧ cfg.toleratedFaults ≤ ((expected : ℤ) - 1) / 3) ∧
        3 * cfg.toleratedFaults + 1 ≤ E.ids.length := by
  have hperm : (sortIds E.ids).Perm E.ids := List.perm_insertionSort _ _
  have hdistinct : (sortIds E.ids).Nodup := hperm.nodup_iff.mpr E.distinct
  have hrange : (sortIds E.ids).all (inRange expected) = true :=
    List.all_eq_true.mpr fun id hid => E.range id (hperm.subset hid)
  have hleader : view.cancelLeaderId ∈ sortIds E.ids := hperm.symm.subset h.leader
  have hinRange : inRange expected view.cancelLeaderId = true := E.range _ h.leader
  have hne : E.ids.isEmpty = false := List.isEmpty_eq_false_iff.mpr (List.ne_nil_of_mem h.leader)
  rw [← configuredFaults_active, buildCancelViewCandidate]
  rw [h.electors, h.kind, hinRange, hne, decide_eq_true hdistinct, hrange, decide_eq_true hleader, h.sender,
    hperm.length_eq]
  cases hactive : faultModeActive (configuredFaults cfg expected) with
  | false => simp
  | true =>
    have hf := (configuredFaults_active.mp hactive).1
    rw [configuredFaults_tolerated hactive]
    by_cases hsize : 3 * cfg.toleratedFaults + 1 ≤ (E.ids.length : ℤ)
    · simp [hsize, Pbft.bftQuorumSize_isSome hf hsize]
    · simp [hsize]

theorem cancelGate_agrees_iff (cfg : RollbackConfig) (expected : ℕ) (E : CommittedElectorate expected)
    (view : ProposalView) (request : Pbft.Request) (h : CancelWith E view request) :
    (proposeCancelGate cfg E.ids = true ↔
      (buildCancelViewCandidate view expected (configuredFaults cfg expected) request).isSome = true) ↔
      SameSide cfg expected E.ids.length := by
  have hfaults : 0 ≤ cfg.toleratedFaults → cfg.faults = cfg.toleratedFaults := fun hf => by
    rw [RollbackConfig.faults, anchoredFaults, if_pos hf]
  have hnonneg := @faults_nonneg cfg
  rw [h.accepts_iff, proposeCancelGate_iff, SameSide]
  split
  next hset =>
    rw [hfaults hset.1] at hnonneg ⊢
    split
    · omega
    · omega
  next hunset =>
    have hno : ¬((0 ≤ cfg.toleratedFaults ∧ cfg.toleratedFaults ≤ ((expected : ℤ) - 1) / 3) ∧
        3 * cfg.toleratedFaults + 1 ≤ (E.ids.length : ℤ)) := fun hand => hunset hand.1
    rw [iff_false_right hno]
    exact not_congr ⟨fun hgate => ⟨hgate.1, hgate.2.2⟩, fun hgate => ⟨hgate.1, hnonneg hgate.1, hgate.2⟩⟩

def wholeView : CommittedElectorate 4 := ⟨[0, 1, 2, 3], by decide, by decide⟩

def threeOfFour : CommittedElectorate 4 := ⟨[0, 1, 2], by decide, by decide⟩

def cancelOf (leaderId : ℤ) (electors : List ℤ) : ProposalView :=
  { ProposalView.initial [] with kind := .cancel, cancelLeaderId := leaderId, cancelElectors := electors }

def freshRequest : Pbft.Request := ⟨.newTxns, 0, 0, 0, ascii "omnet-tx-0", .batch [], false, false⟩

theorem cancelGate_agrees_wholeView :
    proposeCancelGate fourRollbackCars wholeView.ids = true ↔
      (buildCancelViewCandidate (cancelOf 2 wholeView.ids) (4 : ℕ) (configuredFaults fourRollbackCars 4)
        freshRequest).isSome = true :=
  (cancelGate_agrees_iff fourRollbackCars 4 wholeView (cancelOf 2 wholeView.ids) freshRequest
    ⟨rfl, rfl, by decide, by decide⟩).mpr (by unfold SameSide; decide)

-- three of four cars are a quorum of the configured view and too few for a view of their own
theorem threeOfFour_proposed_rejected :
    CancelWith threeOfFour (cancelOf 2 threeOfFour.ids) freshRequest ∧
      proposeCancelGate fourRollbackCars threeOfFour.ids = true ∧
      (∀ s : RollbackState, s.app.cancelConsensusPending = true → s.cancelProposeSubmitted = false →
        s.cancelCertBytes ≠ [] → s.app.committedOrderVehicleIds = threeOfFour.ids →
          (proposeCancel fourRollbackCars s).cancelProposeSubmitted = true) ∧
      buildCancelViewCandidate (cancelOf 2 threeOfFour.ids) (4 : ℕ) (configuredFaults fourRollbackCars 4)
        freshRequest = none := by
  refine ⟨⟨rfl, rfl, by decide, by decide⟩, by decide, fun s hpending hnew hcert helectors => ?_, by decide⟩
  rw [proposeCancel_submits hpending hnew hcert (by simp [helectors, threeOfFour]), helectors]
  decide

end V2vBft.Rollback
