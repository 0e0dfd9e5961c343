import V2vBft.Bridge.PreVerify
import V2vBft.Pbft.ForcedViewFacts

namespace V2vBft.Bridge

open Wire Pbft

variable {env : BridgeEnv} {s s' : ConsensusState} {request : Request} {view : ProposalView}

def orderHdr (view : ProposalView) : ProposeHdr := ProposeHdr.read view.data

def orderEntries (view : ProposalView) : List VehicleEntry := entriesOf view.data (orderHdr view).nVehicles

def orderVoters (view : ProposalView) : List ℤ := voterMembers (orderEntries view)

def orderFaults (faults : ToleratedFaultState) (view : ProposalView) : ℤ :=
  if faults.rollbackPerEpoch then
    if view.isRollback then (((orderVoters view).length : ℤ) - 1) / 3
    else rollbackFaultsForMembership faults.toleratedF (orderVoters view).length
  else faults.toleratedF

def orderQuorum (faults : ToleratedFaultState) (view : ProposalView) : ℕ :=
  (bftQuorumSize (orderVoters view).length (orderFaults faults view)).getD 0

structure OrderCandidate (faults : ToleratedFaultState) (view : ProposalView) (candidate : OmnetForcedView) : Prop where
  members : candidate.activeOmnetIds = orderVoters view
  nodup : (orderVoters view).Nodup
  nonempty : orderVoters view ≠ []
  faults_eq : candidate.effectiveF = orderFaults faults view
  primary : candidate.primaryOmnet = (orderHdr view).leaderId
  epoch : candidate.epoch = (orderHdr view).epoch
  active : faultModeActive faults = true

lemma electorateFits_voters {hdr : ProposeHdr} {entries : List VehicleEntry} {expected : ℤ}
    (h : electorateFits hdr entries expected = true) :
    (voterMembers entries).Nodup ∧ voterMembers entries ≠ [] := by
  simp only [electorateFits, Bool.and_eq_true, decide_eq_true_eq, Bool.not_eq_true', List.isEmpty_eq_false_iff] at h
  exact ⟨h.1.1.2, h.1.2⟩

@[simp] lemma candidateView_primary (epoch : ℕ) (leaderId f : ℤ) (members : List ℤ) (o : Bool) :
    (candidateView request epoch leaderId members o f).primaryOmnet = leaderId := rfl

@[simp] lemma candidateView_epoch (epoch : ℕ) (leaderId f : ℤ) (members : List ℤ) (o : Bool) :
    (candidateView request epoch leaderId members o f).epoch = epoch := rfl

lemma candidateView_effectiveF (epoch : ℕ) (leaderId f : ℤ) (members : List ℤ) :
    (candidateView request epoch leaderId members true f).effectiveF = f := by
  simp only [OmnetForcedView.effectiveF, candidateView, if_true]

lemma buildEpochOrderViewCandidate_spec {candidate : OmnetForcedView} {expected : ℤ} {faults : ToleratedFaultState}
    (hk : view.isRollback = false) (hepoch : 0 < (orderHdr view).epoch)
    (h : buildEpochOrderViewCandidate faults (orderHdr view) view.data expected request = some candidate) :
    OrderCandidate faults view candidate := by
  unfold buildEpochOrderViewCandidate at h
  dsimp only at h
  split at h
  next => exact absurd h (by simp)
  next hactive =>
    rw [if_neg hepoch.ne'] at h
    split at h
    next => exact absurd h (by simp)
    next hfits =>
      obtain ⟨hnodup, hne⟩ := electorateFits_voters (by simpa using hfits)
      have hact : faultModeActive faults = true := by simpa using hactive
      split at h
      next hper =>
        split at h
        next hq =>
          obtain rfl := Option.some.inj h
          refine ⟨rfl, hnodup, hne, ?_, candidateView_primary .., candidateView_epoch .., hact⟩
          rw [candidateView_effectiveF, orderFaults, if_pos hper, if_neg (by simp only [hk, Bool.false_eq_true, not_false_iff])]
          rfl
        next => exact absurd h (by simp)
      next hper =>
        split at h
        next hq =>
          obtain rfl := Option.some.inj h
          refine ⟨rfl, hnodup, hne, ?_, candidateView_primary .., candidateView_epoch .., hact⟩
          rw [candidateView_effectiveF, orderFaults, if_neg hper]
        next => exact absurd h (by simp)

lemma buildForcedViewCandidate_spec {candidate : OmnetForcedView} {expected : ℤ} {faults : ToleratedFaultState}
    (h : buildForcedViewCandidate view (orderHdr view) expected faults request = some candidate) :
    OrderCandidate faults view candidate := by
  unfold buildForcedViewCandidate at h
  dsimp only at h
  split at h
  next hcond =>
    simp only [Bool.and_eq_true] at hcond
    obtain ⟨⟨hroll, hact⟩, hfits⟩ := hcond
    obtain ⟨hnodup, hne⟩ := electorateFits_voters hfits
    split at h
    next hper =>
      split at h
      next =>
        obtain rfl := Option.some.inj h
        refine ⟨rfl, hnodup, hne, ?_, candidateView_primary .., candidateView_epoch .., hact⟩
        simp only [OmnetForcedView.effectiveF, candidateView, orderFaults, hper, hroll, if_true]
        exact if_pos (List.length_pos_iff.mpr hne)
      next => exact absurd h (by simp)
    next hper =>
      split at h
      next =>
        obtain rfl := Option.some.inj h
        refine ⟨rfl, hnodup, hne, ?_, candidateView_primary .., candidateView_epoch .., hact⟩
        rw [candidateView_effectiveF, orderFaults, if_neg hper]
      next => exact absurd h (by simp)
  next => exact absurd h (by simp)

lemma installView_normalized {candidate : OmnetForcedView} (h : installView s request candidate = some s') :
    ∃ n, candidate.normalize = some n ∧
      ∃ w, s'.registry.latest = some w ∧ w = { n with seq := w.seq, requestHash := w.requestHash } := by
  rw [installView] at h
  split at h
  · obtain ⟨reg, hreg, rfl⟩ := Option.map_eq_some_iff.mp h
    obtain ⟨n, hn, hlatest⟩ := installForRequest_latest hreg
    exact ⟨n, hn, _, hlatest, rfl⟩
  · obtain ⟨reg, hreg, rfl⟩ := Option.map_eq_some_iff.mp h
    obtain ⟨n, hn, hlatest⟩ := installPending_latest hreg
    exact ⟨n, hn, n, hlatest, rfl⟩

lemma orDrop_accepts {o : Option ConsensusState} (h : orDrop s o = (true, s')) : o = some s' := by
  cases o with
  | none => simp [orDrop] at h
  | some t => simpa [orDrop] using h

lemma orderAdmissible_epochView {raw : Bytes} (hepoch : 0 < (orderHdr view).epoch)
    (h : orderAdmissible env s request raw view = true) :
    view.isRollback = true ∨ (epochView env view request).isSome = true := by
  simp only [orderAdmissible, Bool.and_eq_true, Bool.or_eq_true, decide_eq_true_eq] at h
  have hview := h.1.1.1.1.1.1.1.1.1.1.1
  exact hview.imp (fun h => h.resolve_right hepoch.ne') id

lemma installOrder_candidate (hview : view.isRollback = true ∨ (epochView env view request).isSome = true)
    (hepoch : 0 < (orderHdr view).epoch) (h : installOrder env s request view = (true, s')) :
    ∃ candidate, OrderCandidate env.faults view candidate ∧
      ∃ t, installView s request candidate = some t ∧ t.registry = s'.registry := by
  unfold installOrder at h
  dsimp only at h
  split at h
  next hroll =>
    split at h
    next => exact absurd h (by simp)
    next forced hforced =>
      exact ⟨forced, buildForcedViewCandidate_spec hforced, s', orDrop_accepts h, rfl⟩
  next hroll =>
    have hk : view.isRollback = false := by simpa using hroll
    obtain ⟨active, hactive⟩ := Option.isSome_iff_exists.mp (hview.resolve_left hroll)
    have hbuild : buildEpochOrderViewCandidate env.faults (orderHdr view) view.data env.expected request =
        some active := by
      simpa [epochView, hk, orderHdr] using hactive
    rw [hactive] at h
    obtain ⟨t, ht, rfl⟩ := Option.map_eq_some_iff.mp (orDrop_accepts h)
    refine ⟨active, buildEpochOrderViewCandidate_spec hk hepoch hbuild, t, ht, ?_⟩
    split
    · exact (handOver_registry ..).symm
    · rfl

structure AcceptsOrder (env : BridgeEnv) (s : ConsensusState) (request : Request) (view : ProposalView)
    (s' : ConsensusState) : Prop where
  type : request.type = .prePrepare ∨ request.type = .newTxns
  payload : ∃ payload rest, request.data = .batch (payload :: rest) ∧ unwrapRollbackIfPresent payload = some view
  order : view.isCancel = false
  accepted : preVerify env s request = (true, s')

lemma AcceptsOrder.admissible (h : AcceptsOrder env s request view s') : ∃ payload rest,
    request.data = .batch (payload :: rest) ∧ unwrapRollbackIfPresent payload = some view ∧
      orderAdmissible env s request payload view = true ∧ installOrder env s request view = (true, s') := by
  obtain ⟨payload, rest, hdata, hunwrap⟩ := h.payload
  refine ⟨payload, rest, hdata, hunwrap, ?_⟩
  have hacc := h.accepted
  have htype : ¬(request.type ≠ .prePrepare ∧ request.type ≠ .newTxns) := by
    rcases h.type with ht | ht <;> simp [ht]
  simp only [preVerify, if_neg htype, hdata, preVerifyPayload, hunwrap, h.order] at hacc
  rw [if_neg (by simp)] at hacc
  split at hacc
  next hadm => exact ⟨hadm, hacc⟩
  next => exact absurd hacc (by simp)

lemma AcceptsOrder.installed (h : AcceptsOrder env s request view s') (hepoch : 0 < (orderHdr view).epoch)
    {w : OmnetForcedView} (hw : s'.registry.latest = some w) :
    w.activeOmnetIds.toFinset = (orderVoters view).toFinset ∧ w.quorum = orderQuorum env.faults view ∧
      (orderVoters view).Nodup ∧ orderVoters view ≠ [] ∧
      bftQuorumSize (orderVoters view).length (orderFaults env.faults view) = some w.quorum ∧
      faultModeActive env.faults = true := by
  obtain ⟨payload, rest, hdata, hunwrap, hadm, hacc⟩ := h.admissible
  obtain ⟨candidate, hc, t, ht, hreg⟩ := installOrder_candidate (orderAdmissible_epochView hepoch hadm) hepoch hacc
  obtain ⟨n, hn, w', hw', hkept⟩ := installView_normalized ht
  have hids := congrArg OmnetForcedView.activeOmnetIds hkept
  have hquorum := congrArg OmnetForcedView.quorum hkept
  dsimp only at hids hquorum
  rw [hreg, hw] at hw'
  obtain rfl := Option.some.inj hw'
  obtain ⟨hperm, -, -, hq⟩ := normalize_spec (hc.members ▸ hc.nodup) hn
  rw [hc.members, hc.faults_eq] at hq
  rw [hids, hquorum]
  refine ⟨?_, by rw [orderQuorum, hq]; rfl, hc.nodup, hc.nonempty, hq, hc.active⟩
  rw [← hc.members]
  exact List.toFinset_eq_of_perm _ _ hperm

end V2vBft.Bridge
