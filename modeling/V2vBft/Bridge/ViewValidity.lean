import V2vBft.Bridge.CancelValidity
import V2vBft.Bridge.CrossLeader

namespace V2vBft.Bridge

open Wire Pbft

variable {faults : ToleratedFaultState} {view : ProposalView} {hdr : ProposeHdr} {expected : ℤ} {request : Request}
  {candidate : OmnetForcedView}

inductive Builder
  | cancel
  | rollback
  | toleratedFault
  | epochOrder
  deriving DecidableEq, Repr

def Builder.build (b : Builder) (faults : ToleratedFaultState) (view : ProposalView) (hdr : ProposeHdr) (expected : ℤ)
    (request : Request) : Option OmnetForcedView :=
  match b with
  | .cancel => buildCancelViewCandidate view expected faults request
  | .rollback => buildForcedViewCandidate view hdr expected faults request
  | .toleratedFault => buildToleratedFaultViewCandidate faults hdr view.data expected request
  | .epochOrder => buildEpochOrderViewCandidate faults hdr view.data expected request

def voterCount (view : ProposalView) (hdr : ProposeHdr) : ℕ := (voterMembers (entriesOf view.data hdr.nVehicles)).length

-- anchored_f, rollback_f, tolerated_f and epoch_f of the source
def Builder.computedF (b : Builder) (faults : ToleratedFaultState) (view : ProposalView) (hdr : ProposeHdr) : ℤ :=
  match b with
  | .cancel => faults.toleratedF
  | .toleratedFault => faults.toleratedF
  | .rollback =>
    if faults.rollbackPerEpoch then rollbackFaultsForMembership faults.toleratedF (voterCount view hdr)
    else faults.toleratedF
  | .epochOrder =>
    if decide (hdr.epoch ≠ 0) && faults.rollbackPerEpoch then
      rollbackFaultsForMembership faults.toleratedF (voterCount view hdr)
    else faults.toleratedF

structure SoundView (expected : ℤ) (view : OmnetForcedView) : Prop where
  distinct : view.activeOmnetIds.Nodup
  sorted : view.activeOmnetIds.Pairwise (· ≤ ·)
  range : ∀ e ∈ view.activeOmnetIds, 0 ≤ e ∧ e < expected
  primary : view.primaryOmnet ∈ view.activeOmnetIds
  size : 3 * view.f + 1 ≤ view.activeOmnetIds.length
  overlap : view.f + 1 ≤ 2 * view.quorum - view.activeOmnetIds.length
  available : view.quorum ≤ view.activeOmnetIds.length - view.f

structure InstallsAs (request : Request) (candidate n : OmnetForcedView) : Prop where
  normalize : candidate.normalize = some n
  latest : ∀ s s', installView s request candidate = some s' →
    ∃ w, s'.registry.latest = some w ∧ w = { n with seq := w.seq, requestHash := w.requestHash }

def ValidForcedView (expected computedF : ℤ) (request : Request) (candidate : OmnetForcedView) : Prop :=
  ∃ n, InstallsAs request candidate n ∧ SoundView expected n ∧ n.f = computedF ∧
    bftQuorumSize n.activeOmnetIds.length computedF = some n.quorum

-- the rollback builder hands its f on only where Normalize would compute the same one
def Builder.keepsFaults (b : Builder) (faults : ToleratedFaultState) (view : ProposalView) (hdr : ProposeHdr) : Prop :=
  b = .rollback → faults.rollbackPerEpoch = true → ((voterCount view hdr : ℤ) - 1) / 3 ≤ faults.toleratedF

structure Built (expected : ℤ) (candidate : OmnetForcedView) : Prop where
  distinct : candidate.activeOmnetIds.Nodup
  sorted : candidate.activeOmnetIds.Pairwise (· ≤ ·)
  range : ∀ e ∈ candidate.activeOmnetIds, 0 ≤ e ∧ e < expected
  primary : candidate.primaryOmnet ∈ candidate.activeOmnetIds
  faults : 0 ≤ candidate.effectiveF ∧ candidate.effectiveF ≤ ((candidate.activeOmnetIds.length : ℤ) - 1) / 3

lemma sortIds_pairwise (ids : List ℤ) : (sortIds ids).Pairwise (· ≤ ·) := List.pairwise_insertionSort _ ids

lemma Built.normalize (h : Built expected candidate) :
    ∃ n, InstallsAs request candidate n ∧ SoundView expected n ∧ n.f = candidate.effectiveF ∧
      bftQuorumSize n.activeOmnetIds.length n.f = some n.quorum := by
  have hids : (candidate.activeOmnetIds.insertionSort (· ≤ ·)).dedup = candidate.activeOmnetIds := by
    rw [List.Pairwise.insertionSort_eq h.sorted, h.distinct.dedup]
  have hpos : 0 < candidate.activeOmnetIds.length := List.length_pos_of_mem h.primary
  obtain ⟨hf, hmax⟩ := h.faults
  obtain ⟨q, hq⟩ : ∃ q, bftQuorumSize candidate.activeOmnetIds.length candidate.effectiveF = some q := by
    rw [bftQuorumSize, if_neg hpos.ne', if_neg (by omega)]
    exact ⟨_, rfl⟩
  obtain ⟨-, hsize, hquorum⟩ := bftQuorumSize_pos hpos hq
  have hnormal : candidate.normalize = some
      { candidate with f := candidate.effectiveF, quorum := q } := by
    rw [OmnetForcedView.normalize, hids, ← OmnetForcedView.effectiveF, hq]
    rfl
  refine ⟨_, ⟨hnormal, fun s s' hinstall => ?_⟩,
    ⟨h.distinct, h.sorted, h.range, h.primary, by omega, ?_, ?_⟩, rfl, hq⟩
  · obtain ⟨n, hn, hlatest⟩ := installView_normalized hinstall
    obtain rfl := Option.some.inj (hnormal.symm.trans hn)
    exact hlatest
  · dsimp only
    omega
  · dsimp only
    omega

lemma built_of_candidate {epoch : ℕ} {leaderId f : ℤ} {ids : List ℤ} {fOverride : Bool} (hdistinct : (sortIds ids).Nodup)
    (hrange : ∀ e ∈ ids, 0 ≤ e ∧ e < expected) (hprimary : leaderId ∈ sortIds ids)
    (hf : fOverride = true → 0 ≤ f ∧ f ≤ (((sortIds ids).length : ℤ) - 1) / 3) :
    Built expected (candidateView request epoch leaderId (sortIds ids) fOverride f) where
  distinct := hdistinct
  sorted := sortIds_pairwise ids
  range := fun e he => hrange e ((List.mem_insertionSort _).mp he)
  primary := hprimary
  faults := by
    have hpos : 0 < (sortIds ids).length := List.length_pos_of_mem hprimary
    cases fOverride with
    | true => exact hf rfl
    | false =>
      have heff : (candidateView request epoch leaderId (sortIds ids) false f).effectiveF =
          (((sortIds ids).length : ℤ) - 1) / 3 := by
        rw [OmnetForcedView.effectiveF]
        exact if_pos hpos
      rw [heff]
      refine ⟨?_, le_refl _⟩
      omega

lemma faultModeActive_nonneg (h : faultModeActive faults = true) : 0 ≤ faults.toleratedF := by
  simp only [faultModeActive, Bool.and_eq_true, decide_eq_true_eq] at h
  exact h.2

lemma inRange_iff {id : ℤ} : inRange expected id = true ↔ 0 ≤ id ∧ id < expected := by simp [inRange]

lemma rollbackFaultsForMembership_bounds {configuredF : ℤ} {n : ℕ} (hn : 0 < n) (hf : 0 ≤ configuredF) :
    0 ≤ rollbackFaultsForMembership configuredF n ∧ rollbackFaultsForMembership configuredF n ≤ ((n : ℤ) - 1) / 3 := by
  rw [rollbackFaultsForMembership, if_neg hn.ne']
  dsimp only
  rw [if_pos hf]
  omega

lemma buildCancelViewCandidate_built (h : buildCancelViewCandidate view expected faults request = some candidate) :
    Built expected candidate ∧ candidate.effectiveF = faults.toleratedF := by
  rw [buildCancelViewCandidate] at h
  split at h
  next hcond =>
    obtain rfl := Option.some.inj h
    simp only [Bool.and_eq_true, decide_eq_true_eq, List.all_eq_true] at hcond
    obtain ⟨⟨⟨⟨⟨⟨⟨⟨⟨-, hactive⟩, -⟩, -⟩, hdistinct⟩, hrange⟩, hleader⟩, hmin⟩, -⟩, -⟩ := hcond
    have hf := faultModeActive_nonneg hactive
    refine ⟨built_of_candidate hdistinct (fun e he => ?_) hleader fun _ => ⟨hf, by omega⟩, candidateView_effectiveF ..⟩
    exact inRange_iff.mp (hrange e ((List.mem_insertionSort _).mpr he))
  next => exact absurd h (by simp)

lemma electorateFits_built {entries : List VehicleEntry} (h : electorateFits hdr entries expected = true) :
    (voterMembers entries).Nodup ∧ (∀ e ∈ (entries.filter isSigned).map VehicleEntry.replicaId, 0 ≤ e ∧ e < expected) ∧
      hdr.leaderId ∈ voterMembers entries := by
  simp only [electorateFits, Bool.and_eq_true, decide_eq_true_eq, List.all_eq_true] at h
  obtain ⟨⟨⟨⟨-, hrange⟩, hdistinct⟩, -⟩, hleader⟩ := h
  refine ⟨hdistinct, fun e he => ?_, hleader⟩
  obtain ⟨entry, hentry, rfl⟩ := List.mem_map.mp he
  exact inRange_iff.mp (hrange entry (List.mem_of_mem_filter hentry))

lemma buildForcedViewCandidate_built (h : buildForcedViewCandidate view hdr expected faults request = some candidate) :
    Built expected candidate ∧ (0 ≤ faults.toleratedF ∧ 0 < voterCount view hdr) ∧ candidate.effectiveF =
      if faults.rollbackPerEpoch then ((voterCount view hdr : ℤ) - 1) / 3 else faults.toleratedF := by
  rw [buildForcedViewCandidate] at h
  split at h
  next hcond =>
    simp only [Bool.and_eq_true] at hcond
    obtain ⟨⟨-, hactive⟩, hfits⟩ := hcond
    have hf := faultModeActive_nonneg hactive
    obtain ⟨hdistinct, hrange, hleader⟩ := electorateFits_built hfits
    have hpos : 0 < (voterMembers (entriesOf view.data hdr.nVehicles)).length := List.length_pos_of_mem hleader
    split at h
    next hper =>
      split at h
      next =>
        obtain rfl := Option.some.inj h
        refine ⟨built_of_candidate hdistinct hrange hleader (by simp), ⟨hf, hpos⟩, ?_⟩
        rw [if_pos hper, OmnetForcedView.effectiveF]
        exact if_pos hpos
      next => exact absurd h (by simp)
    next hper =>
      split at h
      next hcond =>
        obtain rfl := Option.some.inj h
        simp only [Bool.and_eq_true, decide_eq_true_eq] at hcond
        obtain ⟨⟨hmin, -⟩, -⟩ := hcond
        refine ⟨built_of_candidate hdistinct hrange hleader fun _ => ⟨hf, ?_⟩, ⟨hf, hpos⟩, ?_⟩
        · rw [voterMembers] at hmin
          omega
        · rw [if_neg hper, candidateView_effectiveF]
      next => exact absurd h (by simp)
  next => exact absurd h (by simp)

lemma buildToleratedFaultViewCandidate_built
    (h : buildToleratedFaultViewCandidate faults hdr view.data expected request = some candidate) :
    Built expected candidate ∧ candidate.effectiveF = faults.toleratedF := by
  rw [buildToleratedFaultViewCandidate] at h
  split at h
  next hcond =>
    obtain rfl := Option.some.inj h
    simp only [Bool.and_eq_true, decide_eq_true_eq, List.all_eq_true] at hcond
    obtain ⟨⟨⟨⟨⟨⟨⟨⟨hactive, -⟩, -⟩, -⟩, hrange⟩, hdistinct⟩, hleader⟩, hmax⟩, -⟩ := hcond
    refine ⟨built_of_candidate hdistinct (fun e he => ?_) hleader fun _ => ⟨faultModeActive_nonneg hactive, hmax⟩,
      candidateView_effectiveF ..⟩
    obtain ⟨entry, hentry, rfl⟩ := List.mem_map.mp he
    exact inRange_iff.mp (hrange entry hentry)
  next => exact absurd h (by simp)

lemma buildEpochOrderViewCandidate_built
    (h : buildEpochOrderViewCandidate faults hdr view.data expected request = some candidate) :
    Built expected candidate ∧ candidate.effectiveF = Builder.epochOrder.computedF faults view hdr := by
  rw [buildEpochOrderViewCandidate] at h
  dsimp only at h
  split at h
  next => exact absurd h (by simp)
  next hactive =>
    have hf : 0 ≤ faults.toleratedF := faultModeActive_nonneg (by simpa using hactive)
    split at h
    next hepoch =>
      obtain ⟨hbuilt, heff⟩ := buildToleratedFaultViewCandidate_built h
      exact ⟨hbuilt, by rw [heff, Builder.computedF]; simp [hepoch]⟩
    next hepoch =>
      split at h
      next => exact absurd h (by simp)
      next hfits =>
        obtain ⟨hdistinct, hrange, hleader⟩ := electorateFits_built (by simpa using hfits)
        have hpos : 0 < (voterMembers (entriesOf view.data hdr.nVehicles)).length := List.length_pos_of_mem hleader
        split at h
        next hper =>
          split at h
          next =>
            obtain rfl := Option.some.inj h
            refine ⟨built_of_candidate hdistinct hrange hleader fun _ => rollbackFaultsForMembership_bounds hpos hf, ?_⟩
            rw [candidateView_effectiveF, Builder.computedF]
            simp [hepoch, hper, voterCount]
          next => exact absurd h (by simp)
        next hper =>
          split at h
          next hcond =>
            obtain rfl := Option.some.inj h
            simp only [Bool.and_eq_true, decide_eq_true_eq] at hcond
            obtain ⟨⟨hmin, -⟩, -⟩ := hcond
            refine ⟨built_of_candidate hdistinct hrange hleader fun _ => ⟨hf, ?_⟩, ?_⟩
            · rw [voterMembers] at hmin
              omega
            · rw [candidateView_effectiveF, Builder.computedF]
              simp [hper]
          next => exact absurd h (by simp)

lemma build_built {b : Builder} (h : b.build faults view hdr expected request = some candidate) :
    Built expected candidate ∧ (candidate.effectiveF = b.computedF faults view hdr ↔ b.keepsFaults faults view hdr) := by
  cases b with
  | cancel =>
    obtain ⟨hbuilt, heff⟩ := buildCancelViewCandidate_built h
    exact ⟨hbuilt, iff_of_true heff (by simp [Builder.keepsFaults])⟩
  | toleratedFault =>
    obtain ⟨hbuilt, heff⟩ := buildToleratedFaultViewCandidate_built h
    exact ⟨hbuilt, iff_of_true heff (by simp [Builder.keepsFaults])⟩
  | epochOrder =>
    obtain ⟨hbuilt, heff⟩ := buildEpochOrderViewCandidate_built h
    exact ⟨hbuilt, iff_of_true heff (by simp [Builder.keepsFaults])⟩
  | rollback =>
    obtain ⟨hbuilt, ⟨hf, hpos⟩, heff⟩ := buildForcedViewCandidate_built h
    refine ⟨hbuilt, ?_⟩
    rw [heff, Builder.computedF, Builder.keepsFaults]
    by_cases hper : faults.rollbackPerEpoch = true
    · simp only [hper, if_true, forall_const, rollbackFaultsForMembership, hpos.ne', if_false, ge_iff_le, hf]
      exact eq_comm.trans min_eq_right_iff
    · simp [hper]

theorem forcedView_valid_iff (b : Builder) (faults : ToleratedFaultState) (view : ProposalView) (hdr : ProposeHdr)
    (expected : ℤ) (request : Request) (candidate : OmnetForcedView)
    (h : b.build faults view hdr expected request = some candidate) :
    (∃ n, InstallsAs request candidate n ∧ SoundView expected n) ∧
      (ValidForcedView expected (b.computedF faults view hdr) request candidate ↔ b.keepsFaults faults view hdr) := by
  obtain ⟨hbuilt, hfaults⟩ := build_built h
  obtain ⟨n, hinstalls, hsound, hf, hquorum⟩ := @Built.normalize expected request candidate hbuilt
  refine ⟨⟨n, hinstalls, hsound⟩, ?_⟩
  rw [← hfaults]
  constructor
  · rintro ⟨n', hinstalls', -, hf', -⟩
    obtain rfl := Option.some.inj (hinstalls.normalize.symm.trans hinstalls'.normalize)
    exact hf.symm.trans hf'
  · intro heq
    exact ⟨n, hinstalls, hsound, hf.trans heq, by rw [← heq, ← hf]; exact hquorum⟩

def perEpochOne : ToleratedFaultState := ⟨true, 1, true⟩

def sevenCars : List ℕ := [0, 1, 2, 3, 4, 5, 6]

def sevenCarView (fOverride : Bool) (f : ℤ) : OmnetForcedView where
  epoch := 1
  seq := 3
  requestHash := ascii "omnet-tx-3"
  primaryOmnet := 0
  activeOmnetIds := [0, 1, 2, 3, 4, 5, 6]
  fOverride := fOverride
  f := f
  quorum := 1

theorem epochOrder_view_valid :
    ValidForcedView 8 1 (listingRequest 0 sevenCars) (sevenCarView true 1) :=
  (forcedView_valid_iff .epochOrder perEpochOne (listingView 0 sevenCars) (orderHdr (listingView 0 sevenCars)) 8
    (listingRequest 0 sevenCars) (sevenCarView true 1) (by decide +kernel)).2.mpr (by simp [Builder.keepsFaults])

def rollbackOf (inner : Bytes) : Bytes :=
  let just := putU32 0 ++ putU64 9 ++ zeros 32 ++ putU32 0
  putU32 1 ++ putU32 0 ++ zeros 4 ++ putU32 just.length ++ just ++ inner

def rollbackView (inner : Bytes) : ProposalView :=
  { ProposalView.initial (rollbackOf inner) with
    data := inner
    kind := .rollback
    rollback := ⟨1, 0, 0, 48⟩ }

-- seven voters and one tolerated fault: the builder computes one, Normalize installs two
theorem rollback_view_faults_differ :
    let inner := listingPayload 0 sevenCars
    unwrapRollbackIfPresent (rollbackOf inner) = some (rollbackView inner) ∧
      Builder.rollback.build perEpochOne (rollbackView inner) (orderHdr (rollbackView inner)) 8
        (listingRequest 0 sevenCars) = some (sevenCarView false 0) ∧
      Builder.rollback.computedF perEpochOne (rollbackView inner) (orderHdr (rollbackView inner)) = 1 ∧
      ¬ValidForcedView 8 1 (listingRequest 0 sevenCars) (sevenCarView false 0) := by
  refine ⟨by decide +kernel, by decide +kernel, by decide +kernel, ?_⟩
  rintro ⟨n, hinstalls, -, hf, -⟩
  have hnormal : (sevenCarView false 0).normalize = some { sevenCarView false 2 with quorum := 5 } := by decide +kernel
  obtain rfl := Option.some.inj (hnormal.symm.trans hinstalls.normalize)
  exact absurd hf (by decide)

end V2vBft.Bridge
