import V2vBft.Bridge.OrderQuorum
import V2vBft.Library.Quorum

namespace V2vBft.Bridge

open Wire Pbft Library.Quorum

theorem crossLeader_overlap_iff (env₁ env₂ : BridgeEnv) (s₁ s₂ s₁' s₂' : ConsensusState)
    (request₁ request₂ : Request) (view₁ view₂ : ProposalView) (w₁ w₂ : OmnetForcedView)
    (hfaults : env₂.faults = env₁.faults)
    (h₁ : AcceptsOrder env₁ s₁ request₁ view₁ s₁') (h₂ : AcceptsOrder env₂ s₂ request₂ view₂ s₂')
    (hepoch : 0 < (orderHdr view₁).epoch) (hsame : (orderHdr view₂).epoch = (orderHdr view₁).epoch)
    (hw₁ : s₁'.registry.latest = some w₁) (hw₂ : s₂'.registry.latest = some w₂) :
    Overlap w₁.activeOmnetIds.toFinset w₂.activeOmnetIds.toFinset w₁.quorum w₂.quorum
        env₁.faults.toleratedF.toNat ↔
      ((orderVoters view₁).toFinset ∪ (orderVoters view₂).toFinset).card + env₁.faults.toleratedF.toNat <
        orderQuorum env₁.faults view₁ + orderQuorum env₁.faults view₂ := by
  obtain ⟨hm₁, hq₁, hn₁, hne₁, hb₁, -⟩ := h₁.installed hepoch hw₁
  obtain ⟨hm₂, hq₂, hn₂, hne₂, hb₂, -⟩ := h₂.installed (hsame ▸ hepoch) hw₂
  have hle₁ := bftQuorumSize_le (List.length_pos_iff.mpr hne₁) hb₁
  have hle₂ := bftQuorumSize_le (List.length_pos_iff.mpr hne₂) hb₂
  rw [← List.toFinset_card_of_nodup hn₁] at hle₁
  rw [← List.toFinset_card_of_nodup hn₂] at hle₂
  rw [hm₁, hm₂, overlap_iff hle₁ hle₂, hq₁, hq₂, hfaults]

def eightCarEnv : BridgeEnv where
  expected := 8
  faults := ⟨true, 1, false⟩
  certSnapshot := some ((List.range 8).map fun (i : ℕ) => CertEntry.mk i (i % 4) 1 0 0 0 0)
  clearEvidence := none
  crashRecoveryEpochs := []

def listingPayload (leader : ℤ) (cars : List ℕ) : Bytes :=
  (ProposeHdr.mk 1 leader 5 cars.length).bytes ++
    cars.flatMap fun (i : ℕ) => (VehicleEntry.mk i 7 0 (i % 4) 0 1 1 0 0).bytes

def listingRequest (leader : ℤ) (cars : List ℕ) : Request where
  type := .prePrepare
  seq := 3
  currentView := 1
  senderId := leader + 1
  hash := ascii "omnet-tx-3"
  data := .batch [listingPayload leader cars]
  isRecovery := false
  forceRecovery := false

def primaryIs (primaryId : ℤ) : ConsensusState := ⟨.empty, ⟨primaryId, 1⟩⟩

def listingView (leader : ℤ) (cars : List ℕ) : ProposalView := ProposalView.initial (listingPayload leader cars)

def listingAccepted (leader : ℤ) (cars : List ℕ) : ConsensusState :=
  (preVerify eightCarEnv (primaryIs (leader + 1)) (listingRequest leader cars)).2

def installedView (leader : ℤ) (cars : List ℕ) : OmnetForcedView where
  epoch := 1
  seq := 3
  requestHash := ascii "omnet-tx-3"
  primaryOmnet := leader
  activeOmnetIds := cars.map fun (i : ℕ) => (i : ℤ)
  fOverride := true
  f := 1
  quorum := 3

theorem crossLeader_overlap_same_cars :
    Overlap (installedView 0 [0, 1, 2, 3]).activeOmnetIds.toFinset
      (installedView 1 [0, 1, 2, 3]).activeOmnetIds.toFinset 3 3 1 :=
  (crossLeader_overlap_iff eightCarEnv eightCarEnv (primaryIs 1) (primaryIs 2)
    (listingAccepted 0 [0, 1, 2, 3]) (listingAccepted 1 [0, 1, 2, 3])
    (listingRequest 0 [0, 1, 2, 3]) (listingRequest 1 [0, 1, 2, 3])
    (listingView 0 [0, 1, 2, 3]) (listingView 1 [0, 1, 2, 3])
    (installedView 0 [0, 1, 2, 3]) (installedView 1 [0, 1, 2, 3]) rfl
    ⟨Or.inl rfl, ⟨_, _, rfl, by decide +kernel⟩, rfl, by decide +kernel⟩
    ⟨Or.inl rfl, ⟨_, _, rfl, by decide +kernel⟩, rfl, by decide +kernel⟩
    (by decide +kernel) (by decide +kernel) (by decide +kernel) (by decide +kernel)).mpr (by decide +kernel)

theorem crossLeader_disjoint_halves :
    AcceptsOrder eightCarEnv (primaryIs 1) (listingRequest 0 [0, 1, 2, 3]) (listingView 0 [0, 1, 2, 3])
        (listingAccepted 0 [0, 1, 2, 3]) ∧
      AcceptsOrder eightCarEnv (primaryIs 6) (listingRequest 5 [4, 5, 6, 7]) (listingView 5 [4, 5, 6, 7])
        (listingAccepted 5 [4, 5, 6, 7]) ∧
      (orderHdr (listingView 0 [0, 1, 2, 3])).epoch = 1 ∧ (orderHdr (listingView 5 [4, 5, 6, 7])).epoch = 1 ∧
      (listingAccepted 0 [0, 1, 2, 3]).registry.latest = some (installedView 0 [0, 1, 2, 3]) ∧
      (listingAccepted 5 [4, 5, 6, 7]).registry.latest = some (installedView 5 [4, 5, 6, 7]) ∧
      ¬Overlap (installedView 0 [0, 1, 2, 3]).activeOmnetIds.toFinset
        (installedView 5 [4, 5, 6, 7]).activeOmnetIds.toFinset 3 3 1 := by
  refine ⟨⟨Or.inl rfl, ⟨_, _, rfl, by decide +kernel⟩, rfl, by decide +kernel⟩,
    ⟨Or.inl rfl, ⟨_, _, rfl, by decide +kernel⟩, rfl, by decide +kernel⟩,
    by decide +kernel, by decide +kernel, by decide +kernel, by decide +kernel, fun h => ?_⟩
  exact absurd (h {0, 1, 2} (by decide) {4, 5, 6} (by decide) (by decide) (by decide)) (by decide)

end V2vBft.Bridge
