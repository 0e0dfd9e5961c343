import V2vBft.Bridge.CrossLeader

namespace V2vBft.Bridge

open Wire Pbft

variable {env : BridgeEnv} {s : ConsensusState} {request : Request} {view : ProposalView}

def Atomic (s : ConsensusState) (verdict : Bool × ConsensusState) : Prop := verdict.1 = false → verdict.2 = s

lemma atomic_rejected (s : ConsensusState) : Atomic s (false, s) := fun _ => rfl

lemma atomic_accepted (s s' : ConsensusState) : Atomic s (true, s') := fun h => absurd h (by simp)

lemma orDrop_atomic (s : ConsensusState) (installed : Option ConsensusState) : Atomic s (orDrop s installed) := by
  cases installed with
  | none => exact atomic_rejected s
  | some s' => exact atomic_accepted s s'

lemma installOrder_atomic (env : BridgeEnv) (s : ConsensusState) (request : Request) (view : ProposalView) :
    Atomic s (installOrder env s request view) := by
  rw [installOrder]
  split
  · split
    · exact atomic_rejected s
    · exact orDrop_atomic s _
  · split
    · exact orDrop_atomic s _
    · exact atomic_accepted s _

lemma preVerifyCancel_atomic (env : BridgeEnv) (s : ConsensusState) (request : Request) (view : ProposalView) :
    Atomic s (preVerifyCancel env s request view) := by
  rw [preVerifyCancel]
  split
  · split
    · exact atomic_rejected s
    · exact orDrop_atomic s _
  · exact atomic_rejected s

lemma preVerifyPayload_atomic (env : BridgeEnv) (s : ConsensusState) (request : Request) (payload : Bytes) :
    Atomic s (preVerifyPayload env s request payload) := by
  rw [preVerifyPayload]
  split
  · exact atomic_rejected s
  · split
    · exact preVerifyCancel_atomic env s request _
    · split
      · exact installOrder_atomic env s request _
      · exact atomic_rejected s

theorem preVerify_rejected_unchanged (env : BridgeEnv) (s : ConsensusState) (request : Request)
    (h : (preVerify env s request).1 = false) : (preVerify env s request).2 = s := by
  have hatomic : Atomic s (preVerify env s request) := by
    rw [preVerify]
    split
    · exact atomic_accepted s s
    · split
      · exact atomic_rejected s
      · exact atomic_rejected s
      · exact preVerifyPayload_atomic env s request _
  exact hatomic h

-- the number and the hash of an installed view, with another electorate: only the install refuses it
theorem preVerify_rejected_unchanged_rebound :
    (listingAccepted 0 [0, 1, 2, 3]).registry.views = [installedView 0 [0, 1, 2, 3]] ∧
      orderAdmissible eightCarEnv (listingAccepted 0 [0, 1, 2, 3]) (listingRequest 0 [0, 1, 2, 4])
        (listingPayload 0 [0, 1, 2, 4]) (listingView 0 [0, 1, 2, 4]) = true ∧
      (preVerify eightCarEnv (listingAccepted 0 [0, 1, 2, 3]) (listingRequest 0 [0, 1, 2, 4])).2 =
        listingAccepted 0 [0, 1, 2, 3] :=
  ⟨by decide +kernel, by decide +kernel,
    preVerify_rejected_unchanged eightCarEnv (listingAccepted 0 [0, 1, 2, 3]) (listingRequest 0 [0, 1, 2, 4])
      (by decide +kernel)⟩

end V2vBft.Bridge
