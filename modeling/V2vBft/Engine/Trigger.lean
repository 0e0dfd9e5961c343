import V2vBft.Engine.Replica

/-! `ResdbOmnetTriggerConsensus`: an own payload on its way into the commitment pipeline. -/

namespace V2vBft.Engine

open Wire Pbft Bridge

variable {faults : ToleratedFaultState} {expected : ℤ} {hash payload : Bytes} {r : Replica} {view : ProposalView}

structure Triggered where
  rc : ℤ
  replica : Replica
  injected : Option Request

def newTxnsRequest (hash payload : Bytes) : Request := ⟨.newTxns, 0, 0, 0, hash, .batch [payload], false, false⟩

def triggerCancel (faults : ToleratedFaultState) (expected : ℤ) (request : Request) (r : Replica) (view : ProposalView) :
    Triggered :=
  if check13ValidCancelProposal view then
    match buildCancelViewCandidate view expected faults request with
    | none => ⟨-1, r, none⟩
    | some cancelView =>
      ⟨0, { r with consensus := (r.consensus.installOmnetPendingForcedView cancelView).getD r.consensus }, some request⟩
  else ⟨-1, r, none⟩

def passesTrigger (faults : ToleratedFaultState) (expected : ℤ) (request : Request) (raw : Bytes) (view : ProposalView) :
    Bool :=
  let hdr := ProposeHdr.read view.data
  if view.isRollback then
    structurallyValidCancelJustification raw view.rollback &&
      (buildForcedViewCandidate view hdr expected faults request).isSome
  else decide (hdr.epoch = 0) || (buildEpochOrderViewCandidate faults hdr view.data expected request).isSome

-- installation waits for the check of the engine
def triggerOrder (faults : ToleratedFaultState) (expected : ℤ) (request : Request) (r : Replica) (raw : Bytes)
    (view : ProposalView) : Triggered :=
  if passesTrigger faults expected request raw view then ⟨0, r, some request⟩ else ⟨-1, r, none⟩

-- a payload that does not unwrap is injected all the same
def triggerConsensus (faults : ToleratedFaultState) (expected : ℤ) (hash : Bytes) (r : Replica) (payload : Bytes) :
    Triggered :=
  if payload = [] then ⟨-1, r, none⟩
  else
    let r := ensureNextSeqAheadOfExecuted r
    let request := newTxnsRequest hash payload
    match unwrapRollbackIfPresent payload with
    | none => ⟨0, r, some request⟩
    | some view =>
      if view.isCancel then triggerCancel faults expected request r view
      else triggerOrder faults expected request r payload view

lemma triggerCancel_failed {request : Request} (h : (triggerCancel faults expected request r view).rc ≠ 0) :
    (triggerCancel faults expected request r view).replica = r := by
  rw [triggerCancel] at h ⊢
  split
  next hcheck =>
    rw [if_pos hcheck] at h
    split
    next => rfl
    next hbuild =>
      rw [hbuild] at h
      exact absurd rfl h
  next => rfl

lemma triggerOrder_replica (request : Request) (raw : Bytes) :
    (triggerOrder faults expected request r raw view).replica = r := by
  rw [triggerOrder]
  split
  · rfl
  · rfl

theorem triggerConsensus_failed (h : (triggerConsensus faults expected hash r payload).rc ≠ 0) :
    (triggerConsensus faults expected hash r payload).replica.consensus = r.consensus := by
  rw [triggerConsensus] at h ⊢
  split
  next => rfl
  next hpayload =>
    rw [if_neg hpayload] at h
    dsimp only at h ⊢
    split
    next => rfl
    next view hview =>
      rw [hview] at h
      dsimp only at h
      split
      next hcancel =>
        rw [if_pos hcancel] at h
        rw [triggerCancel_failed h]
        rfl
      next =>
        rw [triggerOrder_replica]
        rfl

end V2vBft.Engine
