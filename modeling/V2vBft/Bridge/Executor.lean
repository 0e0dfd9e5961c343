import V2vBft.Bridge.Proposal
import V2vBft.Scheduler.Schedule

/-! `IntersectionExecutor::ExecuteData`: the decision handed to the application and the crash bookkeeping. -/

namespace V2vBft.Bridge

open Wire Scheduler

structure ExecutorEnv where
  sha256 : Bytes → Bytes
  singletonEnv : Option String

def sha256Digest (env : ExecutorEnv) (data : Bytes) : Bytes := (env.sha256 data ++ zeros 32).take 32

def bigEndian (bs : Bytes) : ℕ := bs.foldl (fun acc b => acc * 256 + b.toNat) 0

def cancelDecision (env : ExecutorEnv) (data : Bytes) (cancel : CancelHdr) : Bytes :=
  let digest := sha256Digest env data
  CancelDecisionHdr.bytes ⟨cancelDecisionMagic, cancel.cancelledEpoch, cancel.reason, bigEndian (digest.take 8), digest⟩

-- none: the payload is too short and nothing is handed over
def orderDecision (env : ExecutorEnv) (data : Bytes) : Option Bytes :=
  let hdr := ProposeHdr.read data
  let entriesEnd := ProposeHdr.size + hdr.nVehicles * VehicleEntry.size
  if data.length < ProposeHdr.size then none
  else if data.length < entriesEnd then none
  else
    let schedule := buildIntersectionSchedule env.singletonEnv hdr (entriesOf data hdr.nVehicles)
    some (schedule.orderBytes ++ data.drop entriesEnd)

structure Execution where
  decision : Option Bytes
  crashRecoveryEpoch : Option ℕ

def executeData (env : ExecutorEnv) (data : Bytes) : Execution :=
  match unwrapRollbackIfPresent data with
  | none => ⟨none, none⟩
  | some view =>
    if view.isCancel then
      ⟨some (cancelDecision env data view.cancel),
        if view.cancel.reason = 0 then some ((view.cancel.cancelledEpoch + 1) % uint32Modulus) else none⟩
    else ⟨orderDecision env view.data, none⟩

lemma cancelDecision_read (env : ExecutorEnv) (data : Bytes) (cancel : CancelHdr)
    (hepoch : cancel.cancelledEpoch < 4294967296) (hreason : cancel.reason < 256) :
    (CancelDecisionHdr.read (cancelDecision env data cancel)).cancelledEpoch = cancel.cancelledEpoch ∧
      (CancelDecisionHdr.read (cancelDecision env data cancel)).reason = cancel.reason := by
  have h₁ := readU32_put (putU32 cancelDecisionMagic)
    (putU8 cancel.reason ++ (zeros 3 ++ (putU64 (bigEndian ((sha256Digest env data).take 8)) ++ sha256Digest env data)))
    cancel.cancelledEpoch hepoch
  have h₂ := readU8_put (putU32 cancelDecisionMagic ++ putU32 cancel.cancelledEpoch)
    (zeros 3 ++ (putU64 (bigEndian ((sha256Digest env data).take 8)) ++ sha256Digest env data)) cancel.reason hreason
  rw [List.append_assoc, List.length_append, putU32_length, putU32_length] at h₂
  rw [putU32_length] at h₁
  exact ⟨h₁, h₂⟩

lemma orderDecision_epoch {env : ExecutorEnv} {data decision : Bytes} (h : orderDecision env data = some decision) :
    readU32 decision 0 = (ProposeHdr.read data).epoch := by
  unfold orderDecision at h
  dsimp only at h
  split at h
  next => exact absurd h (by simp)
  next =>
    split at h
    next => exact absurd h (by simp)
    next =>
      obtain rfl := Option.some.inj h
      simp only [buildIntersectionSchedule, orderBytes, OrderHdr.bytes, List.append_assoc]
      exact readU32_put [] _ _ (readU32_lt _ _)

lemma looksLikeCancelProposal_cancel (raw : Bytes)
    (h : (looksLikeCancelProposal raw (ProposalView.initial raw)).2.isCancel = true) :
    (looksLikeCancelProposal raw (ProposalView.initial raw)).2.cancel = CancelHdr.read raw := by
  unfold looksLikeCancelProposal at h ⊢
  dsimp only at h ⊢
  split at h
  next hpre =>
    rw [if_pos hpre]
    split <;> rfl
  next => exact absurd h (by simp [ProposalView.isCancel, ProposalView.initial])

lemma unwrapRollbackIfPresent_cancel {raw : Bytes} {view : ProposalView}
    (h : unwrapRollbackIfPresent raw = some view) (hkind : view.isCancel = true) : view.cancel = CancelHdr.read raw := by
  have hlooks := looksLikeCancelProposal_cancel raw
  unfold unwrapRollbackIfPresent at h
  split at h
  next v hv =>
    obtain rfl := Option.some.inj h
    rw [hv] at hlooks
    exact hlooks hkind
  next v hv =>
    rw [hv] at hlooks
    split at h
    next =>
      obtain rfl := Option.some.inj h
      exact absurd hkind (by simp [ProposalView.isCancel])
    next =>
      obtain ⟨-, -, rfl⟩ := Option.map_eq_some_iff.mp h
      exact hlooks hkind

lemma executeData_crash {env : ExecutorEnv} {data decision : Bytes} {view : ProposalView}
    (hview : unwrapRollbackIfPresent data = some view) (hkind : view.isCancel = true)
    (h : (executeData env data).decision = some decision) (hreason : (CancelDecisionHdr.read decision).reason = 0) :
    (executeData env data).crashRecoveryEpoch =
      some (((CancelDecisionHdr.read decision).cancelledEpoch + 1) % uint32Modulus) := by
  have hcancel := unwrapRollbackIfPresent_cancel hview hkind
  simp only [executeData, hview, hkind, if_true] at h ⊢
  obtain rfl := Option.some.inj h
  obtain ⟨hepoch, hread⟩ := cancelDecision_read env data view.cancel (by rw [hcancel]; exact readU32_lt _ _)
    (by rw [hcancel]; exact readU8_lt _ _)
  rw [hread] at hreason
  rw [if_pos hreason, hepoch]

end V2vBft.Bridge
