import V2vBft.App.CancelCertText
import V2vBft.App.EpochFrame
import V2vBft.Arrival.Announcement

/-! The rollback protocol of the application: from a CANCEL certificate to the discovery round of the next epoch. -/

namespace V2vBft.Rollback

open Wire App Arrival

structure RollbackConfig extends AppConfig where
  gossipEnabled : Bool
  hasPrivateKey : Bool
  cancelCertRetryMax : ℤ
  enableCancelLeaderFailover : Bool
  rollbackFaultModePerEpoch : Bool

inductive CancelState
  | inactive
  | witnessing
  | draining
  | consensus
  | committed
  deriving DecidableEq, Repr

inductive DiscoveryState
  | inactive
  | collecting
  | drainingCerts
  | complete
  deriving DecidableEq, Repr

structure DiscoveryRound where
  state : DiscoveryState
  epoch : ℕ
  lastNewIntentAt : ℤ
  deriving DecidableEq, Repr

structure DiscoveryStores where
  collectedCerts : List Bytes
  collectedDistanceCerts : List Bytes
  localVehicleStates : List Bytes
  observedIntentCars : List Bytes
  deriving DecidableEq, Repr

def DiscoveryStores.empty : DiscoveryStores := ⟨[], [], [], []⟩

structure CertRetries where
  scheduled : Bool
  pending : Option CancelCert
  count : ℤ
  deriving DecidableEq, Repr

def CertRetries.stopped : CertRetries := ⟨false, none, 0⟩

structure GossipSend where
  scheduled : Bool
  epoch : ℕ
  bytes : Bytes
  retryCount : ℤ
  deriving DecidableEq, Repr

structure BlockedIncident where
  cancelledEpoch : ℕ
  executingBatch : ℕ
  deriving DecidableEq, Repr

structure IncidentRecord where
  cleared : Bool
  clearCertBytes : Bytes
  deriving DecidableEq, Repr

structure OrderCandidate where
  epoch : ℕ
  recovery : Bool
  cancelledEpoch : ℕ
  rollbackReason : ℤ
  initialPrimary : ℤ
  stores : DiscoveryStores
  cancelJustification : Bytes
  clearCerts : List Bytes
  voterIds : List ℤ
  deriving DecidableEq, Repr

-- a timer is whether it is scheduled
structure RollbackState where
  app : AppState
  departed : Bool
  enteredStopZone : Bool
  rollbackLocalRecallable : Bool
  proposeSubmitted : Bool
  cancelState : CancelState
  rollbackCancelInitiated : Bool
  cancelProposeSubmitted : Bool
  cancelRotationIndex : ℕ
  cancelActiveBatch : ℤ
  cancelPrimary : ℤ
  cancelLeaderCandidates : List ℤ
  rollbackReason : ℤ
  rollbackReasonRef : Bytes
  rollbackJustification : Bytes
  rollbackExpectedMembershipSize : ℤ
  cancelCertBytes : Bytes
  cancelCertRetries : CertRetries
  cancelCertCarriers : List (Bytes × ℤ)
  cancelDrainTimer : Bool
  cancelVcTimer : Bool
  consensusRetries : List Bytes
  cancelGossipSend : GossipSend
  announcementTimer : Bool
  discovery : DiscoveryRound
  discoveryDeadline : Bool
  discoverySettle : Bool
  stores : DiscoveryStores
  orderCandidate : Option OrderCandidate
  orderVcRequested : Bool
  orderVcAuthoritative : Bool
  incidentRegistry : List (BlockedIncident × IncidentRecord)
  deriving DecidableEq, Repr

def RollbackState.initial : RollbackState where
  app := .initial
  departed := false
  enteredStopZone := false
  rollbackLocalRecallable := false
  proposeSubmitted := false
  cancelState := .inactive
  rollbackCancelInitiated := false
  cancelProposeSubmitted := false
  cancelRotationIndex := 0
  cancelActiveBatch := -1
  cancelPrimary := -1
  cancelLeaderCandidates := []
  rollbackReason := cancelCrash
  rollbackReasonRef := []
  rollbackJustification := []
  rollbackExpectedMembershipSize := 0
  cancelCertBytes := []
  cancelCertRetries := .stopped
  cancelCertCarriers := []
  cancelDrainTimer := false
  cancelVcTimer := false
  consensusRetries := []
  cancelGossipSend := ⟨false, 0, [], 0⟩
  announcementTimer := false
  discovery := ⟨.inactive, 0, -1⟩
  discoveryDeadline := false
  discoverySettle := false
  stores := .empty
  orderCandidate := none
  orderVcRequested := false
  orderVcAuthoritative := false
  incidentRegistry := []

-- what a handler reads of the world: the time, whether the vehicle could stop, the batch it sees executing,
-- and the cars of the next batch that are still waiting
structure Sense where
  now : ℤ
  recallable : Bool
  activeBatch : ℤ
  waiting : List ℤ
  deriving DecidableEq, Repr

def RollbackConfig.faults (cfg : RollbackConfig) : ℤ := anchoredFaults cfg.toleratedFaults cfg.totalVehicles

def bftQuorumSize (n f : ℤ) : ℤ := if n ≤ 0 ∨ f < 0 ∨ (n - 1).tdiv 3 < f then -1 else max ((n + f + 2).tdiv 2) 1

def RollbackState.isRecallable (s : RollbackState) (sense : Sense) : Bool := sense.recallable && !s.departed

def RollbackState.stopCancelCertRetries (s : RollbackState) : RollbackState := { s with cancelCertRetries := .stopped }

def RollbackState.clearConsensusRetries (s : RollbackState) : RollbackState := { s with consensusRetries := [] }

def RollbackState.resetOrderCandidate (s : RollbackState) : RollbackState :=
  { s with orderCandidate := none, orderVcRequested := false, orderVcAuthoritative := false }

def chooseCancelProposer (s : RollbackState) : ℤ :=
  match s.cancelLeaderCandidates with
  | [] => -1
  | candidates => candidates.getD (s.cancelRotationIndex % candidates.length) (-1)

def proposeCancel (cfg : RollbackConfig) (s : RollbackState) : RollbackState :=
  let electors := s.app.committedOrderVehicleIds.dedup
  let quorum := bftQuorumSize cfg.totalVehicles cfg.faults
  if !s.app.cancelConsensusPending || s.cancelProposeSubmitted then s
  else if s.cancelCertBytes = [] ∨ electors = [] ∨ (electors.length : ℤ) < quorum ∨ quorum < 0 then s
  else { s with cancelProposeSubmitted := true, proposeSubmitted := true }

-- the proposer's lease is armed by every replica that reaches this point
def trySubmitCancelProposal (cfg : RollbackConfig) (s : RollbackState) : RollbackState :=
  let proposer := chooseCancelProposer s
  let s := if s.cancelLeaderCandidates = [] then s else { s with cancelPrimary := proposer }
  if s.cancelState ≠ .consensus then s
  else if !s.app.cancelConsensusPending || s.cancelProposeSubmitted then s
  else
    let s := { s with cancelVcTimer := s.cancelVcTimer || cfg.enableCancelLeaderFailover }
    if proposer ≠ cfg.replicaId ∨ s.rollbackLocalRecallable = false then s else proposeCancel cfg s

def beginCancelDrain (s : RollbackState) (sense : Sense) : RollbackState :=
  if !s.app.cancelConsensusPending || decide (s.cancelState = .committed) then s
  else if s.cancelState = .draining ∨ s.cancelState = .consensus then s
  else
    { s with
      cancelState := .draining
      cancelActiveBatch := sense.activeBatch
      cancelLeaderCandidates := sense.waiting
      cancelPrimary := sense.waiting.head?.getD (-1)
      announcementTimer := false
      cancelDrainTimer := true }

def cancelDrainTimer (cfg : RollbackConfig) (s : RollbackState) : RollbackState :=
  if !s.cancelDrainTimer then s
  else
    let s := { s with cancelDrainTimer := false }
    if !s.app.cancelConsensusPending || decide (s.cancelState ≠ .draining) then s
    else trySubmitCancelProposal cfg { s with cancelState := .consensus }

def cancelVcTimer (cfg : RollbackConfig) (s : RollbackState) : RollbackState :=
  if !s.cancelVcTimer then s
  else
    trySubmitCancelProposal cfg
      { s with
        cancelVcTimer := false
        cancelRotationIndex := s.cancelRotationIndex + 1
        cancelProposeSubmitted := false
        proposeSubmitted := false }

def cancelCertPropagationConfirmed (cfg : RollbackConfig) (s : RollbackState) (key : Bytes) : Bool :=
  let carriers := (s.cancelCertCarriers.filter fun c => decide (c.1 = key)).map Prod.snd
  decide (cfg.faults + 1 ≤ carriers.dedup.length)

def scheduleNextCancelCertRetry (cfg : RollbackConfig) (s : RollbackState) : RollbackState :=
  match s.cancelCertRetries.pending with
  | none => s
  | some cert =>
    if !cfg.enableRollback || decide (cert.echoes = []) then s
    else if cancelCertPropagationConfirmed cfg s cert.reasonKey then s.stopCancelCertRetries
    else { s with cancelCertRetries := { s.cancelCertRetries with scheduled := true } }

def cancelCertRetryTimer (cfg : RollbackConfig) (s : RollbackState) : RollbackState :=
  match s.cancelCertRetries.scheduled, s.cancelCertRetries.pending with
  | false, _ => s
  | true, none => s.stopCancelCertRetries
  | true, some cert =>
    let count := s.cancelCertRetries.count + 1
    if cert.echoes = [] ∨ s.app.cancelActive = false then s.stopCancelCertRetries
    else if cancelCertPropagationConfirmed cfg s cert.reasonKey then s.stopCancelCertRetries
    else if 0 < cfg.cancelCertRetryMax ∧ cfg.cancelCertRetryMax ≤ count then s.stopCancelCertRetries
    else
      scheduleNextCancelCertRetry cfg
        { s with cancelCertRetries := { s.cancelCertRetries with scheduled := false, count := count } }

-- none: not the reference of a blocked batch
def parseBlockedBatchRef (ref : Bytes) : Option BlockedIncident :=
  match splitStr ref 58 with
  | [tag, epoch, batch] =>
    if tag = ascii "blocked_batch" then
      match stoul epoch, stoul batch with
      | some epoch, some batch => some ⟨toUint32 epoch, toUint32 batch⟩
      | _, _ => none
    else none
  | _ => none

def registerBlockedIncidentIfCrash (s : RollbackState) (cert : CancelCert) : RollbackState :=
  if cert.reason ≠ cancelCrash then s
  else
    match parseBlockedBatchRef cert.reasonRef with
    | none => s
    | some incident =>
      if incident ∈ s.incidentRegistry.map Prod.fst then s
      else { s with incidentRegistry := s.incidentRegistry ++ [(incident, ⟨false, []⟩)] }

def onIncidentCleared (s : RollbackState) (incident : BlockedIncident) (clearCertBytes : Bytes) : RollbackState :=
  { s with
    incidentRegistry := s.incidentRegistry.map fun entry =>
      if entry.1 = incident ∧ entry.2.cleared = false then (entry.1, ⟨true, clearCertBytes⟩) else entry }

def hasBlockingIncidentForEpoch (s : RollbackState) (cancelledEpoch : ℕ) : Bool :=
  s.incidentRegistry.any fun entry => decide (entry.1.cancelledEpoch = cancelledEpoch) && !entry.2.cleared

def acceptsJustification (cfg : RollbackConfig) (s : AppState) (epoch : ℕ) : Bool :=
  cfg.enableRollback && !(s.cancelActive && decide (s.cancelledEpoch = epoch)) && !s.isEpochTombstoned epoch

def handleValidCancelJustification (cfg : RollbackConfig) (s : RollbackState) (cert : CancelCert)
    (justification : Bytes) (sense : Sense) : RollbackState :=
  let recallable := s.isRecallable sense
  if acceptsJustification cfg s.app cert.cancelledEpoch then
    beginCancelDrain
      { s with
        app := (App.handleValidCancelJustification cfg.toAppConfig s.app cert.cancelledEpoch recallable).1
        rollbackLocalRecallable := recallable
        rollbackReason := cert.reason
        rollbackReasonRef := cert.reasonRef
        cancelCertBytes := justification
        cancelProposeSubmitted := false
        cancelRotationIndex := 0
        cancelActiveBatch := -1
        cancelPrimary := -1
        cancelLeaderCandidates := []
        rollbackCancelInitiated := true }
      sense
  else s

def broadcastCancelCert (cfg : RollbackConfig) (s : RollbackState) (cert : CancelCert) (payload : Bytes)
    (sense : Sense) : RollbackState :=
  if validateCancelCert (s.app.witnessContext cfg.toAppConfig) cert then
    let s := registerBlockedIncidentIfCrash s cert
    let s := { s with app := s.app.seeCancelCert cert, cancelCertRetries := ⟨s.cancelCertRetries.scheduled, some cert, 0⟩ }
    handleValidCancelJustification cfg (scheduleNextCancelCertRetry cfg s) cert payload sense
  else s

def handleCancelCert (cfg : RollbackConfig) (s : RollbackState) (senderId : ℤ) (payload : Bytes) (sense : Sense) :
    RollbackState :=
  match deserializeCancelCert payload with
  | none => s
  | some cert =>
    if !cfg.enableRollback || decide (cert.reasonRef = []) then s
    else if validateCancelCert (s.app.witnessContext cfg.toAppConfig) cert then
      let fresh := decide (cert.reasonKey ∉ s.app.cancelCertSeen) || !s.app.cancelConsensusPending
      let s := registerBlockedIncidentIfCrash s cert
      let s :=
        { s with
          app := s.app.seeCancelCert cert
          cancelCertCarriers := (cert.reasonKey, senderId) :: s.cancelCertCarriers }
      if fresh then handleValidCancelJustification cfg s cert (serializeCancelCert cert) sense else s
    else s

def cancelRecord (s : AppState) (epoch : ℕ) : Option (ℕ × Bytes × Bytes) :=
  (s.committedCancels.lookup epoch).map fun info => (info.cancelSeq, info.payloadDigest, info.attestation)

def buildCancelCommitRef (s : AppState) (cancelledEpoch : ℕ) : Bytes :=
  match cancelRecord s cancelledEpoch with
  | none => []
  | some (cancelSeq, payloadDigest, attestation) =>
    putU32 cancelledEpoch ++ putU64 cancelSeq ++ payloadDigest ++ putU32 (attestation.length % uint32Modulus) ++ attestation

-- propagation confirmed: the timer stays off
def triggerCancelCommitGossip (cfg : RollbackConfig) (s : RollbackState) (cancelledEpoch : ℕ) (attestation : Bytes) :
    RollbackState :=
  if attestation = [] then s
  else
    { s with
      cancelGossipSend :=
        ⟨!decide (cfg.faults + 1 ≤ s.app.cancelGossip.count cancelledEpoch attestation), cancelledEpoch, attestation, 1⟩ }

def broadcastCancelCommitAttestation (cfg : RollbackConfig) (s : RollbackState) (dec : Bytes) : RollbackState :=
  if !cfg.gossipEnabled || !cfg.hasPrivateKey then s
  else
    triggerCancelCommitGossip cfg s (CancelDecisionHdr.read dec).cancelledEpoch (dec.take CancelDecisionHdr.size)

def armDiscoveryTimers (s : RollbackState) : RollbackState :=
  if !s.enteredStopZone || decide (s.discovery.state ≠ .collecting) || s.proposeSubmitted || s.app.orderApplied then s
  else { s with discoveryDeadline := true, discoverySettle := true }

def startDiscoveryRound (s : RollbackState) (sense : Sense) : RollbackState :=
  if s.departed then s
  else
    let s :=
      { s with
        discovery := ⟨.collecting, s.app.currentEpoch, sense.now⟩
        discoveryDeadline := false
        discoverySettle := false }.resetOrderCandidate
    if s.enteredStopZone then armDiscoveryTimers s else s

def beginPostCancelDiscovery (cfg : RollbackConfig) (s : RollbackState) (cancelledEpoch : ℕ) (reason : ℤ)
    (reasonRef justification : Bytes) (sense : Sense) : RollbackState :=
  if s.app.cancelPending && decide (s.app.cancelledEpoch = cancelledEpoch) then s
  else
    let recallable := s.isRecallable sense
    let s :=
      { s with
        app := App.beginPostCancelDiscovery cfg.toAppConfig s.app cancelledEpoch recallable
        rollbackLocalRecallable := recallable
        rollbackReason := reason
        rollbackReasonRef := reasonRef
        rollbackJustification := justification
        rollbackExpectedMembershipSize := 0
        cancelRotationIndex := 0
        proposeSubmitted := false
        stores := .empty }.resetOrderCandidate
    let s := startDiscoveryRound s sense
    armDiscoveryTimers { s with announcementTimer := s.announcementTimer || recallable }

def recordCancel (s : AppState) (dec : Bytes) (gossipAdopted : Bool) : AppState :=
  let hdr := CancelDecisionHdr.read dec
  { s with
    tombstonedEpochs := hdr.cancelledEpoch :: s.tombstonedEpochs
    committedCancels := (hdr.cancelledEpoch, ⟨hdr.cancelSeq, hdr.payloadDigest, dec, gossipAdopted⟩) ::
      s.committedCancels.filter fun c => !decide (c.1 = hdr.cancelledEpoch)
    cancelConsensusPending := false }

-- the two handlers up to the start of the discovery round, each as the source has it
def settleCommitted (cfg : RollbackConfig) (s : RollbackState) (dec : Bytes) : RollbackState :=
  let s :=
    { s.clearConsensusRetries.stopCancelCertRetries with
      app := recordCancel s.app dec false
      cancelProposeSubmitted := false
      cancelState := .committed
      rollbackCancelInitiated := false
      cancelVcTimer := false
      cancelDrainTimer := false
      rollbackJustification :=
        buildCancelCommitRef (recordCancel s.app dec false) (CancelDecisionHdr.read dec).cancelledEpoch }
  broadcastCancelCommitAttestation cfg s dec

def settleAdopted (cfg : RollbackConfig) (s : RollbackState) (senderId : ℤ) (inner attestation : Bytes) : RollbackState :=
  let app := recordCancel (recordCancelVote s.app senderId inner) attestation true
  let epoch := (CancelDecisionHdr.read attestation).cancelledEpoch
  let s :=
    { s.clearConsensusRetries with
      app := app
      rollbackJustification := buildCancelCommitRef app epoch
      cancelProposeSubmitted := false
      cancelState := .committed
      cancelDrainTimer := false }
  triggerCancelCommitGossip cfg s epoch attestation

def handleCancelCommitDecision (cfg : RollbackConfig) (s : RollbackState) (dec : Bytes) (sense : Sense) : RollbackState :=
  let s := settleCommitted cfg s dec
  beginPostCancelDiscovery cfg s (CancelDecisionHdr.read dec).cancelledEpoch s.rollbackReason s.rollbackReasonRef
    s.rollbackJustification sense

-- the executor is moved past the adopted CANCEL by the bridge
def handleCancelCommitGossip (cfg : RollbackConfig) (s : RollbackState) (senderId : ℤ) (inner : Bytes)
    (sense : Sense) : RollbackState :=
  match adoptedAttestation cfg.toAppConfig s.app senderId inner with
  | none => { s with app := recordCancelVote s.app senderId inner }
  | some attestation =>
    let s := settleAdopted cfg s senderId inner attestation
    let ref := if s.rollbackReasonRef = [] then ascii "gossip-adopted" else s.rollbackReasonRef
    beginPostCancelDiscovery cfg s (CancelDecisionHdr.read attestation).cancelledEpoch
      (CancelDecisionHdr.read attestation).reason ref s.rollbackJustification sense

end V2vBft.Rollback
