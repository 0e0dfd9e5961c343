import V2vBft.App.WitnessCert
import V2vBft.App.Gossip
import V2vBft.Wire.Records

/-! The part of `ResDBIntersectionApp` that halts and releases the vehicle. -/

namespace V2vBft.App

open Wire

structure AppConfig where
  replicaId : ℤ
  toleratedFaults : ℤ
  totalVehicles : ℤ
  enableRollback : Bool
  clearanceTimeout : ℤ
  registeredKeys : List (ℤ × Bytes)
  verifyBytes : Verifier

structure CommittedCancelInfo where
  cancelSeq : ℕ
  payloadDigest : Bytes
  attestation : Bytes
  gossipAdopted : Bool
  deriving DecidableEq, Repr

-- resume_msg_ is the timer of a pending resume; times are simulation ticks, -1 for none
structure AppState where
  pendingOrders : List Bytes
  orderApplied : Bool
  currentEpoch : ℕ
  hasCommittedOrder : Bool
  lastCommittedEpoch : ℕ
  committedOrderVehicleIds : List ℤ
  tombstonedEpochs : List ℕ
  committedCancels : List (ℕ × CommittedCancelInfo)
  cancelPending : Bool
  cancelConsensusPending : Bool
  cancelledEpoch : ℕ
  rollbackNewEpoch : ℕ
  cancelCertSeen : List Bytes
  cancelGossip : GossipAccumulator
  orderGossip : GossipAccumulator
  myBatchIndex : ℤ
  precedingBatchCars : List ℤ
  clearanceStarted : ℤ
  pollScheduled : Bool
  resumeScheduled : Bool
  pendingResumePosition : ℤ
  deriving DecidableEq, Repr

def AppState.initial : AppState where
  pendingOrders := []
  orderApplied := false
  currentEpoch := 0
  hasCommittedOrder := false
  lastCommittedEpoch := 0
  committedOrderVehicleIds := []
  tombstonedEpochs := []
  committedCancels := []
  cancelPending := false
  cancelConsensusPending := false
  cancelledEpoch := 0
  rollbackNewEpoch := 0
  cancelCertSeen := []
  cancelGossip := .empty
  orderGossip := .empty
  myBatchIndex := -1
  precedingBatchCars := []
  clearanceStarted := -1
  pollScheduled := false
  resumeScheduled := false
  pendingResumePosition := 0

structure OrderDecision where
  epoch : ℕ
  nBatches : ℕ
  decisions : List VehicleDecision
  deriving DecidableEq, Repr

def OrderDecision.read (dec : Bytes) : OrderDecision :=
  let hdr := OrderHdr.read dec
  ⟨hdr.epoch, hdr.nBatches,
    (List.range hdr.nVehicles).map fun i => VehicleDecision.read dec (OrderHdr.size + i * VehicleDecision.size)⟩

def OrderDecision.batch (order : OrderDecision) (index : ℤ) : List ℤ :=
  (order.decisions.filter fun d => decide (signed32 d.batchIndex = index)).map VehicleDecision.replicaId

-- none: no slot for this replica
def ownBatch (cfg : AppConfig) (order : OrderDecision) : Option ℤ :=
  match order.decisions.find? fun d => decide (d.replicaId = cfg.replicaId) with
  | none => none
  | some d => if signed32 d.batchIndex < 0 then none else some (signed32 d.batchIndex)

-- what a handler did: epochs whose CANCEL it took in, the ORDER it applied, the position it resumed with
structure Effects where
  halted : List ℕ
  applied : Option OrderDecision
  released : Option ℤ
  deriving DecidableEq, Repr

def Effects.none : Effects := ⟨[], .none, .none⟩

def AppState.witnessContext (cfg : AppConfig) (s : AppState) : WitnessContext where
  toleratedFaults := cfg.toleratedFaults
  totalVehicles := cfg.totalVehicles
  committedOrderVehicleIds := s.committedOrderVehicleIds
  registeredKeys := cfg.registeredKeys
  verifyBytes := cfg.verifyBytes

def AppState.isEpochTombstoned (s : AppState) (epoch : ℕ) : Bool :=
  decide (epoch ∈ s.tombstonedEpochs) || decide (epoch ∈ s.committedCancels.map Prod.fst)

def AppState.cancelActive (s : AppState) : Bool := s.cancelPending || s.cancelConsensusPending

def AppState.cancelTimers (s : AppState) (recallable : Bool) : AppState :=
  { s with
    pollScheduled := s.pollScheduled && !recallable
    resumeScheduled := s.resumeScheduled && !recallable }

-- `recallable` stands for isRecallable() of a replica that has not departed
def handleValidCancelJustification (cfg : AppConfig) (s : AppState) (epoch : ℕ) (recallable : Bool) :
    AppState × Effects :=
  if !cfg.enableRollback then (s, .none)
  else if s.cancelActive && decide (s.cancelledEpoch = epoch) then (s, { Effects.none with halted := [epoch] })
  else if s.isEpochTombstoned epoch then (s, .none)
  else
    ({ s.cancelTimers recallable with cancelledEpoch := epoch, cancelConsensusPending := true },
      { Effects.none with halted := [epoch] })

def CancelCert.reasonKey (cert : CancelCert) : Bytes := cert.statement.collectorKey

def AppState.seeCancelCert (s : AppState) (cert : CancelCert) : AppState :=
  { s with cancelCertSeen := cert.reasonKey :: s.cancelCertSeen }

def broadcastCancelCert (cfg : AppConfig) (s : AppState) (cert : CancelCert) (recallable : Bool) :
    AppState × Effects :=
  if validateCancelCert (s.witnessContext cfg) cert then
    handleValidCancelJustification cfg (s.seeCancelCert cert) cert.cancelledEpoch recallable
  else (s, .none)

def handleCancelCert (cfg : AppConfig) (s : AppState) (payload : Bytes) (recallable : Bool) : AppState × Effects :=
  match deserializeCancelCert payload with
  | none => (s, .none)
  | some cert =>
    if !cfg.enableRollback || decide (cert.reasonRef = []) then (s, .none)
    else if validateCancelCert (s.witnessContext cfg) cert then
      if decide (cert.reasonKey ∉ s.cancelCertSeen) || !s.cancelConsensusPending then
        handleValidCancelJustification cfg (s.seeCancelCert cert) cert.cancelledEpoch recallable
      else (s.seeCancelCert cert, .none)
    else (s, .none)

def beginPostCancelDiscovery (cfg : AppConfig) (s : AppState) (cancelledEpoch : ℕ) (recallable : Bool) : AppState :=
  if s.cancelPending && decide (s.cancelledEpoch = cancelledEpoch) then s
  else
    let s := s.cancelTimers recallable
    { s with
      cancelPending := true
      cancelledEpoch := cancelledEpoch
      rollbackNewEpoch := (cancelledEpoch + 1) % uint32Modulus
      currentEpoch := (cancelledEpoch + 1) % uint32Modulus
      orderApplied := false
      pollScheduled := s.pollScheduled || cfg.enableRollback }

def commitCancel (cfg : AppConfig) (s : AppState) (dec : Bytes) (gossipAdopted recallable : Bool) :
    AppState × Effects :=
  let hdr := CancelDecisionHdr.read dec
  let info : CommittedCancelInfo := ⟨hdr.cancelSeq, hdr.payloadDigest, dec, gossipAdopted⟩
  (beginPostCancelDiscovery cfg
    { s with
      tombstonedEpochs := hdr.cancelledEpoch :: s.tombstonedEpochs
      committedCancels := (hdr.cancelledEpoch, info) ::
        s.committedCancels.filter fun c => !decide (c.1 = hdr.cancelledEpoch)
      cancelConsensusPending := false }
    hdr.cancelledEpoch recallable,
    { Effects.none with halted := [hdr.cancelledEpoch] })

def isCancelDecision (dec : Bytes) : Bool :=
  decide (CancelDecisionHdr.size ≤ dec.length) && decide ((CancelDecisionHdr.read dec).magic = cancelDecisionMagic)

-- some: the frame completes f + 1 equal votes for a CANCEL not yet known here
def adoptedAttestation (cfg : AppConfig) (s : AppState) (senderId : ℤ) (inner : Bytes) : Option Bytes :=
  match gossipParse inner with
  | none => none
  | some (epoch, attestation) =>
    if isCancelDecision attestation && decide ((CancelDecisionHdr.read attestation).cancelledEpoch = epoch) &&
        !s.isEpochTombstoned epoch &&
        (s.cancelGossip.add senderId epoch attestation (anchoredFaults cfg.toleratedFaults cfg.totalVehicles + 1)).1 then
      some attestation
    else none

def recordCancelVote (s : AppState) (senderId : ℤ) (inner : Bytes) : AppState :=
  match gossipParse inner with
  | none => s
  | some (epoch, attestation) =>
    if isCancelDecision attestation && decide ((CancelDecisionHdr.read attestation).cancelledEpoch = epoch) then
      { s with cancelGossip := s.cancelGossip.record senderId epoch attestation }
    else s

def handleCancelCommitGossip (cfg : AppConfig) (s : AppState) (senderId : ℤ) (inner : Bytes) (recallable : Bool) :
    AppState × Effects :=
  match adoptedAttestation cfg s senderId inner with
  | none => (recordCancelVote s senderId inner, .none)
  | some attestation => commitCancel cfg (recordCancelVote s senderId inner) attestation true recallable

def decisionGossipCounted (s : AppState) (epoch : ℕ) (completed : Bool) : Bool :=
  !s.isEpochTombstoned epoch && !(s.hasCommittedOrder && decide (epoch ≤ s.lastCommittedEpoch)) && !completed

-- some: f + 1 equal votes, and the order bytes join the queue of decided orders
def adoptedOrder (cfg : AppConfig) (s : AppState) (senderId : ℤ) (inner : Bytes) (completed : Bool) :
    Option (ℕ × Bytes) :=
  match gossipParse inner with
  | none => none
  | some (epoch, orderBytes) =>
    if decisionGossipCounted s epoch completed && !s.orderApplied &&
        (s.orderGossip.add senderId epoch orderBytes (anchoredFaults cfg.toleratedFaults cfg.totalVehicles + 1)).1 then
      some (epoch, orderBytes)
    else none

def recordOrderVote (s : AppState) (senderId : ℤ) (inner : Bytes) (completed : Bool) : AppState :=
  match gossipParse inner with
  | none => s
  | some (epoch, orderBytes) =>
    if decisionGossipCounted s epoch completed then
      { s with orderGossip := s.orderGossip.record senderId epoch orderBytes }
    else s

def handleDecisionGossip (cfg : AppConfig) (s : AppState) (senderId : ℤ) (inner : Bytes) (completed : Bool) : AppState :=
  match adoptedOrder cfg s senderId inner completed with
  | none => recordOrderVote s senderId inner completed
  | some (epoch, orderBytes) =>
    { s with
      pendingOrders := s.pendingOrders ++ [orderBytes]
      lastCommittedEpoch := epoch
      hasCommittedOrder := true
      orderGossip := .empty }

def admittedOrder (s : AppState) (dec : Bytes) (completed : Bool) : Option OrderDecision :=
  let hdr := OrderHdr.read dec
  if dec.length < OrderHdr.size then none
  else if completed then none
  else if s.isEpochTombstoned hdr.epoch then none
  else if s.orderApplied && decide (hdr.epoch ≤ s.currentEpoch) then none
  else if dec.length < OrderHdr.size + hdr.nVehicles * VehicleDecision.size then none
  else some (OrderDecision.read dec)

def takeSlot (s : AppState) (order : OrderDecision) (batch now : ℤ) : AppState × Effects :=
  let s :=
    { s with
      orderApplied := true
      myBatchIndex := batch
      precedingBatchCars := if 0 < batch then order.batch (batch - 1) else [] }
  if batch = 0 then (s, ⟨[], some order, some 0⟩)
  else ({ s with clearanceStarted := now, pollScheduled := true }, ⟨[], some order, none⟩)

def applyOrder (cfg : AppConfig) (s : AppState) (order : OrderDecision) (now : ℤ) : AppState × Effects :=
  let s :=
    { s with
      committedOrderVehicleIds := order.decisions.map VehicleDecision.replicaId
      cancelPending := s.cancelPending && !decide (order.epoch = s.rollbackNewEpoch) }
  if s.cancelPending && decide (order.epoch = s.cancelledEpoch) then (s, .none)
  else
    let s := { s with hasCommittedOrder := true, lastCommittedEpoch := order.epoch }
    match ownBatch cfg order with
    | none =>
      ({ s with orderApplied := s.orderApplied || decide (order.epoch = s.currentEpoch) },
        { Effects.none with applied := some order })
    | some batch => takeSlot s order batch now

def processDecision (cfg : AppConfig) (s : AppState) (dec : Bytes) (completed recallable : Bool) (now : ℤ) :
    AppState × Effects :=
  if isCancelDecision dec then commitCancel cfg s dec false recallable
  else
    match admittedOrder s dec completed with
    | none => (s, .none)
    | some order => applyOrder cfg s order now

def processOrder (cfg : AppConfig) (s : AppState) (completed recallable : Bool) (now : ℤ) : AppState × Effects :=
  match s.pendingOrders with
  | [] => (s, .none)
  | dec :: rest => processDecision cfg { s with pendingOrders := rest } dec completed recallable now

def AppState.waiting (s : AppState) : Bool := decide (0 < s.myBatchIndex) && !s.precedingBatchCars.isEmpty

def clearanceTimedOut (cfg : AppConfig) (s : AppState) (now : ℤ) : Bool :=
  decide (0 ≤ s.clearanceStarted) && decide (cfg.clearanceTimeout ≤ now - s.clearanceStarted)

def releaseWaiting (cfg : AppConfig) (s : AppState) (cleared : List ℤ) (now : ℤ) : AppState × Option ℤ :=
  if !s.waiting then (s, none)
  else if s.precedingBatchCars.all (fun v => decide (v ∈ cleared)) || clearanceTimedOut cfg s now then
    if s.cancelActive then ({ s with pollScheduled := true }, none) else (s, some s.myBatchIndex)
  else ({ s with pollScheduled := true }, none)

def perceiveCrashes (cfg : AppConfig) (s : AppState) : List (CancelCert × Bool) → AppState × List ℕ
  | [] => (s, [])
  | (cert, recallable) :: formed =>
    let first := broadcastCancelCert cfg s cert recallable
    let later := perceiveCrashes cfg first.1 formed
    (later.1, first.2.halted ++ later.2)

-- the crash and CLEAR scans of the tick may complete certificates before the release is decided
def clearancePoll (cfg : AppConfig) (s : AppState) (formed : List (CancelCert × Bool)) (cleared : List ℤ) (now : ℤ) :
    AppState × Effects :=
  if s.pollScheduled then
    let s := { s with pollScheduled := false }
    let scan := if cfg.enableRollback then perceiveCrashes cfg s formed else (s, [])
    let release := releaseWaiting cfg scan.1 cleared now
    (release.1, ⟨scan.2, none, release.2⟩)
  else (s, .none)

def resumeTimer (s : AppState) : AppState × Effects :=
  if s.resumeScheduled then
    let s := { s with resumeScheduled := false }
    if s.cancelActive then (s, .none) else (s, { Effects.none with released := some s.pendingResumePosition })
  else (s, .none)

-- stop-sign and consensus timeout, after their call of processOrders
def orderTimeout (cfg : AppConfig) (s : AppState) : AppState × Effects :=
  if s.orderApplied || s.cancelActive || cfg.enableRollback then (s, .none)
  else ({ s with orderApplied := true }, { Effects.none with released := some 0 })

inductive AppEvent
  | orderDecided (dec : Bytes)
  | decisionGossip (senderId : ℤ) (inner : Bytes) (completed : Bool)
  | processOrder (completed recallable : Bool) (now : ℤ)
  | cancelCert (payload : Bytes) (recallable : Bool)
  | cancelCertFormed (cert : CancelCert) (recallable : Bool)
  | cancelCommitGossip (senderId : ℤ) (inner : Bytes) (recallable : Bool)
  | clearancePoll (formed : List (CancelCert × Bool)) (cleared : List ℤ) (now : ℤ)
  | resumeTimer
  | orderTimeout
  | disableCrashComms
  deriving DecidableEq, Repr

def appStep (cfg : AppConfig) (s : AppState) : AppEvent → AppState × Effects
  | .orderDecided dec => ({ s with pendingOrders := s.pendingOrders ++ [dec] }, .none)
  | .decisionGossip senderId inner completed => (handleDecisionGossip cfg s senderId inner completed, .none)
  | .processOrder completed recallable now => processOrder cfg s completed recallable now
  | .cancelCert payload recallable => handleCancelCert cfg s payload recallable
  | .cancelCertFormed cert recallable => broadcastCancelCert cfg s cert recallable
  | .cancelCommitGossip senderId inner recallable => handleCancelCommitGossip cfg s senderId inner recallable
  | .clearancePoll formed cleared now => clearancePoll cfg s formed cleared now
  | .resumeTimer => resumeTimer s
  | .orderTimeout => orderTimeout cfg s
  | .disableCrashComms => (s.cancelTimers true, .none)

end V2vBft.App
