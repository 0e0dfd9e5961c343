import V2vBft.Rollback.System

/-! The transmit queue of a discovery round, and the round from collecting to complete. -/

namespace V2vBft.Discovery

open Wire App Arrival Rollback

inductive MsgType
  | arrivalAnnounce
  | arrivalAnnounceGossip
  | arrivalEcho
  | arrivalCert
  | stoppedDistanceAttestation
  | stoppedDistanceEcho
  | stoppedDistanceCert
  deriving DecidableEq, Repr

def MsgType.isCert (t : MsgType) : Bool := decide (t = .arrivalCert) || decide (t = .stoppedDistanceCert)

def MsgType.isStoppedDistance (t : MsgType) : Bool :=
  decide (t = .stoppedDistanceAttestation) || decide (t = .stoppedDistanceEcho) || decide (t = .stoppedDistanceCert)

inductive LocalCertState
  | notAssembled
  | queued
  | aired
  deriving DecidableEq, Repr

structure PendingDiscoveryTx where
  msgType : MsgType
  fireTime : ℤ
  epoch : ℕ
  localCert : Bool
  witnessTraffic : Bool
  deriving DecidableEq, Repr

-- state to localDistanceCert are those of discovery_; a timer is whether it is scheduled, a threshold whether
-- the echoes for the certificate are there; the stores are given by their cars
structure DiscoveryNode where
  state : DiscoveryState
  epoch : ℕ
  lastNewIntentAt : ℤ
  localCert : LocalCertState
  localDistanceCert : LocalCertState
  currentEpoch : ℕ
  stoppedDistanceCollectionActive : Bool
  pendingDiscoveryTxs : List PendingDiscoveryTx
  certRetryTimer : Bool
  certPendingRetries : Bool
  certRetryCount : ℤ
  certBroadcast : Bool
  arrivalThreshold : Bool
  arrivalCertFinalizeTimer : Bool
  stoppedDistanceAttestationSent : Bool
  stoppedDistanceCertBroadcast : Bool
  distanceThreshold : Bool
  stoppedDistanceFinalizeTimer : Bool
  observedIntentCars : List Bytes
  collectedCerts : List Bytes
  collectedDistanceCerts : List Bytes
  enteredStopZone : Bool
  proposeSubmitted : Bool
  orderApplied : Bool
  departed : Bool
  crashCommsDisabled : Bool
  cancelPending : Bool
  rollbackLocalRecallable : Bool
  cancelState : CancelState
  deriving DecidableEq, Repr

def DiscoveryNode.initial : DiscoveryNode where
  state := .inactive
  epoch := 0
  lastNewIntentAt := -1
  localCert := .notAssembled
  localDistanceCert := .notAssembled
  currentEpoch := 0
  stoppedDistanceCollectionActive := false
  pendingDiscoveryTxs := []
  certRetryTimer := false
  certPendingRetries := false
  certRetryCount := 0
  certBroadcast := false
  arrivalThreshold := false
  arrivalCertFinalizeTimer := false
  stoppedDistanceAttestationSent := false
  stoppedDistanceCertBroadcast := false
  distanceThreshold := false
  stoppedDistanceFinalizeTimer := false
  observedIntentCars := []
  collectedCerts := []
  collectedDistanceCerts := []
  enteredStopZone := false
  proposeSubmitted := false
  orderApplied := false
  departed := false
  crashCommsDisabled := false
  cancelPending := false
  rollbackLocalRecallable := false
  cancelState := .inactive

structure DiscoveryConfig where
  replicaId : ℤ
  enableCertRetries : Bool
  certRetryMax : ℤ
  discoveryIntentSettle : ℤ
  collectionWindow : ℤ

-- the time, the slot and jitter of the frame that gets a place of the queue, the delay of the second copy of a
-- distance certificate, and whether this replica is the certificate primary
structure Readings where
  now : ℤ
  delay : ℕ → ℤ
  retryDelay : ℤ
  certPrimary : Bool

variable (cfg : DiscoveryConfig) (r : Readings) (drain : DiscoveryNode → DiscoveryNode) (s : DiscoveryNode)

def discoveryAcceptsNewTx (msgType : MsgType) (localCert witnessTraffic : Bool) : Bool :=
  if s.departed then false
  else if s.cancelState = .draining ∨ s.cancelState = .consensus then false
  else if witnessTraffic && decide (msgType = .arrivalEcho) then !s.stoppedDistanceCollectionActive
  else if witnessTraffic && decide (msgType = .stoppedDistanceEcho) then true
  else if s.orderApplied || s.proposeSubmitted then false
  else if s.state = .collecting then !s.stoppedDistanceCollectionActive || msgType.isStoppedDistance
  else
    decide (s.state = .drainingCerts) && localCert &&
      (decide (msgType = .arrivalCert) && decide (s.localCert ≠ .aired) ||
        decide (msgType = .stoppedDistanceCert) && decide (s.localDistanceCert ≠ .aired))

def enqueueDiscoveryTx (msgType : MsgType) (fireTime : ℤ) (localCert witnessTraffic : Bool) : DiscoveryNode :=
  if s.crashCommsDisabled then s
  else
    { s with
      pendingDiscoveryTxs := s.pendingDiscoveryTxs ++ [⟨msgType, fireTime, s.currentEpoch, localCert, witnessTraffic⟩] }

def sendBFTMessage (msgType : MsgType) (localCert witnessTraffic : Bool) : DiscoveryNode :=
  if s.crashCommsDisabled then s
  else if !discoveryAcceptsNewTx s msgType localCert witnessTraffic then s
  else enqueueDiscoveryTx s msgType (r.now + r.delay s.pendingDiscoveryTxs.length) localCert witnessTraffic

def stopCertBroadcastRetries : DiscoveryNode :=
  { s with certRetryTimer := false, certPendingRetries := false, certRetryCount := 0 }

def scheduleNextCertRetry : DiscoveryNode :=
  if !cfg.enableCertRetries || !s.certPendingRetries then s
  else if s.proposeSubmitted || s.orderApplied then stopCertBroadcastRetries s
  else { s with certRetryTimer := true }

def shouldIncludeInRollbackMembership (replicaId : ℤ) : Bool :=
  if replicaId < 0 then false
  else if replicaId = cfg.replicaId then s.rollbackLocalRecallable && !s.departed
  else true

def eligibleIntents : List Bytes :=
  s.observedIntentCars.filter fun carId =>
    !s.cancelPending || shouldIncludeInRollbackMembership cfg s (extractReplicaId carId)

def arrivalViewCertified : Bool :=
  !(eligibleIntents cfg s).isEmpty && (eligibleIntents cfg s).all fun carId => decide (carId ∈ s.collectedCerts)

def discoveryViewCertified : Bool :=
  !(eligibleIntents cfg s).isEmpty &&
    (!s.cancelPending || !s.rollbackLocalRecallable || decide (myCarId cfg.replicaId ∈ eligibleIntents cfg s)) &&
    (eligibleIntents cfg s).all fun carId =>
      decide (carId ∈ s.collectedCerts) && decide (carId ∈ s.collectedDistanceCerts)

def hasPendingDiscoveryCerts (epoch : ℕ) : Bool :=
  s.pendingDiscoveryTxs.any fun p => decide (p.epoch = epoch) && p.msgType.isCert

-- the evaluation of readiness that follows is an event of its own
def finishDiscoveryRound : DiscoveryNode :=
  if s.state ≠ .drainingCerts then s else stopCertBroadcastRetries { s with state := .complete }

def maybeCompleteDiscoveryDrain : DiscoveryNode :=
  if s.state ≠ .drainingCerts then s
  else if s.localCert = .queued then s
  else if s.localDistanceCert = .queued then s
  else if hasPendingDiscoveryCerts s s.epoch then s
  else finishDiscoveryRound s

def discardPendingDiscoveryNonCerts : DiscoveryNode :=
  { s with pendingDiscoveryTxs := s.pendingDiscoveryTxs.filter fun p => p.msgType.isCert }

def beginStoppedDistanceCollection : DiscoveryNode :=
  if s.stoppedDistanceCollectionActive || decide (s.state ≠ .collecting) then s
  else
    { s with
      stoppedDistanceCollectionActive := true
      pendingDiscoveryTxs := s.pendingDiscoveryTxs.filter fun p => p.msgType.isStoppedDistance }

def maybeAdvanceDiscovery (deadline : Bool) : DiscoveryNode :=
  if decide (s.state ≠ .collecting) || !s.enteredStopZone || s.proposeSubmitted || s.orderApplied then s
  else if deadline then
    if !s.stoppedDistanceCollectionActive && arrivalViewCertified cfg s && !discoveryViewCertified cfg s then
      beginStoppedDistanceCollection s
    else drain s
  else if r.now < s.lastNewIntentAt + cfg.discoveryIntentSettle then s
  else if s.epoch = 0 ∧ s.stoppedDistanceCollectionActive = false then s
  else if !discoveryViewCertified cfg s then s
  else drain s

def broadcastCollectedCerts : DiscoveryNode :=
  s.collectedCerts.foldl (fun s _ => sendBFTMessage r s .arrivalCert false false) s

def startStopZoneCertGossip (immediate : Bool) : DiscoveryNode :=
  if s.state ≠ .collecting then s else if immediate then broadcastCollectedCerts r s else s

def armCertRetries : DiscoveryNode :=
  if cfg.enableCertRetries then
    scheduleNextCertRetry cfg { s with certPendingRetries := true, certRetryCount := 0, certRetryTimer := false }
  else s

-- broadcastArrivalCert up to its call of maybeAdvanceDiscovery
def airArrivalCert : DiscoveryNode :=
  let s := armCertRetries cfg (sendBFTMessage r { s with localCert := .queued } .arrivalCert true false)
  let fresh := decide (myCarId cfg.replicaId ∉ s.collectedCerts)
  let s := if fresh then { s with collectedCerts := myCarId cfg.replicaId :: s.collectedCerts } else s
  if s.enteredStopZone && decide (s.state = .collecting) then startStopZoneCertGossip r s (fresh && r.certPrimary)
  else s

def assemblesArrivalCert : Bool := s.arrivalThreshold && !s.certBroadcast

def finalizeLocalArrivalCert : DiscoveryNode :=
  if !assemblesArrivalCert s then s
  else
    maybeAdvanceDiscovery cfg r drain
      (airArrivalCert cfg r { s with arrivalCertFinalizeTimer := false, certBroadcast := true }) false

def assemblesDistanceCert : Bool :=
  s.stoppedDistanceAttestationSent && !s.stoppedDistanceCertBroadcast && s.distanceThreshold

-- finalizeLocalStoppedDistanceCert up to its call of maybeAdvanceDiscovery
def airDistanceCert : DiscoveryNode :=
  let s := sendBFTMessage r { s with localDistanceCert := .queued } .stoppedDistanceCert true false
  let s := enqueueDiscoveryTx s .stoppedDistanceCert (r.now + r.retryDelay) true false
  { s with collectedDistanceCerts := myCarId cfg.replicaId :: s.collectedDistanceCerts }

def finalizeLocalStoppedDistanceCert : DiscoveryNode :=
  if !assemblesDistanceCert s then s
  else
    maybeAdvanceDiscovery cfg r drain
      (airDistanceCert cfg r { s with stoppedDistanceFinalizeTimer := false, stoppedDistanceCertBroadcast := true }) false

-- a certificate that is assembled here advances the round once more: each of the two at most once
def beginDiscoveryDrain : ℕ → DiscoveryNode → DiscoveryNode
  | 0, s => s
  | depth + 1, s =>
    if s.state ≠ .collecting then s
    else
      let s := finalizeLocalArrivalCert cfg r (beginDiscoveryDrain depth) s
      let s := finalizeLocalStoppedDistanceCert cfg r (beginDiscoveryDrain depth) s
      maybeCompleteDiscoveryDrain (discardPendingDiscoveryNonCerts
        { s with state := .drainingCerts, stoppedDistanceCollectionActive := false })

-- two certificates can be assembled, so three rounds of the call are as many as there are
def drainRound : DiscoveryNode → DiscoveryNode := beginDiscoveryDrain cfg r 3

def stopsAiring (p : PendingDiscoveryTx) : Bool :=
  decide (p.epoch ≠ s.epoch) || decide (s.state = .inactive) || decide (s.state = .complete) ||
    decide (s.state = .drainingCerts) && !p.msgType.isCert

def witnessAllowed (p : PendingDiscoveryTx) : Bool :=
  p.witnessTraffic && (decide (p.msgType = .arrivalEcho) || decide (p.msgType = .stoppedDistanceEcho)) && !s.departed

def airDiscoveryTx (p : PendingDiscoveryTx) : DiscoveryNode :=
  if !witnessAllowed s p && stopsAiring s p then s
  else
    let s :=
      if decide (p.msgType = .arrivalCert) && p.localCert then
        let s := { s with localCert := .aired }
        if s.state = .drainingCerts then stopCertBroadcastRetries s else s
      else s
    if decide (p.msgType = .stoppedDistanceCert) && p.localCert then { s with localDistanceCert := .aired } else s

def flushDueDiscoveryTxs (now : ℤ) : DiscoveryNode :=
  let due := s.pendingDiscoveryTxs.filter fun p => decide (p.fireTime ≤ now)
  let kept := s.pendingDiscoveryTxs.filter fun p => !decide (p.fireTime ≤ now)
  maybeCompleteDiscoveryDrain (due.foldl airDiscoveryTx { s with pendingDiscoveryTxs := kept })

def certRetryTimer : DiscoveryNode :=
  if !s.certRetryTimer then s
  else if !s.certPendingRetries || decide (s.state = .inactive) || decide (s.state = .complete) ||
      decide (s.state = .drainingCerts) && decide (s.localCert = .aired) then stopCertBroadcastRetries s
  else
    let s := sendBFTMessage r { s with certRetryTimer := false, certRetryCount := s.certRetryCount + 1 } .arrivalCert
      true false
    if 0 < cfg.certRetryMax ∧ cfg.certRetryMax ≤ s.certRetryCount then stopCertBroadcastRetries s
    else scheduleNextCertRetry cfg s

def startDiscoveryRound (now : ℤ) : DiscoveryNode :=
  if s.departed then s
  else
    { s with
      arrivalCertFinalizeTimer := false
      stoppedDistanceFinalizeTimer := false
      distanceThreshold := false
      stoppedDistanceAttestationSent := false
      stoppedDistanceCertBroadcast := false
      stoppedDistanceCollectionActive := false
      state := .collecting
      epoch := s.currentEpoch
      lastNewIntentAt := now
      localCert := .notAssembled
      localDistanceCert := .notAssembled }

def noteDiscoveryIntent (now : ℤ) : DiscoveryNode :=
  if s.proposeSubmitted || s.orderApplied || s.departed then s
  else
    { s with
      state := if s.state = .drainingCerts ∨ s.state = .complete then .collecting else s.state
      lastNewIntentAt := now }

def observeIntent (carId : Bytes) (now : ℤ) : DiscoveryNode :=
  if carId ∈ s.observedIntentCars then s
  else noteDiscoveryIntent { s with observedIntentCars := carId :: s.observedIntentCars } now

def deactivateDiscovery : DiscoveryNode :=
  { stopCertBroadcastRetries s with
    arrivalCertFinalizeTimer := false
    stoppedDistanceFinalizeTimer := false
    pendingDiscoveryTxs := []
    state := .inactive
    stoppedDistanceCollectionActive := false }

def collectsArrivals : Bool :=
  !s.stoppedDistanceCollectionActive && decide (s.state = .collecting) && !s.proposeSubmitted && !s.orderApplied &&
    !s.crashCommsDisabled && !s.departed

-- what is kept of a radio certificate before the round is advanced; tryRelay: it is relayed the first time
def storeArrivalCert (carId : Bytes) (tryRelay : Bool) : DiscoveryNode :=
  let s := { s with collectedCerts := carId :: s.collectedCerts }
  let s :=
    if carId ∈ s.observedIntentCars then s
    else
      let s := { s with observedIntentCars := carId :: s.observedIntentCars }
      if s.state = .collecting then noteDiscoveryIntent s r.now else s
  let s := if decide (s.state = .collecting) && tryRelay then sendBFTMessage r s .arrivalCert false false else s
  if s.enteredStopZone && decide (s.state = .collecting) then startStopZoneCertGossip r s r.certPrimary else s

def storeDistanceCert (carId : Bytes) : DiscoveryNode :=
  let s := { s with collectedDistanceCerts := carId :: s.collectedDistanceCerts }
  if s.state = .collecting then sendBFTMessage r s .stoppedDistanceCert false false else s

-- an echo for the own claim; reached: it is the last that the certificate needs, or one behind that
def takeArrivalEcho (reached : Bool) : DiscoveryNode :=
  if !collectsArrivals s || s.certBroadcast || !reached then s else { s with arrivalThreshold := true }

def armsArrivalFinalize (reached : Bool) : Bool :=
  collectsArrivals s && !s.certBroadcast && reached && !s.arrivalCertFinalizeTimer

def arrivalEcho (reached : Bool) : DiscoveryNode :=
  let taken := takeArrivalEcho s reached
  if !armsArrivalFinalize s reached then taken
  else if cfg.collectionWindow ≤ 0 then finalizeLocalArrivalCert cfg r (drainRound cfg r) taken
  else { taken with arrivalCertFinalizeTimer := true }

def distanceEcho (reached : Bool) : DiscoveryNode :=
  if !s.stoppedDistanceAttestationSent || s.stoppedDistanceCertBroadcast || !reached then s
  else { s with distanceThreshold := true, stoppedDistanceFinalizeTimer := true }

-- alone: no echo of another vehicle is needed
def maybeBroadcastStoppedDistanceAttestation (alone : Bool) : DiscoveryNode :=
  if s.stoppedDistanceAttestationSent || !s.enteredStopZone || decide (s.state ≠ .collecting) || s.proposeSubmitted ||
      s.orderApplied || s.crashCommsDisabled then s
  else
    let s := sendBFTMessage r { s with stoppedDistanceAttestationSent := true } .stoppedDistanceAttestation false false
    if alone then { s with distanceThreshold := true, stoppedDistanceFinalizeTimer := true } else s

def proposeAll : DiscoveryNode :=
  if s.proposeSubmitted || decide (s.state ≠ .complete) then s
  else { stopCertBroadcastRetries s with arrivalCertFinalizeTimer := false, proposeSubmitted := true }

def beginPostCancelDiscovery (newEpoch : ℕ) (recallable : Bool) (now : ℤ) : DiscoveryNode :=
  startDiscoveryRound
    { stopCertBroadcastRetries s with
      cancelPending := true
      rollbackLocalRecallable := recallable
      cancelState := .committed
      currentEpoch := newEpoch
      proposeSubmitted := false
      orderApplied := false
      certBroadcast := false
      arrivalThreshold := false
      distanceThreshold := false
      pendingDiscoveryTxs := []
      observedIntentCars := []
      collectedCerts := []
      collectedDistanceCerts := [] } now

def disableCrashComms : DiscoveryNode :=
  if s.crashCommsDisabled then s
  else
    { stopCertBroadcastRetries s with
      crashCommsDisabled := true
      arrivalCertFinalizeTimer := false
      stoppedDistanceFinalizeTimer := false
      pendingDiscoveryTxs := [] }

-- the other protocols of the vehicle move the flags by events of their own
inductive DiscoveryEvent
  | initialApproach (now : ℤ)
  | enterStopZone (r : Readings)
  | intent (carId : Bytes) (now : ℤ)
  | frame (msgType : MsgType) (witnessTraffic : Bool) (r : Readings)
  | arrivalEcho (reached : Bool) (r : Readings)
  | arrivalFinalizeTimer (r : Readings)
  | arrivalCert (carId : Bytes) (tryRelay : Bool) (r : Readings)
  | attest (alone : Bool) (r : Readings)
  | distanceEcho (reached : Bool)
  | distanceFinalizeTimer (r : Readings)
  | distanceCert (carId : Bytes) (r : Readings)
  | deadline (r : Readings)
  | settle (r : Readings)
  | flush (now : ℤ)
  | certRetryTimer (r : Readings)
  | primaryPacket
  | proposeAll
  | proposeCancel
  | proposalReopened
  | orderCommitted (applied : Bool)
  | orderTimeout
  | cancelMoves (state : CancelState)
  | recoveryOrdered
  | postCancelDiscovery (newEpoch : ℕ) (recallable : Bool) (now : ℤ)
  | crash
  | depart

def discoveryStep : DiscoveryEvent → DiscoveryNode
  | .initialApproach now => startDiscoveryRound s now
  | .enterStopZone r =>
    if s.enteredStopZone || s.orderApplied then s
    else maybeAdvanceDiscovery cfg r (drainRound cfg r) { s with enteredStopZone := true } false
  | .intent carId now => if collectsArrivals s then observeIntent s carId now else s
  | .frame msgType witnessTraffic r => sendBFTMessage r s msgType false witnessTraffic
  | .arrivalEcho reached r => arrivalEcho cfg r s reached
  | .arrivalFinalizeTimer r =>
    if s.arrivalCertFinalizeTimer then
      finalizeLocalArrivalCert cfg r (drainRound cfg r) { s with arrivalCertFinalizeTimer := false }
    else s
  | .arrivalCert carId tryRelay r =>
    if carId ∈ s.collectedCerts then s
    else maybeAdvanceDiscovery cfg r (drainRound cfg r) (storeArrivalCert r s carId tryRelay) false
  | .attest alone r => maybeBroadcastStoppedDistanceAttestation r s alone
  | .distanceEcho reached => distanceEcho s reached
  | .distanceFinalizeTimer r =>
    if s.stoppedDistanceFinalizeTimer then
      finalizeLocalStoppedDistanceCert cfg r (drainRound cfg r) { s with stoppedDistanceFinalizeTimer := false }
    else s
  | .distanceCert carId r =>
    if carId ∈ s.collectedDistanceCerts ∨ carId ∉ s.collectedCerts then s
    else maybeAdvanceDiscovery cfg r (drainRound cfg r) (storeDistanceCert r s carId) false
  | .deadline r => maybeAdvanceDiscovery cfg r (drainRound cfg r) s true
  | .settle r => maybeAdvanceDiscovery cfg r (drainRound cfg r) s false
  | .flush now => flushDueDiscoveryTxs s now
  | .certRetryTimer r => certRetryTimer cfg r s
  | .primaryPacket => stopCertBroadcastRetries s
  | .proposeAll => proposeAll s
  | .proposeCancel => { s with proposeSubmitted := true }
  | .proposalReopened => { s with proposeSubmitted := false }
  | .orderCommitted applied =>
    let s := deactivateDiscovery s
    if applied then { s with orderApplied := true } else s
  | .orderTimeout => { s with orderApplied := true }
  | .cancelMoves state => { s with cancelState := state }
  | .recoveryOrdered => { s with cancelPending := false, cancelState := .inactive }
  | .postCancelDiscovery newEpoch recallable now => beginPostCancelDiscovery s newEpoch recallable now
  | .crash => disableCrashComms s
  | .depart => { deactivateDiscovery s with departed := true }

end V2vBft.Discovery
