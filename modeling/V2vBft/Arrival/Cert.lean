import V2vBft.Arrival.Witness
import V2vBft.App.HaltInvariant

namespace V2vBft.Arrival

open Wire App

def ArrivalConfig.faults (cfg : ArrivalConfig) : ℤ := anchoredFaults cfg.toleratedFaults cfg.totalVehicles

def isArrivalSignerEligible (cfg : ArrivalConfig) (signerId : ℤ) : Bool :=
  decide (0 ≤ signerId ∧ signerId < cfg.totalVehicles)

def ArrivalConfig.keyMatches (cfg : ArrivalConfig) (signerId : ℤ) (pubKey : Bytes) : Bool :=
  decide (cfg.registeredKeys.lookup signerId = some pubKey)

def echoSignatureVerifies (cfg : ArrivalConfig) (echo : ArrivalEcho) : Bool :=
  cfg.verifyBytes echo.signerPubKey (arrivalEchoSigningPayload echo) echo.signature

def echoMatchesClaim (app : AppState) (state : VehicleState) (claimHash : Bytes) (echo : ArrivalEcho) : Bool :=
  decide (echo.epoch = signed32 app.currentEpoch) && decide (echo.lane = state.lane) &&
    decide (echo.physicalLaneIndex = state.physicalLaneIndex) &&
    decide (echo.lateralClaimCm = state.lateralClaimCm) && decide (echo.positionInLane = state.positionInLane) &&
    decide (echo.direction = state.direction) && decide (echo.isAmbulance = state.isAmbulance) &&
    decide (echo.claimHash = claimHash)

def acceptableEcho (cfg : ArrivalConfig) (app : AppState) (s : ArrivalState) (echo : ArrivalEcho) : Bool :=
  decide (echo.targetCarId = myCarId cfg.replicaId) && isArrivalSignerEligible cfg echo.echoingReplicaId &&
    decide (echo.signature ≠ []) && cfg.keyMatches echo.echoingReplicaId echo.signerPubKey &&
    (match s.localVehicleStates.lookup (myCarId cfg.replicaId),
        s.localClaimHashes.lookup (myCarId cfg.replicaId) with
      | some state, some claimHash => echoMatchesClaim app state claimHash echo
      | _, _ => false) &&
    echoSignatureVerifies cfg echo

def collectArrivalEcho (cfg : ArrivalConfig) (g : Gates) (app : AppState) (s : ArrivalState) (echo : ArrivalEcho) :
    ArrivalState :=
  if s.certBroadcast || !g.discovering app || !acceptableEcho cfg app s echo then s
  else if s.myReceivedEchoes.any fun e => decide (e.echoingReplicaId = echo.echoingReplicaId) then s
  else if max 0 cfg.totalVehicles ≤ s.myReceivedEchoes.length then s
  else { s with myReceivedEchoes := s.myReceivedEchoes ++ [echo] }

def handleArrivalEcho (cfg : ArrivalConfig) (g : Gates) (app : AppState) (s : ArrivalState) (echo : ArrivalEcho) :
    ArrivalState :=
  if g.stoppedDistanceCollectionActive then s else collectArrivalEcho cfg g app s echo

def certifiableLane (cfg : ArrivalConfig) (physicalLaneIndex lateralClaimCm : ℤ) : Bool :=
  if cfg.adjacentLateral then claimSemanticsValid cfg physicalLaneIndex lateralClaimCm
  else decide (physicalLaneIndex = 0 ∧ lateralClaimCm = 0)

-- the claimant's own signature over its declaration; it stays local
def addLocalSelfAttestation (cfg : ArrivalConfig) (g : Gates) (app : AppState) (s : ArrivalState)
    (ann : ArrivalAnnouncement) (sign : Bytes → Option Bytes) : ArrivalState × List ArrivalEcho :=
  if !g.discovering app || !certifiableLane cfg ann.physicalLaneIndex ann.lateralClaimCm then (s, [])
  else
    let echo := echoOf cfg ann ann.direction.cue
    match sign (arrivalEchoSigningPayload echo) with
    | none => (s, [])
    | some signature =>
      let echo := { echo with signature := signature }
      (collectArrivalEcho cfg g app s echo, [echo])

def broadcastKey (app : AppState) : Bytes := decimalNat app.currentEpoch ++ ascii ":broadcast"

-- `measured` holds the lane, position, direction, ambulance evidence and time of the declaration
def ownAnnouncement (cfg : ArrivalConfig) (app : AppState) (measured : ArrivalAnnouncement)
    (sign : Bytes → Option Bytes) : ArrivalAnnouncement :=
  let ann := { measured with carId := myCarId cfg.replicaId, epoch := signed32 app.currentEpoch }
  { ann with signature := (sign (canonicalArrivalAnnouncementPayload cfg ann)).getD [] }

def broadcastArrivalAnnouncement (cfg : ArrivalConfig) (g : Gates) (app : AppState) (s : ArrivalState)
    (measured : ArrivalAnnouncement) (sign : Bytes → Option Bytes) : ArrivalState × ArrivalEffects :=
  if g.stoppedDistanceCollectionActive || !g.discovering app then (s, .none)
  else if (s.cachedLocalAnnouncements.lookup (broadcastKey app)).isSome then (s, .none)
  else
    let ann := ownAnnouncement cfg app measured sign
    let s := { s with cachedLocalAnnouncements := (broadcastKey app, ann) :: s.cachedLocalAnnouncements }
    let attested := addLocalSelfAttestation cfg g app
      (s.store (vehicleStateOf ann ann.lane ann.isAmbulance) (arrivalAnnouncementHash cfg ann)) ann sign
    (attested.1, { ArrivalEffects.none with signed := attested.2 })

structure CertCheck where
  seen : List ℤ
  valid : ℕ

def echoMatchesCert (cert : ArrivalCert) (echo : ArrivalEcho) : Bool :=
  decide (echo.targetCarId = cert.carId) && decide (echo.epoch = cert.epoch) && decide (echo.lane = cert.lane) &&
    decide (echo.physicalLaneIndex = cert.physicalLaneIndex) &&
    decide (echo.lateralClaimCm = cert.lateralClaimCm) && decide (echo.positionInLane = cert.positionInLane) &&
    decide (echo.direction = cert.direction) && decide (echo.isAmbulance = cert.isAmbulance) &&
    decide (echo.claimHash = cert.claimHash)

def isValidArrivalEchoForCert (cfg : ArrivalConfig) (cert : ArrivalCert) (echo : ArrivalEcho) : Bool :=
  isArrivalSignerEligible cfg echo.echoingReplicaId && decide (echo.signature ≠ []) && echoMatchesCert cert echo &&
    cfg.keyMatches echo.echoingReplicaId echo.signerPubKey && echoSignatureVerifies cfg echo

-- none: a signer appears twice
def checkEcho (cfg : ArrivalConfig) (cert : ArrivalCert) : Option CertCheck → ArrivalEcho → Option CertCheck
  | none, _ => none
  | some c, echo =>
    if !isArrivalSignerEligible cfg echo.echoingReplicaId then some c
    else if echo.echoingReplicaId ∈ c.seen then none
    else if isValidArrivalEchoForCert cfg cert echo then some ⟨echo.echoingReplicaId :: c.seen, c.valid + 1⟩
    else some ⟨echo.echoingReplicaId :: c.seen, c.valid⟩

def validateArrivalCert (cfg : ArrivalConfig) (cert : ArrivalCert) : Bool :=
  if cert.direction = .unknown ∨ cert.carId = [] ∨
      certifiableLane cfg cert.physicalLaneIndex cert.lateralClaimCm = false then false
  else if (cert.echoes.length : ℤ) < cfg.faults + 1 ∨ max 0 cfg.totalVehicles < cert.echoes.length then false
  else
    match cert.echoes.foldl (checkEcho cfg cert) (some ⟨[], 0⟩) with
    | none => false
    | some c => decide (cfg.faults + 1 ≤ c.valid)

def vehicleStateOfCert (cert : ArrivalCert) : VehicleState where
  vehicleId := cert.carId
  lane := cert.lane
  positionInLane := cert.positionInLane
  physicalLaneIndex := cert.physicalLaneIndex
  lateralClaimCm := cert.lateralClaimCm
  direction := cert.direction
  isAmbulance := cert.isAmbulance

def handleArrivalCert (cfg : ArrivalConfig) (app : AppState) (s : ArrivalState) (cert : ArrivalCert) :
    ArrivalState × ArrivalEffects :=
  if cert.carId = [] ∨ validateArrivalCert cfg cert = false ∨ (s.collectedCerts.lookup cert.carId).isSome then
    (s, .none)
  else
    let known := (s.localVehicleStates.lookup cert.carId).isSome
    ({ s with
        collectedCerts := (cert.carId, cert) :: s.collectedCerts
        localClaimHashes := (cert.carId, cert.claimHash) :: s.localClaimHashes
        localVehicleStates :=
          if known then s.localVehicleStates else (cert.carId, vehicleStateOfCert cert) :: s.localVehicleStates },
      { ArrivalEffects.none with
        stored := if known then none else some (vehicleStateOfCert cert)
        emergency := emergencyRollback cfg app cert.carId cert.isAmbulance })

def localArrivalCert (cfg : ArrivalConfig) (app : AppState) (s : ArrivalState) (state : VehicleState)
    (claimHash : Bytes) : ArrivalCert where
  carId := myCarId cfg.replicaId
  lane := state.lane
  positionInLane := state.positionInLane
  physicalLaneIndex := state.physicalLaneIndex
  lateralClaimCm := state.lateralClaimCm
  direction := state.direction
  claimHash := claimHash
  isAmbulance := state.isAmbulance
  epoch := signed32 app.currentEpoch
  echoes := s.myReceivedEchoes

def finalizeLocalArrivalCert (cfg : ArrivalConfig) (app : AppState) (s : ArrivalState) : ArrivalState × ArrivalEffects :=
  match s.localVehicleStates.lookup (myCarId cfg.replicaId), s.localClaimHashes.lookup (myCarId cfg.replicaId) with
  | some state, some claimHash =>
    if s.certBroadcast || decide ((s.myReceivedEchoes.length : ℤ) < cfg.faults + 1) then (s, .none)
    else
      let cert := localArrivalCert cfg app s state claimHash
      let s := { s with certBroadcast := true }
      if (s.collectedCerts.lookup cert.carId).isSome then (s, .none)
      else
        ({ s with collectedCerts := (cert.carId, cert) :: s.collectedCerts },
          { ArrivalEffects.none with emergency := emergencyRollback cfg app cert.carId cert.isAmbulance })
  | _, _ => (s, .none)

def takenCancel (cfg : AppConfig) (s : AppState) : AppEvent → Option Bytes
  | .processOrder _ _ _ =>
    match s.pendingOrders with
    | [] => none
    | dec :: _ => if isCancelDecision dec then some dec else none
  | .cancelCommitGossip senderId inner _ => adoptedAttestation cfg s senderId inner
  | _ => none

def restartsDiscovery (cfg : AppConfig) (s : AppState) (ev : AppEvent) : Bool :=
  match takenCancel cfg s ev with
  | none => false
  | some dec => !s.repeatsCancel (CancelDecisionHdr.read dec).cancelledEpoch

structure ArrivalNode where
  app : AppState
  arrival : ArrivalState
  deriving DecidableEq, Repr

def ArrivalNode.initial : ArrivalNode := ⟨.initial, .initial⟩

inductive ArrivalEvent
  | app (ev : AppEvent)
  | announcement (g : Gates) (payload : Bytes) (fresh : ArrivalPerceptionSample) (sign : Bytes → Option Bytes)
  | announcementGossip (g : Gates) (inner : Bytes) (fresh : ArrivalPerceptionSample) (sign : Bytes → Option Bytes)
  | announce (g : Gates) (measured : ArrivalAnnouncement) (sign : Bytes → Option Bytes)
  | echo (g : Gates) (echo : ArrivalEcho)
  | cert (cert : ArrivalCert)
  | finalizeCert

-- beginPostCancelDiscovery clears the whole of the arrival state
def arrivalStep (cfg : ArrivalConfig) (n : ArrivalNode) : ArrivalEvent → ArrivalNode × ArrivalEffects
  | .app ev =>
    (⟨(appStep cfg.toAppConfig n.app ev).1,
      if restartsDiscovery cfg.toAppConfig n.app ev then .initial else n.arrival⟩, .none)
  | .announcement g payload fresh sign =>
    let r := handleArrivalAnnouncement cfg g n.app n.arrival payload fresh sign
    (⟨n.app, r.1⟩, r.2)
  | .announcementGossip g inner fresh sign =>
    let r := handleArrivalAnnouncementGossip cfg g n.app n.arrival inner fresh sign
    (⟨n.app, r.1⟩, r.2)
  | .announce g measured sign =>
    let r := broadcastArrivalAnnouncement cfg g n.app n.arrival measured sign
    (⟨n.app, r.1⟩, r.2)
  | .echo g echo => (⟨n.app, handleArrivalEcho cfg g n.app n.arrival echo⟩, .none)
  | .cert cert =>
    let r := handleArrivalCert cfg n.app n.arrival cert
    (⟨n.app, r.1⟩, r.2)
  | .finalizeCert =>
    let r := finalizeLocalArrivalCert cfg n.app n.arrival
    (⟨n.app, r.1⟩, r.2)

def heard (cfg : ArrivalConfig) (n : ArrivalNode) : ArrivalEvent → Option ArrivalAnnouncement
  | .announcement g payload _ _ =>
    if g.stoppedDistanceCollectionActive || !g.discovering n.app then none else authenticAnnouncement cfg payload
  | .announcementGossip g inner _ _ =>
    match gossipParse inner with
    | none => none
    | some (epoch, announceBytes) =>
      if n.app.hasCommittedOrder && decide (epoch ≤ n.app.lastCommittedEpoch) then none
      else if signed32 epoch < signed32 n.app.currentEpoch then none
      else if g.stoppedDistanceCollectionActive || !g.discovering n.app then none
      else authenticAnnouncement cfg announceBytes
  | _ => none

structure ArrivalObservation where
  announcement : Option ArrivalAnnouncement
  currentEpoch : ℕ
  effects : ArrivalEffects
  deriving DecidableEq, Repr

structure ArrivalRun where
  node : ArrivalNode
  trace : List ArrivalObservation
  deriving DecidableEq, Repr

def ArrivalRun.initial : ArrivalRun := ⟨.initial, []⟩

def arrivalRunStep (cfg : ArrivalConfig) (r : ArrivalRun) (ev : ArrivalEvent) : ArrivalRun :=
  ⟨(arrivalStep cfg r.node ev).1,
    ⟨heard cfg r.node ev, r.node.app.currentEpoch, (arrivalStep cfg r.node ev).2⟩ :: r.trace⟩

-- car 2 among four cars, with a checksum for the hash and for the signatures
def checksum (bs : Bytes) : Bytes := [bs.foldl (fun a b => a * 31 + b) 7]

def fourWitnesses : ArrivalConfig where
  toAppConfig :=
    { fourCars with
      registeredKeys := [(0, [10]), (1, [11]), (2, [12]), (3, [13])]
      verifyBytes := fun pubKey msg sig => decide (sig = checksum (pubKey ++ msg)) }
  publicKey := [12]
  sha256 := checksum
  stod := fun s => if s = ascii "0" then some 0 else none
  showDouble := fun _ => ascii "0"
  emergencyCaPub := [20]
  vehicleCaPub := [21]
  enableAmbulanceCertGate := true
  adjacentLateral := false
  projectPhysicalLaneIndex := fun _ => 0
  lateralWithinTolerance := fun _ => true
  directionEligibilityEnabled := true

def collectingGates : Gates := ⟨false, true, false, false, false⟩

def seenNorth : ArrivalPerceptionSample := ⟨true, 78, .left, false, 0⟩

def northCar (carId : String) (epoch : ℤ) (direction : Direction) : ArrivalAnnouncement :=
  { ArrivalAnnouncement.empty with
    carId := ascii carId, laneId := ascii "N_0", lane := ascii "N", direction := direction, epoch := epoch }

def signedWith (pubKey : Bytes) (ann : ArrivalAnnouncement) : ArrivalAnnouncement :=
  { ann with signature := checksum (pubKey ++ canonicalArrivalAnnouncementPayload fourWitnesses ann) }

def received (payload : Bytes) : ArrivalEvent :=
  .announcement collectingGates payload seenNorth fun toSign => some (checksum (fourWitnesses.publicKey ++ toSign))

def announced (ann : ArrivalAnnouncement) : ArrivalEvent := received (serializeArrivalAnnouncement fourWitnesses ann)

end V2vBft.Arrival
