import V2vBft.Arrival.Announcement
import V2vBft.App.EpochFrame

namespace V2vBft.Arrival

open Wire App

structure ArrivalPerceptionSample where
  detected : Bool
  observedApproach : UInt8
  observedCue : ObservedCue
  lateralCoordinateValid : Bool
  observedLateralCm : ℤ
  deriving DecidableEq, Repr

structure VehicleState where
  vehicleId : Bytes
  lane : Bytes
  positionInLane : ℤ
  physicalLaneIndex : ℤ
  lateralClaimCm : ℤ
  direction : Direction
  isAmbulance : Bool
  deriving DecidableEq, Repr

-- signature holds the signatureLen used bytes of the buffer
structure ArrivalEcho where
  echoingReplicaId : ℤ
  targetCarId : Bytes
  lane : Bytes
  positionInLane : ℤ
  physicalLaneIndex : ℤ
  lateralClaimCm : ℤ
  direction : Direction
  observedCue : ObservedCue
  claimHash : Bytes
  isAmbulance : Bool
  epoch : ℤ
  signerPubKey : Bytes
  signature : Bytes
  deriving DecidableEq, Repr

structure ArrivalCert where
  carId : Bytes
  lane : Bytes
  positionInLane : ℤ
  physicalLaneIndex : ℤ
  lateralClaimCm : ℤ
  direction : Direction
  claimHash : Bytes
  isAmbulance : Bool
  epoch : ℤ
  echoes : List ArrivalEcho
  deriving DecidableEq, Repr

def arrivalEchoSigningPayload (echo : ArrivalEcho) : Bytes :=
  joinWith 58 [echo.targetCarId, echo.lane, decimalInt echo.physicalLaneIndex, decimalInt echo.lateralClaimCm,
    decimalInt echo.positionInLane, dirToStr echo.direction, decimalNat echo.observedCue.code, toHex echo.claimHash,
    flagText echo.isAmbulance, decimalInt echo.epoch, decimalInt echo.echoingReplicaId]

-- maps hold their newest entry of a key first
structure ArrivalState where
  collectedCerts : List (Bytes × ArrivalCert)
  localVehicleStates : List (Bytes × VehicleState)
  localClaimHashes : List (Bytes × Bytes)
  arrivalPerceptionSamples : List (Bytes × ArrivalPerceptionSample)
  cachedArrivalEchoes : List (Bytes × ArrivalEcho)
  cachedLocalAnnouncements : List (Bytes × ArrivalAnnouncement)
  cachedArrivalRejections : List Bytes
  firstArrivalClaimHashes : List (Bytes × Bytes)
  myReceivedEchoes : List ArrivalEcho
  certBroadcast : Bool
  deriving DecidableEq, Repr

def ArrivalState.initial : ArrivalState := ⟨[], [], [], [], [], [], [], [], [], false⟩

-- what the rest of the vehicle decides about discovery, read when a handler runs
structure Gates where
  stoppedDistanceCollectionActive : Bool
  collecting : Bool
  proposeSubmitted : Bool
  crashCommsDisabled : Bool
  departed : Bool
  deriving DecidableEq, Repr

def Gates.discovering (g : Gates) (app : AppState) : Bool :=
  g.collecting && !g.proposeSubmitted && !app.orderApplied && !g.crashCommsDisabled && !g.departed

-- what a handler did: the echoes it signed anew and those it put on the air, the claim perceived, the record
-- stored, and the emergency CANCEL statement it echoed
structure ArrivalEffects where
  signed : List ArrivalEcho
  echoes : List ArrivalEcho
  perceived : Option ArrivalAnnouncement
  stored : Option VehicleState
  emergency : Option (ℕ × Bytes)
  deriving DecidableEq, Repr

def ArrivalEffects.none : ArrivalEffects := ⟨[], [], .none, .none, .none⟩

def vehicleCertSize : ℕ := 154

def cString (bs : Bytes) (off : ℕ) : Bytes := (bs.drop off).takeWhile (· ≠ 0)

-- the C struct: publicKey[33] role[16] issuer[32] caSignature[72] caSignatureLen
def certPublicKey (cert : Bytes) : Bytes := slice cert 0 cryptoPubkeyBytes
def certRole (cert : Bytes) : Bytes := cString cert 33
def certIssuer (cert : Bytes) : Bytes := cString cert 49
def certCaSignature (cert : Bytes) : Bytes := slice cert 81 (readU8 cert 153)

def certTBS (pubKey role issuer : Bytes) : Bytes :=
  pubKey ++ resize (role.take 15) 16 ++ resize (issuer.take 31) 32

-- the role of a valid certificate, empty for a forged one or an unknown issuer
def verifyCert (cfg : ArrivalConfig) (cert : Bytes) : Bytes :=
  let issuer := certIssuer cert
  let caPub :=
    if issuer = ascii "Emergency_CA" then some cfg.emergencyCaPub
    else if issuer = ascii "Vehicle_CA" then some cfg.vehicleCaPub
    else none
  match caPub with
  | none => []
  | some caPub =>
    if cfg.verifyBytes caPub (certTBS (certPublicKey cert) (certRole cert) issuer) (certCaSignature cert) then
      certRole cert
    else []

def ambulancePayload (ann : ArrivalAnnouncement) : Bytes :=
  joinWith 58 [ann.carId, ann.lane, decimalInt ann.positionInLane, dirToStr ann.direction, ascii "AMBULANCE"]

def ambulanceSignatureVerifies (cfg : ArrivalConfig) (ann : ArrivalAnnouncement) : Bool :=
  decide (ann.ambulanceSigBytes ≠ []) && decide (ann.ambulanceSigBytes.length ≤ cryptoSigMaxBytes) &&
    cfg.verifyBytes (certPublicKey ann.ambulanceCertBytes) (ambulancePayload ann) ann.ambulanceSigBytes

def effectiveIsAmbulance (cfg : ArrivalConfig) (ann : ArrivalAnnouncement) : Bool :=
  if ann.isAmbulance && decide (ann.ambulanceCertBytes.length = vehicleCertSize) then
    if verifyCert cfg ann.ambulanceCertBytes ≠ ascii "ambulance" then false
    else ambulanceSignatureVerifies cfg ann
  else if ann.isAmbulance && decide (ann.ambulanceCertBytes ≠ []) then false
  else ann.isAmbulance

def gatedIsAmbulance (cfg : ArrivalConfig) (ann : ArrivalAnnouncement) : Bool :=
  if cfg.enableAmbulanceCertGate && ann.isAmbulance && !effectiveIsAmbulance cfg ann then false
  else effectiveIsAmbulance cfg ann

def claimSemanticsValid (cfg : ArrivalConfig) (physicalLaneIndex lateralClaimCm : ℤ) : Bool :=
  !cfg.adjacentLateral ||
    (decide (physicalLaneIndex = 0 ∨ physicalLaneIndex = 1) &&
      decide (cfg.projectPhysicalLaneIndex lateralClaimCm = physicalLaneIndex))

def laneMatch (cfg : ArrivalConfig) (ann : ArrivalAnnouncement) (sample : ArrivalPerceptionSample) : Bool :=
  (sample.detected && decide (ann.lane = [sample.observedApproach])) &&
    (!cfg.adjacentLateral ||
      (sample.lateralCoordinateValid && claimSemanticsValid cfg ann.physicalLaneIndex ann.lateralClaimCm &&
        cfg.lateralWithinTolerance (sample.observedLateralCm - ann.lateralClaimCm).natAbs))

def toUpper (c : UInt8) : UInt8 := if 97 ≤ c ∧ c ≤ 122 then c - 32 else c

def approachLane (approach : UInt8) : Bytes :=
  let c := toUpper approach
  if [c] = ascii "N" ∨ [c] = ascii "S" ∨ [c] = ascii "E" ∨ [c] = ascii "W" then [c] else ascii "N"

def vehicleStateOf (ann : ArrivalAnnouncement) (lane : Bytes) (isAmbulance : Bool) : VehicleState where
  vehicleId := ann.carId
  lane := lane
  positionInLane := ann.positionInLane
  physicalLaneIndex := ann.physicalLaneIndex
  lateralClaimCm := ann.lateralClaimCm
  direction := ann.direction
  isAmbulance := isAmbulance

def ArrivalState.store (s : ArrivalState) (vs : VehicleState) (claimHash : Bytes) : ArrivalState :=
  { s with
    localVehicleStates := (vs.vehicleId, vs) :: s.localVehicleStates
    localClaimHashes := (vs.vehicleId, claimHash) :: s.localClaimHashes }

def emergencyRollback (cfg : ArrivalConfig) (app : AppState) (carId : Bytes) (isAmbulance : Bool) :
    Option (ℕ × Bytes) :=
  let cancelledEpoch := app.lastCommittedEpoch
  if !cfg.enableRollback || !isAmbulance || !app.hasCommittedOrder then none
  else if extractReplicaId carId ∈ app.committedOrderVehicleIds then none
  else if app.hasCommittedCancel cancelledEpoch || app.isEpochTombstoned cancelledEpoch ||
      (app.cancelPending && decide (app.cancelledEpoch = cancelledEpoch)) then none
  else some (cancelledEpoch, ascii "amb:" ++ carId ++ ascii ":" ++ decimalNat cancelledEpoch)

def echoOf (cfg : ArrivalConfig) (ann : ArrivalAnnouncement) (cue : ObservedCue) : ArrivalEcho where
  echoingReplicaId := cfg.replicaId
  targetCarId := ann.carId
  lane := ann.lane
  positionInLane := ann.positionInLane
  physicalLaneIndex := ann.physicalLaneIndex
  lateralClaimCm := ann.lateralClaimCm
  direction := ann.direction
  observedCue := cue
  claimHash := arrivalAnnouncementHash cfg ann
  isAmbulance := ann.isAmbulance
  epoch := ann.epoch
  signerPubKey := cfg.publicKey
  signature := []

def ArrivalState.reject (s : ArrivalState) (key : Bytes) : ArrivalState :=
  { s with cachedArrivalRejections := key :: s.cachedArrivalRejections }

-- `sign` is signBytes with this replica's key, none where it fails
def sendArrivalEcho (cfg : ArrivalConfig) (s : ArrivalState) (ann : ArrivalAnnouncement) (sign : Bytes → Option Bytes) :
    ArrivalState × ArrivalEffects :=
  let key := arrivalCacheKey cfg ann
  match s.cachedArrivalEchoes.lookup key with
  | some echo => (s, { ArrivalEffects.none with echoes := [echo] })
  | none =>
    if key ∈ s.cachedArrivalRejections then (s, .none)
    else
      match s.arrivalPerceptionSamples.lookup key with
      | none => (s.reject key, .none)
      | some sample =>
        let echo := echoOf cfg ann sample.observedCue
        match sign (arrivalEchoSigningPayload echo) with
        | none => (s, .none)
        | some signature =>
          let echo := { echo with signature := signature }
          ({ s with cachedArrivalEchoes := (key, echo) :: s.cachedArrivalEchoes },
            { ArrivalEffects.none with signed := [echo], echoes := [echo] })

-- a wrong lane is recorded without an echo, a car not seen at all is not recorded
def refuseAnnouncement (cfg : ArrivalConfig) (s : ArrivalState) (ann : ArrivalAnnouncement)
    (sample : ArrivalPerceptionSample) : ArrivalState × Option VehicleState :=
  let s := s.reject (arrivalCacheKey cfg ann)
  if sample.detected then
    let vs := vehicleStateOf ann (approachLane sample.observedApproach) false
    (s.store vs (arrivalAnnouncementHash cfg ann), some vs)
  else (s, none)

def acceptAnnouncement (cfg : ArrivalConfig) (app : AppState) (s : ArrivalState) (ann : ArrivalAnnouncement)
    (sign : Bytes → Option Bytes) : ArrivalState × ArrivalEffects :=
  let isAmbulance := gatedIsAmbulance cfg ann
  let vs := vehicleStateOf ann ann.lane isAmbulance
  let sent := sendArrivalEcho cfg (s.store vs (arrivalAnnouncementHash cfg ann))
    { ann with isAmbulance := isAmbulance } sign
  (sent.1,
    { sent.2 with
      stored := some vs
      emergency := emergencyRollback cfg app ann.carId isAmbulance })

-- one perception verdict for each claim variant; `fresh` is what observeArrival reports now
def sampleFor (cfg : ArrivalConfig) (s : ArrivalState) (ann : ArrivalAnnouncement) (fresh : ArrivalPerceptionSample) :
    ArrivalPerceptionSample := (s.arrivalPerceptionSamples.lookup (arrivalCacheKey cfg ann)).getD fresh

def perceiveArrival (cfg : ArrivalConfig) (s : ArrivalState) (ann : ArrivalAnnouncement)
    (fresh : ArrivalPerceptionSample) : ArrivalState × Option ArrivalAnnouncement :=
  let key := arrivalCacheKey cfg ann
  if (s.arrivalPerceptionSamples.lookup key).isSome then (s, none)
  else ({ s with arrivalPerceptionSamples := (key, fresh) :: s.arrivalPerceptionSamples }, some ann)

def evaluateAnnouncement (cfg : ArrivalConfig) (app : AppState) (s : ArrivalState) (ann : ArrivalAnnouncement)
    (fresh : ArrivalPerceptionSample) (sign : Bytes → Option Bytes) : ArrivalState × ArrivalEffects :=
  let sample := sampleFor cfg s ann fresh
  let seen := perceiveArrival cfg s ann fresh
  if laneMatch cfg ann sample then
    let accepted := acceptAnnouncement cfg app seen.1 ann sign
    (accepted.1, { accepted.2 with perceived := seen.2 })
  else
    let refused := refuseAnnouncement cfg seen.1 ann sample
    (refused.1, { ArrivalEffects.none with perceived := seen.2, stored := refused.2 })

def admitVariant (cfg : ArrivalConfig) (s : ArrivalState) (ann : ArrivalAnnouncement) : ArrivalState × Bool :=
  let claimHash := arrivalAnnouncementHash cfg ann
  match s.firstArrivalClaimHashes.lookup (variantKey ann) with
  | none => ({ s with firstArrivalClaimHashes := (variantKey ann, claimHash) :: s.firstArrivalClaimHashes }, true)
  | some first => if first = claimHash then (s, true) else (s.reject (arrivalCacheKey cfg ann), false)

def considerAnnouncement (cfg : ArrivalConfig) (app : AppState) (s : ArrivalState) (ann : ArrivalAnnouncement)
    (fresh : ArrivalPerceptionSample) (sign : Bytes → Option Bytes) : ArrivalState × ArrivalEffects :=
  let admitted := admitVariant cfg s ann
  let s := admitted.1
  let key := arrivalCacheKey cfg ann
  if !admitted.2 then (s, .none)
  else if (s.cachedArrivalEchoes.lookup key).isSome then
    if (s.collectedCerts.lookup ann.carId).isSome then (s, .none) else sendArrivalEcho cfg s ann sign
  else if key ∈ s.cachedArrivalRejections then (s, .none)
  else evaluateAnnouncement cfg app s ann fresh sign

def handleArrivalAnnouncement (cfg : ArrivalConfig) (g : Gates) (app : AppState) (s : ArrivalState) (payload : Bytes)
    (fresh : ArrivalPerceptionSample) (sign : Bytes → Option Bytes) : ArrivalState × ArrivalEffects :=
  if g.stoppedDistanceCollectionActive || !g.discovering app then (s, .none)
  else
    match authenticAnnouncement cfg payload with
    | none => (s, .none)
    | some ann => considerAnnouncement cfg app s ann fresh sign

-- the carrier's own signature over `inner` has been verified
def handleArrivalAnnouncementGossip (cfg : ArrivalConfig) (g : Gates) (app : AppState) (s : ArrivalState)
    (inner : Bytes) (fresh : ArrivalPerceptionSample) (sign : Bytes → Option Bytes) : ArrivalState × ArrivalEffects :=
  match gossipParse inner with
  | none => (s, .none)
  | some (epoch, announceBytes) =>
    if app.hasCommittedOrder && decide (epoch ≤ app.lastCommittedEpoch) then (s, .none)
    else if signed32 epoch < signed32 app.currentEpoch then (s, .none)
    else handleArrivalAnnouncement cfg g app s announceBytes fresh sign

end V2vBft.Arrival
