import V2vBft.Arrival.Cert

namespace V2vBft.Arrival

open Wire App

structure StoppedDistanceAttestation where
  targetCarId : Bytes
  epoch : ℤ
  earlyClaimHash : Bytes
  distanceToStopCm : ℤ
  signature : Bytes
  deriving DecidableEq, Repr

structure StoppedDistanceEcho where
  echoingReplicaId : ℤ
  targetCarId : Bytes
  epoch : ℤ
  earlyClaimHash : Bytes
  attestationHash : Bytes
  distanceToStopCm : ℤ
  signerPubKey : Bytes
  signature : Bytes
  deriving DecidableEq, Repr

structure StoppedDistanceCert where
  attestation : StoppedDistanceAttestation
  echoes : List StoppedDistanceEcho
  deriving DecidableEq, Repr

def canonicalStoppedDistanceAttestationPayload (att : StoppedDistanceAttestation) : Bytes :=
  joinWith 124 [att.targetCarId, decimalInt att.epoch, toHex att.earlyClaimHash, decimalInt att.distanceToStopCm]

def serializeStoppedDistanceAttestation (att : StoppedDistanceAttestation) : Bytes :=
  canonicalStoppedDistanceAttestationPayload att ++ ascii "|" ++ decimalNat att.signature.length ++ ascii "|" ++
    resize att.signature cryptoSigMaxBytes

def stoppedDistanceAttestationHash (cfg : ArrivalConfig) (att : StoppedDistanceAttestation) : Bytes :=
  cfg.sha256 (serializeStoppedDistanceAttestation att)

def validateStoppedDistanceAttestation (cfg : ArrivalConfig) (app : AppState) (att : StoppedDistanceAttestation) :
    Bool :=
  let origin := extractReplicaId att.targetCarId
  if origin < 0 ∨ att.epoch ≠ signed32 app.currentEpoch ∨ att.distanceToStopCm < 0 ∨ att.signature = [] then false
  else
    match cfg.registeredKeys.lookup origin with
    | none => false
    | some key => cfg.verifyBytes key (canonicalStoppedDistanceAttestationPayload att) (usedSignature att.signature)

def stoppedDistanceEchoSigningPayload (echo : StoppedDistanceEcho) : Bytes :=
  joinWith 124 [decimalInt echo.echoingReplicaId, echo.targetCarId, decimalInt echo.epoch, toHex echo.earlyClaimHash,
    toHex echo.attestationHash, decimalInt echo.distanceToStopCm]

def distanceEchoMatches (cfg : ArrivalConfig) (att : StoppedDistanceAttestation) (echo : StoppedDistanceEcho) : Bool :=
  isArrivalSignerEligible cfg echo.echoingReplicaId && decide (echo.signature ≠ []) &&
    decide (echo.targetCarId = att.targetCarId) && decide (echo.epoch = att.epoch) &&
    decide (echo.earlyClaimHash = att.earlyClaimHash) &&
    decide (echo.attestationHash = stoppedDistanceAttestationHash cfg att) &&
    decide (echo.distanceToStopCm = att.distanceToStopCm) &&
    cfg.keyMatches echo.echoingReplicaId echo.signerPubKey &&
    cfg.verifyBytes echo.signerPubKey (stoppedDistanceEchoSigningPayload echo) echo.signature

-- one bad echo or a second one of a signer spoils the certificate
def checkDistanceEchoes (cfg : ArrivalConfig) (att : StoppedDistanceAttestation) :
    List ℤ → List StoppedDistanceEcho → Bool
  | _, [] => true
  | seen, echo :: echoes =>
    decide (echo.echoingReplicaId ∉ seen) && distanceEchoMatches cfg att echo &&
      checkDistanceEchoes cfg att (echo.echoingReplicaId :: seen) echoes

def validateStoppedDistanceCert (cfg : ArrivalConfig) (app : AppState) (cert : StoppedDistanceCert) : Bool :=
  validateStoppedDistanceAttestation cfg app cert.attestation &&
    decide (cfg.faults + 1 ≤ 1 + (cert.echoes.length : ℤ)) &&
    decide ((cert.echoes.length : ℤ) ≤ max 0 (cfg.totalVehicles - 1)) &&
    checkDistanceEchoes cfg cert.attestation [extractReplicaId cert.attestation.targetCarId] cert.echoes

-- the first certificate of a car stays, and only where its arrival certificate made the same claim
def handleStoppedDistanceCert (cfg : ArrivalConfig) (app : AppState) (arrivals : List (Bytes × ArrivalCert))
    (distances : List (Bytes × StoppedDistanceCert)) (cert : StoppedDistanceCert) :
    List (Bytes × StoppedDistanceCert) :=
  let carId := cert.attestation.targetCarId
  if validateStoppedDistanceCert cfg app cert = false ∨ (distances.lookup carId).isSome then distances
  else
    match arrivals.lookup carId with
    | none => distances
    | some arrival =>
      if arrival.claimHash = cert.attestation.earlyClaimHash then (carId, cert) :: distances else distances

def directionSupport (cfg : ArrivalConfig) (cert : ArrivalCert) : ℕ :=
  (cert.echoes.foldl
    (fun (c : CertCheck) echo =>
      if echo.echoingReplicaId ∈ c.seen then c
      else if isValidArrivalEchoForCert cfg cert echo && decide (echo.observedCue = cert.direction.cue) then
        ⟨echo.echoingReplicaId :: c.seen, c.valid + 1⟩
      else ⟨echo.echoingReplicaId :: c.seen, c.valid⟩)
    ⟨[], 0⟩).valid

def physicalLaneAuthorizesDirection (cfg : ArrivalConfig) (cert : ArrivalCert) : Bool :=
  if !cfg.adjacentLateral then true
  else if cert.physicalLaneIndex = 0 then decide (cert.direction = .straight ∨ cert.direction = .right)
  else if cert.physicalLaneIndex = 1 then decide (cert.direction = .left)
  else false

def eligibleDirection (cfg : ArrivalConfig) (cert : ArrivalCert) : Direction :=
  if !cfg.directionEligibilityEnabled then cert.direction
  else if physicalLaneAuthorizesDirection cfg cert && decide (cfg.faults + 1 ≤ directionSupport cfg cert) then
    cert.direction
  else .unknown

end V2vBft.Arrival
