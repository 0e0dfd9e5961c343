import V2vBft.App.Intersection
import V2vBft.Wire.TextFacts

namespace V2vBft.Arrival

open Wire App

inductive Direction
  | straight
  | left
  | right
  | unknown
  deriving DecidableEq, Repr

inductive ObservedCue
  | straight
  | left
  | right
  | unknown
  deriving DecidableEq, Repr

def ObservedCue.code : ObservedCue → ℕ
  | .straight => 0
  | .left => 1
  | .right => 2
  | .unknown => 3

def Direction.cue : Direction → ObservedCue
  | .straight => .straight
  | .left => .left
  | .right => .right
  | .unknown => .unknown

def dirToStr : Direction → Bytes
  | .left => ascii "L"
  | .right => ascii "R"
  | .unknown => ascii "U"
  | .straight => ascii "S"

def strToDir (s : Bytes) : Direction :=
  if s = ascii "L" then .left
  else if s = ascii "R" then .right
  else if s = ascii "U" then .unknown
  else .straight

def flagText (flag : Bool) : Bytes := if flag then ascii "1" else ascii "0"

-- doubles are bit patterns; stod and showDouble are their text conversions, at 17 significant digits
structure ArrivalConfig extends AppConfig where
  publicKey : Bytes
  sha256 : Bytes → Bytes
  stod : Bytes → Option ℕ
  showDouble : ℕ → Bytes
  emergencyCaPub : Bytes
  vehicleCaPub : Bytes
  enableAmbulanceCertGate : Bool
  adjacentLateral : Bool
  projectPhysicalLaneIndex : ℤ → ℤ
  lateralWithinTolerance : ℕ → Bool
  directionEligibilityEnabled : Bool

structure ArrivalAnnouncement where
  carId : Bytes
  laneId : Bytes
  lane : Bytes
  positionInLane : ℤ
  physicalLaneIndex : ℤ
  lateralClaimCm : ℤ
  direction : Direction
  isAmbulance : Bool
  claimedArrivalTime : ℕ
  epoch : ℤ
  ambulanceCertBytes : Bytes
  ambulanceSigBytes : Bytes
  signature : Bytes
  deriving DecidableEq, Repr

def ArrivalAnnouncement.empty : ArrivalAnnouncement :=
  ⟨[], [], [], 1, 0, 0, .straight, false, 0, 0, [], [], []⟩

def joinWith (sep : UInt8) (parts : List Bytes) : Bytes := [sep].intercalate parts

def resize (bs : Bytes) (n : ℕ) : Bytes := bs.take n ++ zeros (n - bs.length)

def ArrivalAnnouncement.fields (cfg : ArrivalConfig) (ann : ArrivalAnnouncement) : List Bytes :=
  [ann.carId, ann.laneId, ann.lane, decimalInt ann.physicalLaneIndex, decimalInt ann.lateralClaimCm,
    decimalInt ann.positionInLane, dirToStr ann.direction, flagText ann.isAmbulance,
    cfg.showDouble ann.claimedArrivalTime, decimalInt ann.epoch, toHex ann.ambulanceCertBytes,
    toHex ann.ambulanceSigBytes, decimalNat ann.signature.length]

def ArrivalAnnouncement.header (cfg : ArrivalConfig) (ann : ArrivalAnnouncement) : Bytes :=
  joinWith 124 (ann.fields cfg) ++ ascii "|"

def serializeArrivalAnnouncement (cfg : ArrivalConfig) (ann : ArrivalAnnouncement) : Bytes :=
  resize (ann.header cfg ++ ann.signature) ((ann.header cfg).length + cryptoSigMaxBytes)

-- static_cast<int32_t>(std::stol(s)) on a 64 bit long
def stolInt32 (s : Bytes) : Option ℤ :=
  match strtol 10 s with
  | none => none
  | some v =>
    if -9223372036854775808 ≤ v ∧ v < 9223372036854775808 then some (signed32 (v % 4294967296).toNat) else none

-- the bytes behind the thirteenth bar, siglen of them; none: the assign throws on a negative length
def announcementSignature (payload : Bytes) (offset : ℕ) (siglen : ℤ) : Option Bytes :=
  if payload.length ≤ offset then some []
  else if 0 ≤ siglen then
    if offset + siglen.toNat ≤ payload.length then some (slice payload offset siglen.toNat) else some []
  else if siglen.natAbs ≤ offset then none
  else some []

def signatureOffset (payload : Bytes) (parts : List Bytes) : ℕ :=
  if parts.length < 14 then payload.length else (joinWith 124 (parts.take 13)).length + 1

def deserializeArrivalAnnouncement (cfg : ArrivalConfig) (payload : Bytes) : Option ArrivalAnnouncement :=
  let parts := splitStr payload 124
  if parts.length < 13 then some .empty
  else
    let part := fun i => parts.getD i []
    match stoi (part 3), stolInt32 (part 4), stoi (part 5), cfg.stod (part 8), stoi (part 9), fromHex (part 10),
        fromHex (part 11), stoi (part 12) with
    | some physical, some lateral, some position, some time, some epoch, some cert, some sig, some siglen =>
      (announcementSignature payload (signatureOffset payload parts) siglen).map fun signature =>
        { carId := part 0
          laneId := part 1
          lane := part 2
          positionInLane := position
          physicalLaneIndex := physical
          lateralClaimCm := lateral
          direction := strToDir (part 6)
          isAmbulance := decide (part 7 = ascii "1")
          claimedArrivalTime := time
          epoch := epoch
          ambulanceCertBytes := cert
          ambulanceSigBytes := sig
          signature := signature }
    | _, _, _, _, _, _, _, _ => none

def canonicalFields (cfg : ArrivalConfig) (ann : ArrivalAnnouncement) : List Bytes :=
  [ann.carId, decimalInt ann.epoch, ann.laneId, ann.lane, decimalInt ann.physicalLaneIndex,
    decimalInt ann.lateralClaimCm, decimalInt ann.positionInLane, dirToStr ann.direction, flagText ann.isAmbulance,
    cfg.showDouble ann.claimedArrivalTime, toHex ann.ambulanceCertBytes, toHex ann.ambulanceSigBytes]

def canonicalArrivalAnnouncementPayload (cfg : ArrivalConfig) (ann : ArrivalAnnouncement) : Bytes :=
  joinWith 124 (canonicalFields cfg ann)

def arrivalAnnouncementHash (cfg : ArrivalConfig) (ann : ArrivalAnnouncement) : Bytes :=
  cfg.sha256 (serializeArrivalAnnouncement cfg ann)

-- -1: shorter than three characters, or no number behind them
def extractReplicaId (carId : Bytes) : ℤ :=
  if carId.length < 3 then -1 else (stoi (carId.drop 3)).getD (-1)

def myCarId (replicaId : ℤ) : Bytes := ascii "veh" ++ decimalInt replicaId

-- verifyBytes gets the length as a uint8_t
def usedSignature (signature : Bytes) : Bytes := signature.take (signature.length % 256)

def verifyArrivalAnnouncementOrigin (cfg : ArrivalConfig) (ann : ArrivalAnnouncement) : Bool :=
  let origin := extractReplicaId ann.carId
  if origin < 0 ∨ ann.signature = [] then false
  else
    match cfg.registeredKeys.lookup origin with
    | none => false
    | some pubKey => cfg.verifyBytes pubKey (canonicalArrivalAnnouncementPayload cfg ann) (usedSignature ann.signature)

def authenticAnnouncement (cfg : ArrivalConfig) (payload : Bytes) : Option ArrivalAnnouncement :=
  match deserializeArrivalAnnouncement cfg payload with
  | none => none
  | some ann =>
    if ann.carId = [] ∨ ann.direction = .unknown ∨ verifyArrivalAnnouncementOrigin cfg ann = false ∨
        extractReplicaId ann.carId = cfg.replicaId then none
    else some ann

def variantKey (ann : ArrivalAnnouncement) : Bytes := decimalInt ann.epoch ++ ascii ":" ++ ann.carId

def arrivalCacheKey (cfg : ArrivalConfig) (ann : ArrivalAnnouncement) : Bytes :=
  variantKey ann ++ ascii ":" ++ toHex (arrivalAnnouncementHash cfg ann)

end V2vBft.Arrival
