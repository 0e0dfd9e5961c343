import V2vBft.Arrival.Distance
import V2vBft.Library.SortedRank
import V2vBft.Bridge.PreVerify

namespace V2vBft.Arrival

open Wire App Bridge Library.SortedRank

def laneCode (lane : Bytes) : ℕ :=
  if lane = ascii "S" then 1 else if lane = ascii "E" then 2 else if lane = ascii "W" then 3 else 0

def directionCode : Direction → ℕ
  | .left => 1
  | .right => 2
  | .unknown => 3
  | .straight => 0

def toUint8 (n : ℤ) : ℕ := (n % 256).toNat

-- the order of std::string
def mapKey (s : Bytes) : List ℕ := s.map UInt8.toNat

-- collected_certs_ in the order of its keys, and collected_distance_certs_
structure CertStore where
  arrivals : List (Bytes × ArrivalCert)
  distances : List (Bytes × StoppedDistanceCert)
  sorted : arrivals.Pairwise fun a b => mapKey a.1 < mapKey b.1

structure CertifiedCar where
  carId : Bytes
  cert : ArrivalCert
  distanceCm : ℤ
  deriving DecidableEq, Repr

def CertStore.certified (store : CertStore) : List CertifiedCar :=
  store.arrivals.filterMap fun entry =>
    (store.distances.lookup entry.1).map fun distance => ⟨entry.1, entry.2, distance.attestation.distanceToStopCm⟩

def CertifiedCar.queueKey (car : CertifiedCar) : Bytes :=
  car.cert.lane ++ ascii ":" ++ decimalInt car.cert.physicalLaneIndex

def CertifiedCar.slot (car : CertifiedCar) : ℤ × Bytes := (car.distanceCm, car.carId)

-- nearest to the stop line first, ties by car id
def queueOrder (slot : ℤ × Bytes) : ℤ ×ₗ List ℕ := toLex (slot.1, mapKey slot.2)

def CertStore.queue (store : CertStore) (key : Bytes) : List (ℤ × Bytes) :=
  (store.certified.filter fun car => decide (car.queueKey = key)).map CertifiedCar.slot

def CertStore.queueRank (store : CertStore) (car : CertifiedCar) : ℕ :=
  min ((sortByKey queueOrder (store.queue car.queueKey)).idxOf car.slot + 1) 255

def deriveQueueRanks (store : CertStore) : List (Bytes × ℕ) :=
  store.certified.map fun car => (car.carId, store.queueRank car)

def kMaxReplicas : ℕ := 256

def CertifiedCar.numbered (car : CertifiedCar) : Bool :=
  decide (3 < car.carId.length) && (stoi (car.carId.drop 3)).isSome

def certEntry (cfg : ArrivalConfig) (store : CertStore) (car : CertifiedCar) : CertEntry where
  replicaId := extractReplicaId car.carId
  lane := laneCode car.cert.lane
  positionInLane := store.queueRank car
  direction := directionCode (eligibleDirection cfg car.cert)
  isAmbulance := if car.cert.isAmbulance then 1 else 0
  physicalLaneIndex := toUint8 car.cert.physicalLaneIndex
  lateralClaimCm := car.cert.lateralClaimCm

def CertStore.snapshotCars (store : CertStore) : List CertifiedCar :=
  (store.certified.filter CertifiedCar.numbered).take kMaxReplicas

def certSnapshotCallback (cfg : ArrivalConfig) (store : CertStore) : List CertEntry :=
  store.snapshotCars.map (certEntry cfg store)

-- a car's announced state; its time is a converted double, so it is never the QUIET mark
structure SeenCar where
  carId : Bytes
  lane : Bytes
  positionInLane : ℤ
  isAmbulance : Bool
  arrivalTimeUs : ℕ
  timed : arrivalTimeUs < uint64Max

structure Proposer where
  rollbackOrderEpoch : Bool
  recallable : Bool
  simTimeUs : ℕ
  timed : simTimeUs < uint64Max

def eligible (cfg : ArrivalConfig) (p : Proposer) (rid : ℤ) (isAmbulance : Bool) : Bool :=
  if p.rollbackOrderEpoch then decide (0 ≤ rid) && (decide (rid ≠ cfg.replicaId) || p.recallable)
  else decide (0 ≤ rid) && (decide (rid < cfg.totalVehicles) || isAmbulance)

def signedTime (p : Proposer) (seen : List SeenCar) (carId : Bytes) : ℕ :=
  match seen.find? fun car => decide (car.carId = carId) with
  | none => p.simTimeUs
  | some car => if car.arrivalTimeUs = 0 then p.simTimeUs else car.arrivalTimeUs

def signedEntry (cfg : ArrivalConfig) (p : Proposer) (store : CertStore) (seen : List SeenCar) (car : CertifiedCar) :
    VehicleEntry where
  replicaId := extractReplicaId car.carId
  simTimeUs := signedTime p seen car.carId
  isAmbulance := if car.cert.isAmbulance then 1 else 0
  lane := laneCode car.cert.lane
  direction := directionCode (eligibleDirection cfg car.cert)
  positionInLane := store.queueRank car
  cyberStatus := 1
  physicalLaneIndex := toUint8 car.cert.physicalLaneIndex
  lateralClaimCm := car.cert.lateralClaimCm

def quietEntry (car : SeenCar) : VehicleEntry where
  replicaId := extractReplicaId car.carId
  simTimeUs := uint64Max
  isAmbulance := 0
  lane := laneCode car.lane
  direction := 0
  positionInLane := toUint8 (min car.positionInLane 255)
  cyberStatus := 0
  physicalLaneIndex := 0
  lateralClaimCm := 0

def signedCars (cfg : ArrivalConfig) (p : Proposer) (store : CertStore) : List CertifiedCar :=
  store.certified.filter fun car => eligible cfg p (extractReplicaId car.carId) car.cert.isAmbulance

def quietCars (cfg : ArrivalConfig) (p : Proposer) (store : CertStore) (seen : List SeenCar) : List SeenCar :=
  seen.filter fun car =>
    eligible cfg p (extractReplicaId car.carId) car.isAmbulance &&
      decide (extractReplicaId car.carId ∉ (signedCars cfg p store).map fun c => extractReplicaId c.carId)

def proposeAll (cfg : ArrivalConfig) (p : Proposer) (store : CertStore) (seen : List SeenCar) : List VehicleEntry :=
  (signedCars cfg p store).map (signedEntry cfg p store seen) ++ (quietCars cfg p store seen).map quietEntry

def passesCertChecks (expected : ℤ) (entries : List VehicleEntry) (certs : List CertEntry) : Bool :=
  stateFieldsMatch entries certs && decide ((omittedCerts entries certs : ℤ) ≤ (expected - 1) / 3)

end V2vBft.Arrival
