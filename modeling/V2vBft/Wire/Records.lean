import V2vBft.Wire.Bytes

/-! The packed records of `resdb_omnet_bridge.h`, little endian and without padding. -/

namespace V2vBft.Wire

structure VehicleEntry where
  replicaId : ℤ
  simTimeUs : ℕ
  isAmbulance : ℕ
  lane : ℕ
  direction : ℕ
  positionInLane : ℕ
  cyberStatus : ℕ
  physicalLaneIndex : ℕ
  lateralClaimCm : ℤ
  deriving DecidableEq, Repr

def VehicleEntry.size : ℕ := 22

def VehicleEntry.read (bs : Bytes) (off : ℕ) : VehicleEntry where
  replicaId := readI32 bs off
  simTimeUs := readU64 bs (off + 4)
  isAmbulance := readU8 bs (off + 12)
  lane := readU8 bs (off + 13)
  direction := readU8 bs (off + 14)
  positionInLane := readU8 bs (off + 15)
  cyberStatus := readU8 bs (off + 16)
  physicalLaneIndex := readU8 bs (off + 17)
  lateralClaimCm := readI32 bs (off + 18)

def VehicleEntry.bytes (e : VehicleEntry) : Bytes :=
  putI32 e.replicaId ++ putU64 e.simTimeUs ++ putU8 e.isAmbulance ++ putU8 e.lane ++
    putU8 e.direction ++ putU8 e.positionInLane ++ putU8 e.cyberStatus ++
    putU8 e.physicalLaneIndex ++ putI32 e.lateralClaimCm

structure ProposeHdr where
  epoch : ℕ
  leaderId : ℤ
  proposeSimTimeUs : ℕ
  nVehicles : ℕ
  deriving DecidableEq, Repr

def ProposeHdr.size : ℕ := 20

def ProposeHdr.read (bs : Bytes) : ProposeHdr where
  epoch := readU32 bs 0
  leaderId := readI32 bs 4
  proposeSimTimeUs := readU64 bs 8
  nVehicles := readU32 bs 16

def ProposeHdr.bytes (h : ProposeHdr) : Bytes :=
  putU32 h.epoch ++ putI32 h.leaderId ++ putU64 h.proposeSimTimeUs ++ putU32 h.nVehicles

structure RollbackHdr where
  newEpoch : ℕ
  cancelledEpoch : ℕ
  reason : ℕ
  justificationLen : ℕ
  deriving DecidableEq, Repr

def RollbackHdr.size : ℕ := 16

def RollbackHdr.read (bs : Bytes) : RollbackHdr where
  newEpoch := readU32 bs 0
  cancelledEpoch := readU32 bs 4
  reason := readU8 bs 8
  justificationLen := readU32 bs 12

structure CancelHdr where
  cancelledEpoch : ℕ
  reason : ℕ
  justificationLen : ℕ
  deriving DecidableEq, Repr

def CancelHdr.size : ℕ := 12

def CancelHdr.read (bs : Bytes) : CancelHdr where
  cancelledEpoch := readU32 bs 0
  reason := readU8 bs 4
  justificationLen := readU32 bs 8

def CancelHdr.bytes (h : CancelHdr) : Bytes :=
  putU32 h.cancelledEpoch ++ (putU8 h.reason ++ zeros 3) ++ putU32 h.justificationLen

structure CancelCommitRef where
  cancelledEpoch : ℕ
  cancelSeq : ℕ
  payloadDigest : Bytes
  proofLen : ℕ
  deriving DecidableEq, Repr

def CancelCommitRef.size : ℕ := 48

def CancelCommitRef.read (bs : Bytes) : CancelCommitRef where
  cancelledEpoch := readU32 bs 0
  cancelSeq := readU64 bs 4
  payloadDigest := slice bs 12 32
  proofLen := readU32 bs 44

structure CancelDecisionHdr where
  magic : ℕ
  cancelledEpoch : ℕ
  reason : ℕ
  cancelSeq : ℕ
  payloadDigest : Bytes
  deriving DecidableEq, Repr

def CancelDecisionHdr.size : ℕ := 52

def CancelDecisionHdr.read (bs : Bytes) : CancelDecisionHdr where
  magic := readU32 bs 0
  cancelledEpoch := readU32 bs 4
  reason := readU8 bs 8
  cancelSeq := readU64 bs 12
  payloadDigest := slice bs 20 32

def CancelDecisionHdr.bytes (h : CancelDecisionHdr) : Bytes :=
  putU32 h.magic ++ (putU32 h.cancelledEpoch ++ (putU8 h.reason ++ (zeros 3 ++ (putU64 h.cancelSeq ++ h.payloadDigest))))

def cancelDecisionMagic : ℕ := 0xCACEC0DE

structure OrderEvidenceHdr where
  magic : ℕ
  version : ℕ
  nClearCerts : ℕ
  deriving DecidableEq, Repr

def OrderEvidenceHdr.size : ℕ := 8

def OrderEvidenceHdr.read (bs : Bytes) (off : ℕ) : OrderEvidenceHdr where
  magic := readU32 bs off
  version := readU16 bs (off + 4)
  nClearCerts := readU16 bs (off + 6)

def orderEvidenceMagic : ℕ := 0x4F455631

structure CertEntry where
  replicaId : ℤ
  lane : ℕ
  positionInLane : ℕ
  direction : ℕ
  isAmbulance : ℕ
  physicalLaneIndex : ℕ
  lateralClaimCm : ℤ
  deriving DecidableEq, Repr

structure VehicleDecision where
  replicaId : ℤ
  batchIndex : ℕ
  deriving DecidableEq, Repr

def VehicleDecision.size : ℕ := 8

def VehicleDecision.read (bs : Bytes) (off : ℕ) : VehicleDecision := ⟨readI32 bs off, readU32 bs (off + 4)⟩

def VehicleDecision.bytes (d : VehicleDecision) : Bytes := putI32 d.replicaId ++ putU32 d.batchIndex

structure OrderHdr where
  epoch : ℕ
  nVehicles : ℕ
  nBatches : ℕ
  deriving DecidableEq, Repr

def OrderHdr.size : ℕ := 12

def OrderHdr.read (bs : Bytes) : OrderHdr := ⟨readU32 bs 0, readU32 bs 4, readU32 bs 8⟩

def OrderHdr.bytes (h : OrderHdr) : Bytes := putU32 h.epoch ++ putU32 h.nVehicles ++ putU32 h.nBatches

end V2vBft.Wire
