import V2vBft.Bridge.ViewCandidate

/-! `ResdbOmnetPreVerify` with the firewall on. -/

namespace V2vBft.Bridge

open Wire Pbft

-- what the check reads outside the consensus engine: configuration, application callbacks, executor bookkeeping
structure BridgeEnv where
  expected : ℤ
  faults : ToleratedFaultState
  certSnapshot : Option (List CertEntry)
  clearEvidence : Option (ℕ → Bytes → Bool)
  crashRecoveryEpochs : List ℕ

def clearEvidenceCert (data : Bytes) (hdr : ProposeHdr) : Option Bytes :=
  let entriesEnd := ProposeHdr.size + hdr.nVehicles * VehicleEntry.size
  let ehdr := OrderEvidenceHdr.read data entriesEnd
  let off := entriesEnd + OrderEvidenceHdr.size
  if data.length < off then none
  else if ehdr.magic ≠ orderEvidenceMagic ∨ ehdr.nClearCerts < 1 ∨ data.length < off + 4 then none
  else
    let certLen := readU32 data off
    if data.length < off + 4 + certLen then none else some (slice data (off + 4) certLen)

def evidenceOk (env : BridgeEnv) (data : Bytes) (hdr : ProposeHdr) : Bool :=
  match clearEvidenceCert data hdr, env.clearEvidence with
  | some cert, some fn => fn ((hdr.epoch + uint32Modulus - 1) % uint32Modulus) cert
  | _, _ => false

def requiresEvidence (env : BridgeEnv) (hdr : ProposeHdr) : Bool := decide (hdr.epoch ∈ env.crashRecoveryEpochs)

def entryFieldsValid (e : VehicleEntry) : Bool :=
  decide (e.simTimeUs ≠ 0) && decide (e.isAmbulance ≤ 1) && decide (e.cyberStatus ≤ 1) &&
    decide (e.direction ≤ 3) && decide (e.physicalLaneIndex ≤ 1)

def int32Max : ℤ := 2147483647

def proposalCertPrimary (expected : ℤ) (entries : List VehicleEntry) : ℤ :=
  ((entries.filter fun e => inRange expected e.replicaId && isSigned e).map VehicleEntry.replicaId).foldl min
    int32Max

def leaderIsSigned (expected : ℤ) (hdr : ProposeHdr) (entries : List VehicleEntry) : Bool :=
  entries.any fun e => inRange expected e.replicaId && isSigned e && decide (e.replicaId = hdr.leaderId)

def leaderIsCertPrimary (expected : ℤ) (hdr : ProposeHdr) (entries : List VehicleEntry) : Bool :=
  decide (hdr.leaderId = proposalCertPrimary expected entries) && leaderIsSigned expected hdr entries

def leaderIsPbftPrimary (expected : ℤ) (info : SystemInfo) (hdr : ProposeHdr) (entries : List VehicleEntry) : Bool :=
  decide (hdr.leaderId = resdbSenderToOmnet info.primaryId) && leaderIsSigned expected hdr entries

def normalLeaderOk (expected : ℤ) (info : SystemInfo) (hdr : ProposeHdr) (entries : List VehicleEntry) : Bool :=
  decide (proposalCertPrimary expected entries ≠ int32Max) &&
    (leaderIsCertPrimary expected hdr entries || leaderIsPbftPrimary expected info hdr entries)

def isQuiet (e : VehicleEntry) : Bool := decide (e.cyberStatus = 0) || decide (e.simTimeUs = uint64Max)

def certBacked (certs : List CertEntry) (id : ℤ) : Bool := decide (id ∈ certs.map CertEntry.replicaId)

def fieldsMatchCert (pe : VehicleEntry) (ce : CertEntry) : Bool :=
  decide (pe.lane = ce.lane) && decide (pe.positionInLane = ce.positionInLane) &&
    decide (pe.direction = ce.direction) && decide (pe.isAmbulance = ce.isAmbulance) &&
    decide (pe.physicalLaneIndex = ce.physicalLaneIndex) && decide (pe.lateralClaimCm = ce.lateralClaimCm)

-- the replica ids are distinct here, so proposal_map holds every entry
def proposalEntry (entries : List VehicleEntry) (id : ℤ) : Option VehicleEntry :=
  entries.find? fun e => decide (e.replicaId = id)

def omittedCerts (entries : List VehicleEntry) (certs : List CertEntry) : ℕ :=
  certs.countP fun ce =>
    match proposalEntry entries ce.replicaId with
    | none => false
    | some pe => isQuiet pe

def stateFieldsMatch (entries : List VehicleEntry) (certs : List CertEntry) : Bool :=
  certs.all fun ce =>
    match proposalEntry entries ce.replicaId with
    | none => true
    | some pe => isQuiet pe || fieldsMatchCert pe ce

def ambulancesCertified (entries : List VehicleEntry) (certs : List CertEntry) : Bool :=
  entries.all fun pe =>
    decide (pe.isAmbulance = 0) || !(isQuiet pe || !certBacked certs pe.replicaId)

def noLowerCertPrimary (expected : ℤ) (hdr : ProposeHdr) (certs : List CertEntry) : Bool :=
  certs.all fun ce => !(inRange expected ce.replicaId && decide (ce.replicaId < hdr.leaderId))

def certChecks (env : BridgeEnv) (isRollback : Bool) (hdr : ProposeHdr) (entries : List VehicleEntry) : Bool :=
  match env.certSnapshot with
  | none => true
  | some certs =>
    (isRollback || certBacked certs hdr.leaderId) &&
      (isRollback || !leaderIsCertPrimary env.expected hdr entries || noLowerCertPrimary env.expected hdr certs) &&
      ambulancesCertified entries certs && stateFieldsMatch entries certs &&
      decide ((omittedCerts entries certs : ℤ) ≤ (env.expected - 1) / 3)

def epochView (env : BridgeEnv) (view : ProposalView) (request : Request) : Option OmnetForcedView :=
  if view.isRollback then none
  else buildEpochOrderViewCandidate env.faults (ProposeHdr.read view.data) view.data env.expected request

def orderAdmissible (env : BridgeEnv) (s : ConsensusState) (request : Request) (raw : Bytes)
    (view : ProposalView) : Bool :=
  let hdr := ProposeHdr.read view.data
  let entries := entriesOf view.data hdr.nVehicles
  let ids := entries.map VehicleEntry.replicaId
  (view.isRollback || decide (hdr.epoch = 0) || (epochView env view request).isSome) &&
    (view.isRollback || !requiresEvidence env hdr || evidenceOk env view.data hdr) &&
    (!view.isRollback || structurallyValidCancelJustification raw view.rollback) &&
    decide (hdr.nVehicles ≠ 0) && decide ((hdr.nVehicles : ℤ) ≤ env.expected) &&
    decide (ProposeHdr.size + hdr.nVehicles * VehicleEntry.size ≤ view.data.length) &&
    decide ids.Nodup && ids.all (inRange env.expected) && entries.all entryFieldsValid &&
    inRange env.expected hdr.leaderId &&
    (view.isRollback || normalLeaderOk env.expected s.info hdr entries) &&
    certChecks env view.isRollback hdr entries

def handOver (env : BridgeEnv) (s₀ s : ConsensusState) (request : Request) (hdr : ProposeHdr)
    (entries : List VehicleEntry) : ConsensusState :=
  if leaderIsCertPrimary env.expected hdr entries && !leaderIsPbftPrimary env.expected s₀.info hdr entries then
    { s with info := s.info.setPrimary (hdr.leaderId + 1) request.currentView }
  else s

lemma handOver_registry (env : BridgeEnv) (s₀ s : ConsensusState) (request : Request) (hdr : ProposeHdr)
    (entries : List VehicleEntry) : (handOver env s₀ s request hdr entries).registry = s.registry := by
  rw [handOver]
  split <;> rfl

def installView (s : ConsensusState) (request : Request) (view : OmnetForcedView) : Option ConsensusState :=
  if request.type = .prePrepare then s.installOmnetForcedViewForRequest request view
  else s.installOmnetPendingForcedView view

def orDrop (s : ConsensusState) : Option ConsensusState → Bool × ConsensusState
  | none => (false, s)
  | some s' => (true, s')

-- installation comes last: a rejection above leaves views and primary alone
def installOrder (env : BridgeEnv) (s : ConsensusState) (request : Request) (view : ProposalView) :
    Bool × ConsensusState :=
  let hdr := ProposeHdr.read view.data
  let entries := entriesOf view.data hdr.nVehicles
  if view.isRollback then
    match buildForcedViewCandidate view hdr env.expected env.faults request with
    | none => (false, s)
    | some forced => orDrop s (installView s request forced)
  else
    match epochView env view request with
    | some active =>
      orDrop s ((installView s request active).map fun s' =>
        if request.type = .prePrepare then handOver env s s' request hdr entries else s')
    | none => (true, if request.type = .prePrepare then handOver env s s request hdr entries else s)

def preVerifyCancel (env : BridgeEnv) (s : ConsensusState) (request : Request) (view : ProposalView) :
    Bool × ConsensusState :=
  if check13ValidCancelProposal view then
    match buildCancelViewCandidate view env.expected env.faults request with
    | none => (false, s)
    | some forced => orDrop s (installView s request forced)
  else (false, s)

def preVerifyPayload (env : BridgeEnv) (s : ConsensusState) (request : Request) (payload : Bytes) :
    Bool × ConsensusState :=
  match unwrapRollbackIfPresent payload with
  | none => (false, s)
  | some view =>
    if view.isCancel then preVerifyCancel env s request view
    else if orderAdmissible env s request payload view then installOrder env s request view
    else (false, s)

def preVerify (env : BridgeEnv) (s : ConsensusState) (request : Request) : Bool × ConsensusState :=
  if request.type ≠ .prePrepare ∧ request.type ≠ .newTxns then (true, s)
  else
    match request.data with
    | .malformed .. => (false, s)
    | .batch [] => (false, s)
    | .batch (payload :: _) => preVerifyPayload env s request payload

end V2vBft.Bridge
