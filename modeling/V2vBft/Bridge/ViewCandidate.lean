import V2vBft.Bridge.Proposal
import V2vBft.Pbft.ForcedView

/-! The four builders of a candidate view, and the structural check of a CANCEL proposal. -/

namespace V2vBft.Bridge

open Wire Pbft

structure ToleratedFaultState where
  enabled : Bool
  toleratedF : ℤ
  rollbackPerEpoch : Bool
  deriving DecidableEq, Repr

-- std::getline(ss, part, '|'): the pieces between bars, without a last empty one
def barParts (text : Bytes) : List Bytes :=
  let parts := text.splitOn 124
  if parts.getLast? = some [] then parts.dropLast else parts

def check13Signers (just : Bytes) : List Bytes :=
  (((barParts just).drop 4).filter fun part => decide (58 ∈ part)).map fun part => part.takeWhile (· ≠ 58)

def cancelJustification (view : ProposalView) : Bytes :=
  slice view.rawPayload CancelHdr.size view.cancel.justificationLen

def check13ValidCancelProposal (view : ProposalView) : Bool :=
  view.isCancel && decide (view.cancel.reason ≤ 1) && decide (view.cancel.justificationLen ≠ 0) &&
    decide (CancelHdr.size + view.cancel.justificationLen ≤ view.rawPayload.length) &&
    cancelCertTag.isPrefixOf (cancelJustification view) &&
    !(check13Signers (cancelJustification view)).isEmpty &&
    decide (view.cancelLeaderId ≥ 0) && !view.cancelElectors.isEmpty

def rollbackFaultsForMembership (configuredF : ℤ) (memberCount : ℕ) : ℤ :=
  if memberCount = 0 then -1
  else
    let maxF := ((memberCount : ℤ) - 1) / 3
    if configuredF ≥ 0 then min configuredF maxF else maxF

def faultModeActive (faults : ToleratedFaultState) : Bool := faults.enabled && decide (faults.toleratedF ≥ 0)

def inRange (expected : ℤ) (id : ℤ) : Bool := decide (0 ≤ id) && decide (id < expected)

def senderIsLeader (request : Request) (leaderId : ℤ) : Bool :=
  decide (resdbSenderToOmnet request.senderId < 0) || decide (resdbSenderToOmnet request.senderId = leaderId)

def candidateView (request : Request) (epoch : ℕ) (leaderId : ℤ) (members : List ℤ) (fOverride : Bool) (f : ℤ) :
    OmnetForcedView where
  epoch := epoch
  seq := request.seq
  requestHash := request.hash
  primaryOmnet := leaderId
  activeOmnetIds := members
  fOverride := fOverride
  f := f
  quorum := 1

def sortIds (ids : List ℤ) : List ℤ := ids.insertionSort (· ≤ ·)

def buildCancelViewCandidate (view : ProposalView) (expected : ℤ) (faults : ToleratedFaultState)
    (request : Request) : Option OmnetForcedView :=
  let members := sortIds view.cancelElectors
  if view.isCancel && faultModeActive faults && inRange expected view.cancelLeaderId &&
      !view.cancelElectors.isEmpty && decide members.Nodup && members.all (inRange expected) &&
      decide (view.cancelLeaderId ∈ members) && decide ((members.length : ℤ) ≥ 3 * faults.toleratedF + 1) &&
      (bftQuorumSize members.length faults.toleratedF).isSome && senderIsLeader request view.cancelLeaderId then
    some (candidateView request view.cancel.cancelledEpoch view.cancelLeaderId members true faults.toleratedF)
  else none

def isSigned (e : VehicleEntry) : Bool := decide (e.cyberStatus = 1) && decide (e.simTimeUs ≠ uint64Max)

def voterMembers (entries : List VehicleEntry) : List ℤ := sortIds ((entries.filter isSigned).map VehicleEntry.replicaId)

def electorateFits (hdr : ProposeHdr) (entries : List VehicleEntry) (expected : ℤ) : Bool :=
  decide (hdr.nVehicles ≠ 0) && decide ((hdr.nVehicles : ℤ) ≤ expected) && inRange expected hdr.leaderId &&
    entries.all (fun e => inRange expected e.replicaId) && decide (voterMembers entries).Nodup &&
    !(voterMembers entries).isEmpty && decide (hdr.leaderId ∈ voterMembers entries)

def buildForcedViewCandidate (view : ProposalView) (hdr : ProposeHdr) (expected : ℤ)
    (faults : ToleratedFaultState) (request : Request) : Option OmnetForcedView :=
  let voters := voterMembers (entriesOf view.data hdr.nVehicles)
  if view.isRollback && faultModeActive faults &&
      electorateFits hdr (entriesOf view.data hdr.nVehicles) expected then
    if faults.rollbackPerEpoch then
      if decide (voters.length ≥ 4) &&
          (bftQuorumSize voters.length (rollbackFaultsForMembership faults.toleratedF voters.length)).isSome &&
          senderIsLeader request hdr.leaderId then
        some (candidateView request hdr.epoch hdr.leaderId voters false 0)
      else none
    else
      if decide ((voters.length : ℤ) ≥ 3 * faults.toleratedF + 1) &&
          (bftQuorumSize voters.length faults.toleratedF).isSome && senderIsLeader request hdr.leaderId then
        some (candidateView request hdr.epoch hdr.leaderId voters true faults.toleratedF)
      else none
  else none

def buildToleratedFaultViewCandidate (faults : ToleratedFaultState) (hdr : ProposeHdr) (proposalData : Bytes)
    (expected : ℤ) (request : Request) : Option OmnetForcedView :=
  let entries := entriesOf proposalData hdr.nVehicles
  let members := sortIds (entries.map VehicleEntry.replicaId)
  if faultModeActive faults && inRange expected hdr.leaderId && decide (hdr.nVehicles ≠ 0) &&
      decide ((hdr.nVehicles : ℤ) ≤ expected) && entries.all (fun e => inRange expected e.replicaId) &&
      decide members.Nodup && decide (hdr.leaderId ∈ members) &&
      decide (faults.toleratedF ≤ ((members.length : ℤ) - 1) / 3) && senderIsLeader request hdr.leaderId then
    some (candidateView request hdr.epoch hdr.leaderId members true faults.toleratedF)
  else none

def buildEpochOrderViewCandidate (faults : ToleratedFaultState) (hdr : ProposeHdr) (proposalData : Bytes)
    (expected : ℤ) (request : Request) : Option OmnetForcedView :=
  let voters := voterMembers (entriesOf proposalData hdr.nVehicles)
  if !faultModeActive faults then none
  else if hdr.epoch = 0 then buildToleratedFaultViewCandidate faults hdr proposalData expected request
  else if !electorateFits hdr (entriesOf proposalData hdr.nVehicles) expected then none
  else if faults.rollbackPerEpoch then
    let epochF := rollbackFaultsForMembership faults.toleratedF voters.length
    if decide (epochF ≥ 0) && (bftQuorumSize voters.length epochF).isSome &&
        senderIsLeader request hdr.leaderId then
      some (candidateView request hdr.epoch hdr.leaderId voters true epochF)
    else none
  else
    if decide ((voters.length : ℤ) ≥ 3 * faults.toleratedF + 1) &&
        (bftQuorumSize voters.length faults.toleratedF).isSome && senderIsLeader request hdr.leaderId then
      some (candidateView request hdr.epoch hdr.leaderId voters true faults.toleratedF)
    else none

end V2vBft.Bridge
