import V2vBft.Wire.Records

namespace V2vBft.Bridge

open Wire

inductive ProposalKind
  | normal
  | cancel
  | rollback
  deriving DecidableEq, Repr

structure ProposalView where
  data : Bytes
  kind : ProposalKind
  rollback : RollbackHdr
  cancel : CancelHdr
  cancelLeaderId : ℤ
  cancelElectors : List ℤ
  rawPayload : Bytes
  deriving DecidableEq, Repr

def ProposalView.isRollback (view : ProposalView) : Bool := decide (view.kind = .rollback)
def ProposalView.isCancel (view : ProposalView) : Bool := decide (view.kind = .cancel)

def ProposalView.initial (raw : Bytes) : ProposalView where
  data := raw
  kind := .normal
  rollback := ⟨0, 0, 0, 0⟩
  cancel := ⟨0, 0, 0⟩
  cancelLeaderId := -1
  cancelElectors := []
  rawPayload := raw

def cancelCertTag : Bytes := ascii "CANCEL_CERT|"

def parseNormalProposal (data : Bytes) : Option ProposeHdr :=
  if data.length < ProposeHdr.size then none
  else
    let hdr := ProposeHdr.read data
    if hdr.nVehicles > 10000 then none
    else if data.length < ProposeHdr.size + hdr.nVehicles * VehicleEntry.size then none
    else some hdr

def readElectors (raw : Bytes) (off n : ℕ) : List ℤ := (List.range n).map fun i => readI32 raw (off + i * 4)

def parseCancelTail (raw : Bytes) (justOff justLen : ℕ) : Option (ℤ × List ℤ) :=
  let tailOff := justOff + justLen
  if raw.length < tailOff + 8 then none
  else
    let nElectors := readU32 raw (tailOff + 4)
    if nElectors > 10000 ∨ raw.length < tailOff + 8 + nElectors * 4 then none
    else some (readI32 raw tailOff, readElectors raw (tailOff + 8) nElectors)

def isRollbackSuccessor (rhdr : RollbackHdr) : Bool :=
  decide (rhdr.newEpoch = (rhdr.cancelledEpoch + 1) % uint32Modulus)

def looksLikeCancelPrefix (raw : Bytes) : Bool :=
  let chdr := CancelHdr.read raw
  let rhdr := RollbackHdr.read raw
  decide (CancelHdr.size ≤ raw.length) && decide (chdr.reason ≤ 1) &&
    decide (CancelHdr.size + chdr.justificationLen ≤ raw.length) && decide (chdr.justificationLen ≠ 0) &&
    cancelCertTag.isPrefixOf (slice raw CancelHdr.size chdr.justificationLen) &&
    !(decide (RollbackHdr.size ≤ raw.length) && (decide (rhdr.reason ≤ 1) && isRollbackSuccessor rhdr))

-- the kind is set before the tail is parsed and stays set when the tail is malformed
def looksLikeCancelProposal (raw : Bytes) (view : ProposalView) : Bool × ProposalView :=
  if looksLikeCancelPrefix raw then
    let chdr := CancelHdr.read raw
    let view := { view with kind := .cancel, cancel := chdr, rawPayload := raw }
    match parseCancelTail raw CancelHdr.size chdr.justificationLen with
    | none => (false, view)
    | some (leaderId, electors) =>
      (true, { view with cancelLeaderId := leaderId, cancelElectors := electors, data := raw })
  else (false, view)

def rollbackInner (raw : Bytes) : Option (RollbackHdr × Bytes) :=
  let rhdr := RollbackHdr.read raw
  let innerOff := RollbackHdr.size + rhdr.justificationLen
  if raw.length < RollbackHdr.size + ProposeHdr.size then none
  else if rhdr.reason > 1 then none
  else if !isRollbackSuccessor rhdr then none
  else if innerOff > raw.length then none
  else
    match parseNormalProposal (raw.drop innerOff) with
    | none => none
    | some innerHdr => if innerHdr.epoch ≠ rhdr.newEpoch then none else some (rhdr, raw.drop innerOff)

def unwrapRollbackIfPresent (raw : Bytes) : Option ProposalView :=
  match looksLikeCancelProposal raw (ProposalView.initial raw) with
  | (true, view) => some view
  | (false, view) =>
    match rollbackInner raw with
    | some (rhdr, inner) => some { view with data := inner, kind := .rollback, rollback := rhdr }
    | none => (parseNormalProposal view.data).map fun _ => view

def structurallyValidCancelJustification (raw : Bytes) (rhdr : RollbackHdr) : Bool :=
  let just := slice raw RollbackHdr.size rhdr.justificationLen
  let ref := CancelCommitRef.read just
  decide (RollbackHdr.size + rhdr.justificationLen ≤ raw.length) &&
    decide (rhdr.reason ≤ 1) && decide (rhdr.justificationLen ≠ 0) &&
    !cancelCertTag.isPrefixOf just && decide (CancelCommitRef.size ≤ just.length) &&
    decide (ref.cancelledEpoch = rhdr.cancelledEpoch) &&
    decide (CancelCommitRef.size + ref.proofLen ≤ just.length)

def entriesOf (data : Bytes) (n : ℕ) : List VehicleEntry :=
  (List.range n).map fun i => VehicleEntry.read data (ProposeHdr.size + i * VehicleEntry.size)

end V2vBft.Bridge
