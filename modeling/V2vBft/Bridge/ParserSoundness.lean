import V2vBft.Bridge.CancelProposal

namespace V2vBft.Bridge

open Wire

variable {raw data : Bytes} {view : ProposalView}

structure FitsNormal (data : Bytes) : Prop where
  header : ProposeHdr.size ≤ data.length
  count : (ProposeHdr.read data).nVehicles ≤ 10000
  entries : ProposeHdr.size + (ProposeHdr.read data).nVehicles * VehicleEntry.size ≤ data.length

def cancelTailOff (raw : Bytes) : ℕ := CancelHdr.size + (CancelHdr.read raw).justificationLen

def declaredElectors (raw : Bytes) : ℕ := readU32 raw (cancelTailOff raw + 4)

structure FitsCancel (raw : Bytes) (view : ProposalView) : Prop where
  header : view.cancel = CancelHdr.read raw
  reason : view.cancel.reason ≤ 1
  justification : view.cancel.justificationLen ≠ 0 ∧ cancelTailOff raw ≤ raw.length
  tagged : cancelCertTag.isPrefixOf (slice raw CancelHdr.size view.cancel.justificationLen) = true
  electors : declaredElectors raw ≤ 10000 ∧ cancelTailOff raw + 8 + declaredElectors raw * 4 ≤ raw.length
  leaderId : view.cancelLeaderId = readI32 raw (cancelTailOff raw)
  electorList : view.cancelElectors = readElectors raw (cancelTailOff raw + 8) (declaredElectors raw)

structure FitsRollback (raw : Bytes) (view : ProposalView) : Prop where
  header : RollbackHdr.size ≤ raw.length ∧ view.rollback = RollbackHdr.read raw
  reason : view.rollback.reason ≤ 1
  successor : isRollbackSuccessor view.rollback = true
  justification : RollbackHdr.size + view.rollback.justificationLen ≤ raw.length
  inner : view.data = raw.drop (RollbackHdr.size + view.rollback.justificationLen) ∧ FitsNormal view.data
  epoch : (ProposeHdr.read view.data).epoch = view.rollback.newEpoch

def WellFormed (raw : Bytes) (view : ProposalView) : Prop :=
  match view.kind with
  | .normal => view.data = raw ∧ FitsNormal raw
  | .cancel => FitsCancel raw view
  | .rollback => FitsRollback raw view

lemma parseNormalProposal_fits {hdr : ProposeHdr} (h : parseNormalProposal data = some hdr) :
    hdr = ProposeHdr.read data ∧ FitsNormal data := by
  rw [parseNormalProposal] at h
  split at h
  next => cases h
  next hheader =>
    dsimp only at h
    split at h
    next => cases h
    next hcount =>
      split at h
      next => cases h
      next hentries =>
        exact ⟨(Option.some.inj h).symm, not_lt.mp hheader, not_lt.mp hcount, not_lt.mp hentries⟩

lemma parseCancelTail_fits {leaderId : ℤ} {electors : List ℤ}
    (h : parseCancelTail raw CancelHdr.size (CancelHdr.read raw).justificationLen = some (leaderId, electors)) :
    (declaredElectors raw ≤ 10000 ∧ cancelTailOff raw + 8 + declaredElectors raw * 4 ≤ raw.length) ∧
      leaderId = readI32 raw (cancelTailOff raw) ∧
      electors = readElectors raw (cancelTailOff raw + 8) (declaredElectors raw) := by
  rw [parseCancelTail, ← cancelTailOff] at h
  dsimp only at h
  rw [← declaredElectors] at h
  split at h
  next => cases h
  next =>
    split at h
    next => cases h
    next hfits =>
      obtain ⟨hleader, helectors⟩ := Prod.mk.inj (Option.some.inj h)
      exact ⟨⟨by omega, by omega⟩, hleader.symm, helectors.symm⟩

structure CancelPrefix (raw : Bytes) : Prop where
  reason : (CancelHdr.read raw).reason ≤ 1
  justification : (CancelHdr.read raw).justificationLen ≠ 0 ∧ cancelTailOff raw ≤ raw.length
  tagged : cancelCertTag.isPrefixOf (slice raw CancelHdr.size (CancelHdr.read raw).justificationLen) = true
  notRollback : RollbackHdr.size ≤ raw.length →
    ¬((RollbackHdr.read raw).reason ≤ 1 ∧ isRollbackSuccessor (RollbackHdr.read raw) = true)

lemma looksLikeCancelPrefix_spec (h : looksLikeCancelPrefix raw = true) : CancelPrefix raw := by
  rw [looksLikeCancelPrefix] at h
  simp only [Bool.and_eq_true, decide_eq_true_eq, Bool.not_eq_true', Bool.and_eq_false_iff, decide_eq_false_iff_not] at h
  obtain ⟨⟨⟨⟨⟨-, hreason⟩, hfits⟩, hlen⟩, htagged⟩, hrollback⟩ := h
  refine ⟨hreason, ⟨hlen, hfits⟩, htagged, fun hsize hboth => ?_⟩
  rcases hrollback with hnot | hnot | hnot
  · exact hnot hsize
  · exact hnot hboth.1
  · exact absurd hboth.2 (by simp [hnot])

lemma rollbackInner_fits {rhdr : RollbackHdr} {inner : Bytes} (h : rollbackInner raw = some (rhdr, inner)) :
    RollbackHdr.size ≤ raw.length ∧ rhdr = RollbackHdr.read raw ∧ rhdr.reason ≤ 1 ∧ isRollbackSuccessor rhdr = true ∧
      RollbackHdr.size + rhdr.justificationLen ≤ raw.length ∧
      inner = raw.drop (RollbackHdr.size + rhdr.justificationLen) ∧ FitsNormal inner ∧
      (ProposeHdr.read inner).epoch = rhdr.newEpoch := by
  rw [rollbackInner] at h
  split at h
  next => cases h
  next hsize =>
    split at h
    next => cases h
    next hreason =>
      split at h
      next => cases h
      next hsuccessor =>
        split at h
        next => cases h
        next hfits =>
          split at h
          next => cases h
          next hdr hparse =>
            split at h
            next => cases h
            next hepoch =>
              obtain ⟨rfl, rfl⟩ := Prod.mk.inj (Option.some.inj h)
              obtain ⟨rfl, hnormal⟩ := parseNormalProposal_fits hparse
              exact ⟨by omega, rfl, not_lt.mp hreason, by simpa using hsuccessor, not_lt.mp hfits, rfl, hnormal,
                not_not.mp hepoch⟩

lemma CancelPrefix.not_normal (h : CancelPrefix raw) : parseNormalProposal raw = none := by
  obtain ⟨tail, htail⟩ := List.isPrefixOf_iff_prefix.mp h.tagged
  have hdrop : ∃ rest, raw.drop CancelHdr.size = cancelCertTag ++ rest := by
    refine ⟨tail ++ (raw.drop CancelHdr.size).drop (CancelHdr.read raw).justificationLen, ?_⟩
    rw [← List.append_assoc, htail, slice, List.take_append_drop]
  obtain ⟨rest, hrest⟩ := hdrop
  have hcount : slice raw 16 4 = [69, 76, 95, 67] := by
    have hoff : raw.drop 16 = (raw.drop CancelHdr.size).drop 4 := by rw [List.drop_drop]; rfl
    rw [slice, hoff, hrest]
    rfl
  have hvehicles : (ProposeHdr.read raw).nVehicles = 1130318917 := by
    show readU32 raw 16 = 1130318917
    rw [readU32, readLE, hcount]
    decide
  rw [parseNormalProposal]
  split
  · rfl
  · dsimp only
    rw [hvehicles, if_pos (by norm_num)]

theorem unwrap_wellFormed (raw : Bytes) (view : ProposalView) (h : unwrapRollbackIfPresent raw = some view) :
    WellFormed raw view := by
  rw [unwrapRollbackIfPresent, looksLikeCancelProposal] at h
  cases hhead : looksLikeCancelPrefix raw with
  | false =>
    rw [hhead, if_neg (by simp)] at h
    dsimp only at h
    cases hinner : rollbackInner raw with
    | some pair =>
      obtain ⟨rhdr, inner⟩ := pair
      rw [hinner] at h
      obtain rfl := Option.some.inj h
      obtain ⟨hsize, hhdr, hreason, hsuccessor, hfits, hdata, hnormal, hepoch⟩ := rollbackInner_fits hinner
      exact ⟨⟨hsize, hhdr⟩, hreason, hsuccessor, hfits, ⟨hdata, hnormal⟩, hepoch⟩
    | none =>
      rw [hinner] at h
      obtain ⟨hdr, hparse, rfl⟩ := Option.map_eq_some_iff.mp h
      exact ⟨rfl, (parseNormalProposal_fits hparse).2⟩
  | true =>
    have hspec := looksLikeCancelPrefix_spec hhead
    rw [hhead, if_pos rfl] at h
    dsimp only at h
    cases htail : parseCancelTail raw CancelHdr.size (CancelHdr.read raw).justificationLen with
    | some pair =>
      obtain ⟨leaderId, electors⟩ := pair
      rw [htail] at h
      obtain rfl := Option.some.inj h
      obtain ⟨helectors, hleader, hlist⟩ := parseCancelTail_fits htail
      exact ⟨rfl, hspec.reason, hspec.justification, hspec.tagged, helectors, hleader, hlist⟩
    | none =>
      rw [htail] at h
      dsimp only at h
      cases hinner : rollbackInner raw with
      | some pair =>
        obtain ⟨hsize, hhdr, hreason, hsuccessor, -⟩ := rollbackInner_fits hinner
        exact absurd ⟨hhdr ▸ hreason, hhdr ▸ hsuccessor⟩ (hspec.notRollback hsize)
      | none =>
        rw [hinner] at h
        obtain ⟨hdr, hparse, -⟩ := Option.map_eq_some_iff.mp h
        rw [show (ProposalView.initial raw).data = raw from rfl, hspec.not_normal] at hparse
        cases hparse

theorem unwrap_wellFormed_cancel :
    WellFormed (cancelPayload 0 0 cancelCertTag 2 [1, 2])
      { ProposalView.initial (cancelPayload 0 0 cancelCertTag 2 [1, 2]) with
        kind := .cancel
        cancel := ⟨0, 0, 12⟩
        cancelLeaderId := 2
        cancelElectors := [1, 2] } :=
  unwrap_wellFormed _ _ (by decide +kernel)

end V2vBft.Bridge
