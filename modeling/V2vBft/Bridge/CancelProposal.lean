import V2vBft.Bridge.PreVerify

namespace V2vBft.Bridge

open Wire Pbft

def cancelPayload (cancelledEpoch reason : ℕ) (just : Bytes) (leaderId : ℤ) (electors : List ℤ) : Bytes :=
  (CancelHdr.mk cancelledEpoch reason just.length).bytes ++
    (just ++ (putI32 leaderId ++ (putU32 electors.length ++ electors.flatMap putI32)))

structure CancelFields (cancelledEpoch reason : ℕ) (just : Bytes) (leaderId : ℤ) (electors : List ℤ) : Prop where
  epochFits : cancelledEpoch < 4294967296
  reasonFits : reason ≤ 1
  tagged : cancelCertTag.isPrefixOf just = true
  lengthFits : just.length < 4294967296
  leaderFits : -2147483648 ≤ leaderId ∧ leaderId < 2147483648
  countFits : electors.length ≤ 10000
  electorsFit : ∀ e ∈ electors, -2147483648 ≤ e ∧ e < 2147483648
  notRollback : just.length % 256 ≤ 1 → cancelledEpoch ≠ reason + 1

variable {cancelledEpoch reason : ℕ} {just : Bytes} {leaderId : ℤ} {electors : List ℤ}

lemma CancelHdr.bytes_length (h : CancelHdr) : h.bytes.length = CancelHdr.size := by
  simp [CancelHdr.bytes, CancelHdr.size]

lemma readElectors_put (pre : Bytes) (es : List ℤ) (hes : ∀ e ∈ es, -2147483648 ≤ e ∧ e < 2147483648) :
    readElectors (pre ++ es.flatMap putI32) pre.length es.length = es := by
  have hread := read_records putI32_length (fun _ h a rest => readI32_put a rest h.1 h.2) pre [] es hes
  rwa [List.append_nil] at hread

lemma cancelHdr_read (rest : Bytes) (len : ℕ) (he : cancelledEpoch < 4294967296) (hr : reason ≤ 1)
    (hl : len < 4294967296) :
    CancelHdr.read ((CancelHdr.mk cancelledEpoch reason len).bytes ++ rest) = ⟨cancelledEpoch, reason, len⟩ := by
  have hepoch := readU32_put [] (putU8 reason ++ zeros 3 ++ (putU32 len ++ rest)) cancelledEpoch he
  have hreason := readLE_append_right 1 (putU32 cancelledEpoch) (putU8 reason ++ (zeros 3 ++ (putU32 len ++ rest))) 0
  have hlen := readU32_put (putU32 cancelledEpoch ++ (putU8 reason ++ zeros 3)) rest len hl
  have hbyte : readLE 1 (putU8 reason ++ (zeros 3 ++ (putU32 len ++ rest))) 0 = reason := by
    rw [putU8, readLE_littleEndian]
    omega
  rw [hbyte] at hreason
  simp only [List.nil_append, List.length_nil, List.append_assoc] at hepoch
  simp only [putU32_length, Nat.add_zero] at hreason
  simp only [List.length_append, putU32_length, putU8_length, zeros_length, List.append_assoc] at hlen
  simp only [CancelHdr.read, CancelHdr.bytes, List.append_assoc, CancelHdr.mk.injEq]
  exact ⟨hepoch, hreason, hlen⟩

lemma rollbackHdr_read_cancel (rest : Bytes) (len : ℕ) (he : cancelledEpoch < 4294967296) (hr : reason ≤ 1) :
    (RollbackHdr.read ((CancelHdr.mk cancelledEpoch reason len).bytes ++ rest)).newEpoch = cancelledEpoch ∧
      (RollbackHdr.read ((CancelHdr.mk cancelledEpoch reason len).bytes ++ rest)).cancelledEpoch = reason ∧
      (RollbackHdr.read ((CancelHdr.mk cancelledEpoch reason len).bytes ++ rest)).reason = len % 256 := by
  have hnew := readU32_put [] (putU32 reason ++ (putU32 len ++ rest)) cancelledEpoch he
  have hold := readU32_put (putU32 cancelledEpoch) (putU32 len ++ rest) reason (by omega)
  have hreason := readU8_putU32 (putU32 cancelledEpoch ++ putU32 reason) rest len
  simp only [List.nil_append, List.length_nil] at hnew
  simp only [putU32_length] at hold
  simp only [List.length_append, putU32_length, List.append_assoc] at hreason
  have hpad : putU8 reason ++ zeros 3 = putU32 reason := putU8_zeros (by omega)
  simp only [RollbackHdr.read, CancelHdr.bytes, hpad, List.append_assoc]
  exact ⟨hnew, hold, hreason⟩

lemma CancelFields.looksLikeCancelPrefix (h : CancelFields cancelledEpoch reason just leaderId electors) :
    looksLikeCancelPrefix (cancelPayload cancelledEpoch reason just leaderId electors) = true := by
  have hread := cancelHdr_read (just ++ (putI32 leaderId ++ (putU32 electors.length ++ electors.flatMap putI32)))
    just.length h.epochFits h.reasonFits h.lengthFits
  obtain ⟨hnew, hold, hrr⟩ := rollbackHdr_read_cancel
    (just ++ (putI32 leaderId ++ (putU32 electors.length ++ electors.flatMap putI32))) just.length h.epochFits h.reasonFits
  have hslice := slice_append_right (CancelHdr.mk cancelledEpoch reason just.length).bytes
    (just ++ (putI32 leaderId ++ (putU32 electors.length ++ electors.flatMap putI32))) 0 just.length
  rw [slice_append_left, CancelHdr.bytes_length, Nat.add_zero] at hslice
  have hlen : CancelHdr.size + just.length ≤ (cancelPayload cancelledEpoch reason just leaderId electors).length := by
    simp [cancelPayload, CancelHdr.bytes_length]
  have hpos : just.length ≠ 0 := by
    intro h0
    have htag := h.tagged
    rw [List.length_eq_zero_iff.mp h0] at htag
    exact absurd htag (by decide)
  have hsucc : reason + 1 < uint32Modulus := by
    have := h.reasonFits
    unfold uint32Modulus
    omega
  unfold Bridge.looksLikeCancelPrefix isRollbackSuccessor
  unfold cancelPayload at hlen ⊢
  simp only [hread, hnew, hold, hrr, hslice, h.tagged, Bool.and_eq_true, decide_eq_true_eq, Bool.not_eq_true',
    Bool.and_eq_false_iff, decide_eq_false_iff_not, Nat.mod_eq_of_lt hsucc]
  refine ⟨⟨⟨⟨⟨by omega, h.reasonFits⟩, hlen⟩, hpos⟩, trivial⟩, Or.inr ?_⟩
  by_cases hle : just.length % 256 ≤ 1
  · exact Or.inr (h.notRollback hle)
  · exact Or.inl hle

lemma CancelFields.parseCancelTail (h : CancelFields cancelledEpoch reason just leaderId electors) :
    parseCancelTail (cancelPayload cancelledEpoch reason just leaderId electors) CancelHdr.size just.length =
      some (leaderId, electors) := by
  set hdr := (CancelHdr.mk cancelledEpoch reason just.length).bytes with hhdr
  have hhlen : hdr.length = CancelHdr.size := CancelHdr.bytes_length _
  have hleader := readI32_put (hdr ++ just) (putU32 electors.length ++ electors.flatMap putI32) h.leaderFits.1 h.leaderFits.2
  have hcount := readU32_put (hdr ++ just ++ putI32 leaderId) (electors.flatMap putI32) electors.length
    (by have := h.countFits; omega)
  have hlist := readElectors_put (hdr ++ just ++ putI32 leaderId ++ putU32 electors.length) electors h.electorsFit
  simp only [List.append_assoc, List.length_append, putI32_length, putU32_length, hhlen] at hleader hcount hlist
  have htotal : (cancelPayload cancelledEpoch reason just leaderId electors).length =
      CancelHdr.size + just.length + 8 + electors.length * 4 := by
    simp only [cancelPayload, List.length_append, putI32_length, putU32_length, records_length putI32_length, ← hhdr, hhlen]
    omega
  have hpay : cancelPayload cancelledEpoch reason just leaderId electors =
      hdr ++ (just ++ (putI32 leaderId ++ (putU32 electors.length ++ electors.flatMap putI32))) := rfl
  have hcount' := h.countFits
  unfold Bridge.parseCancelTail
  rw [if_neg (by omega)]
  rw [← hpay] at hleader hcount hlist
  simp only [← Nat.add_assoc] at hcount hlist
  simp only [hcount, hleader]
  rw [if_neg (by omega)]
  have hoff : CancelHdr.size + just.length + 8 = CancelHdr.size + just.length + 4 + 4 := by omega
  rw [hoff, hlist]

theorem unwrap_cancelPayload (h : CancelFields cancelledEpoch reason just leaderId electors) :
    unwrapRollbackIfPresent (cancelPayload cancelledEpoch reason just leaderId electors) =
      some
        { ProposalView.initial (cancelPayload cancelledEpoch reason just leaderId electors) with
          kind := .cancel
          cancel := ⟨cancelledEpoch, reason, just.length⟩
          cancelLeaderId := leaderId
          cancelElectors := electors } := by
  have hread : CancelHdr.read (cancelPayload cancelledEpoch reason just leaderId electors) =
      ⟨cancelledEpoch, reason, just.length⟩ := cancelHdr_read _ just.length h.epochFits h.reasonFits h.lengthFits
  have hlooks : looksLikeCancelProposal (cancelPayload cancelledEpoch reason just leaderId electors)
      (ProposalView.initial (cancelPayload cancelledEpoch reason just leaderId electors)) =
      (true, { ProposalView.initial (cancelPayload cancelledEpoch reason just leaderId electors) with
        kind := .cancel
        cancel := ⟨cancelledEpoch, reason, just.length⟩
        cancelLeaderId := leaderId
        cancelElectors := electors }) := by
    unfold looksLikeCancelProposal
    rw [if_pos h.looksLikeCancelPrefix, hread]
    simp only [h.parseCancelTail]
    rfl
  unfold unwrapRollbackIfPresent
  rw [hlooks]

end V2vBft.Bridge
