import V2vBft.Bridge.CancelProposal
import V2vBft.Wire.Text

namespace V2vBft.Bridge

open Wire

structure ReadsCancel (view : ProposalView) (cancelledEpoch reason : ℕ) (just : Bytes) (leaderId : ℤ)
    (electors : List ℤ) : Prop where
  kind : view.kind = .cancel
  epoch : view.cancel.cancelledEpoch = cancelledEpoch
  reason : view.cancel.reason = reason
  leader : view.cancelLeaderId = leaderId
  electors : view.cancelElectors = electors
  justification : slice view.rawPayload CancelHdr.size view.cancel.justificationLen = just

structure SeenAsCancel (raw : Bytes) (view : ProposalView) : Prop where
  looks : looksLikeCancelPrefix raw = true
  cancel : view.cancel = CancelHdr.read raw
  payload : view.rawPayload = raw
  electors : view.cancelElectors.length ≤ 10000

lemma parseCancelTail_electors {raw : Bytes} {off len : ℕ} {leaderId : ℤ} {electors : List ℤ}
    (h : parseCancelTail raw off len = some (leaderId, electors)) : electors.length ≤ 10000 := by
  rw [parseCancelTail] at h
  dsimp only at h
  split at h
  next => exact absurd h (by simp)
  next =>
    split at h
    next => exact absurd h (by simp)
    next hcount =>
      rw [← (Prod.mk.inj (Option.some.inj h)).2, readElectors, List.length_map, List.length_range]
      exact Nat.not_lt.mp fun hlt => hcount (Or.inl hlt)

lemma seenAsCancel {raw : Bytes} {view : ProposalView} (h : unwrapRollbackIfPresent raw = some view)
    (hkind : view.kind = .cancel) : SeenAsCancel raw view := by
  rw [unwrapRollbackIfPresent, looksLikeCancelProposal] at h
  by_cases hpre : looksLikeCancelPrefix raw = true
  · rw [if_pos hpre] at h
    dsimp only at h
    cases htail : parseCancelTail raw CancelHdr.size (CancelHdr.read raw).justificationLen with
    | some tail =>
      rw [htail] at h
      rw [← Option.some.inj h]
      exact ⟨hpre, rfl, rfl, parseCancelTail_electors htail⟩
    | none =>
      rw [htail] at h
      dsimp only at h
      split at h
      next =>
        rw [← Option.some.inj h] at hkind
        exact absurd hkind (by simp)
      next =>
        obtain ⟨hdr, _, rfl⟩ := Option.map_eq_some_iff.mp h
        exact ⟨hpre, rfl, rfl, by simp [ProposalView.initial]⟩
  · rw [if_neg hpre] at h
    dsimp only at h
    split at h
    next =>
      rw [← Option.some.inj h] at hkind
      exact absurd hkind (by simp)
    next =>
      obtain ⟨hdr, _, rfl⟩ := Option.map_eq_some_iff.mp h
      exact absurd hkind (by simp [ProposalView.initial])

lemma slice_length_le (bs : Bytes) (off len : ℕ) : (slice bs off len).length ≤ len := by
  rw [slice, List.length_take]
  exact min_le_left _ _

section Cancel

variable {cancelledEpoch reason : ℕ} {just : Bytes} {leaderId : ℤ} {electors : List ℤ}

lemma notRollback_of_looks (he : cancelledEpoch < 4294967296) (hr : reason ≤ 1)
    (h : looksLikeCancelPrefix (cancelPayload cancelledEpoch reason just leaderId electors) = true) :
    just.length % 256 ≤ 1 → cancelledEpoch ≠ reason + 1 := by
  obtain ⟨hnew, hold, hreason⟩ := rollbackHdr_read_cancel
    (just ++ (putI32 leaderId ++ (putU32 electors.length ++ electors.flatMap putI32))) just.length he hr
  have hlong : RollbackHdr.size ≤ (cancelPayload cancelledEpoch reason just leaderId electors).length := by
    have htail : 8 ≤ (putI32 leaderId ++ (putU32 electors.length ++ electors.flatMap putI32)).length := by
      simp only [List.length_append, putI32_length, putU32_length]
      omega
    rw [cancelPayload, List.length_append, CancelHdr.bytes_length, List.length_append, RollbackHdr.size, CancelHdr.size]
    omega
  rw [looksLikeCancelPrefix] at h
  simp only [Bool.and_eq_true, Bool.not_eq_true', Bool.and_eq_false_iff, decide_eq_false_iff_not] at h
  have hnot := h.2.resolve_left (not_not_intro hlong)
  rw [cancelPayload, hreason] at hnot
  intro hsmall heq
  rcases hnot with hlarge | hsucc
  · exact hlarge hsmall
  · rw [isRollbackSuccessor, hnew, hold, decide_eq_false_iff_not, uint32Modulus] at hsucc
    exact hsucc (by omega)

theorem cancelPayload_reads_iff (he : cancelledEpoch < 4294967296) (hr : reason ≤ 1)
    (hleader : -2147483648 ≤ leaderId ∧ leaderId < 2147483648)
    (helectors : ∀ e ∈ electors, -2147483648 ≤ e ∧ e < 2147483648)
    (htag : cancelCertTag.isPrefixOf just = true) :
    (∃ view, unwrapRollbackIfPresent (cancelPayload cancelledEpoch reason just leaderId electors) = some view ∧
        ReadsCancel view cancelledEpoch reason just leaderId electors) ↔
      just.length < 4294967296 ∧ electors.length ≤ 10000 ∧ (just.length % 256 ≤ 1 → cancelledEpoch ≠ reason + 1) := by
  constructor
  · rintro ⟨view, hview, hreads⟩
    have hseen := seenAsCancel hview hreads.kind
    refine ⟨?_, hreads.electors ▸ hseen.electors, notRollback_of_looks he hr hseen.looks⟩
    have hlen := slice_length_le view.rawPayload CancelHdr.size view.cancel.justificationLen
    rw [hreads.justification, hseen.cancel] at hlen
    exact hlen.trans_lt (readU32_lt _ _)
  · rintro ⟨hlen, hcount, hroll⟩
    have hfields : CancelFields cancelledEpoch reason just leaderId electors :=
      ⟨he, hr, htag, hlen, hleader, hcount, helectors, hroll⟩
    refine ⟨_, unwrap_cancelPayload hfields, rfl, rfl, rfl, rfl, rfl, ?_⟩
    have hslice := slice_append_right (CancelHdr.mk cancelledEpoch reason just.length).bytes
      (just ++ (putI32 leaderId ++ (putU32 electors.length ++ electors.flatMap putI32))) 0 just.length
    rw [slice_append_left, CancelHdr.bytes_length, Nat.add_zero] at hslice
    exact hslice

end Cancel

def sixEchoCert : Bytes :=
  ascii "CANCEL_CERT|1|0|blocked_batch:1:0" ++
    (List.range 6).flatMap fun id =>
      ascii "|" ++ decimalNat id ++ ascii ":" ++ List.replicate 66 48 ++ ascii "," ++ List.replicate 138 48

theorem cancelPayload_reads_bare :
    ∃ view, unwrapRollbackIfPresent (cancelPayload 0 0 sixEchoCert 2 [0, 1, 2, 3]) = some view ∧
      ReadsCancel view 0 0 sixEchoCert 2 [0, 1, 2, 3] :=
  (cancelPayload_reads_iff (by decide) (by decide) (by decide) (by decide) (by decide +kernel)).mpr (by decide +kernel)

-- epoch 1 and a certificate of 1281 bytes pass for a rollback header
theorem cancelPayload_refused :
    unwrapRollbackIfPresent (cancelPayload 1 0 sixEchoCert 2 [0, 1, 2, 3]) = none := by
  decide +kernel

def clearTrailer (clearCerts : List Bytes) : Bytes :=
  if clearCerts = [] then []
  else
    putU32 orderEvidenceMagic ++ putU16 1 ++ putU16 clearCerts.length ++
      clearCerts.flatMap fun cert => putU32 cert.length ++ cert

def orderPayload (epoch : ℕ) (leaderId : ℤ) (proposeSimTimeUs : ℕ) (entries : List VehicleEntry)
    (clearCerts : List Bytes) : Bytes :=
  (ProposeHdr.mk epoch leaderId proposeSimTimeUs entries.length).bytes ++
    (entries.flatMap VehicleEntry.bytes ++ clearTrailer clearCerts)

structure VehicleEntry.Fits (e : VehicleEntry) : Prop where
  replicaId : -2147483648 ≤ e.replicaId ∧ e.replicaId < 2147483648
  simTimeUs : e.simTimeUs < 18446744073709551616
  isAmbulance : e.isAmbulance < 256
  lane : e.lane < 256
  direction : e.direction < 256
  positionInLane : e.positionInLane < 256
  cyberStatus : e.cyberStatus < 256
  physicalLaneIndex : e.physicalLaneIndex < 256
  lateralClaimCm : -2147483648 ≤ e.lateralClaimCm ∧ e.lateralClaimCm < 2147483648

lemma readLE_put (width : ℕ) (a rest : Bytes) {value : ℕ} (h : value < 256 ^ width) :
    readLE width (a ++ (littleEndian width value ++ rest)) a.length = value := by
  have hright := readLE_append_right width a (littleEndian width value ++ rest) 0
  rw [Nat.add_zero, readLE_littleEndian, Nat.mod_eq_of_lt h] at hright
  exact hright

lemma vehicleEntry_bytes_length (e : VehicleEntry) : e.bytes.length = VehicleEntry.size := by
  simp [VehicleEntry.bytes, VehicleEntry.size, putU64]

lemma vehicleEntry_read {e : VehicleEntry} (he : VehicleEntry.Fits e) (a rest : Bytes) :
    VehicleEntry.read (a ++ (e.bytes ++ rest)) a.length = e := by
  have hid := readI32_put a (putU64 e.simTimeUs ++ putU8 e.isAmbulance ++ putU8 e.lane ++ putU8 e.direction ++
    putU8 e.positionInLane ++ putU8 e.cyberStatus ++ putU8 e.physicalLaneIndex ++ putI32 e.lateralClaimCm ++ rest)
    he.replicaId.1 he.replicaId.2
  have htime := readLE_put 8 (a ++ putI32 e.replicaId) (putU8 e.isAmbulance ++ putU8 e.lane ++ putU8 e.direction ++
    putU8 e.positionInLane ++ putU8 e.cyberStatus ++ putU8 e.physicalLaneIndex ++ putI32 e.lateralClaimCm ++ rest)
    he.simTimeUs
  have hambulance := readU8_put (a ++ putI32 e.replicaId ++ putU64 e.simTimeUs) (putU8 e.lane ++ putU8 e.direction ++
    putU8 e.positionInLane ++ putU8 e.cyberStatus ++ putU8 e.physicalLaneIndex ++ putI32 e.lateralClaimCm ++ rest)
    e.isAmbulance he.isAmbulance
  have hlane := readU8_put (a ++ putI32 e.replicaId ++ putU64 e.simTimeUs ++ putU8 e.isAmbulance) (putU8 e.direction ++
    putU8 e.positionInLane ++ putU8 e.cyberStatus ++ putU8 e.physicalLaneIndex ++ putI32 e.lateralClaimCm ++ rest)
    e.lane he.lane
  have hdirection := readU8_put (a ++ putI32 e.replicaId ++ putU64 e.simTimeUs ++ putU8 e.isAmbulance ++ putU8 e.lane)
    (putU8 e.positionInLane ++ putU8 e.cyberStatus ++ putU8 e.physicalLaneIndex ++ putI32 e.lateralClaimCm ++ rest)
    e.direction he.direction
  have hposition := readU8_put (a ++ putI32 e.replicaId ++ putU64 e.simTimeUs ++ putU8 e.isAmbulance ++ putU8 e.lane ++
    putU8 e.direction) (putU8 e.cyberStatus ++ putU8 e.physicalLaneIndex ++ putI32 e.lateralClaimCm ++ rest)
    e.positionInLane he.positionInLane
  have hstatus := readU8_put (a ++ putI32 e.replicaId ++ putU64 e.simTimeUs ++ putU8 e.isAmbulance ++ putU8 e.lane ++
    putU8 e.direction ++ putU8 e.positionInLane) (putU8 e.physicalLaneIndex ++ putI32 e.lateralClaimCm ++ rest)
    e.cyberStatus he.cyberStatus
  have hphysical := readU8_put (a ++ putI32 e.replicaId ++ putU64 e.simTimeUs ++ putU8 e.isAmbulance ++ putU8 e.lane ++
    putU8 e.direction ++ putU8 e.positionInLane ++ putU8 e.cyberStatus) (putI32 e.lateralClaimCm ++ rest)
    e.physicalLaneIndex he.physicalLaneIndex
  have hlateral := readI32_put (a ++ putI32 e.replicaId ++ putU64 e.simTimeUs ++ putU8 e.isAmbulance ++ putU8 e.lane ++
    putU8 e.direction ++ putU8 e.positionInLane ++ putU8 e.cyberStatus ++ putU8 e.physicalLaneIndex) rest
    he.lateralClaimCm.1 he.lateralClaimCm.2
  have hputU64 : (putU64 e.simTimeUs).length = 8 := littleEndian_length 8 _
  simp only [List.append_assoc, List.length_append, putI32_length, putU8_length, hputU64,
    Nat.reduceAdd] at hid htime hambulance hlane hdirection hposition hstatus hphysical hlateral
  simp only [VehicleEntry.read, VehicleEntry.bytes, List.append_assoc, hid, hambulance, hlane, hdirection, hposition,
    hstatus, hphysical, hlateral]
  congr 1

lemma entriesBytes_length (entries : List VehicleEntry) :
    (entries.flatMap VehicleEntry.bytes).length = entries.length * VehicleEntry.size :=
  records_length vehicleEntry_bytes_length entries

lemma entries_read (a rest : Bytes) (entries : List VehicleEntry) (hfits : ∀ e ∈ entries, VehicleEntry.Fits e) :
    ((List.range entries.length).map fun i =>
      VehicleEntry.read (a ++ (entries.flatMap VehicleEntry.bytes ++ rest)) (a.length + i * VehicleEntry.size)) =
      entries :=
  read_records vehicleEntry_bytes_length (fun _ hfits => vehicleEntry_read hfits) a rest entries hfits

lemma proposeHdr_bytes_length (h : ProposeHdr) : h.bytes.length = ProposeHdr.size := by
  simp [ProposeHdr.bytes, ProposeHdr.size, putU64]

section Order

variable {epoch time : ℕ} {leaderId : ℤ}

lemma proposeHdr_read (rest : Bytes) (n : ℕ) (he : epoch < 4294967296)
    (hleader : -2147483648 ≤ leaderId ∧ leaderId < 2147483648) (htime : time < 18446744073709551616) :
    ProposeHdr.read ((ProposeHdr.mk epoch leaderId time n).bytes ++ rest) =
      ⟨epoch, leaderId, time, n % 4294967296⟩ := by
  have hepoch := readU32_put [] (putI32 leaderId ++ (putU64 time ++ (putU32 n ++ rest))) epoch he
  have hid := readI32_put (putU32 epoch) (putU64 time ++ (putU32 n ++ rest)) hleader.1 hleader.2
  have ht := readLE_put 8 (putU32 epoch ++ putI32 leaderId) (putU32 n ++ rest) htime
  have hn := readLE_append_right 4 (putU32 epoch ++ putI32 leaderId ++ putU64 time) (putU32 n ++ rest) 0
  have hcount : readLE 4 (putU32 n ++ rest) 0 = n % 4294967296 := readLE_littleEndian 4 n rest
  have hputU64 : (putU64 time).length = 8 := littleEndian_length 8 _
  rw [Nat.add_zero, hcount] at hn
  simp only [List.nil_append, List.length_nil] at hepoch
  simp only [putU32_length] at hid
  simp only [List.append_assoc, List.length_append, putU32_length, putI32_length, Nat.reduceAdd] at ht
  simp only [List.append_assoc, List.length_append, putU32_length, putI32_length, hputU64, Nat.reduceAdd] at hn
  simp only [ProposeHdr.read, ProposeHdr.bytes, List.append_assoc, hepoch, hid, ProposeHdr.mk.injEq]
  exact ⟨trivial, trivial, ht, hn⟩

lemma rollbackHdr_read_order (rest : Bytes) (n : ℕ) (he : epoch < 4294967296) (htime : time < 18446744073709551616) :
    RollbackHdr.read ((ProposeHdr.mk epoch leaderId time n).bytes ++ rest) =
      ⟨epoch, (leaderId % 4294967296).toNat, time % 256, time / 4294967296⟩ := by
  have hsplit : putU64 time = putU32 time ++ putU32 (time / 4294967296) := by
    simp [putU64, putU32, littleEndian, List.range_succ, Nat.div_div_eq_div_mul]
  have hepoch := readU32_put [] (putI32 leaderId ++ (putU64 time ++ (putU32 n ++ rest))) epoch he
  have hid := readU32_put (putU32 epoch) (putU64 time ++ (putU32 n ++ rest)) (leaderId % 4294967296).toNat (by omega)
  have hreason := readU8_putU32 (putU32 epoch ++ putI32 leaderId) (putU32 (time / 4294967296) ++ (putU32 n ++ rest)) time
  have hlen := readU32_put (putU32 epoch ++ putI32 leaderId ++ putU32 time) (putU32 n ++ rest) (time / 4294967296)
    (by omega)
  simp only [List.nil_append, List.length_nil] at hepoch
  simp only [putU32_length] at hid
  simp only [List.append_assoc, List.length_append, putU32_length, putI32_length, Nat.reduceAdd] at hreason hlen
  simp only [RollbackHdr.read, ProposeHdr.bytes, hsplit, List.append_assoc, RollbackHdr.mk.injEq] at hepoch ⊢
  rw [hsplit, List.append_assoc] at hid
  exact ⟨hepoch, hid, hreason, hlen⟩

structure ReadsOrder (view : ProposalView) (epoch : ℕ) (leaderId : ℤ) (time : ℕ) (entries : List VehicleEntry)
    (clearCerts : List Bytes) : Prop where
  kind : view.kind = .normal
  header : ProposeHdr.read view.data = ⟨epoch, leaderId, time, entries.length⟩
  vehicles : entriesOf view.data entries.length = entries
  trailer : view.data.drop (ProposeHdr.size + entries.length * VehicleEntry.size) = clearTrailer clearCerts

-- the bytes behind the propose time hold another proposal of the same epoch
def PassesForRollback (epoch : ℕ) (leaderId : ℤ) (time : ℕ) (payload : Bytes) : Prop :=
  time % 256 ≤ 1 ∧ epoch = ((leaderId % 4294967296).toNat + 1) % 4294967296 ∧
    ∃ inner, parseNormalProposal (payload.drop (RollbackHdr.size + time / 4294967296)) = some inner ∧
      inner.epoch = epoch

variable {entries : List VehicleEntry} {clearCerts : List Bytes}

lemma orderPayload_length : (orderPayload epoch leaderId time entries clearCerts).length =
    ProposeHdr.size + entries.length * VehicleEntry.size + (clearTrailer clearCerts).length := by
  rw [orderPayload, List.length_append, proposeHdr_bytes_length, List.length_append, entriesBytes_length, Nat.add_assoc]

lemma parseNormalProposal_count {data : Bytes} {hdr : ProposeHdr} (h : parseNormalProposal data = some hdr) :
    hdr = ProposeHdr.read data ∧ hdr.nVehicles ≤ 10000 ∧ ProposeHdr.size ≤ data.length := by
  rw [parseNormalProposal] at h
  dsimp only at h
  split at h
  next => exact absurd h (by simp)
  next hlen =>
    split at h
    next => exact absurd h (by simp)
    next hcount =>
      split at h
      next => exact absurd h (by simp)
      next =>
        obtain rfl := Option.some.inj h
        exact ⟨rfl, Nat.not_lt.mp hcount, Nat.not_lt.mp hlen⟩

lemma parse_orderPayload (he : epoch < 4294967296) (hleader : -2147483648 ≤ leaderId ∧ leaderId < 2147483648)
    (htime : time < 18446744073709551616) (hcount : entries.length ≤ 10000) :
    parseNormalProposal (orderPayload epoch leaderId time entries clearCerts) =
      some ⟨epoch, leaderId, time, entries.length⟩ := by
  have hlen := @orderPayload_length epoch time leaderId entries clearCerts
  have hread : ProposeHdr.read (orderPayload epoch leaderId time entries clearCerts) =
      ⟨epoch, leaderId, time, entries.length⟩ := by
    rw [orderPayload, proposeHdr_read _ _ he hleader htime, Nat.mod_eq_of_lt (by omega)]
  rw [parseNormalProposal, hread, if_neg (by omega)]
  dsimp only
  rw [if_neg (by omega), if_neg (by omega)]

lemma count_of_tag {raw : Bytes} {len : ℕ} (h : cancelCertTag.isPrefixOf (slice raw CancelHdr.size len) = true) :
    (ProposeHdr.read raw).nVehicles = 1130318917 := by
  obtain ⟨t, ht⟩ := List.isPrefixOf_iff_prefix.mp h
  have hdrop : raw.drop CancelHdr.size = cancelCertTag ++ (t ++ (raw.drop CancelHdr.size).drop len) := by
    rw [← List.append_assoc, ht, slice, List.take_append_drop]
  have hlen : (raw.take CancelHdr.size).length = CancelHdr.size := by
    have hpos := congrArg List.length hdrop
    have htag : cancelCertTag.length = 12 := by decide
    rw [List.length_drop, List.length_append, htag] at hpos
    rw [List.length_take, CancelHdr.size] at *
    omega
  have hraw : raw = (raw.take CancelHdr.size ++ ascii "CANC") ++
      (ascii "EL_C" ++ (ascii "ERT|" ++ (t ++ (raw.drop CancelHdr.size).drop len))) := by
    have hsplit : cancelCertTag = ascii "CANC" ++ (ascii "EL_C" ++ ascii "ERT|") := by decide
    conv_lhs => rw [← List.take_append_drop CancelHdr.size raw, hdrop, hsplit]
    simp only [List.append_assoc]
  have hoff : (raw.take CancelHdr.size ++ ascii "CANC").length = 16 := by
    rw [List.length_append, hlen]
    decide
  have hread := readLE_append_right 4 (raw.take CancelHdr.size ++ ascii "CANC")
    (ascii "EL_C" ++ (ascii "ERT|" ++ (t ++ (raw.drop CancelHdr.size).drop len))) 0
  rw [← hraw, hoff] at hread
  have hfour := slice_append_left (ascii "EL_C") (ascii "ERT|" ++ (t ++ (raw.drop CancelHdr.size).drop len))
  have hvalue : readLE 4 (ascii "EL_C" ++ (ascii "ERT|" ++ (t ++ (raw.drop CancelHdr.size).drop len))) 0 =
      1130318917 := by
    rw [readLE, show 4 = (ascii "EL_C").length by decide, hfour]
    decide
  rw [hvalue] at hread
  exact hread

lemma not_looksLikeCancel (he : epoch < 4294967296) (hleader : -2147483648 ≤ leaderId ∧ leaderId < 2147483648)
    (htime : time < 18446744073709551616) (hcount : entries.length ≤ 10000) :
    looksLikeCancelPrefix (orderPayload epoch leaderId time entries clearCerts) = false := by
  by_contra hlooks
  rw [Bool.not_eq_false, looksLikeCancelPrefix] at hlooks
  simp only [Bool.and_eq_true] at hlooks
  have hvehicles := count_of_tag hlooks.1.2
  rw [orderPayload, proposeHdr_read _ _ he hleader htime] at hvehicles
  dsimp only at hvehicles
  omega

lemma rollbackInner_orderPayload (he : epoch < 4294967296) (htime : time < 18446744073709551616) :
    rollbackInner (orderPayload epoch leaderId time entries clearCerts) = none ↔
      ¬PassesForRollback epoch leaderId time (orderPayload epoch leaderId time entries clearCerts) := by
  have hhdr : RollbackHdr.read (orderPayload epoch leaderId time entries clearCerts) =
      ⟨epoch, (leaderId % 4294967296).toNat, time % 256, time / 4294967296⟩ := rollbackHdr_read_order _ _ he htime
  set raw := orderPayload epoch leaderId time entries clearCerts with hraw
  rw [rollbackInner, hhdr]
  dsimp only
  by_cases hpass : PassesForRollback epoch leaderId time raw
  · obtain ⟨hreason, hsucc, inner, hparse, hepoch⟩ := hpass
    have hlong := (parseNormalProposal_count hparse).2.2
    rw [List.length_drop, ProposeHdr.size, RollbackHdr.size] at hlong
    have hisSucc : isRollbackSuccessor ⟨epoch, (leaderId % 4294967296).toNat, time % 256, time / 4294967296⟩ = true := by
      rw [isRollbackSuccessor, decide_eq_true_eq]
      exact hsucc
    rw [if_neg (by rw [RollbackHdr.size, ProposeHdr.size]; omega), if_neg (by omega), hisSucc]
    rw [if_neg (by simp), if_neg (by rw [RollbackHdr.size]; omega), hparse]
    dsimp only
    rw [if_neg (not_not_intro hepoch)]
    exact ⟨fun h => absurd h (by simp), fun h => absurd ⟨hreason, hsucc, inner, hparse, hepoch⟩ h⟩
  · refine ⟨fun _ => hpass, fun _ => ?_⟩
    split
    next => rfl
    next =>
      split
      next => rfl
      next hreason =>
        split
        next => rfl
        next hsucc =>
          split
          next => rfl
          next =>
            split
            next => rfl
            next inner hparse =>
              split
              next => rfl
              next hepoch =>
                rw [Bool.not_eq_true', Bool.not_eq_false, isRollbackSuccessor, decide_eq_true_eq] at hsucc
                exact absurd ⟨Nat.not_lt.mp hreason, hsucc, inner, hparse, not_not.mp hepoch⟩ hpass

lemma unwrapped_normal {raw : Bytes} {v view : ProposalView} (hkind : view.kind = .normal)
    (hv : (match rollbackInner raw with
      | some (rhdr, inner) => some { v with data := inner, kind := .rollback, rollback := rhdr }
      | none => (parseNormalProposal v.data).map fun _ => v) = some view) :
    view = v ∧ rollbackInner raw = none ∧ ∃ hdr, parseNormalProposal v.data = some hdr := by
  cases hinner : rollbackInner raw with
  | some found =>
    rw [hinner] at hv
    rw [← Option.some.inj hv] at hkind
    exact absurd hkind (by simp)
  | none =>
    rw [hinner] at hv
    obtain ⟨hdr, hparse, rfl⟩ := Option.map_eq_some_iff.mp hv
    exact ⟨rfl, rfl, hdr, hparse⟩

lemma seenAsNormal {raw : Bytes} {view : ProposalView} (h : unwrapRollbackIfPresent raw = some view)
    (hkind : view.kind = .normal) :
    view = ProposalView.initial raw ∧ rollbackInner raw = none ∧ ∃ hdr, parseNormalProposal raw = some hdr := by
  rw [unwrapRollbackIfPresent, looksLikeCancelProposal] at h
  by_cases hpre : looksLikeCancelPrefix raw = true
  · rw [if_pos hpre] at h
    dsimp only at h
    cases htail : parseCancelTail raw CancelHdr.size (CancelHdr.read raw).justificationLen with
    | some tail =>
      rw [htail] at h
      rw [← Option.some.inj h] at hkind
      exact absurd hkind (by simp)
    | none =>
      rw [htail] at h
      rw [(unwrapped_normal hkind h).1] at hkind
      exact absurd hkind (by simp)
  · rw [if_neg hpre] at h
    exact unwrapped_normal hkind h

theorem orderPayload_reads_iff (he : epoch < 4294967296) (hleader : -2147483648 ≤ leaderId ∧ leaderId < 2147483648)
    (htime : time < 18446744073709551616) (hfits : ∀ e ∈ entries, VehicleEntry.Fits e) :
    (∃ view, unwrapRollbackIfPresent (orderPayload epoch leaderId time entries clearCerts) = some view ∧
        ReadsOrder view epoch leaderId time entries clearCerts) ↔
      entries.length ≤ 10000 ∧
        ¬PassesForRollback epoch leaderId time (orderPayload epoch leaderId time entries clearCerts) := by
  constructor
  · rintro ⟨view, hview, hreads⟩
    obtain ⟨rfl, hinner, hdr, hparse⟩ := seenAsNormal hview hreads.kind
    refine ⟨?_, (rollbackInner_orderPayload he htime).mp hinner⟩
    obtain ⟨rfl, hcount, -⟩ := parseNormalProposal_count hparse
    have hheader := hreads.header
    rw [ProposalView.initial] at hheader
    rw [hheader] at hcount
    exact hcount
  · rintro ⟨hcount, hpass⟩
    refine ⟨ProposalView.initial (orderPayload epoch leaderId time entries clearCerts), ?_, rfl, ?_, ?_, ?_⟩
    · rw [unwrapRollbackIfPresent, looksLikeCancelProposal, not_looksLikeCancel he hleader htime hcount]
      simp only [Bool.false_eq_true, if_false, (rollbackInner_orderPayload he htime).mpr hpass, ProposalView.initial,
        parse_orderPayload he hleader htime hcount, Option.map_some]
    · exact (parseNormalProposal_count (parse_orderPayload he hleader htime hcount)).1.symm
    · have hread := entries_read (ProposeHdr.mk epoch leaderId time entries.length).bytes (clearTrailer clearCerts)
        entries hfits
      rw [proposeHdr_bytes_length] at hread
      exact hread
    · have hlen : ((ProposeHdr.mk epoch leaderId time entries.length).bytes ++
          entries.flatMap VehicleEntry.bytes).length = ProposeHdr.size + entries.length * VehicleEntry.size := by
        rw [List.length_append, proposeHdr_bytes_length, entriesBytes_length]
      rw [ProposalView.initial, orderPayload, ← List.append_assoc, ← hlen, List.drop_left]

end Order

def quietEntry (replicaId : ℤ) (lane : ℕ) : VehicleEntry := ⟨replicaId, uint64Max, 0, lane, 0, 0, 0, 0, 0⟩

def fourQuiet : List VehicleEntry := [quietEntry 0 0, quietEntry 1 1, quietEntry 2 2, quietEntry 3 3]

instance (e : VehicleEntry) : Decidable (VehicleEntry.Fits e) :=
  decidable_of_iff ((-2147483648 ≤ e.replicaId ∧ e.replicaId < 2147483648) ∧ e.simTimeUs < 18446744073709551616 ∧
      e.isAmbulance < 256 ∧ e.lane < 256 ∧ e.direction < 256 ∧ e.positionInLane < 256 ∧ e.cyberStatus < 256 ∧
      e.physicalLaneIndex < 256 ∧ -2147483648 ≤ e.lateralClaimCm ∧ e.lateralClaimCm < 2147483648)
    ⟨fun ⟨h₁, h₂, h₃, h₄, h₅, h₆, h₇, h₈, h₉⟩ => ⟨h₁, h₂, h₃, h₄, h₅, h₆, h₇, h₈, h₉⟩,
      fun h => ⟨h.1, h.2, h.3, h.4, h.5, h.6, h.7, h.8, h.9⟩⟩

theorem orderPayload_reads_quiet :
    ∃ view, unwrapRollbackIfPresent (orderPayload 3 3 4000000 fourQuiet [sixEchoCert]) = some view ∧
      ReadsOrder view 3 3 4000000 fourQuiet [sixEchoCert] :=
  (orderPayload_reads_iff (by decide) (by decide) (by decide) (by decide)).mpr
    ⟨by decide, fun h => absurd h.2.1 (by decide)⟩

theorem orderPayload_taken_for_rollback :
    (unwrapRollbackIfPresent (orderPayload 4 3 4000000 fourQuiet [])).map ProposalView.kind = some .rollback := by
  decide +kernel

end V2vBft.Bridge
