import V2vBft.App.ClearGate
import V2vBft.Scheduler.Permutation

namespace V2vBft.App

open Wire Pbft Bridge Scheduler

-- the loop over n_clear_certs, which a certificate cut off by the end stops
def clearCertsFrom (bs : Bytes) : ℕ → ℕ → List Bytes
  | 0, _ => []
  | n + 1, off =>
    if bs.length < off + 4 then []
    else
      let certLen := readU32 bs off
      if bs.length < off + 4 + certLen then []
      else slice bs (off + 4) certLen :: clearCertsFrom bs n (off + 4 + certLen)

def clearCertsAt (bs : Bytes) (off : ℕ) : List Bytes :=
  let ehdr := OrderEvidenceHdr.read bs off
  if bs.length < off + OrderEvidenceHdr.size then []
  else if ehdr.magic = orderEvidenceMagic then clearCertsFrom bs ehdr.nClearCerts (off + OrderEvidenceHdr.size)
  else []

def decisionClearCerts (dec : Bytes) : List Bytes :=
  clearCertsAt dec (OrderHdr.size + (OrderHdr.read dec).nVehicles * VehicleDecision.size)

def entriesEnd (data : Bytes) : ℕ := ProposeHdr.size + (ProposeHdr.read data).nVehicles * VehicleEntry.size

def proposalClearCerts (data : Bytes) : List Bytes := clearCertsAt data (entriesEnd data)

lemma clearCertsFrom_shift (a t : Bytes) (n off : ℕ) :
    clearCertsFrom (a ++ t) n (a.length + off) = clearCertsFrom t n off := by
  induction n generalizing off with
  | zero => rfl
  | succ n ih =>
    have hread : readU32 (a ++ t) (a.length + off) = readU32 t off := readLE_append_right 4 a t off
    simp only [clearCertsFrom, List.length_append, Nat.add_assoc, hread, Nat.add_lt_add_iff_left,
      slice_append_right, ih]

lemma clearCertsAt_shift (a t : Bytes) : clearCertsAt (a ++ t) a.length = clearCertsAt t 0 := by
  have hhdr : OrderEvidenceHdr.read (a ++ t) a.length = OrderEvidenceHdr.read t 0 := by
    rw [OrderEvidenceHdr.read, OrderEvidenceHdr.read, Nat.zero_add, Nat.zero_add]
    congr 1
    · exact readLE_append_right 4 a t 0
    · exact readLE_append_right 2 a t 4
    · exact readLE_append_right 2 a t 6
  simp only [clearCertsAt, hhdr, clearCertsFrom_shift, List.length_append, Nat.zero_add, Nat.add_lt_add_iff_left]

lemma signed32_range {v : ℕ} (h : v < 4294967296) : -2147483648 ≤ signed32 v ∧ signed32 v < 2147483648 := by
  rw [signed32]
  split <;> omega

lemma orderHdr_read {hdr : OrderHdr} (he : hdr.epoch < 4294967296) (hn : hdr.nVehicles < 4294967296)
    (hb : hdr.nBatches < 4294967296) (rest : Bytes) : OrderHdr.read (hdr.bytes ++ rest) = hdr := by
  have hepoch := readU32_put [] (putU32 hdr.nVehicles ++ (putU32 hdr.nBatches ++ rest)) hdr.epoch he
  have hcount := readU32_put (putU32 hdr.epoch) (putU32 hdr.nBatches ++ rest) hdr.nVehicles hn
  have hbatches := readU32_put (putU32 hdr.epoch ++ putU32 hdr.nVehicles) rest hdr.nBatches hb
  simp only [List.nil_append, List.length_nil, List.append_assoc, List.length_append, putU32_length] at hepoch hcount hbatches
  simp only [OrderHdr.read, OrderHdr.bytes, List.append_assoc, hepoch, hcount, hbatches]

def VehicleDecision.Fits (d : VehicleDecision) : Prop :=
  (-2147483648 ≤ d.replicaId ∧ d.replicaId < 2147483648) ∧ d.batchIndex < 4294967296

lemma vehicleDecision_read {d : VehicleDecision} (hd : VehicleDecision.Fits d) (a rest : Bytes) :
    VehicleDecision.read (a ++ (d.bytes ++ rest)) a.length = d := by
  have hid := readI32_put a (putU32 d.batchIndex ++ rest) hd.1.1 hd.1.2
  have hindex := readU32_put (a ++ putI32 d.replicaId) rest d.batchIndex hd.2
  simp only [List.append_assoc, List.length_append, putI32_length] at hindex
  simp only [VehicleDecision.read, VehicleDecision.bytes, List.append_assoc, hid, hindex]

lemma vehicleDecision_bytes_length (d : VehicleDecision) : d.bytes.length = VehicleDecision.size := by
  rw [VehicleDecision.bytes, List.length_append, putI32_length, putU32_length, VehicleDecision.size]

lemma decisions_read (a rest : Bytes) (ds : List VehicleDecision) (hds : ∀ d ∈ ds, VehicleDecision.Fits d) :
    ((List.range ds.length).map fun i =>
      VehicleDecision.read (a ++ (ds.flatMap VehicleDecision.bytes ++ rest)) (a.length + i * VehicleDecision.size)) =
      ds :=
  read_records vehicleDecision_bytes_length (fun _ hfits => vehicleDecision_read hfits) a rest ds hds

lemma length_le_flatten {α : Type*} {bs : List (List α)} (h : ∀ b ∈ bs, b ≠ []) : bs.length ≤ bs.flatten.length := by
  rw [List.length_flatten, ← List.length_map (f := List.length)]
  refine List.length_le_sum_of_one_le _ fun i hi => ?_
  obtain ⟨b, hb, rfl⟩ := List.mem_map.mp hi
  exact List.length_pos_iff.mpr (h b hb)

lemma nBatches_le (singletonEnv : Option String) (hdr : ProposeHdr) {entries : List VehicleEntry}
    (hd : Distinct entries) : (buildIntersectionSchedule singletonEnv hdr entries).nBatches ≤ entries.length := by
  obtain ⟨hp, _⟩ := schedule_progress (allSingletonMode singletonEnv) hd
  have hplaced := placed_length_le hp.nodup hp.placed_subset
  have hflat := length_le_flatten hp.nonempty
  rw [hp.placed.length_eq, idsOf, List.length_map] at hplaced
  exact hflat.trans hplaced

lemma entriesOf_fits {data : Bytes} {n : ℕ} {e : VehicleEntry} (he : e ∈ entriesOf data n) :
    -2147483648 ≤ e.replicaId ∧ e.replicaId < 2147483648 := by
  obtain ⟨i, _, rfl⟩ := List.mem_map.mp he
  exact signed32_range (readU32_lt _ _)

lemma entriesOf_length (data : Bytes) (n : ℕ) : (entriesOf data n).length = n := by simp [entriesOf]

lemma orderBytes_length (hdr : OrderHdr) (ds : List VehicleDecision) :
    (orderBytes hdr ds).length = OrderHdr.size + ds.length * VehicleDecision.size := by
  rw [orderBytes, List.length_append, records_length vehicleDecision_bytes_length, OrderHdr.bytes, List.length_append, List.length_append, putU32_length,
    putU32_length, putU32_length, OrderHdr.size]

lemma orderDecision_read (hdr : OrderHdr) {ds : List VehicleDecision} (he : hdr.epoch < 4294967296)
    (hn : hdr.nVehicles < 4294967296) (hb : hdr.nBatches < 4294967296) (hlen : ds.length = hdr.nVehicles)
    (hds : ∀ d ∈ ds, VehicleDecision.Fits d) (rest : Bytes) :
    OrderHdr.read (orderBytes hdr ds ++ rest) = hdr ∧
      OrderDecision.read (orderBytes hdr ds ++ rest) = ⟨hdr.epoch, hdr.nBatches, ds⟩ := by
  have hhdr := orderHdr_read he hn hb (ds.flatMap VehicleDecision.bytes ++ rest)
  have hlist := decisions_read hdr.bytes rest ds hds
  have hsize : hdr.bytes.length = OrderHdr.size := by
    rw [OrderHdr.bytes, List.length_append, List.length_append, putU32_length, putU32_length, putU32_length,
      OrderHdr.size]
  rw [hlen, hsize] at hlist
  rw [orderBytes, List.append_assoc, OrderDecision.read]
  simp only [hhdr, hlist, and_self]

structure ReadsBack (exec : ExecutorEnv) (view : ProposalView) (dec : Bytes) : Prop where
  whole : OrderHdr.size + (OrderHdr.read dec).nVehicles * VehicleDecision.size ≤ dec.length
  epoch : (OrderDecision.read dec).epoch = (orderHdr view).epoch
  nBatches : (OrderDecision.read dec).nBatches =
    (buildIntersectionSchedule exec.singletonEnv (orderHdr view) (orderEntries view)).nBatches
  decisions : (OrderDecision.read dec).decisions = scheduleDecisions exec.singletonEnv (orderEntries view)
  vehicles : (OrderDecision.read dec).decisions.map VehicleDecision.replicaId =
    (orderEntries view).map VehicleEntry.replicaId
  clearCerts : decisionClearCerts dec = proposalClearCerts view.data

lemma scheduleDecisions_spec (singletonEnv : Option String) (hdr : ProposeHdr) {entries : List VehicleEntry}
    (hd : Distinct entries) :
    CrossingOrder entries (buildIntersectionSchedule singletonEnv hdr entries).nBatches
      (scheduleDecisions singletonEnv entries) := by
  obtain ⟨hp, hplaced⟩ := schedule_progress (allSingletonMode singletonEnv) hd
  exact hp.crossingOrder hd hplaced

def orderDecisionOf (exec : ExecutorEnv) (view : ProposalView) : Bytes :=
  (buildIntersectionSchedule exec.singletonEnv (orderHdr view) (orderEntries view)).orderBytes ++
    view.data.drop (entriesEnd view.data)

lemma orderDecision_eq {exec : ExecutorEnv} {view : ProposalView} (hlen : entriesEnd view.data ≤ view.data.length) :
    orderDecision exec view.data = some (orderDecisionOf exec view) := by
  have hshort : ¬view.data.length < ProposeHdr.size := by
    rw [entriesEnd] at hlen
    omega
  have hentries : ¬view.data.length < ProposeHdr.size + (ProposeHdr.read view.data).nVehicles * VehicleEntry.size :=
    not_lt.mpr hlen
  rw [orderDecision, if_neg hshort, if_neg hentries]
  rfl

lemma orderDecisionOf_length (exec : ExecutorEnv) {view : ProposalView} (hd : Distinct (orderEntries view)) :
    (orderDecisionOf exec view).length = OrderHdr.size + (orderHdr view).nVehicles * VehicleDecision.size +
      (view.data.length - entriesEnd view.data) := by
  have hmap := congrArg List.length (scheduleDecisions_spec exec.singletonEnv (orderHdr view) hd).complete
  rw [List.length_map, List.length_map, orderEntries, entriesOf_length, ← orderEntries] at hmap
  rw [orderDecisionOf, buildIntersectionSchedule_orderBytes, List.length_append, orderBytes_length, List.length_drop,
    hmap]

lemma readsBack_orderDecisionOf (exec : ExecutorEnv) {view : ProposalView} (hd : Distinct (orderEntries view))
    (hlen : entriesEnd view.data ≤ view.data.length) : ReadsBack exec view (orderDecisionOf exec view) := by
  have hn : (orderEntries view).length = (orderHdr view).nVehicles := entriesOf_length _ _
  have hcount : (orderHdr view).nVehicles < 4294967296 := readU32_lt _ _
  have horder := scheduleDecisions_spec exec.singletonEnv (orderHdr view) hd
  have hbatches := nBatches_le exec.singletonEnv (orderHdr view) hd
  have hfits : ∀ d ∈ scheduleDecisions exec.singletonEnv (orderEntries view), VehicleDecision.Fits d := by
    intro d hmem
    have hid : d.replicaId ∈ (orderEntries view).map VehicleEntry.replicaId :=
      horder.complete ▸ List.mem_map_of_mem hmem
    obtain ⟨e, he, heq⟩ := List.mem_map.mp hid
    exact ⟨heq ▸ entriesOf_fits he, (horder.bounded d hmem).trans_le (by omega)⟩
  have hdlen : (scheduleDecisions exec.singletonEnv (orderEntries view)).length = (orderEntries view).length := by
    have hmap := congrArg List.length horder.complete
    rwa [List.length_map, List.length_map] at hmap
  have hvehicles : (orderEntries view).length < 4294967296 := by omega
  obtain ⟨hhdr, hread⟩ := orderDecision_read ⟨(orderHdr view).epoch, (orderEntries view).length,
    (buildIntersectionSchedule exec.singletonEnv (orderHdr view) (orderEntries view)).nBatches⟩
    (readU32_lt _ _) hvehicles (hbatches.trans_lt hvehicles) hdlen hfits (view.data.drop (entriesEnd view.data))
  rw [← buildIntersectionSchedule_orderBytes, ← orderDecisionOf] at hhdr hread
  have hdecEnd : (buildIntersectionSchedule exec.singletonEnv (orderHdr view) (orderEntries view)).orderBytes.length =
      OrderHdr.size + (orderEntries view).length * VehicleDecision.size := by
    rw [buildIntersectionSchedule_orderBytes, orderBytes_length, hdlen]
  refine ⟨?_, by rw [hread], by rw [hread], by rw [hread], by rw [hread, horder.complete], ?_⟩
  · rw [hhdr, orderDecisionOf, List.length_append, hdecEnd]
    exact Nat.le_add_right _ _
  · have hsplit : view.data.take (entriesEnd view.data) ++ view.data.drop (entriesEnd view.data) = view.data :=
      List.take_append_drop _ _
    have hproposal := clearCertsAt_shift (view.data.take (entriesEnd view.data)) (view.data.drop (entriesEnd view.data))
    rw [hsplit, List.length_take_of_le hlen] at hproposal
    rw [decisionClearCerts, hhdr, ← hdecEnd, orderDecisionOf, clearCertsAt_shift, proposalClearCerts, hproposal]

structure AcceptsProposal (env : BridgeEnv) (s : ConsensusState) (request : Request) (payload : Bytes)
    (view : ProposalView) : Prop where
  type : request.type = .prePrepare ∨ request.type = .newTxns
  checked : request.data.checkedPayload = some payload
  unwraps : unwrapRollbackIfPresent payload = some view
  accepted : (preVerify env s request).1 = true

lemma AcceptsProposal.wellFormed {env : BridgeEnv} {s : ConsensusState} {request : Request} {payload : Bytes}
    {view : ProposalView} (h : AcceptsProposal env s request payload view) (horder : view.isCancel = false) :
    Distinct (orderEntries view) ∧ entriesEnd view.data ≤ view.data.length := by
  obtain ⟨rest, hdata⟩ : ∃ rest, request.data = .batch (payload :: rest) := by
    have hpayload := h.checked
    rw [BatchData.checkedPayload.eq_def] at hpayload
    split at hpayload
    next p rest hdata => exact ⟨rest, by rw [hdata, Option.some.inj hpayload]⟩
    next => exact absurd hpayload (by simp)
  have haccepts : AcceptsOrder env s request view (preVerify env s request).2 :=
    ⟨h.type, ⟨payload, rest, hdata, h.unwraps⟩, horder, Prod.ext h.accepted rfl⟩
  obtain ⟨_, _, _, _, hadm, _⟩ := haccepts.admissible
  simp only [orderAdmissible, Bool.and_eq_true, decide_eq_true_eq] at hadm
  exact ⟨hadm.1.1.1.1.1.2, hadm.1.1.1.1.1.1.2⟩

structure DecisionCodec (exec : ExecutorEnv) (payload : Bytes) (view : ProposalView) : Prop where
  decision : ∃ dec, (executeData exec payload).decision = some dec ∧ isCancelDecision dec = view.isCancel ∧
    (view.isCancel = false → ReadsBack exec view dec)

-- an ORDER whose epoch is the magic number of CANCEL decisions, long enough to hold one
def cancelLookalike (view : ProposalView) : Bool :=
  !view.isCancel && decide ((orderHdr view).epoch = cancelDecisionMagic) &&
    decide (CancelDecisionHdr.size ≤ OrderHdr.size + (orderHdr view).nVehicles * VehicleDecision.size +
      (view.data.length - entriesEnd view.data))

lemma isCancelDecision_cancel (exec : ExecutorEnv) (payload : Bytes) (cancel : CancelHdr) :
    isCancelDecision (cancelDecision exec payload cancel) = true := by
  have hdigest : (sha256Digest exec payload).length = 32 := by
    rw [sha256Digest, List.length_take, List.length_append, zeros_length]
    omega
  have hmagic : ∀ magic rest, magic < 4294967296 → readU32 (putU32 magic ++ rest) 0 = magic :=
    fun magic rest h => readU32_put [] rest magic h
  rw [isCancelDecision, Bool.and_eq_true, decide_eq_true_eq, decide_eq_true_eq]
  refine ⟨?_, ?_⟩
  · simp only [cancelDecision, CancelDecisionHdr.bytes, List.length_append, putU32_length, putU8_length, zeros_length,
      putU64, littleEndian_length, hdigest, CancelDecisionHdr.size]
    norm_num
  · simp only [cancelDecision, CancelDecisionHdr.bytes, CancelDecisionHdr.read]
    exact hmagic _ _ (by norm_num [cancelDecisionMagic])

lemma AcceptsProposal.orderDecision {env : BridgeEnv} {s : ConsensusState} {request : Request} {payload : Bytes}
    {view : ProposalView} (h : AcceptsProposal env s request payload view) (horder : view.isCancel = false)
    (exec : ExecutorEnv) :
    (executeData exec payload).decision = some (orderDecisionOf exec view) ∧
      isCancelDecision (orderDecisionOf exec view) = cancelLookalike view ∧
      ReadsBack exec view (orderDecisionOf exec view) := by
  obtain ⟨hd, hlen⟩ := h.wellFormed horder
  have hback := readsBack_orderDecisionOf exec hd hlen
  have hmagic : (CancelDecisionHdr.read (orderDecisionOf exec view)).magic = (orderHdr view).epoch := hback.epoch
  refine ⟨?_, ?_, hback⟩
  · rw [← orderDecision_eq hlen]
    simp [executeData, h.unwraps, horder]
  · rw [isCancelDecision, hmagic, orderDecisionOf_length exec hd, cancelLookalike, horder, Bool.not_false,
      Bool.true_and, Bool.and_comm]

theorem executeData_codec (env : BridgeEnv) (s : ConsensusState) (request : Request) (payload : Bytes)
    (view : ProposalView) (exec : ExecutorEnv) (h : AcceptsProposal env s request payload view) :
    DecisionCodec exec payload view ↔ cancelLookalike view = false := by
  cases hkind : view.isCancel with
  | true =>
    have hdec : (executeData exec payload).decision = some (cancelDecision exec payload view.cancel) := by
      simp only [executeData, h.unwraps, hkind, if_true]
    have hcodec : DecisionCodec exec payload view :=
      ⟨_, hdec, by rw [isCancelDecision_cancel, hkind], fun horder => absurd (hkind.symm.trans horder) (by simp)⟩
    simp [hcodec, cancelLookalike, hkind]
  | false =>
    obtain ⟨hdec, hclass, hback⟩ := h.orderDecision hkind exec
    constructor
    · rintro ⟨dec, hsome, hagree, _⟩
      obtain rfl := Option.some.inj (hdec.symm.trans hsome)
      rw [← hclass, hagree, hkind]
    · intro hno
      exact ⟨_, hdec, by rw [hclass, hno, hkind], fun _ => hback⟩

theorem executeData_codec_listing :
    DecisionCodec plainExecutor (listingPayload 0 [0, 1, 2, 3]) (listingView 0 [0, 1, 2, 3]) :=
  (executeData_codec eightCarEnv (primaryIs 1) (listingRequest 0 [0, 1, 2, 3]) (listingPayload 0 [0, 1, 2, 3])
    (listingView 0 [0, 1, 2, 3]) plainExecutor
    ⟨Or.inl rfl, rfl, by decide +kernel, by decide +kernel⟩).mpr (by decide +kernel)

def magicPayload : Bytes :=
  (ProposeHdr.mk cancelDecisionMagic 0 5 5).bytes ++ (listingPayload 0 [0, 1, 2, 3, 4]).drop ProposeHdr.size

-- five vehicles in epoch 0xCACEC0DE pass the check and come out as a CANCEL
theorem magicEpoch_cancel :
    AcceptsProposal eightCarEnv (primaryIs 1) (orderRequest magicPayload) magicPayload (.initial magicPayload) ∧
      (ProposalView.initial magicPayload).isCancel = false ∧
      ∃ dec, (executeData plainExecutor magicPayload).decision = some dec ∧ isCancelDecision dec = true := by
  have haccepts : AcceptsProposal eightCarEnv (primaryIs 1) (orderRequest magicPayload) magicPayload
      (.initial magicPayload) := ⟨Or.inl rfl, rfl, by decide +kernel, by decide +kernel⟩
  obtain ⟨hdec, hclass, _⟩ := haccepts.orderDecision rfl plainExecutor
  exact ⟨haccepts, rfl, _, hdec, hclass.trans (by decide +kernel)⟩

end V2vBft.App
