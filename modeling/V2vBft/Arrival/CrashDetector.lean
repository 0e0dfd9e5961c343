import V2vBft.Arrival.OrderProposal
import V2vBft.Bridge.OrderSoundness
import V2vBft.Scheduler.Permutation

namespace V2vBft.Arrival

open Wire App Bridge Scheduler

variable {cfg : ArrivalConfig} {certs : List (Bytes × ArrivalCert)} {decisions : List VehicleDecision}

def crashSafe : List (ℕ × ℕ × ℕ × ℕ) :=
  [(0, 0, 1, 0), (2, 0, 3, 0), (0, 2, 1, 2), (0, 2, 2, 2),
   (0, 2, 3, 2), (1, 2, 2, 2), (1, 2, 3, 2), (2, 2, 3, 2),
   (0, 2, 1, 0), (1, 2, 0, 0), (2, 2, 3, 0), (3, 2, 2, 0)]

def isSafe (la da lb db : ℕ) : Bool :=
  if la = lb then false
  else crashSafe.any fun p =>
    decide (la = p.1 ∧ da = p.2.1 ∧ lb = p.2.2.1 ∧ db = p.2.2.2) ||
      decide (la = p.2.2.1 ∧ da = p.2.2.2 ∧ lb = p.1 ∧ db = p.2.1)

def heldCert (certs : List (Bytes × ArrivalCert)) (rid : ℤ) : Option ArrivalCert := certs.lookup (myCarId rid)

def safePair (a b : ArrivalCert) : Bool :=
  isSafe (laneCode a.lane) (directionCode a.direction) (laneCode b.lane) (directionCode b.direction)

def unsafePair (certs : List (Bytes × ArrivalCert)) (i j : ℤ) : Bool :=
  (heldCert certs i).any fun a => (heldCert certs j).any fun b => !safePair a b

def unsafeBatchRef (epoch batch : ℕ) (i j : ℤ) : Bytes :=
  ascii "unsafe_batch:" ++ decimalNat epoch ++ ascii ":" ++ decimalNat batch ++ ascii ":veh" ++ decimalInt (min i j) ++
    ascii "+veh" ++ decimalInt (max i j)

def batchMembers (decisions : List VehicleDecision) (batch : ℕ) : List ℤ :=
  (decisions.filter fun d => decide (d.batchIndex = batch)).map VehicleDecision.replicaId

def unsafeRefs (certs : List (Bytes × ArrivalCert)) (epoch batch : ℕ) : List ℤ → List Bytes
  | [] => []
  | i :: members =>
    (members.filter (unsafePair certs i)).map (unsafeBatchRef epoch batch i) ++ unsafeRefs certs epoch batch members

-- the references that maybeTriggerCrashRollback gets, in order
def crashRefs (certs : List (Bytes × ArrivalCert)) (epoch : ℕ) (decisions : List VehicleDecision) (nBatches : ℕ) :
    List Bytes :=
  (List.range nBatches).flatMap fun batch => unsafeRefs certs epoch batch (batchMembers decisions batch)

def detectUnsafeBatch (certs : List (Bytes × ArrivalCert)) (epoch : ℕ) (decisions : List VehicleDecision)
    (nBatches : ℕ) : Bool :=
  !(crashRefs certs epoch decisions nBatches).isEmpty

structure CheckedOrder where
  hdr : ProposeHdr
  entries : List VehicleEntry
  distinct : (entries.map VehicleEntry.replicaId).Nodup
  fields : ∀ e ∈ entries, entryFieldsValid e = true

def checkedOrder {env : BridgeEnv} {s : Pbft.ConsensusState} {view : ProposalView} (h : AdmittedOrder env s view) :
    CheckedOrder :=
  ⟨orderHdr view, orderEntries view, h.distinct, h.fields⟩

def CheckedOrder.Matches (order : CheckedOrder) (cfg : ArrivalConfig) (certs : List (Bytes × ArrivalCert)) : Prop :=
  ∀ e ∈ order.entries, isSigned e = true → ∀ cert, heldCert certs e.replicaId = some cert →
    e.lane = laneCode cert.lane ∧ e.direction = directionCode (eligibleDirection cfg cert)

instance (order : CheckedOrder) : Decidable (order.Matches cfg certs) :=
  decidable_of_iff (∀ e ∈ order.entries, isSigned e = true → (heldCert certs e.replicaId).all (fun cert =>
    decide (e.lane = laneCode cert.lane ∧ e.direction = directionCode (eligibleDirection cfg cert))) = true)
    (by simp [CheckedOrder.Matches, Option.all_eq_true])

def CheckedOrder.scheduled (order : CheckedOrder) (singletonEnv : Option String) : IntersectionScheduleResult :=
  buildIntersectionSchedule singletonEnv order.hdr order.entries

lemma isSafe_eq_isSafeToBatch : isSafe = isSafeToBatch := rfl

lemma safePair_comm (a b : ArrivalCert) : safePair a b = safePair b a := by
  rw [safePair, safePair, isSafe_eq_isSafeToBatch]
  exact isSafeToBatch_comm ..

lemma unsafePair_iff {i j : ℤ} : unsafePair certs i j = true ↔
    ∃ a b, heldCert certs i = some a ∧ heldCert certs j = some b ∧ safePair a b = false := by
  simp only [unsafePair, Option.any_eq_true, Bool.not_eq_true']
  constructor
  · rintro ⟨a, ha, b, hb, hclash⟩
    exact ⟨a, b, ha, hb, hclash⟩
  · rintro ⟨a, b, ha, hb, hclash⟩
    exact ⟨a, ha, b, hb, hclash⟩

lemma unsafePair_comm (i j : ℤ) : unsafePair certs i j = unsafePair certs j i := by
  rw [Bool.eq_iff_iff, unsafePair_iff, unsafePair_iff]
  constructor
  · rintro ⟨a, b, ha, hb, hclash⟩
    exact ⟨b, a, hb, ha, safePair_comm a b ▸ hclash⟩
  · rintro ⟨a, b, ha, hb, hclash⟩
    exact ⟨b, a, hb, ha, safePair_comm a b ▸ hclash⟩

instance : Std.Symm fun i j => unsafePair certs i j = false := ⟨fun i j h => unsafePair_comm i j ▸ h⟩

lemma unsafeRefs_eq_nil {epoch batch : ℕ} {members : List ℤ} :
    unsafeRefs certs epoch batch members = [] ↔ members.Pairwise fun i j => unsafePair certs i j = false := by
  induction members with
  | nil => exact iff_of_true rfl .nil
  | cons i members ih =>
    rw [unsafeRefs, List.append_eq_nil_iff, List.map_eq_nil_iff, List.filter_eq_nil_iff, ih, List.pairwise_cons]
    simp only [Bool.not_eq_true]

lemma detectUnsafeBatch_eq_false {epoch nBatches : ℕ} :
    detectUnsafeBatch certs epoch decisions nBatches = false ↔
      ∀ batch < nBatches, (batchMembers decisions batch).Pairwise fun i j => unsafePair certs i j = false := by
  rw [detectUnsafeBatch, Bool.not_eq_false', List.isEmpty_iff, crashRefs, List.flatMap_eq_nil_iff]
  simp only [List.mem_range, unsafeRefs_eq_nil]

lemma mem_batchMembers {i : ℤ} {batch : ℕ} : i ∈ batchMembers decisions batch ↔ ⟨i, batch⟩ ∈ decisions := by
  rw [batchMembers, List.mem_map]
  constructor
  · rintro ⟨d, hd, rfl⟩
    obtain ⟨hmem, hbatch⟩ := List.mem_filter.mp hd
    exact of_decide_eq_true hbatch ▸ hmem
  · intro hmem
    exact ⟨_, List.mem_filter.mpr ⟨hmem, decide_eq_true rfl⟩, rfl⟩

lemma detectUnsafeBatch_of_pair {epoch nBatches batch : ℕ} {i j : ℤ} (hbatch : batch < nBatches) (hne : i ≠ j)
    (hi : ⟨i, batch⟩ ∈ decisions) (hj : ⟨j, batch⟩ ∈ decisions) (hclash : unsafePair certs i j = true) :
    detectUnsafeBatch certs epoch decisions nBatches = true := by
  rw [← Bool.not_eq_false, detectUnsafeBatch_eq_false]
  intro hall
  have hsafe := (hall batch hbatch).forall (mem_batchMembers.mpr hi) (mem_batchMembers.mpr hj) hne
  exact absurd (hclash.symm.trans hsafe) (by simp)

lemma kSafe_direction {laneA dirA laneB dirB : ℕ} (h : isSafeToBatch laneA dirA laneB dirB = true) :
    dirA ≠ 3 ∧ dirB ≠ 3 := by
  rw [isSafeToBatch] at h
  split at h
  · exact absurd h (by simp)
  · simp only [kSafe, List.any_cons, List.any_nil, Bool.or_eq_true, decide_eq_true_eq, Bool.false_eq_true,
      or_false] at h
    omega

lemma directionCode_eligible {cert : ArrivalCert} (h : directionCode (eligibleDirection cfg cert) ≠ 3) :
    eligibleDirection cfg cert = cert.direction := by
  rw [eligibleDirection] at h ⊢
  split
  · rfl
  next hon =>
    rw [if_neg hon] at h
    split
    · rfl
    next hunsupported => exact absurd (congrArg directionCode (if_neg hunsupported)) h

lemma CheckedOrder.signed (order : CheckedOrder) {e : VehicleEntry} (he : e ∈ order.entries)
    (hloud : isQuietEntry e = false) : isSigned e = true := by
  have hfields := order.fields e he
  simp only [entryFieldsValid, Bool.and_eq_true, decide_eq_true_eq] at hfields
  simp only [isQuietEntry, Bool.or_eq_false_iff, decide_eq_false_iff_not] at hloud
  simp only [isSigned, Bool.and_eq_true, decide_eq_true_eq]
  omega

lemma CheckedOrder.Matches.batched {order : CheckedOrder} (h : order.Matches cfg certs) {e f : VehicleEntry}
    (he : e ∈ order.entries) (hf : f ∈ order.entries) (hcompatible : Compatible e f) :
    unsafePair certs e.replicaId f.replicaId = false := by
  obtain ⟨hsafe, heloud, hfloud⟩ := hcompatible
  obtain ⟨hedir, hfdir⟩ := kSafe_direction hsafe
  rw [← Bool.not_eq_true, unsafePair_iff]
  rintro ⟨a, b, ha, hb, hclash⟩
  obtain ⟨helane, heelig⟩ := h e he (order.signed he heloud) a ha
  obtain ⟨hflane, hfelig⟩ := h f hf (order.signed hf hfloud) b hb
  rw [heelig] at hedir
  rw [hfelig] at hfdir
  rw [safePair, isSafe_eq_isSafeToBatch, ← helane, ← hflane, ← directionCode_eligible hedir,
    ← directionCode_eligible hfdir, ← heelig, ← hfelig, hsafe] at hclash
  exact absurd hclash (by simp)

lemma CheckedOrder.Matches.undetected {order : CheckedOrder} (h : order.Matches cfg certs)
    (singletonEnv : Option String) (epoch : ℕ) :
    detectUnsafeBatch certs epoch (scheduleDecisions singletonEnv order.entries)
      (order.scheduled singletonEnv).nBatches = false := by
  obtain ⟨hprogress, hplaced⟩ := schedule_progress (allSingletonMode singletonEnv) order.distinct
  have horder := hprogress.crossingOrder order.distinct hplaced
  rw [detectUnsafeBatch_eq_false]
  intro batch _
  have hids : (batchMembers (scheduleDecisions singletonEnv order.entries) batch).Nodup := by
    refine (List.filter_sublist.map VehicleDecision.replicaId).nodup ?_
    rw [scheduleDecisions, horder.complete]
    exact order.distinct
  have hentry : ∀ i ∈ batchMembers (scheduleDecisions singletonEnv order.entries) batch,
      ∃ e ∈ order.entries, e.replicaId = i := by
    intro i hi
    have hmem := List.mem_map_of_mem (f := VehicleDecision.replicaId) (mem_batchMembers.mp hi)
    rw [scheduleDecisions, horder.complete] at hmem
    exact List.mem_map.mp hmem
  refine hids.imp_of_mem fun {i j} hi hj hne => ?_
  obtain ⟨e, he, rfl⟩ := hentry i hi
  obtain ⟨f, hf, rfl⟩ := hentry j hj
  have hdiffer : e ≠ f := fun heq => hne (congrArg VehicleEntry.replicaId heq)
  exact h.batched he hf (horder.safe e he f hf hdiffer batch (mem_batchMembers.mp hi) (mem_batchMembers.mp hj))

theorem scheduler_detector_agree (cfg : ArrivalConfig) (certs : List (Bytes × ArrivalCert)) (epoch : ℕ) :
    (∀ (order : CheckedOrder) (singletonEnv : Option String), order.Matches cfg certs →
      detectUnsafeBatch certs epoch (scheduleDecisions singletonEnv order.entries)
        (order.scheduled singletonEnv).nBatches = false) ∧
      ∀ (decisions : List VehicleDecision) (nBatches batch : ℕ) (i j : ℤ) (a b : ArrivalCert), batch < nBatches →
        i ≠ j → ⟨i, batch⟩ ∈ decisions → ⟨j, batch⟩ ∈ decisions → heldCert certs i = some a →
        heldCert certs j = some b → safePair a b = false → detectUnsafeBatch certs epoch decisions nBatches = true :=
  ⟨fun _ singletonEnv h => h.undetected singletonEnv epoch, fun _ _ _ _ _ a b hbatch hne hi hj ha hb hclash =>
    detectUnsafeBatch_of_pair hbatch hne hi hj (unsafePair_iff.mpr ⟨a, b, ha, hb, hclash⟩)⟩

def declaredCert (carId lane : String) (direction : Direction) (cue : ObservedCue) : ArrivalCert :=
  let bare : ArrivalCert := ⟨ascii carId, ascii lane, 1, 0, 0, direction, zeros 32, false, 0, []⟩
  let echo := fun signer : ℤ × Bytes =>
    let e : ArrivalEcho :=
      ⟨signer.1, bare.carId, bare.lane, 1, 0, 0, direction, cue, bare.claimHash, false, 0, signer.2, []⟩
    { e with signature := checksum (signer.2 ++ arrivalEchoSigningPayload e) }
  { bare with echoes := [echo (2, [12]), echo (3, [13])] }

def crossingCerts : List (Bytes × ArrivalCert) :=
  [(ascii "veh0", declaredCert "veh0" "N" .straight .straight), (ascii "veh1", declaredCert "veh1" "S" .straight .straight),
    (ascii "veh2", declaredCert "veh2" "E" .straight .unknown)]

def crossingOrder : CheckedOrder where
  hdr := ⟨0, 0, 0, 4⟩
  entries := [⟨0, 5, 0, 0, 0, 1, 1, 0, 0⟩, ⟨1, 6, 0, 1, 0, 1, 1, 0, 0⟩, ⟨2, 7, 0, 2, 3, 1, 1, 0, 0⟩,
    ⟨3, uint64Max, 0, 3, 0, 1, 0, 0, 0⟩]
  distinct := by decide
  fields := by decide

theorem scheduler_detector_agree_crossing :
    detectUnsafeBatch crossingCerts 0 [⟨0, 0⟩, ⟨1, 0⟩, ⟨2, 1⟩, ⟨3, 2⟩] 3 = false ∧
      detectUnsafeBatch crossingCerts 0 [⟨0, 0⟩, ⟨1, 1⟩, ⟨2, 0⟩, ⟨3, 2⟩] 3 = true := by
  obtain ⟨hscheduled, hclash⟩ := scheduler_detector_agree fourWitnesses crossingCerts 0
  refine ⟨?_, ?_⟩
  · have hquiet := hscheduled crossingOrder none (by decide +kernel)
    rwa [show scheduleDecisions none crossingOrder.entries = [⟨0, 0⟩, ⟨1, 0⟩, ⟨2, 1⟩, ⟨3, 2⟩] by decide +kernel,
      show (crossingOrder.scheduled none).nBatches = 3 by decide +kernel] at hquiet
  · exact hclash _ 3 0 0 2 _ _ (by decide) (by decide) (by decide) (by decide) rfl rfl (by decide)

end V2vBft.Arrival
