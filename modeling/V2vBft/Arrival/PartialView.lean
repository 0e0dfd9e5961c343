import V2vBft.Arrival.OrderProposal
import V2vBft.Bridge.OrderSoundness

/-! When a proposal made from one set of certificates passes the certificate checks made with another. -/

namespace V2vBft.Arrival

open Wire App Bridge Library.SortedRank

variable {cfg cfg' : ArrivalConfig} {p : Proposer} {P F store : CertStore} {seen : List SeenCar}

def CertStore.ahead (store : CertStore) (car : CertifiedCar) : ℕ :=
  below queueOrder (store.queue car.queueKey) car.slot

lemma mapKey_injective : Function.Injective mapKey :=
  List.map_injective_iff.mpr fun _ _ h => UInt8.toNat_inj.mp h

lemma queueOrder_injective : Function.Injective queueOrder := fun a b h => by
  have hpair := Prod.ext_iff.mp (toLex.injective h)
  exact Prod.ext hpair.1 (mapKey_injective hpair.2)

lemma certified_sorted (store : CertStore) :
    store.certified.Pairwise fun a b => mapKey a.carId < mapKey b.carId := by
  rw [CertStore.certified, List.pairwise_filterMap]
  refine store.sorted.imp fun {a b} hab c hc d hd => ?_
  obtain ⟨_, _, rfl⟩ := Option.map_eq_some_iff.mp hc
  obtain ⟨_, _, rfl⟩ := Option.map_eq_some_iff.mp hd
  exact hab

lemma queue_nodup (store : CertStore) (key : Bytes) : (store.queue key).Nodup := by
  rw [CertStore.queue, List.Nodup, List.pairwise_map]
  refine ((certified_sorted store).filter _).imp fun {a b} hab heq => ?_
  have hid : a.carId = b.carId := congrArg Prod.snd heq
  exact absurd hab (by rw [hid]; exact lt_irrefl _)

lemma carIds_nodup {cars : List CertifiedCar} (h : cars.Sublist store.certified) :
    (cars.map CertifiedCar.carId).Nodup := by
  rw [List.Nodup, List.pairwise_map]
  exact ((certified_sorted store).sublist h).imp fun hab heq => absurd hab (by rw [heq]; exact lt_irrefl _)

lemma slot_mem {car : CertifiedCar} (hcar : car ∈ store.certified) : car.slot ∈ store.queue car.queueKey :=
  List.mem_map_of_mem (List.mem_filter.mpr ⟨hcar, decide_eq_true rfl⟩)

lemma queueRank_eq {car : CertifiedCar} (hcar : car ∈ store.certified) :
    store.queueRank car = min (store.ahead car + 1) 255 := by
  rw [CertStore.queueRank, idxOf_sortByKey (queue_nodup store _) (fun _ _ _ _ h => queueOrder_injective h)
    (slot_mem hcar)]
  rfl

lemma queueRank_eq_iff {car car' : CertifiedCar} (hcar : car ∈ P.certified) (hcar' : car' ∈ F.certified) :
    P.queueRank car = F.queueRank car' ↔ min (P.ahead car) 254 = min (F.ahead car') 254 := by
  rw [queueRank_eq hcar, queueRank_eq hcar']
  omega

lemma snapshotCars_sublist (store : CertStore) : store.snapshotCars.Sublist store.certified :=
  (List.take_sublist _ _).trans List.filter_sublist

lemma mem_certified_of_signed {car : CertifiedCar} (h : car ∈ signedCars cfg p store) : car ∈ store.certified :=
  List.mem_of_mem_filter h

def claims (cfg : ArrivalConfig) (car : CertifiedCar) : ℕ × ℕ × ℕ × ℕ × ℤ :=
  (laneCode car.cert.lane, directionCode (eligibleDirection cfg car.cert), if car.cert.isAmbulance then 1 else 0,
    toUint8 car.cert.physicalLaneIndex, car.cert.lateralClaimCm)

lemma fieldsMatchCert_iff {car car' : CertifiedCar} (hcar : car ∈ P.certified) (hcar' : car' ∈ F.certified) :
    fieldsMatchCert (signedEntry cfg p P seen car) (certEntry cfg' F car') = true ↔
      claims cfg car = claims cfg' car' ∧ min (P.ahead car) 254 = min (F.ahead car') 254 := by
  rw [← queueRank_eq_iff hcar hcar']
  simp only [fieldsMatchCert, Bool.and_eq_true, decide_eq_true_eq]
  simp only [signedEntry, certEntry, claims, Prod.mk.injEq]
  tauto

lemma isQuiet_signedEntry (car : CertifiedCar) : isQuiet (signedEntry cfg p store seen car) = false := by
  have htime : signedTime p seen car.carId ≠ uint64Max := by
    rw [signedTime]
    split
    · exact p.timed.ne
    · split
      · exact p.timed.ne
      · exact (SeenCar.timed _).ne
  simp [isQuiet, signedEntry, htime]

lemma isQuiet_quietEntry (car : SeenCar) : isQuiet (quietEntry car) = true := rfl

def quietIds (cfg : ArrivalConfig) (p : Proposer) (store : CertStore) (seen : List SeenCar) : List ℤ :=
  (quietCars cfg p store seen).map fun car => extractReplicaId car.carId

section

variable (hids : ((proposeAll cfg p P seen).map VehicleEntry.replicaId).Nodup)
include hids

lemma proposalEntry_signed {car : CertifiedCar} (hcar : car ∈ signedCars cfg p P) :
    proposalEntry (proposeAll cfg p P seen) (extractReplicaId car.carId) = some (signedEntry cfg p P seen car) :=
  proposalEntry_of_nodup hids (List.mem_append_left _ (List.mem_map_of_mem hcar))

lemma proposalEntry_quiet {car : SeenCar} (hcar : car ∈ quietCars cfg p P seen) :
    proposalEntry (proposeAll cfg p P seen) (extractReplicaId car.carId) = some (quietEntry car) :=
  proposalEntry_of_nodup hids (List.mem_append_right _ (List.mem_map_of_mem hcar))

omit hids in
lemma proposalEntry_cases {id : ℤ} {e : VehicleEntry} (he : proposalEntry (proposeAll cfg p P seen) id = some e) :
    (∃ car ∈ signedCars cfg p P, extractReplicaId car.carId = id ∧ e = signedEntry cfg p P seen car) ∨
      ∃ car ∈ quietCars cfg p P seen, extractReplicaId car.carId = id ∧ e = quietEntry car := by
  rw [proposalEntry] at he
  have hid : e.replicaId = id := by simpa using List.find?_some he
  refine (List.mem_append.mp (List.mem_of_find?_eq_some he)).imp (fun hmem => ?_) (fun hmem => ?_) <;>
    obtain ⟨car, hcar, rfl⟩ := List.mem_map.mp hmem
  · exact ⟨car, hcar, hid, rfl⟩
  · exact ⟨car, hcar, hid, rfl⟩

lemma omittedCerts_eq :
    omittedCerts (proposeAll cfg p P seen) (certSnapshotCallback cfg' F) =
      F.snapshotCars.countP fun car => decide (extractReplicaId car.carId ∈ quietIds cfg p P seen) := by
  rw [omittedCerts, certSnapshotCallback, List.countP_map]
  refine List.countP_congr fun car _ => ?_
  simp only [Function.comp, certEntry, decide_eq_true_eq]
  cases he : proposalEntry (proposeAll cfg p P seen) (extractReplicaId car.carId) with
  | none =>
    refine iff_of_false (by simp) fun hmem => ?_
    obtain ⟨quiet, hquiet, hid⟩ := List.mem_map.mp hmem
    rw [← hid, proposalEntry_quiet hids hquiet] at he
    cases he
  | some e =>
    rcases proposalEntry_cases he with ⟨signed, hsigned, hid, rfl⟩ | ⟨quiet, hquiet, hid, rfl⟩
    · refine iff_of_false (by simp [isQuiet_signedEntry]) fun hmem => ?_
      obtain ⟨quiet, hquiet, hid'⟩ := List.mem_map.mp hmem
      rw [← hid', proposalEntry_quiet hids hquiet] at he
      have hcyber : 0 = 1 := congrArg VehicleEntry.cyberStatus (Option.some.inj he)
      exact absurd hcyber (by decide)
    · exact iff_of_true (isQuiet_quietEntry quiet) (List.mem_map.mpr ⟨quiet, hquiet, hid⟩)

lemma stateFieldsMatch_iff :
    stateFieldsMatch (proposeAll cfg p P seen) (certSnapshotCallback cfg' F) = true ↔
      ∀ car ∈ signedCars cfg p P, ∀ car' ∈ F.snapshotCars, extractReplicaId car.carId = extractReplicaId car'.carId →
        claims cfg car = claims cfg' car' ∧ min (P.ahead car) 254 = min (F.ahead car') 254 := by
  rw [stateFieldsMatch, certSnapshotCallback, List.all_map, List.all_eq_true]
  constructor
  · intro hall car hcar car' hcar' hid
    have hmatch := hall car' hcar'
    have hentry : proposalEntry (proposeAll cfg p P seen) (certEntry cfg' F car').replicaId =
        some (signedEntry cfg p P seen car) := by
      rw [certEntry, ← hid]
      exact proposalEntry_signed hids hcar
    simp only [Function.comp, hentry, isQuiet_signedEntry, Bool.false_or] at hmatch
    exact (fieldsMatchCert_iff (mem_certified_of_signed hcar) ((snapshotCars_sublist F).subset hcar')).mp hmatch
  · intro hall car' hcar'
    simp only [Function.comp]
    cases he : proposalEntry (proposeAll cfg p P seen) (certEntry cfg' F car').replicaId with
    | none => rfl
    | some e =>
      rcases proposalEntry_cases he with ⟨car, hcar, hid, rfl⟩ | ⟨quiet, _, _, rfl⟩
      · simp only [isQuiet_signedEntry, Bool.false_or]
        exact (fieldsMatchCert_iff (mem_certified_of_signed hcar) ((snapshotCars_sublist F).subset hcar')).mpr
          (hall car hcar car' hcar' hid)
      · simp [isQuiet_quietEntry]

end

structure SameEvidence (cfg cfg' : ArrivalConfig) (car car' : CertifiedCar) : Prop where
  lane : car.cert.lane = car'.cert.lane
  physicalLaneIndex : car.cert.physicalLaneIndex = car'.cert.physicalLaneIndex
  lateralClaimCm : car.cert.lateralClaimCm = car'.cert.lateralClaimCm
  direction : eligibleDirection cfg car.cert = eligibleDirection cfg' car'.cert
  isAmbulance : car.cert.isAmbulance = car'.cert.isAmbulance
  distanceCm : car.distanceCm = car'.distanceCm

def AgreeOnShared (cfg cfg' : ArrivalConfig) (P F : CertStore) : Prop :=
  ∀ car ∈ P.certified, ∀ car' ∈ F.certified, car.carId = car'.carId → SameEvidence cfg cfg' car car'

lemma SameEvidence.claims_eq {car car' : CertifiedCar} (h : SameEvidence cfg cfg' car car') :
    claims cfg car = claims cfg' car' := by
  rw [claims, claims, h.lane, h.direction, h.isAmbulance, h.physicalLaneIndex, h.lateralClaimCm]

-- a number shared by two car ids carries one claim, and equally many cars stand ahead at both replicas
def AlignedQueues (cfg cfg' : ArrivalConfig) (p : Proposer) (P F : CertStore) : Prop :=
  ∀ car ∈ signedCars cfg p P, ∀ car' ∈ F.snapshotCars, extractReplicaId car.carId = extractReplicaId car'.carId →
    (car.carId ≠ car'.carId → claims cfg car = claims cfg' car') ∧ min (P.ahead car) 254 = min (F.ahead car') 254

def seenOnly (cfg : ArrivalConfig) (p : Proposer) (P : CertStore) (seen : List SeenCar) (car : CertifiedCar) : Bool :=
  let rid := extractReplicaId car.carId
  (seen.any fun c => decide (extractReplicaId c.carId = rid) && eligible cfg p rid c.isAmbulance) &&
    P.certified.all fun c => !(decide (extractReplicaId c.carId = rid) && eligible cfg p rid c.cert.isAmbulance)

lemma mem_quietIds_iff (car : CertifiedCar) :
    extractReplicaId car.carId ∈ quietIds cfg p P seen ↔ seenOnly cfg p P seen car = true := by
  simp only [quietIds, quietCars, seenOnly, List.mem_map, List.mem_filter, Bool.and_eq_true, decide_eq_true_eq,
    List.any_eq_true, List.all_eq_true, Bool.not_eq_true', Bool.and_eq_false_iff, decide_eq_false_iff_not,
    not_exists, not_and]
  simp only [signedCars, List.mem_filter]
  constructor
  · rintro ⟨quiet, ⟨hquiet, helig, hnot⟩, hid⟩
    refine ⟨⟨quiet, hquiet, hid, hid ▸ helig⟩, fun c hc => ?_⟩
    by_cases hrid : extractReplicaId c.carId = extractReplicaId car.carId
    · refine Or.inr (Bool.eq_false_iff.mpr fun hc' => hnot c ⟨hc, by rw [hrid]; exact hc'⟩ (hrid.trans hid.symm))
    · exact Or.inl hrid
  · rintro ⟨⟨quiet, hquiet, hid, helig⟩, hall⟩
    refine ⟨quiet, ⟨hquiet, hid ▸ helig, fun c hc hrid => ?_⟩, hid⟩
    rcases hall c hc.1 with hne | hnot
    · exact hne (hrid.trans hid)
    · rw [← hid, ← hrid, hc.2] at hnot
      cases hnot

def difference (P F : CertStore) : Finset Bytes :=
  symmDiff (P.certified.map CertifiedCar.carId).toFinset (F.certified.map CertifiedCar.carId).toFinset

lemma eligible_flag {rid : ℤ} (h : rid < cfg.totalVehicles) (a b : Bool) :
    eligible cfg p rid a = eligible cfg p rid b := by
  simp [eligible, h]

lemma notCertified_of_seenOnly {car : CertifiedCar} (h : seenOnly cfg p P seen car = true)
    (hrange : extractReplicaId car.carId < cfg.totalVehicles) :
    car.carId ∉ (P.certified.map CertifiedCar.carId).toFinset := by
  intro hmem
  obtain ⟨c, hc, hid⟩ := List.mem_map.mp (List.mem_toFinset.mp hmem)
  simp only [seenOnly, Bool.and_eq_true, List.any_eq_true, decide_eq_true_eq, List.all_eq_true] at h
  obtain ⟨⟨quiet, _, _, helig⟩, hall⟩ := h
  have hnot := hall c hc
  rw [hid, eligible_flag hrange c.cert.isAmbulance quiet.isAmbulance, helig] at hnot
  simp at hnot

lemma seenOnly_le_difference
    (hrange : ∀ e ∈ proposeAll cfg p P seen, e.replicaId < cfg.totalVehicles) :
    F.snapshotCars.countP (seenOnly cfg p P seen) ≤ (difference P F).card := by
  set quieted := F.snapshotCars.filter (seenOnly cfg p P seen) with hquieted
  have hnodup : (quieted.map CertifiedCar.carId).Nodup :=
    carIds_nodup (List.filter_sublist.trans (snapshotCars_sublist F))
  have hsub : (quieted.map CertifiedCar.carId).toFinset ⊆ difference P F := by
    intro carId hmem
    obtain ⟨car, hcar, rfl⟩ := List.mem_map.mp (List.mem_toFinset.mp hmem)
    obtain ⟨hsnap, hseen⟩ := List.mem_filter.mp hcar
    obtain ⟨quiet, hquiet, hid⟩ := List.mem_map.mp ((mem_quietIds_iff car).mpr hseen)
    have hlt := hrange (quietEntry quiet) (List.mem_append_right _ (List.mem_map_of_mem hquiet))
    refine Finset.mem_symmDiff.mpr (Or.inr ⟨?_, notCertified_of_seenOnly hseen (hid ▸ hlt)⟩)
    exact List.mem_toFinset.mpr (List.mem_map_of_mem ((snapshotCars_sublist F).subset hsnap))
  calc F.snapshotCars.countP (seenOnly cfg p P seen)
      = (quieted.map CertifiedCar.carId).length := by rw [List.countP_eq_length_filter, List.length_map]
    _ = (quieted.map CertifiedCar.carId).toFinset.card := (List.toFinset_card_of_nodup hnodup).symm
    _ ≤ (difference P F).card := Finset.card_le_card hsub

-- the ids are those of a proposal past the checks for duplicates
theorem proposal_passes_iff (cfg cfg' : ArrivalConfig) (p : Proposer) (P F : CertStore) (seen : List SeenCar)
    (expected : ℤ) (hids : ((proposeAll cfg p P seen).map VehicleEntry.replicaId).Nodup)
    (hagree : AgreeOnShared cfg cfg' P F) :
    (passesCertChecks expected (proposeAll cfg p P seen) (certSnapshotCallback cfg' F) = true ↔
      AlignedQueues cfg cfg' p P F ∧ (F.snapshotCars.countP (seenOnly cfg p P seen) : ℤ) ≤ (expected - 1) / 3) ∧
    ((∀ e ∈ proposeAll cfg p P seen, e.replicaId < cfg.totalVehicles) →
      ((difference P F).card : ℤ) ≤ (expected - 1) / 3 →
      (F.snapshotCars.countP (seenOnly cfg p P seen) : ℤ) ≤ (expected - 1) / 3) := by
  refine ⟨?_, fun hrange hdiff => (Nat.cast_le.mpr (seenOnly_le_difference hrange)).trans hdiff⟩
  have homitted : omittedCerts (proposeAll cfg p P seen) (certSnapshotCallback cfg' F) =
      F.snapshotCars.countP (seenOnly cfg p P seen) := by
    rw [omittedCerts_eq hids]
    exact List.countP_congr fun car _ => by rw [decide_eq_true_eq]; exact mem_quietIds_iff car
  have haligned : AlignedQueues cfg cfg' p P F ↔
      stateFieldsMatch (proposeAll cfg p P seen) (certSnapshotCallback cfg' F) = true := by
    rw [stateFieldsMatch_iff hids]
    refine forall₂_congr fun car hcar => forall₃_congr fun car' hcar' _ => and_congr_left fun _ => ?_
    refine ⟨fun h => ?_, fun h _ => h⟩
    by_cases hid : car.carId = car'.carId
    · exact (hagree car (mem_certified_of_signed hcar) car' ((snapshotCars_sublist F).subset hcar') hid).claims_eq
    · exact h hid
  rw [passesCertChecks, Bool.and_eq_true, decide_eq_true_eq, homitted, haligned]

lemma agreeOnShared_of_subset (h : F.certified ⊆ P.certified) : AgreeOnShared cfg cfg P F := by
  intro car hcar car' hcar' hid
  have heq : car = car' := List.inj_on_of_nodup_map (carIds_nodup (List.Sublist.refl _)) hcar (h hcar') hid
  subst heq
  exact ⟨rfl, rfl, rfl, rfl, rfl, rfl⟩

def stoppedCert (carId : String) (lane : String) : ArrivalCert :=
  let bare : ArrivalCert := ⟨ascii carId, ascii lane, 1, 0, 0, .left, zeros 32, false, 0, []⟩
  let echo := fun signer : ℤ × Bytes =>
    let e : ArrivalEcho :=
      ⟨signer.1, bare.carId, bare.lane, 1, 0, 0, .left, .left, bare.claimHash, false, 0, signer.2, []⟩
    { e with signature := checksum (signer.2 ++ arrivalEchoSigningPayload e) }
  { bare with echoes := [echo (2, [12]), echo (3, [13])] }

def stoppedAt (carId : String) (pubKey : Bytes) (distanceCm : ℤ) : StoppedDistanceCert :=
  let bare : StoppedDistanceAttestation := ⟨ascii carId, 0, zeros 32, distanceCm, []⟩
  let att := { bare with signature := checksum (pubKey ++ canonicalStoppedDistanceAttestationPayload bare) }
  let hash := stoppedDistanceAttestationHash fourWitnesses att
  let e : StoppedDistanceEcho := ⟨3, att.targetCarId, 0, att.earlyClaimHash, hash, distanceCm, [13], []⟩
  ⟨att, [{ e with signature := checksum ([13] ++ stoppedDistanceEchoSigningPayload e) }]⟩

def allThree : CertStore where
  arrivals := [(ascii "veh0", stoppedCert "veh0" "S"), (ascii "veh1", stoppedCert "veh1" "N"),
    (ascii "veh2", stoppedCert "veh2" "N")]
  distances := [(ascii "veh0", stoppedAt "veh0" [10] 100), (ascii "veh1", stoppedAt "veh1" [11] 100),
    (ascii "veh2", stoppedAt "veh2" [12] 200)]
  sorted := by decide

def CertStore.without (store : CertStore) (carId : Bytes) : CertStore where
  arrivals := store.arrivals.filter fun entry => decide (entry.1 ≠ carId)
  distances := store.distances.filter fun entry => decide (entry.1 ≠ carId)
  sorted := store.sorted.filter _

def normalProposer : Proposer := ⟨false, false, 1, by decide⟩

theorem proposal_passes_without_last :
    let F := allThree.without (ascii "veh2")
    ((passesCertChecks 4 (proposeAll fourWitnesses normalProposer allThree [])
        (certSnapshotCallback fourWitnesses F) = true ↔
      AlignedQueues fourWitnesses fourWitnesses normalProposer allThree F ∧
        (F.snapshotCars.countP (seenOnly fourWitnesses normalProposer allThree []) : ℤ) ≤ (4 - 1) / 3) ∧
      ((∀ e ∈ proposeAll fourWitnesses normalProposer allThree [], e.replicaId < fourWitnesses.totalVehicles) →
        ((difference allThree F).card : ℤ) ≤ (4 - 1) / 3 →
        (F.snapshotCars.countP (seenOnly fourWitnesses normalProposer allThree []) : ℤ) ≤ (4 - 1) / 3)) ∧
    passesCertChecks 4 (proposeAll fourWitnesses normalProposer allThree [])
      (certSnapshotCallback fourWitnesses F) = true := by
  refine ⟨proposal_passes_iff fourWitnesses fourWitnesses normalProposer allThree _ [] 4 (by decide +kernel) ?_,
    by decide +kernel⟩
  exact agreeOnShared_of_subset (by decide +kernel)

-- the follower lacks car 1, so car 2 is the first of its lane there and the second at the proposer
theorem shifted_rank_rejected :
    let F := allThree.without (ascii "veh1")
    (∀ entry ∈ allThree.arrivals, validateArrivalCert fourWitnesses entry.2 = true) ∧
      (∀ entry ∈ allThree.distances, validateStoppedDistanceCert fourWitnesses .initial entry.2 = true) ∧
      AgreeOnShared fourWitnesses fourWitnesses allThree F ∧ ((difference allThree F).card : ℤ) ≤ (4 - 1) / 3 ∧
      passesCertChecks 4 (proposeAll fourWitnesses normalProposer allThree [])
        (certSnapshotCallback fourWitnesses F) = false :=
  ⟨by decide +kernel, by decide +kernel, agreeOnShared_of_subset (by decide +kernel), by decide +kernel,
    by decide +kernel⟩

end V2vBft.Arrival
