import V2vBft.Arrival.QueueOrder

namespace V2vBft.Arrival

open Wire App Bridge Library.SortedRank

variable {store other : CertStore} {lane : Bytes} {index : ℤ} {car car' : CertifiedCar}

def CertStore.laneCars (store : CertStore) (lane : Bytes) (index : ℤ) : List CertifiedCar :=
  store.certified.filter fun car => decide (car.cert.lane = lane) && decide (car.cert.physicalLaneIndex = index)

def CertStore.rankOf (store : CertStore) (carId : Bytes) : Option ℕ := (deriveQueueRanks store).lookup carId

def CertifiedCar.standsBefore (car car' : CertifiedCar) : Prop :=
  car.distanceCm < car'.distanceCm ∨ car.distanceCm = car'.distanceCm ∧ mapKey car.carId < mapKey car'.carId

lemma standsBefore_iff : car.standsBefore car' ↔ queueOrder car.slot < queueOrder car'.slot := by
  rw [CertifiedCar.standsBefore, queueOrder, queueOrder, Prod.Lex.toLex_lt_toLex]
  rfl

lemma mem_laneCars : car ∈ store.laneCars lane index ↔
    car ∈ store.certified ∧ car.cert.lane = lane ∧ car.cert.physicalLaneIndex = index := by
  rw [CertStore.laneCars, List.mem_filter, Bool.and_eq_true, decide_eq_true_eq, decide_eq_true_eq]

lemma queueKey_eq_iff : car.queueKey = car'.queueKey ↔
    car.cert.lane = car'.cert.lane ∧ car.cert.physicalLaneIndex = car'.cert.physicalLaneIndex := by
  refine ⟨queueKey_inj, fun ⟨hlane, hindex⟩ => ?_⟩
  rw [CertifiedCar.queueKey, CertifiedCar.queueKey, hlane, hindex]

lemma queue_of_mem (h : car ∈ store.laneCars lane index) :
    store.queue car.queueKey = (store.laneCars lane index).map CertifiedCar.slot := by
  obtain ⟨-, hlane, hindex⟩ := mem_laneCars.mp h
  rw [CertStore.queue, CertStore.laneCars]
  refine congrArg (List.map CertifiedCar.slot) (List.filter_congr fun other _ => ?_)
  rw [← Bool.decide_and]
  refine decide_eq_decide.mpr (queueKey_eq_iff.trans ?_)
  rw [hlane, hindex]

lemma laneCars_slots_nodup (store : CertStore) (lane : Bytes) (index : ℤ) :
    ((store.laneCars lane index).map CertifiedCar.slot).Nodup := by
  cases hcars : store.laneCars lane index with
  | nil => exact List.nodup_nil
  | cons car rest =>
    have hcar : car ∈ store.laneCars lane index := hcars ▸ List.mem_cons_self
    rw [← hcars, ← queue_of_mem hcar]
    exact queue_nodup store _

lemma lookup_of_nodup {entries : List (Bytes × ℕ)} (h : (entries.map Prod.fst).Nodup) {carId : Bytes} {rank : ℕ}
    (hmem : (carId, rank) ∈ entries) : entries.lookup carId = some rank := by
  obtain ⟨before, after, rfl⟩ := List.append_of_mem hmem
  refine List.lookup_eq_some_iff.mpr ⟨before, after, rfl, fun entry hentry => bne_iff_ne.mpr fun heq => ?_⟩
  rw [List.map_append, List.nodup_append] at h
  exact h.2.2 _ (List.mem_map_of_mem hentry) _ List.mem_cons_self heq.symm

lemma lookup_isSome_iff {α : Type} {entries : List (Bytes × α)} {carId : Bytes} :
    (entries.lookup carId).isSome ↔ carId ∈ entries.map Prod.fst := by
  rw [List.lookup_isSome_iff, List.mem_map]
  exact exists_congr fun entry => and_congr_right fun _ => beq_iff_eq.trans eq_comm

lemma deriveQueueRanks_keys (store : CertStore) :
    (deriveQueueRanks store).map Prod.fst = store.certified.map CertifiedCar.carId := by
  rw [deriveQueueRanks, List.map_map]
  rfl

lemma rankOf_certified (h : car ∈ store.certified) : store.rankOf car.carId = some (min (store.ahead car + 1) 255) := by
  rw [← queueRank_eq h]
  refine lookup_of_nodup ?_ (List.mem_map_of_mem h)
  rw [deriveQueueRanks_keys]
  exact carIds_nodup (List.Sublist.refl _)

lemma exists_certified_iff (carId : Bytes) :
    (∃ car ∈ store.certified, car.carId = carId) ↔
      carId ∈ store.arrivals.map Prod.fst ∧ carId ∈ store.distances.map Prod.fst := by
  constructor
  · rintro ⟨car, hcar, rfl⟩
    obtain ⟨entry, hentry, hmap⟩ := List.mem_filterMap.mp hcar
    obtain ⟨distance, hdistance, rfl⟩ := Option.map_eq_some_iff.mp hmap
    exact ⟨List.mem_map_of_mem hentry, lookup_isSome_iff.mp (Option.isSome_of_eq_some hdistance)⟩
  · rintro ⟨harrival, hdistance⟩
    obtain ⟨entry, hentry, rfl⟩ := List.mem_map.mp harrival
    obtain ⟨distance, hlookup⟩ := Option.isSome_iff_exists.mp (lookup_isSome_iff.mpr hdistance)
    refine ⟨⟨entry.1, entry.2, distance.attestation.distanceToStopCm⟩, ?_, rfl⟩
    exact List.mem_filterMap.mpr ⟨entry, hentry, by rw [hlookup]; rfl⟩

lemma rankOf_lane (hsize : (store.laneCars lane index).length ≤ 255) (h : car ∈ store.laneCars lane index) :
    store.rankOf car.carId =
      some (below queueOrder ((store.laneCars lane index).map CertifiedCar.slot) car.slot + 1) := by
  have hslot : car.slot ∈ (store.laneCars lane index).map CertifiedCar.slot := List.mem_map_of_mem h
  have hlt := @below_lt_length _ _ _ queueOrder _ _ hslot
  rw [List.length_map] at hlt
  rw [rankOf_certified (mem_laneCars.mp h).1, CertStore.ahead, queue_of_mem h]
  congr 1
  omega

lemma rankOf_laneCars_perm (hsize : (store.laneCars lane index).length ≤ 255) :
    ((store.laneCars lane index).map fun car => store.rankOf car.carId).Perm
      ((List.range' 1 (store.laneCars lane index).length).map some) := by
  have hranks : ((store.laneCars lane index).map fun car => store.rankOf car.carId) =
      (((store.laneCars lane index).map CertifiedCar.slot).map
        (below queueOrder ((store.laneCars lane index).map CertifiedCar.slot))).map fun place => some (place + 1) := by
    rw [List.map_map, List.map_map]
    exact List.map_congr_left fun car hcar => rankOf_lane hsize hcar
  have hplaces := @map_below_perm _ _ _ queueOrder _ _ (laneCars_slots_nodup store lane index)
    fun _ _ _ _ h => queueOrder_injective h
  rw [hranks]
  refine (hplaces.map _).trans (List.Perm.of_eq ?_)
  rw [List.length_map, List.range'_eq_map_range, List.map_map]
  exact List.map_congr_left fun place _ => congrArg some (Nat.add_comm place 1)

lemma rankOf_lt_iff (hsize : (store.laneCars lane index).length ≤ 255) (h : car ∈ store.laneCars lane index)
    (h' : car' ∈ store.laneCars lane index) {m n : ℕ} (hm : store.rankOf car.carId = some m)
    (hn : store.rankOf car'.carId = some n) : m < n ↔ car.standsBefore car' := by
  have hslot : car.slot ∈ (store.laneCars lane index).map CertifiedCar.slot := List.mem_map_of_mem h
  rw [standsBefore_iff, ← below_lt_iff hslot]
  rw [rankOf_lane hsize h] at hm
  rw [rankOf_lane hsize h'] at hn
  have hm := Option.some.inj hm
  have hn := Option.some.inj hn
  omega

lemma rankOf_eq_of_laneCars (hsame : ∀ car, car ∈ store.laneCars lane index ↔ car ∈ other.laneCars lane index)
    (h : car ∈ store.laneCars lane index) : store.rankOf car.carId = other.rankOf car.carId := by
  have h' := (hsame car).mp h
  have hslots : ((store.laneCars lane index).map CertifiedCar.slot).Perm
      ((other.laneCars lane index).map CertifiedCar.slot) := by
    refine (List.perm_ext_iff_of_nodup (laneCars_slots_nodup _ _ _) (laneCars_slots_nodup _ _ _)).mpr fun slot => ?_
    simp only [List.mem_map, hsame]
  rw [rankOf_certified (mem_laneCars.mp h).1, rankOf_certified (mem_laneCars.mp h').1, CertStore.ahead,
    CertStore.ahead, queue_of_mem h, queue_of_mem h', below_perm hslots]

theorem deriveQueueRanks_exact (store : CertStore) :
    ((deriveQueueRanks store).map Prod.fst).Nodup ∧
      (∀ carId, carId ∈ (deriveQueueRanks store).map Prod.fst ↔
        carId ∈ store.arrivals.map Prod.fst ∧ carId ∈ store.distances.map Prod.fst) ∧
      ∀ lane index,
        ((store.laneCars lane index).length ≤ 255 →
          ((store.laneCars lane index).map fun car => store.rankOf car.carId).Perm
              ((List.range' 1 (store.laneCars lane index).length).map some) ∧
            ∀ car ∈ store.laneCars lane index, ∀ car' ∈ store.laneCars lane index, ∀ m n,
              store.rankOf car.carId = some m → store.rankOf car'.carId = some n → (m < n ↔ car.standsBefore car')) ∧
          ∀ other : CertStore, (∀ car, car ∈ store.laneCars lane index ↔ car ∈ other.laneCars lane index) →
            ∀ car ∈ store.laneCars lane index, store.rankOf car.carId = other.rankOf car.carId := by
  refine ⟨?_, fun carId => ?_, fun lane index => ⟨fun hsize => ⟨rankOf_laneCars_perm hsize, ?_⟩, ?_⟩⟩
  · rw [deriveQueueRanks_keys]
    exact carIds_nodup (List.Sublist.refl _)
  · rw [deriveQueueRanks_keys, List.mem_map]
    exact exists_certified_iff carId
  · exact fun car hcar car' hcar' m n hm hn => rankOf_lt_iff hsize hcar hcar' hm hn
  · exact fun other hsame car hcar => rankOf_eq_of_laneCars hsame hcar

theorem deriveQueueRanks_exact_twoLanes :
    ((allThree.laneCars (ascii "N") 0).map fun car => allThree.rankOf car.carId).Perm [some 1, some 2] ∧
      ∀ car ∈ allThree.laneCars (ascii "N") 0,
        allThree.rankOf car.carId = (allThree.without (ascii "veh0")).rankOf car.carId := by
  obtain ⟨-, -, hlanes⟩ := deriveQueueRanks_exact allThree
  obtain ⟨hexact, halone⟩ := hlanes (ascii "N") 0
  have hsame : allThree.laneCars (ascii "N") 0 = (allThree.without (ascii "veh0")).laneCars (ascii "N") 0 := by
    decide +kernel
  exact ⟨(hexact (by decide +kernel)).1, halone (allThree.without (ascii "veh0")) fun car => by rw [hsame]⟩

end V2vBft.Arrival
