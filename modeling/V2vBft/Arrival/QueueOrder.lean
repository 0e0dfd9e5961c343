import V2vBft.Arrival.PartialView
import V2vBft.Scheduler.Correctness
import V2vBft.Scheduler.Permutation

/-! The packed positions against the order in which the cars stand: certified ranks beside announced ones. -/

namespace V2vBft.Arrival

open Wire App Bridge Scheduler Library.SortedRank

variable {cfg : ArrivalConfig} {p : Proposer} {store : CertStore} {seen : List SeenCar}

-- a smaller distance is nearer to the stop line; only the order of the distances matters
structure StandingCar where
  carId : Bytes
  lane : Bytes
  physicalLaneIndex : ℤ
  distance : ℤ
  deriving DecidableEq, Repr

def StandingCar.rid (car : StandingCar) : ℤ := extractReplicaId car.carId

def StandingCar.sameLane (a b : StandingCar) : Bool :=
  decide (a.lane = b.lane) && decide (a.physicalLaneIndex = b.physicalLaneIndex)

def StandingCar.before (a b : StandingCar) : Bool := a.sameLane b && decide (a.distance < b.distance)

structure Street where
  cars : List StandingCar
  ids : (cars.map StandingCar.carId).Nodup
  replicas : ∀ a ∈ cars, ∀ b ∈ cars, 0 ≤ a.rid → a.rid = b.rid → a = b
  apart : ∀ a ∈ cars, ∀ b ∈ cars, a.sameLane b = true → a.distance = b.distance → a = b

variable {street : Street} {a b : StandingCar}

def Street.carsAhead (street : Street) (car : StandingCar) : ℕ := street.cars.countP fun c => c.before car

def CertStore.holds (store : CertStore) (carId : Bytes) : Bool :=
  decide (carId ∈ store.certified.map CertifiedCar.carId)

def Street.certifiedAhead (street : Street) (store : CertStore) (car : StandingCar) : ℕ :=
  street.cars.countP fun c => store.holds c.carId && c.before car

def Street.uncertifiedAhead (street : Street) (store : CertStore) (car : StandingCar) : ℕ :=
  street.cars.countP fun c => !store.holds c.carId && c.before car

def Street.certifiedFrom (street : Street) (store : CertStore) (a b : StandingCar) : ℕ :=
  street.cars.countP fun c => store.holds c.carId && c.before b && !c.before a

-- certificates name the true lanes and order the distances truly; a state gives the true rank, counted from 1
structure TrueCandidate (street : Street) (store : CertStore) (seen : List SeenCar) : Prop where
  certified : ∀ car ∈ store.certified, ∃ c ∈ street.cars, c.carId = car.carId ∧ c.lane = car.cert.lane ∧
    c.physicalLaneIndex = car.cert.physicalLaneIndex
  ordered : ∀ car ∈ store.certified, ∀ car' ∈ store.certified, ∀ a ∈ street.cars, ∀ b ∈ street.cars,
    a.carId = car.carId → b.carId = car'.carId → a.before b = true → car.distanceCm < car'.distanceCm
  announced : ∀ car ∈ seen, ∃ c ∈ street.cars, c.carId = car.carId ∧ c.lane = car.lane ∧
    car.positionInLane = street.carsAhead c + 1
  once : (seen.map SeenCar.carId).Nodup

def packedFor (cfg : ArrivalConfig) (p : Proposer) (store : CertStore) (seen : List SeenCar) :
    List (Bytes × VehicleEntry) :=
  (signedCars cfg p store).map (fun car => (car.carId, signedEntry cfg p store seen car)) ++
    (quietCars cfg p store seen).map fun car => (car.carId, quietEntry car)

structure QueueOrderKept (cfg : ArrivalConfig) (p : Proposer) (street : Street) (store : CertStore)
    (seen : List SeenCar) : Prop where
  ordered : ∀ a ∈ street.cars, ∀ b ∈ street.cars, a.before b = true → ∀ e e',
    (a.carId, e) ∈ packedFor cfg p store seen → (b.carId, e') ∈ packedFor cfg p store seen →
      e.lane = e'.lane ∧ compareLaneQueueOrder e e' < 0
  scheduled : ∀ a ∈ street.cars, ∀ b ∈ street.cars, a.before b = true → ∀ e e',
    (a.carId, e) ∈ packedFor cfg p store seen → (b.carId, e') ∈ packedFor cfg p store seen →
      isQuietEntry e = true → isQuietEntry e' = false → ∀ singletonEnv j k,
        ⟨e.replicaId, j⟩ ∈ scheduleDecisions singletonEnv (proposeAll cfg p store seen) →
          ⟨e'.replicaId, k⟩ ∈ scheduleDecisions singletonEnv (proposeAll cfg p store seen) → j < k

def isSigned (cfg : ArrivalConfig) (p : Proposer) (store : CertStore) (car : StandingCar) : Prop :=
  car.carId ∈ (signedCars cfg p store).map CertifiedCar.carId

def isQuieted (cfg : ArrivalConfig) (p : Proposer) (store : CertStore) (seen : List SeenCar) (car : StandingCar) :
    Prop :=
  car.carId ∈ (quietCars cfg p store seen).map SeenCar.carId

inductive Counts (cfg : ArrivalConfig) (p : Proposer) (street : Street) (store : CertStore) (seen : List SeenCar)
    (car : StandingCar) : ℕ → Prop
  | signed (h : isSigned cfg p store car) : Counts cfg p street store seen car (street.certifiedAhead store car)
  | quiet (h : isQuieted cfg p store seen car) : Counts cfg p street store seen car (street.carsAhead car)

-- positions end at 255
structure InStep (cfg : ArrivalConfig) (p : Proposer) (street : Street) (store : CertStore) (seen : List SeenCar) :
    Prop where
  overtaken : ∀ a ∈ street.cars, ∀ b ∈ street.cars, a.before b = true → isQuieted cfg p store seen a →
    isSigned cfg p store b → street.certifiedAhead store b < 254 →
      street.uncertifiedAhead store a < street.certifiedFrom store a b ∨
        street.uncertifiedAhead store a = street.certifiedFrom store a b ∧ a.rid < b.rid
  far : ∀ a ∈ street.cars, ∀ b ∈ street.cars, a.before b = true → ∀ m n, Counts cfg p street store seen a m →
    Counts cfg p street store seen b n → 254 ≤ m → 254 ≤ n → a.rid < b.rid

lemma before_iff : a.before b = true ↔
    a.lane = b.lane ∧ a.physicalLaneIndex = b.physicalLaneIndex ∧ a.distance < b.distance := by
  simp [StandingCar.before, StandingCar.sameLane, and_assoc]

lemma before_trans {c : StandingCar} (h : a.before b = true) (h' : b.before c = true) : a.before c = true := by
  obtain ⟨hlane, hindex, hlt⟩ := before_iff.mp h
  obtain ⟨hlane', hindex', hlt'⟩ := before_iff.mp h'
  exact before_iff.mpr ⟨hlane.trans hlane', hindex.trans hindex', hlt.trans hlt'⟩

lemma Street.eq_of_id (street : Street) (ha : a ∈ street.cars) (hb : b ∈ street.cars) (h : a.carId = b.carId) : a = b :=
  List.inj_on_of_nodup_map street.ids ha hb h

lemma holds_iff {carId : Bytes} : store.holds carId = true ↔ ∃ car ∈ store.certified, car.carId = carId := by
  simp [CertStore.holds]

lemma queueKey_inj {car car' : CertifiedCar} (h : car.queueKey = car'.queueKey) :
    car.cert.lane = car'.cert.lane ∧ car.cert.physicalLaneIndex = car'.cert.physicalLaneIndex := by
  have hno : ∀ i : ℤ, (58 : UInt8) ∉ decimalInt i := fun i => decimalInt_notMem (by decide) (by decide)
  obtain ⟨hlane, hindex⟩ := append_separator_inj (hno _) (hno _) (by
    simpa [CertifiedCar.queueKey, ascii] using h)
  exact ⟨hlane, decimalInt_injective hindex⟩

lemma queueOrder_lt_of_distance {car car' : CertifiedCar} (h : car.distanceCm < car'.distanceCm) :
    queueOrder car.slot < queueOrder car'.slot := Prod.Lex.toLex_lt_toLex.mpr (Or.inl h)

lemma TrueCandidate.stands (h : TrueCandidate street store seen) {car : CertifiedCar} (hcar : car ∈ store.certified)
    {c : StandingCar} (hc : c ∈ street.cars) (hid : c.carId = car.carId) :
    c.lane = car.cert.lane ∧ c.physicalLaneIndex = car.cert.physicalLaneIndex := by
  obtain ⟨c', hc', hid', hplace⟩ := h.certified car hcar
  obtain rfl : c' = c := street.eq_of_id hc' hc (hid'.trans hid.symm)
  exact hplace

lemma TrueCandidate.queue_iff (h : TrueCandidate street store seen) {car car' : CertifiedCar}
    (hcar : car ∈ store.certified) (hcar' : car' ∈ store.certified) (ha : a ∈ street.cars) (hb : b ∈ street.cars)
    (hida : a.carId = car.carId) (hidb : b.carId = car'.carId) :
    car.queueKey = car'.queueKey ∧ queueOrder car.slot < queueOrder car'.slot ↔ a.before b = true := by
  obtain ⟨hlane, hindex⟩ := h.stands hcar ha hida
  obtain ⟨hlane', hindex'⟩ := h.stands hcar' hb hidb
  constructor
  · rintro ⟨hkey, hlt⟩
    obtain ⟨hl, hi⟩ := queueKey_inj hkey
    have hsame : a.sameLane b = true := by
      rw [StandingCar.sameLane, hlane, hindex, hlane', hindex', hl, hi]
      simp
    rcases lt_trichotomy a.distance b.distance with hlt' | heq | hgt
    · rw [StandingCar.before, hsame, Bool.true_and]
      exact decide_eq_true hlt'
    · obtain rfl := street.apart a ha b hb hsame heq
      have hself : car = car' := List.inj_on_of_nodup_map (carIds_nodup (List.Sublist.refl _)) hcar hcar'
        (hida.symm.trans hidb)
      exact absurd hlt (by rw [hself]; exact lt_irrefl _)
    · have hback : b.before a = true :=
        before_iff.mpr ⟨hlane'.trans (hl.symm.trans hlane.symm), hindex'.trans (hi.symm.trans hindex.symm), hgt⟩
      have hdistance := h.ordered car' hcar' car hcar b hb a ha hidb hida hback
      exact absurd hlt (queueOrder_lt_of_distance hdistance).not_gt
  · intro hbefore
    obtain ⟨hl, hi, -⟩ := before_iff.mp hbefore
    refine ⟨?_, queueOrder_lt_of_distance (h.ordered car hcar car' hcar' a ha b hb hida hidb hbefore)⟩
    rw [CertifiedCar.queueKey, CertifiedCar.queueKey, ← hlane, ← hindex, hl, hi, hlane', hindex']

lemma TrueCandidate.ahead_eq (h : TrueCandidate street store seen) {car : CertifiedCar} (hcar : car ∈ store.certified)
    {c : StandingCar} (hc : c ∈ street.cars) (hid : c.carId = car.carId) :
    store.ahead car = street.certifiedAhead store c := by
  have hqueue : store.ahead car = store.certified.countP fun y =>
      decide (queueOrder y.slot < queueOrder car.slot) && decide (y.queueKey = car.queueKey) := by
    rw [CertStore.ahead, below, CertStore.queue, List.countP_map, List.countP_filter]
    rfl
  rw [hqueue, Street.certifiedAhead]
  refine countP_eq_of_keys (carIds_nodup (List.Sublist.refl _)) street.ids fun k => ?_
  simp only [Bool.and_eq_true, decide_eq_true_eq]
  constructor
  · rintro ⟨y, hy, ⟨hlt, hkey⟩, rfl⟩
    obtain ⟨d, hd, hidd, -⟩ := h.certified y hy
    exact ⟨d, hd, ⟨holds_iff.mpr ⟨y, hy, hidd.symm⟩, (h.queue_iff hy hcar hd hc hidd hid).mp ⟨hkey, hlt⟩⟩, hidd⟩
  · rintro ⟨d, hd, ⟨hholds, hbefore⟩, rfl⟩
    obtain ⟨y, hy, hidy⟩ := holds_iff.mp hholds
    obtain ⟨hkey, hlt⟩ := (h.queue_iff hy hcar hd hc hidy.symm hid).mpr hbefore
    exact ⟨y, hy, ⟨hlt, hkey⟩, hidy⟩

lemma eligible_nonneg {rid : ℤ} {isAmbulance : Bool} (h : eligible cfg p rid isAmbulance = true) : 0 ≤ rid := by
  rw [eligible] at h
  split at h
  · exact of_decide_eq_true (Bool.and_eq_true_iff.mp h).1
  · exact of_decide_eq_true (Bool.and_eq_true_iff.mp h).1

lemma toUint8_position (n : ℕ) : toUint8 (min ((n : ℤ) + 1) 255) = min (n + 1) 255 := by
  rw [toUint8]
  omega

structure Tells (car : StandingCar) (n : ℕ) (e : VehicleEntry) : Prop where
  position : e.positionInLane = min (n + 1) 255
  id : e.replicaId = car.rid
  lane : e.lane = laneCode car.lane

lemma TrueCandidate.signed_tells (h : TrueCandidate street store seen) {car : CertifiedCar}
    (hcar : car ∈ signedCars cfg p store) {c : StandingCar} (hc : c ∈ street.cars) (hid : c.carId = car.carId) :
    Tells c (street.certifiedAhead store c) (signedEntry cfg p store seen car) := by
  have hcert := mem_certified_of_signed hcar
  refine ⟨?_, ?_, ?_⟩
  · exact (queueRank_eq hcert).trans (by rw [h.ahead_eq hcert hc hid])
  · rw [signedEntry, StandingCar.rid, hid]
  · rw [signedEntry, (h.stands hcert hc hid).1]

lemma TrueCandidate.quiet_tells (h : TrueCandidate street store seen) {car : SeenCar} (hcar : car ∈ seen)
    {c : StandingCar} (hc : c ∈ street.cars) (hid : c.carId = car.carId) :
    Tells c (street.carsAhead c) (quietEntry car) := by
  obtain ⟨c', hc', hid', hlane, hrank⟩ := h.announced car hcar
  obtain rfl : c' = c := street.eq_of_id hc' hc (hid'.trans hid.symm)
  refine ⟨?_, ?_, ?_⟩
  · rw [quietEntry, hrank, toUint8_position]
  · rw [quietEntry, StandingCar.rid, hid]
  · rw [quietEntry, hlane]

lemma TrueCandidate.counted (h : TrueCandidate street store seen) {c : StandingCar} (hc : c ∈ street.cars)
    {e : VehicleEntry} (he : (c.carId, e) ∈ packedFor cfg p store seen) :
    ∃ n, Counts cfg p street store seen c n ∧ Tells c n e := by
  rcases List.mem_append.mp he with hmem | hmem
  · obtain ⟨car, hcar, heq⟩ := List.mem_map.mp hmem
    obtain ⟨hid, rfl⟩ := Prod.mk.inj heq
    exact ⟨_, .signed (List.mem_map.mpr ⟨car, hcar, hid⟩), h.signed_tells hcar hc hid.symm⟩
  · obtain ⟨car, hcar, heq⟩ := List.mem_map.mp hmem
    obtain ⟨hid, rfl⟩ := Prod.mk.inj heq
    exact ⟨_, .quiet (List.mem_map.mpr ⟨car, hcar, hid⟩), h.quiet_tells (List.mem_of_mem_filter hcar) hc hid.symm⟩

lemma Counts.packed (h : TrueCandidate street store seen) {c : StandingCar} (hc : c ∈ street.cars) {n : ℕ}
    (hn : Counts cfg p street store seen c n) : ∃ e, (c.carId, e) ∈ packedFor cfg p store seen ∧ Tells c n e := by
  cases hn with
  | signed hsigned =>
    obtain ⟨car, hcar, hid⟩ := List.mem_map.mp hsigned
    refine ⟨_, List.mem_append_left _ ?_, h.signed_tells hcar hc hid.symm⟩
    exact List.mem_map.mpr ⟨car, hcar, by rw [hid]⟩
  | quiet hquiet =>
    obtain ⟨car, hcar, hid⟩ := List.mem_map.mp hquiet
    refine ⟨_, List.mem_append_right _ ?_, h.quiet_tells (List.mem_of_mem_filter hcar) hc hid.symm⟩
    exact List.mem_map.mpr ⟨car, hcar, by rw [hid]⟩

def Leads (a b : StandingCar) (m n : ℕ) : Prop :=
  m < n ∧ m < 254 ∨ (m = n ∨ 254 ≤ m ∧ 254 ≤ n) ∧ a.rid < b.rid

lemma Tells.compare_iff {m n : ℕ} {e e' : VehicleEntry} (he : Tells a m e) (he' : Tells b n e') :
    compareLaneQueueOrder e e' < 0 ↔ Leads a b m n := by
  rw [compareLaneQueueOrder_neg, queueKey_lt, he.position, he'.position, he.id, he'.id, Leads]
  omega

lemma Street.certifiedAhead_split (street : Street) (store : CertStore) (h : a.before b = true) :
    street.certifiedAhead store b = street.certifiedAhead store a + street.certifiedFrom store a b := by
  rw [Street.certifiedAhead, countP_split _ _ fun c => c.before a, Street.certifiedAhead, Street.certifiedFrom]
  refine congrArg₂ _ (List.countP_congr fun c _ => ?_) (List.countP_congr fun c _ => ?_)
  · have hchain : c.before a = true → c.before b = true := fun hc => before_trans hc h
    cases hca : c.before a <;> cases hcb : c.before b <;> simp_all
  · cases c.before a <;> simp

lemma Street.carsAhead_split (street : Street) (store : CertStore) (car : StandingCar) :
    street.carsAhead car = street.certifiedAhead store car + street.uncertifiedAhead store car :=
  countP_split street.cars (fun c => c.before car) fun c => store.holds c.carId

lemma not_before_self (a : StandingCar) : a.before a = false := by simp [StandingCar.before]

lemma Street.certifiedAhead_lt (ha : a ∈ street.cars) (h : a.before b = true) (hheld : store.holds a.carId = true) :
    street.certifiedAhead store a < street.certifiedAhead store b := by
  have hself : 0 < street.certifiedFrom store a b :=
    List.countP_pos_iff.mpr ⟨a, ha, by simp [hheld, h, not_before_self]⟩
  have hsplit := street.certifiedAhead_split store h
  omega

lemma Street.carsAhead_lt (ha : a ∈ street.cars) (h : a.before b = true) : street.carsAhead a < street.carsAhead b := by
  have hsplit : street.carsAhead b = street.carsAhead a +
      street.cars.countP fun c => !c.before a && c.before b := by
    rw [Street.carsAhead, countP_split _ _ fun c => c.before a, Street.carsAhead]
    refine congrArg (· + _) (List.countP_congr fun c _ => ?_)
    rw [Bool.and_eq_true]
    exact ⟨fun hc => hc.1, fun hc => ⟨hc, before_trans hc h⟩⟩
  have hself : 0 < street.cars.countP fun c => !c.before a && c.before b :=
    List.countP_pos_iff.mpr ⟨a, ha, by simp [h, not_before_self]⟩
  omega

lemma isSigned.holds {car : StandingCar} (h : isSigned cfg p store car) : store.holds car.carId = true := by
  obtain ⟨c, hc, hid⟩ := List.mem_map.mp h
  exact holds_iff.mpr ⟨c, mem_certified_of_signed hc, hid⟩

lemma InStep.leads (h : InStep cfg p street store seen) (ha : a ∈ street.cars) (hb : b ∈ street.cars)
    (hbefore : a.before b = true) {m n : ℕ} (hm : Counts cfg p street store seen a m)
    (hn : Counts cfg p street store seen b n) : Leads a b m n := by
  have hfar := h.far a ha b hb hbefore m n hm hn
  have hleads : m < n → Leads a b m n := by
    intro hlt
    by_cases hend : m < 254
    · exact Or.inl ⟨hlt, hend⟩
    · exact Or.inr ⟨Or.inr ⟨by omega, by omega⟩, hfar (by omega) (by omega)⟩
  cases hn with
  | quiet =>
    have hcars := street.carsAhead_lt ha hbefore
    cases hm with
    | quiet => exact hleads hcars
    | signed =>
      have hsplit := street.carsAhead_split store a
      exact hleads (by omega)
  | signed hsigned =>
    cases hm with
    | signed hsigned' => exact hleads (street.certifiedAhead_lt ha hbefore hsigned'.holds)
    | quiet hquiet =>
      have hcars := street.carsAhead_split store a
      have hcert := street.certifiedAhead_split store hbefore
      by_cases hend : street.certifiedAhead store b < 254
      · rcases h.overtaken a ha b hb hbefore hquiet hsigned hend with hlt | ⟨heq, hid⟩
        · exact hleads (by omega)
        · exact Or.inr ⟨Or.inl (by omega), hid⟩
      · by_cases hlt : street.carsAhead a < street.certifiedAhead store b
        · exact hleads hlt
        · exact Or.inr ⟨Or.inr ⟨by omega, by omega⟩, hfar (by omega) (by omega)⟩

lemma inStep_of_leads (h : ∀ a ∈ street.cars, ∀ b ∈ street.cars, a.before b = true → ∀ m n,
    Counts cfg p street store seen a m → Counts cfg p street store seen b n → Leads a b m n) :
    InStep cfg p street store seen := by
  refine ⟨fun a ha b hb hbefore hquiet hsigned hend => ?_, fun a ha b hb hbefore m n hm hn hm' hn' => ?_⟩
  · have hcars := street.carsAhead_split store a
    have hcert := street.certifiedAhead_split store hbefore
    rcases h a ha b hb hbefore _ _ (.quiet hquiet) (.signed hsigned) with ⟨hlt, -⟩ | ⟨hsame, hid⟩
    · exact Or.inl (by omega)
    · exact Or.inr ⟨by omega, hid⟩
  · rcases h a ha b hb hbefore m n hm hn with ⟨-, hnear⟩ | ⟨-, hid⟩
    · omega
    · exact hid

lemma Street.rids_nodup {α : Type*} {found : List α} {carId : α → Bytes} (hnodup : (found.map carId).Nodup)
    (hon : ∀ x ∈ found, ∃ c ∈ street.cars, c.carId = carId x) (hrid : ∀ x ∈ found, 0 ≤ extractReplicaId (carId x)) :
    (found.map fun x => extractReplicaId (carId x)).Nodup := by
  refine hnodup.of_map.map_on fun x hx y hy hid => ?_
  obtain ⟨c, hc, hidc⟩ := hon x hx
  obtain ⟨d, hd, hidd⟩ := hon y hy
  have hsame : c.rid = d.rid := by rw [StandingCar.rid, StandingCar.rid, hidc, hidd, hid]
  have hnonneg : 0 ≤ c.rid := by
    rw [StandingCar.rid, hidc]
    exact hrid x hx
  obtain rfl := street.replicas c hc d hd hnonneg hsame
  exact List.inj_on_of_nodup_map hnodup hx hy (hidc.symm.trans hidd)

lemma TrueCandidate.signed_distinct (h : TrueCandidate street store seen) :
    ((signedCars cfg p store).map fun car => extractReplicaId car.carId).Nodup := by
  refine street.rids_nodup (carIds_nodup List.filter_sublist) (fun car hcar => ?_) fun car hcar => ?_
  · obtain ⟨c, hc, hid, -⟩ := h.certified car (List.mem_of_mem_filter hcar)
    exact ⟨c, hc, hid⟩
  · exact eligible_nonneg (List.mem_filter.mp hcar).2

lemma TrueCandidate.quiet_distinct (h : TrueCandidate street store seen) :
    ((quietCars cfg p store seen).map fun car => extractReplicaId car.carId).Nodup := by
  refine street.rids_nodup (h.once.sublist (List.filter_sublist.map _)) (fun car hcar => ?_) fun car hcar => ?_
  · obtain ⟨c, hc, hid, -⟩ := h.announced car (List.mem_of_mem_filter hcar)
    exact ⟨c, hc, hid⟩
  · exact eligible_nonneg (Bool.and_eq_true_iff.mp (List.mem_filter.mp hcar).2).1

lemma TrueCandidate.distinct (h : TrueCandidate street store seen) : Distinct (proposeAll cfg p store seen) := by
  rw [Distinct, proposeAll, List.map_append, List.map_map, List.map_map]
  refine List.nodup_append.mpr ⟨h.signed_distinct, h.quiet_distinct, fun i hi j hj hij => ?_⟩
  obtain ⟨car, hcar, rfl⟩ := List.mem_map.mp hj
  have hnot := (Bool.and_eq_true_iff.mp (List.mem_filter.mp hcar).2).2
  rw [hij] at hi
  exact of_decide_eq_true hnot hi

lemma entry_of_packed {carId : Bytes} {e : VehicleEntry} (he : (carId, e) ∈ packedFor cfg p store seen) :
    e ∈ proposeAll cfg p store seen := by
  have hmap : (packedFor cfg p store seen).map Prod.snd = proposeAll cfg p store seen := by
    simp [packedFor, proposeAll, Function.comp_def]
  exact hmap ▸ List.mem_map_of_mem he

theorem queueOrder_kept_iff (cfg : ArrivalConfig) (p : Proposer) (street : Street) (store : CertStore)
    (seen : List SeenCar) (h : TrueCandidate street store seen) :
    QueueOrderKept cfg p street store seen ↔ InStep cfg p street store seen := by
  constructor
  · intro hkept
    refine inStep_of_leads fun a ha b hb hbefore m n hm hn => ?_
    obtain ⟨e, he, htells⟩ := hm.packed h ha
    obtain ⟨e', he', htells'⟩ := hn.packed h hb
    exact (htells.compare_iff htells').mp (hkept.ordered a ha b hb hbefore e e' he he').2
  · intro hstep
    have hordered : ∀ a ∈ street.cars, ∀ b ∈ street.cars, a.before b = true → ∀ e e',
        (a.carId, e) ∈ packedFor cfg p store seen → (b.carId, e') ∈ packedFor cfg p store seen →
          e.lane = e'.lane ∧ compareLaneQueueOrder e e' < 0 := by
      intro a ha b hb hbefore e e' he he'
      obtain ⟨m, hm, htells⟩ := h.counted ha he
      obtain ⟨n, hn, htells'⟩ := h.counted hb he'
      refine ⟨?_, (htells.compare_iff htells').mpr (hstep.leads ha hb hbefore hm hn)⟩
      rw [htells.lane, htells'.lane, (before_iff.mp hbefore).1]
    have hdistinct : Distinct (proposeAll cfg p store seen) := h.distinct
    refine ⟨hordered, fun a ha b hb hbefore e e' he he' _ _ singletonEnv j k hj hk => ?_⟩
    obtain ⟨hlane, hcompare⟩ := hordered a ha b hb hbefore e e' he he'
    obtain ⟨hprogress, hplaced⟩ := schedule_progress (allSingletonMode singletonEnv) hdistinct
    have hcrossing := hprogress.crossingOrder hdistinct hplaced
    have hkey := (queueKey_lt e e').mp ((compareLaneQueueOrder_neg e e').mp hcompare)
    exact hcrossing.laneOrder e (entry_of_packed he) e' (entry_of_packed he') hlane hkey j k hj hk

def twoQueues : Street where
  cars := [⟨ascii "veh0", ascii "S", 0, 100⟩, ⟨ascii "veh1", ascii "N", 0, 100⟩, ⟨ascii "veh2", ascii "N", 0, 200⟩]
  ids := by decide
  replicas := by decide +kernel
  apart := by decide +kernel

def queuesSeen : List SeenCar :=
  [⟨ascii "veh0", ascii "S", 1, false, 5, by decide⟩, ⟨ascii "veh1", ascii "N", 1, false, 5, by decide⟩,
    ⟨ascii "veh2", ascii "N", 2, false, 10, by decide⟩]

theorem queueOrder_kept_quietCar :
    (quietCars fourWitnesses normalProposer (allThree.without (ascii "veh1")) queuesSeen).map SeenCar.carId =
        [ascii "veh1"] ∧
      QueueOrderKept fourWitnesses normalProposer twoQueues (allThree.without (ascii "veh1")) queuesSeen := by
  refine ⟨by decide +kernel, (queueOrder_kept_iff fourWitnesses normalProposer twoQueues
    (allThree.without (ascii "veh1")) queuesSeen ?_).mpr ⟨?_, ?_⟩⟩
  · exact ⟨by decide +kernel, by decide +kernel, by decide +kernel, by decide⟩
  · have hahead : ∀ a ∈ twoQueues.cars, ∀ b ∈ twoQueues.cars, a.before b = true →
        twoQueues.uncertifiedAhead (allThree.without (ascii "veh1")) a <
            twoQueues.certifiedFrom (allThree.without (ascii "veh1")) a b ∨
          twoQueues.uncertifiedAhead (allThree.without (ascii "veh1")) a =
            twoQueues.certifiedFrom (allThree.without (ascii "veh1")) a b ∧ a.rid < b.rid := by
      decide +kernel
    exact fun a ha b hb hbefore _ _ _ => hahead a ha b hb hbefore
  · intro a _ b _ _ m n hm _ hfar _
    have hnear : m ≤ 3 := by
      cases hm with
      | signed => exact List.countP_le_length
      | quiet => exact List.countP_le_length
    omega

def secondAhead : Street where
  cars := [⟨ascii "veh1", ascii "N", 0, 200⟩, ⟨ascii "veh2", ascii "N", 0, 100⟩]
  ids := by decide
  replicas := by decide +kernel
  apart := by decide +kernel

def onlyBehind : CertStore where
  arrivals := [(ascii "veh1", stoppedCert "veh1" "N")]
  distances := [(ascii "veh1", stoppedAt "veh1" [11] 200)]
  sorted := by decide

def bothSeen : List SeenCar :=
  [⟨ascii "veh1", ascii "N", 2, false, 10, by decide⟩, ⟨ascii "veh2", ascii "N", 1, false, 5, by decide⟩]

-- the certified car counts itself alone, so its number lets it cross before the car it stands behind
theorem queueOrder_overtaken :
    (∀ entry ∈ onlyBehind.arrivals, validateArrivalCert fourWitnesses entry.2 = true) ∧
      (∀ entry ∈ onlyBehind.distances, validateStoppedDistanceCert fourWitnesses .initial entry.2 = true) ∧
      TrueCandidate secondAhead onlyBehind bothSeen ∧
      scheduleDecisions none (proposeAll fourWitnesses normalProposer onlyBehind bothSeen) = [⟨1, 0⟩, ⟨2, 1⟩] ∧
      ¬QueueOrderKept fourWitnesses normalProposer secondAhead onlyBehind bothSeen := by
  refine ⟨by decide +kernel, by decide +kernel, ⟨by decide +kernel, by decide +kernel, by decide +kernel, by decide⟩,
    by decide +kernel, fun hkept => ?_⟩
  have hordered := hkept.ordered ⟨ascii "veh2", ascii "N", 0, 100⟩ (by decide) ⟨ascii "veh1", ascii "N", 0, 200⟩
    (by decide) (by decide) ⟨2, uint64Max, 0, 0, 0, 1, 0, 0, 0⟩ ⟨1, 10, 0, 0, 1, 1, 1, 0, 0⟩
    (by decide +kernel) (by decide +kernel)
  exact absurd hordered.2 (by decide)

end V2vBft.Arrival
