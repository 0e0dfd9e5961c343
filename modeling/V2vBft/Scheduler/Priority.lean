import V2vBft.Scheduler.Permutation

namespace V2vBft.Scheduler

open Wire

variable {entries queue : List VehicleEntry}

def isPriority (entries : List VehicleEntry) (e : VehicleEntry) : Bool :=
  decide (e.isAmbulance ≠ 0) ||
    entries.any fun a => decide (a.isAmbulance ≠ 0) && decide (e.lane = a.lane) &&
      decide (compareLaneQueueOrder e a < 0)

def priorityEntries (entries : List VehicleEntry) : List VehicleEntry := entries.filter (isPriority entries)

def AmbulancesSigned (entries : List VehicleEntry) : Prop :=
  ∀ e ∈ entries, e.isAmbulance ≠ 0 → e.cyberStatus = 1 ∧ e.simTimeUs ≠ uint64Max

lemma isPriority_iff (e : VehicleEntry) :
    isPriority entries e = true ↔ e.isAmbulance ≠ 0 ∨ ∃ a ∈ entries, a.isAmbulance ≠ 0 ∧ Ahead e a := by
  simp only [isPriority, Bool.or_eq_true, decide_eq_true_eq, List.any_eq_true, Bool.and_eq_true,
    compareLaneQueueOrder_neg, Ahead, and_assoc]

lemma mem_priorityEntries {e : VehicleEntry} :
    e ∈ priorityEntries entries ↔ e ∈ entries ∧ isPriority entries e = true := List.mem_filter

lemma Ahead.trans {u v w : VehicleEntry} (h : Ahead u v) (h' : Ahead v w) : Ahead u w :=
  ⟨h.1.trans h'.1, h.2.trans h'.2⟩

lemma isPriority_of_ahead {v e : VehicleEntry} (he : e ∈ entries) (hp : isPriority entries e = true)
    (h : Ahead v e) : isPriority entries v = true := by
  rw [isPriority_iff] at hp ⊢
  right
  rcases hp with hamb | ⟨a, ha, hamb, hahead⟩
  · exact ⟨e, he, hamb, h⟩
  · exact ⟨a, ha, hamb, h.trans hahead⟩

lemma Distinct.priority (hd : Distinct entries) : Distinct (priorityEntries entries) :=
  hd.sublist (List.filter_sublist.map _)

lemma filter_priorityEntries {p : VehicleEntry → Bool} (h : ∀ e ∈ entries, p e = true → isPriority entries e = true) :
    (priorityEntries entries).filter p = entries.filter p := by
  rw [priorityEntries, List.filter_filter]
  refine List.filter_congr fun e he => ?_
  by_cases hp : p e = true
  · simp [hp, h e he hp]
  · simp [hp]

lemma isPriorityAmbulance_iff {e : VehicleEntry} (hs : AmbulancesSigned entries) (he : e ∈ entries) :
    isPriorityAmbulance e = true ↔ e.isAmbulance ≠ 0 := by
  simp only [isPriorityAmbulance, Bool.and_eq_true, decide_eq_true_eq]
  exact ⟨And.left, fun h => ⟨h, (hs e he h).1⟩⟩

lemma ambulances_priority (entries : List VehicleEntry) : ambulances (priorityEntries entries) = ambulances entries := by
  rw [ambulances, filter_priorityEntries, ← ambulances]
  intro e _ h
  simp only [isPriorityAmbulance, Bool.and_eq_true, decide_eq_true_eq] at h
  exact (isPriority_iff e).mpr (Or.inl h.1)

lemma mem_blockers_iff {ambulance v : VehicleEntry} :
    v ∈ blockers entries ambulance ↔ v ∈ entries ∧ v.isAmbulance = 0 ∧ Ahead v ambulance := by
  rw [blockers, List.mem_insertionSort, List.mem_filter]
  simp only [Bool.and_eq_true, Bool.not_eq_true', Bool.or_eq_false_iff, decide_eq_false_iff_not, not_not,
    decide_eq_true_eq, compareLaneQueueOrder_neg, Ahead, and_assoc]
  tauto

lemma blockers_priority {ambulance : VehicleEntry} (ha : ambulance ∈ entries) (hamb : ambulance.isAmbulance ≠ 0) :
    blockers (priorityEntries entries) ambulance = blockers entries ambulance := by
  rw [blockers, filter_priorityEntries, ← blockers]
  intro v hv h
  have hmem : v ∈ blockers entries ambulance := by
    rw [blockers, List.mem_insertionSort, List.mem_filter]
    exact ⟨hv, h⟩
  exact (isPriority_iff v).mpr (Or.inr ⟨ambulance, ha, hamb, (mem_blockers_iff.mp hmem).2.2⟩)

lemma mem_ambulances_iff {e : VehicleEntry} (hs : AmbulancesSigned entries) :
    e ∈ ambulances entries ↔ e ∈ entries ∧ e.isAmbulance ≠ 0 := by
  rw [ambulances, List.mem_insertionSort, List.mem_filter]
  exact and_congr_right fun he => isPriorityAmbulance_iff hs he

lemma priorityQueue_priority (hs : AmbulancesSigned entries) :
    priorityQueue (priorityEntries entries) = priorityQueue entries := by
  have hfold : ∀ (as : List VehicleEntry) (s : PriorityQueue), (∀ a ∈ as, a ∈ entries ∧ a.isAmbulance ≠ 0) →
      as.foldl (PriorityQueue.pushAmbulance (priorityEntries entries)) s =
        as.foldl (PriorityQueue.pushAmbulance entries) s := by
    intro as
    induction as with
    | nil => exact fun _ _ => rfl
    | cons a as ih =>
      intro s has
      obtain ⟨ha, hamb⟩ := has a (by simp)
      rw [List.foldl_cons, List.foldl_cons, ih _ fun x hx => has x (by simp [hx]), PriorityQueue.pushAmbulance,
        blockers_priority ha hamb, ← PriorityQueue.pushAmbulance]
  rw [priorityQueue, ambulances_priority, hfold _ _ fun a ha => (mem_ambulances_iff hs).mp ha, ← priorityQueue]

structure PriorityQueue.Filled (entries : List VehicleEntry) (s : PriorityQueue) : Prop where
  priority : ∀ e ∈ s.workQueue, e ∈ priorityEntries entries
  ids : ∀ e ∈ s.workQueue, e.replicaId ∈ s.priorityIds

lemma PriorityQueue.Filled.push {s : PriorityQueue} (h : s.Filled entries) {e : VehicleEntry}
    (he : e ∈ priorityEntries entries) : (s.push e).Filled entries := by
  rw [PriorityQueue.push]
  split
  · exact h
  · refine ⟨fun x hx => ?_, fun x hx => ?_⟩
    · rcases List.mem_append.mp hx with hx | hx
      · exact h.priority x hx
      · exact List.mem_singleton.mp hx ▸ he
    · rcases List.mem_append.mp hx with hx | hx
      · exact List.mem_cons_of_mem _ (h.ids x hx)
      · exact List.mem_singleton.mp hx ▸ List.mem_cons_self

lemma PriorityQueue.Filled.foldl_push {s : PriorityQueue} (h : s.Filled entries) (es : List VehicleEntry)
    (hes : ∀ e ∈ es, e ∈ priorityEntries entries) : (es.foldl PriorityQueue.push s).Filled entries := by
  induction es generalizing s with
  | nil => exact h
  | cons e es ih => exact ih (h.push (hes e (by simp))) fun x hx => hes x (by simp [hx])

lemma priorityIds_push (s : PriorityQueue) (e : VehicleEntry) :
    e.replicaId ∈ (s.push e).priorityIds ∧ s.priorityIds ⊆ (s.push e).priorityIds := by
  rw [PriorityQueue.push]
  split
  next h => exact ⟨h, List.Subset.refl _⟩
  next => exact ⟨List.mem_cons_self, List.subset_cons_self _ _⟩

lemma priorityIds_foldl_push (es : List VehicleEntry) (s : PriorityQueue) :
    (∀ e ∈ es, e.replicaId ∈ (es.foldl PriorityQueue.push s).priorityIds) ∧
      s.priorityIds ⊆ (es.foldl PriorityQueue.push s).priorityIds := by
  induction es generalizing s with
  | nil => exact ⟨fun e he => absurd he (by simp), List.Subset.refl _⟩
  | cons e es ih =>
    obtain ⟨hall, hsub⟩ := ih (s.push e)
    obtain ⟨hself, hgrow⟩ := priorityIds_push s e
    refine ⟨fun x hx => ?_, fun i hi => hsub (hgrow hi)⟩
    rcases List.mem_cons.mp hx with rfl | hx
    · exact hsub hself
    · exact hall x hx

lemma priorityIds_pushAmbulance (s : PriorityQueue) (ambulance : VehicleEntry) :
    (∀ e ∈ blockers entries ambulance, e.replicaId ∈ (PriorityQueue.pushAmbulance entries s ambulance).priorityIds) ∧
      ambulance.replicaId ∈ (PriorityQueue.pushAmbulance entries s ambulance).priorityIds ∧
      s.priorityIds ⊆ (PriorityQueue.pushAmbulance entries s ambulance).priorityIds := by
  obtain ⟨hall, hsub⟩ := priorityIds_foldl_push (blockers entries ambulance) s
  obtain ⟨hself, hgrow⟩ := priorityIds_push ((blockers entries ambulance).foldl PriorityQueue.push s) ambulance
  exact ⟨fun e he => hgrow (hall e he), hself, fun i hi => hgrow (hsub hi)⟩

lemma priorityQueue_filled (hs : AmbulancesSigned entries) :
    (priorityQueue entries).Filled entries ∧
      ∀ e ∈ priorityEntries entries, e.replicaId ∈ (priorityQueue entries).priorityIds := by
  have hfold : ∀ (as : List VehicleEntry) (s : PriorityQueue), s.Filled entries →
      (∀ a ∈ as, a ∈ entries ∧ a.isAmbulance ≠ 0) →
      (as.foldl (PriorityQueue.pushAmbulance entries) s).Filled entries ∧
        s.priorityIds ⊆ (as.foldl (PriorityQueue.pushAmbulance entries) s).priorityIds ∧
        ∀ a ∈ as, a.replicaId ∈ (as.foldl (PriorityQueue.pushAmbulance entries) s).priorityIds ∧
          ∀ e ∈ blockers entries a,
            e.replicaId ∈ (as.foldl (PriorityQueue.pushAmbulance entries) s).priorityIds := by
    intro as
    induction as with
    | nil => exact fun s h _ => ⟨h, List.Subset.refl _, fun a ha => absurd ha (by simp)⟩
    | cons a as ih =>
      intro s h has
      obtain ⟨ha, hamb⟩ := has a (by simp)
      have hblockers : ∀ e ∈ blockers entries a, e ∈ priorityEntries entries := by
        intro e he
        obtain ⟨hmem, _, hahead⟩ := mem_blockers_iff.mp he
        exact mem_priorityEntries.mpr ⟨hmem, (isPriority_iff e).mpr (Or.inr ⟨a, ha, hamb, hahead⟩)⟩
      have hself : a ∈ priorityEntries entries :=
        mem_priorityEntries.mpr ⟨ha, (isPriority_iff a).mpr (Or.inl hamb)⟩
      obtain ⟨hfilled, hsub, hall⟩ := ih (PriorityQueue.pushAmbulance entries s a)
        ((h.foldl_push _ hblockers).push hself) fun x hx => has x (by simp [hx])
      obtain ⟨hb, hown, hgrow⟩ := @priorityIds_pushAmbulance entries s a
      refine ⟨hfilled, fun i hi => hsub (hgrow hi), fun x hx => ?_⟩
      rcases List.mem_cons.mp hx with rfl | hx
      · exact ⟨hsub hown, fun e he => hsub (hb e he)⟩
      · exact hall x hx
  obtain ⟨hfilled, _, hall⟩ := hfold (ambulances entries) ⟨[], []⟩ ⟨by simp, by simp⟩ fun a ha =>
    (mem_ambulances_iff hs).mp ha
  refine ⟨hfilled, fun e he => ?_⟩
  obtain ⟨hmem, hp⟩ := mem_priorityEntries.mp he
  by_cases hamb : e.isAmbulance = 0
  · obtain ⟨a, ha, haamb, hahead⟩ := ((isPriority_iff e).mp hp).resolve_left (not_not.mpr hamb)
    exact (hall a ((mem_ambulances_iff hs).mpr ⟨ha, haamb⟩)).2 e (mem_blockers_iff.mpr ⟨hmem, hamb, hahead⟩)
  · exact (hall e ((mem_ambulances_iff hs).mpr ⟨hmem, hamb⟩)).1

lemma workQueue_split (hs : AmbulancesSigned entries) :
    workQueue (priorityEntries entries) = (priorityQueue entries).workQueue ∧
      (∀ e ∈ remainingEntries entries, isPriority entries e = false) := by
  obtain ⟨hfilled, hall⟩ := priorityQueue_filled hs
  refine ⟨?_, fun e he => ?_⟩
  · have hnone : remainingEntries (priorityEntries entries) = [] := by
      rw [remainingEntries, priorityQueue_priority hs, List.filter_eq_nil_iff.mpr]
      · rfl
      · intro e he
        simpa using hall e he
    rw [workQueue, priorityQueue_priority hs, hnone, List.append_nil]
  · rw [remainingEntries, List.mem_insertionSort, List.mem_filter, decide_eq_true_eq] at he
    rw [← Bool.not_eq_true]
    exact fun hp => he.2 (hall e (mem_priorityEntries.mpr ⟨he.1, hp⟩))

end V2vBft.Scheduler
