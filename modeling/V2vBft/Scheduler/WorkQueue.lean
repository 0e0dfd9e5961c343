import V2vBft.Scheduler.Schedule

namespace V2vBft.Scheduler

open Wire

variable {entries : List VehicleEntry}

def queueKey (e : VehicleEntry) : ℕ ×ₗ ℤ := toLex (e.positionInLane, e.replicaId)

def Distinct (entries : List VehicleEntry) : Prop := (entries.map VehicleEntry.replicaId).Nodup

def Ahead (v e : VehicleEntry) : Prop := v.lane = e.lane ∧ queueKey v < queueKey e

lemma Distinct.eq_of_id (h : Distinct entries) {a b : VehicleEntry} (ha : a ∈ entries) (hb : b ∈ entries)
    (hid : a.replicaId = b.replicaId) : a = b :=
  List.inj_on_of_nodup_map h ha hb hid

lemma queueKey_lt (a b : VehicleEntry) :
    queueKey a < queueKey b ↔
      a.positionInLane < b.positionInLane ∨
        a.positionInLane = b.positionInLane ∧ a.replicaId < b.replicaId := by
  simp [queueKey, Prod.Lex.toLex_lt_toLex]

lemma compareLaneQueueOrder_neg (a b : VehicleEntry) :
    compareLaneQueueOrder a b < 0 ↔ queueKey a < queueKey b := by
  rw [queueKey_lt, compareLaneQueueOrder]
  split
  · omega
  · split
    · omega
    · split <;> omega

lemma isSafeToBatch_comm (laneA dirA laneB dirB : ℕ) :
    isSafeToBatch laneA dirA laneB dirB = isSafeToBatch laneB dirB laneA dirA := by
  unfold isSafeToBatch
  by_cases h : laneA = laneB
  · simp [h]
  · rw [if_neg h, if_neg (Ne.symm h)]
    congr 1
    funext p
    rw [Bool.or_comm]
    congr 1 <;> exact decide_eq_decide.mpr (by tauto)

lemma lane_ne_of_isSafeToBatch {laneA dirA laneB dirB : ℕ} (h : isSafeToBatch laneA dirA laneB dirB = true) :
    laneA ≠ laneB := by
  rintro rfl
  simp [isSafeToBatch] at h

lemma allSameLaneFrontPlaced_iff (cand : VehicleEntry) (view : List VehicleEntry) (placed : List ℤ) :
    allSameLaneFrontPlaced cand view placed = true ↔ ∀ v ∈ view, Ahead v cand → v.replicaId ∈ placed := by
  simp only [allSameLaneFrontPlaced, List.all_eq_true, Bool.or_eq_true, Bool.not_eq_true',
    Bool.and_eq_false_iff, decide_eq_true_eq, decide_eq_false_iff_not, compareLaneQueueOrder_neg, Ahead,
    not_not]
  refine forall₂_congr fun v _ => ?_
  tauto

lemma isHead_iff (placed : List ℤ) (cand : VehicleEntry) :
    isHead entries placed cand = true ↔
      cand.replicaId ∉ placed ∧ ∀ v ∈ entries, Ahead v cand → v.replicaId ∈ placed := by
  rw [isHead, Bool.and_eq_true, decide_eq_true_eq, allSameLaneFrontPlaced_iff]

structure PriorityQueue.Sound (entries : List VehicleEntry) (s : PriorityQueue) : Prop where
  queued : ∀ e ∈ s.workQueue, e ∈ entries
  ids : ∀ i ∈ s.priorityIds, ∃ e ∈ s.workQueue, e.replicaId = i

lemma PriorityQueue.Sound.push {s : PriorityQueue} (h : s.Sound entries) {e : VehicleEntry} (he : e ∈ entries) :
    (s.push e).Sound entries := by
  unfold PriorityQueue.push
  split
  · exact h
  · refine ⟨?_, ?_⟩
    · intro x hx
      rcases List.mem_append.mp hx with hx | hx
      · exact h.queued x hx
      · exact List.mem_singleton.mp hx ▸ he
    · intro i hi
      rcases List.mem_cons.mp hi with rfl | hi
      · exact ⟨e, by simp, rfl⟩
      · obtain ⟨x, hx, hid⟩ := h.ids i hi
        exact ⟨x, List.mem_append_left _ hx, hid⟩

lemma PriorityQueue.Sound.foldl_push {s : PriorityQueue} (h : s.Sound entries) (es : List VehicleEntry)
    (hes : ∀ e ∈ es, e ∈ entries) : (es.foldl PriorityQueue.push s).Sound entries := by
  induction es generalizing s with
  | nil => exact h
  | cons e es ih =>
    exact ih (h.push (hes e (by simp))) fun x hx => hes x (by simp [hx])

lemma mem_of_mem_blockers {ambulance v : VehicleEntry} (h : v ∈ blockers entries ambulance) : v ∈ entries := by
  rw [blockers, List.mem_insertionSort] at h
  exact List.mem_of_mem_filter h

lemma mem_of_mem_ambulances {e : VehicleEntry} (h : e ∈ ambulances entries) : e ∈ entries := by
  rw [ambulances, List.mem_insertionSort] at h
  exact List.mem_of_mem_filter h

lemma PriorityQueue.Sound.pushAmbulance {s : PriorityQueue} (h : s.Sound entries) {ambulance : VehicleEntry}
    (ha : ambulance ∈ entries) : (PriorityQueue.pushAmbulance entries s ambulance).Sound entries :=
  (h.foldl_push _ fun _ hv => mem_of_mem_blockers hv).push ha

lemma priorityQueue_sound (entries : List VehicleEntry) : (priorityQueue entries).Sound entries := by
  have hfold : ∀ (as : List VehicleEntry) (s : PriorityQueue), s.Sound entries → (∀ a ∈ as, a ∈ entries) →
      (as.foldl (PriorityQueue.pushAmbulance entries) s).Sound entries := by
    intro as
    induction as with
    | nil => exact fun s hs _ => hs
    | cons a as ih =>
      exact fun s hs has => ih _ (hs.pushAmbulance (has a (by simp))) fun x hx => has x (by simp [hx])
  refine hfold _ _ ⟨?_, ?_⟩ fun a ha => mem_of_mem_ambulances ha <;> simp

lemma mem_workQueue (hd : Distinct entries) (e : VehicleEntry) : e ∈ workQueue entries ↔ e ∈ entries := by
  have hs := priorityQueue_sound entries
  constructor
  · intro h
    rcases List.mem_append.mp h with h | h
    · exact hs.queued e h
    · rw [remainingEntries, List.mem_insertionSort] at h
      exact List.mem_of_mem_filter h
  · intro h
    refine List.mem_append.mpr ?_
    by_cases hp : e.replicaId ∈ (priorityQueue entries).priorityIds
    · obtain ⟨x, hx, hid⟩ := hs.ids _ hp
      exact Or.inl (hd.eq_of_id (hs.queued x hx) h hid ▸ hx)
    · refine Or.inr ?_
      rw [remainingEntries, List.mem_insertionSort]
      exact List.mem_filter.mpr ⟨h, by simpa using hp⟩

end V2vBft.Scheduler
