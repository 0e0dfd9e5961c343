import V2vBft.Scheduler.Correctness

namespace V2vBft.Scheduler

open Wire

variable {entries entries' queue : List VehicleEntry}

lemma insertionSort_eq_of_perm {α : Type*} (r : α → α → Prop) [DecidableRel r] [Std.Total r] [IsTrans α r]
    {l l' : List α} (hanti : ∀ a ∈ l, ∀ b ∈ l, r a b → r b a → a = b) (h : l.Perm l') :
    l.insertionSort r = l'.insertionSort r := by
  have hperm : (l.insertionSort r).Perm (l'.insertionSort r) :=
    (List.perm_insertionSort r l).trans (h.trans (List.perm_insertionSort r l').symm)
  refine List.Perm.eq_of_pairwise (fun a b ha hb => ?_) (List.pairwise_insertionSort r l)
    (List.pairwise_insertionSort r l') hperm
  have ha' : a ∈ l := (List.mem_insertionSort r).mp ha
  have hb' : b ∈ l := h.symm.subset ((List.mem_insertionSort r).mp hb)
  exact hanti a ha' b hb'

lemma queueLe_iff (a b : VehicleEntry) : queueLe a b = true ↔ queueKey a ≤ queueKey b := by
  rw [← not_lt, queueKey_lt, queueLe]
  split
  · simp only [decide_eq_true_eq]
    omega
  · simp only [decide_eq_true_eq]
    omega

def remainingKey (e : VehicleEntry) : ℕ ×ₗ ℤ ×ₗ ℕ := toLex (e.positionInLane, toLex (e.replicaId, e.simTimeUs))

lemma remainingLe_iff (a b : VehicleEntry) : remainingLe a b = true ↔ remainingKey a ≤ remainingKey b := by
  rw [remainingKey, remainingKey, Prod.Lex.toLex_le_toLex, Prod.Lex.toLex_le_toLex, remainingLe]
  split
  · simp only [decide_eq_true_eq]
    omega
  · split
    · simp only [decide_eq_true_eq]
      omega
    · simp only [decide_eq_true_eq]
      omega

instance : Std.Total fun a b : VehicleEntry => queueLe a b = true :=
  ⟨fun a b => by simpa only [queueLe_iff] using le_total _ _⟩

instance : IsTrans VehicleEntry fun a b => queueLe a b = true :=
  ⟨fun a b c => by simpa only [queueLe_iff] using le_trans⟩

instance : Std.Total fun a b : VehicleEntry => remainingLe a b = true :=
  ⟨fun a b => by simpa only [remainingLe_iff] using le_total _ _⟩

instance : IsTrans VehicleEntry fun a b => remainingLe a b = true :=
  ⟨fun a b c => by simpa only [remainingLe_iff] using le_trans⟩

lemma id_eq_of_queueLe {a b : VehicleEntry} (hab : queueLe a b = true) (hba : queueLe b a = true) :
    a.replicaId = b.replicaId := by
  have hkey : queueKey a = queueKey b := le_antisymm ((queueLe_iff a b).mp hab) ((queueLe_iff b a).mp hba)
  exact congrArg (fun k => (ofLex k).2) hkey

lemma id_eq_of_remainingLe {a b : VehicleEntry} (hab : remainingLe a b = true) (hba : remainingLe b a = true) :
    a.replicaId = b.replicaId := by
  have hkey : remainingKey a = remainingKey b :=
    le_antisymm ((remainingLe_iff a b).mp hab) ((remainingLe_iff b a).mp hba)
  exact congrArg (fun k => (ofLex (ofLex k).2).1) hkey

lemma sortedFilter_perm (hd : Distinct entries) (h : entries.Perm entries') (p : VehicleEntry → Bool) :
    (entries.filter p).insertionSort (queueLe · ·) = (entries'.filter p).insertionSort (queueLe · ·) := by
  refine insertionSort_eq_of_perm _ (fun a ha b hb hab hba => ?_) (h.filter p)
  exact hd.eq_of_id (List.mem_of_mem_filter ha) (List.mem_of_mem_filter hb) (id_eq_of_queueLe hab hba)

lemma priorityQueue_perm (hd : Distinct entries) (h : entries.Perm entries') :
    priorityQueue entries = priorityQueue entries' := by
  have hpush : PriorityQueue.pushAmbulance entries = PriorityQueue.pushAmbulance entries' := by
    funext s ambulance
    rw [PriorityQueue.pushAmbulance, blockers, sortedFilter_perm hd h, ← blockers, ← PriorityQueue.pushAmbulance]
  rw [priorityQueue, hpush, ambulances, sortedFilter_perm hd h, ← ambulances, ← priorityQueue]

lemma workQueue_perm (hd : Distinct entries) (h : entries.Perm entries') : workQueue entries = workQueue entries' := by
  have hremaining : remainingEntries entries = remainingEntries entries' := by
    rw [remainingEntries, remainingEntries, priorityQueue_perm hd h]
    refine insertionSort_eq_of_perm _ (fun a ha b hb hab hba => ?_) (h.filter _)
    exact hd.eq_of_id (List.mem_of_mem_filter ha) (List.mem_of_mem_filter hb) (id_eq_of_remainingLe hab hba)
  rw [workQueue, priorityQueue_perm hd h, hremaining, ← workQueue]

lemma isHead_perm (h : entries.Perm entries') : isHead entries = isHead entries' := by
  funext placed cand
  rw [isHead, allSameLaneFrontPlaced, h.all_eq, ← allSameLaneFrontPlaced, ← isHead]

lemma growBatch_perm (h : entries.Perm entries') (fuel : ℕ) (s : BatchState) :
    growBatch entries queue fuel s = growBatch entries' queue fuel s := by
  have hadmit : admitCandidate entries = admitCandidate entries' := by
    funext s cand
    rw [admitCandidate, admits, isHead_perm h, ← admits, ← admitCandidate]
  have hpass : growPass entries queue = growPass entries' queue := by
    funext s
    rw [growPass, hadmit, ← growPass]
  induction fuel generalizing s with
  | zero => rfl
  | succ fuel ih => simp only [growBatch, hpass, ih]

lemma placeHead_perm (h : entries.Perm entries') (allSingleton : Bool) (s : ScheduleState) (head : VehicleEntry) :
    placeHead allSingleton entries queue s head = placeHead allSingleton entries' queue s head := by
  simp only [placeHead, growBatch_perm h]

lemma scheduleLoop_perm (allSingleton : Bool) (hd : Distinct entries) (h : entries.Perm entries')
    (hqueue : ∀ e, e ∈ queue ↔ e ∈ entries) (fuel : ℕ) {s : ScheduleState} (hs : Progress entries s) :
    scheduleLoop allSingleton entries queue fuel s = scheduleLoop allSingleton entries' queue fuel s := by
  induction fuel generalizing s with
  | zero => rfl
  | succ fuel ih =>
    rw [scheduleLoop, scheduleLoop, h.length_eq, isHead_perm h]
    split
    next hlt =>
      obtain ⟨e, he, hhead⟩ := exists_head hd (h.length_eq ▸ hlt)
      split
      next hnone =>
        rw [isHead_perm h] at hhead
        exact absurd hhead (List.find?_eq_none.mp hnone e ((hqueue e).mpr he))
      next head hfind =>
        have hmem : head ∈ entries := (hqueue head).mp (List.mem_of_find?_eq_some hfind)
        have hhead : isHead entries s.placed head = true := isHead_perm h ▸ List.find?_some hfind
        rw [ih (hs.placeHead hd (fun x hx => (hqueue x).mp hx) allSingleton hmem hhead), placeHead_perm h]
    next => rfl

theorem schedule_perm (allSingleton : Bool) (hd : Distinct entries) (h : entries.Perm entries') :
    schedule allSingleton entries = schedule allSingleton entries' := by
  rw [schedule, scheduleLoop_perm allSingleton hd h (mem_workQueue hd) _ Progress.initial, workQueue_perm hd h,
    h.length_eq, ← schedule]

def scheduleDecisions (singletonEnv : Option String) (entries : List VehicleEntry) : List VehicleDecision :=
  decisionsOf entries (schedule (allSingletonMode singletonEnv) entries).batchesOut

lemma buildIntersectionSchedule_orderBytes (singletonEnv : Option String) (hdr : ProposeHdr)
    (entries : List VehicleEntry) :
    (buildIntersectionSchedule singletonEnv hdr entries).orderBytes =
      orderBytes ⟨hdr.epoch, entries.length, (buildIntersectionSchedule singletonEnv hdr entries).nBatches⟩
        (scheduleDecisions singletonEnv entries) := rfl

lemma scheduleDecisions_perm (singletonEnv : Option String) (hd : Distinct entries) (h : entries.Perm entries') :
    (scheduleDecisions singletonEnv entries).Perm (scheduleDecisions singletonEnv entries') := by
  rw [scheduleDecisions, scheduleDecisions, schedule_perm _ hd h, decisionsOf_eq_map, decisionsOf_eq_map]
  exact h.map _

theorem buildIntersectionSchedule_perm (singletonEnv : Option String) (hdr hdr' : ProposeHdr)
    (entries entries' : List VehicleEntry) (hd : (entries.map VehicleEntry.replicaId).Nodup)
    (h : entries.Perm entries') :
    (buildIntersectionSchedule singletonEnv hdr entries).nBatches =
        (buildIntersectionSchedule singletonEnv hdr' entries').nBatches ∧
      ∀ i k, ⟨i, k⟩ ∈ scheduleDecisions singletonEnv entries ↔ ⟨i, k⟩ ∈ scheduleDecisions singletonEnv entries' := by
  refine ⟨?_, fun i k => (scheduleDecisions_perm singletonEnv hd h).mem_iff⟩
  simp only [buildIntersectionSchedule, schedule_perm _ hd h]

theorem buildIntersectionSchedule_perm_queue :
    (buildIntersectionSchedule none ⟨0, 4, 0, 3⟩
        [⟨4, 10, 0, 0, 0, 1, 1, 0, 0⟩, ⟨7, 12, 0, 1, 0, 1, 1, 0, 0⟩, ⟨2, 15, 0, 0, 0, 2, 0, 0, 0⟩]).nBatches =
      (buildIntersectionSchedule none ⟨0, 7, 9, 3⟩
        [⟨2, 15, 0, 0, 0, 2, 0, 0, 0⟩, ⟨7, 12, 0, 1, 0, 1, 1, 0, 0⟩, ⟨4, 10, 0, 0, 0, 1, 1, 0, 0⟩]).nBatches :=
  (buildIntersectionSchedule_perm none ⟨0, 4, 0, 3⟩ ⟨0, 7, 9, 3⟩ _ _ (by decide) (by decide)).1

end V2vBft.Scheduler
