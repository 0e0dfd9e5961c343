import V2vBft.Scheduler.Priority

/-! The schedule of the priority vehicles alone is the whole schedule with the other vehicles struck out. -/

namespace V2vBft.Scheduler

open Wire

variable {entries queue : List VehicleEntry}

lemma admits_grew (s : BatchState) (grew : Bool) (cand : VehicleEntry) :
    admits entries { s with grew := grew } cand = admits entries s cand := rfl

-- an admission only closes doors: it puts no vehicle in front of a candidate that could still join its batch
lemma admits_of_admitCandidate (hd : Distinct entries) {s : BatchState} {c cand : VehicleEntry} (hc : c ∈ entries)
    (h : admits entries (admitCandidate entries s c) cand = true) : admits entries s cand = true := by
  rw [admitCandidate] at h
  split at h
  next hadm =>
    obtain ⟨hhead, hquiet, hsafe⟩ := (admits_iff _ cand).mp h
    obtain ⟨hnew, hfront⟩ := (isHead_iff _ cand).mp hhead
    refine (admits_iff s cand).mpr ⟨(isHead_iff _ cand).mpr ⟨fun hp => hnew (List.mem_cons_of_mem _ hp), ?_⟩, hquiet,
      fun b hb => hsafe b (List.mem_append_left _ hb)⟩
    intro v hv hahead
    rcases List.mem_cons.mp (hfront v hv hahead) with hid | hp
    · obtain rfl := hd.eq_of_id hv hc hid
      have hne := lane_ne_of_isSafeToBatch (hsafe v (List.mem_append_right _ (List.mem_singleton_self v)))
      exact absurd hahead.1.symm hne
    · exact hp
  next => exact h

lemma not_admits_admitCandidate (s : BatchState) (c : VehicleEntry) :
    admits entries (admitCandidate entries s c) c = false := by
  rw [admitCandidate]
  split
  next =>
    rw [← Bool.not_eq_true]
    intro h
    have hnew := ((isHead_iff _ c).mp ((admits_iff _ c).mp h).1).1
    exact hnew List.mem_cons_self
  next h => simpa using h

lemma not_admits_foldl (hd : Distinct entries) (es : List VehicleEntry) (hes : ∀ e ∈ es, e ∈ entries) (s : BatchState)
    (cand : VehicleEntry) (h : cand ∈ es ∨ admits entries s cand = false) :
    admits entries (es.foldl (admitCandidate entries) s) cand = false := by
  induction es generalizing s with
  | nil => exact h.resolve_left (by simp)
  | cons e es ih =>
    refine ih (fun x hx => hes x (by simp [hx])) _ ?_
    by_cases hmem : cand ∈ es
    · exact Or.inl hmem
    · refine Or.inr ?_
      rcases h with h | h
      · obtain rfl : cand = e := (List.mem_cons.mp h).resolve_right hmem
        exact not_admits_admitCandidate s cand
      · rw [← Bool.not_eq_true] at h ⊢
        exact fun hadm => h (admits_of_admitCandidate hd (hes e (by simp)) hadm)

lemma growPass_idle {s : BatchState} (h : ∀ e ∈ queue, admits entries s e = false) :
    growPass entries queue s = { s with grew := false } := by
  rw [growPass]
  induction queue with
  | nil => rfl
  | cons e es ih =>
    have hskip : admitCandidate entries { s with grew := false } e = { s with grew := false } := by
      rw [admitCandidate, admits_grew, h e (by simp)]
      rfl
    rw [List.foldl_cons, hskip]
    exact ih fun x hx => h x (by simp [hx])

lemma growBatch_onePass (hd : Distinct entries) (hqueue : ∀ e ∈ queue, e ∈ entries) (fuel : ℕ) (s : BatchState) :
    (growBatch entries queue (fuel + 1) s).placed = (growPass entries queue s).placed ∧
      (growBatch entries queue (fuel + 1) s).batch = (growPass entries queue s).batch := by
  have hidle : growPass entries queue (growPass entries queue s) = { growPass entries queue s with grew := false } :=
    growPass_idle fun e he => not_admits_foldl hd queue hqueue _ e (Or.inl he)
  rw [growBatch]
  split
  next =>
    cases fuel with
    | zero => exact ⟨rfl, rfl⟩
    | succ fuel => simp [growBatch, hidle]
  next => exact ⟨rfl, rfl⟩

def keptIds (entries : List VehicleEntry) (placed : List ℤ) : List ℤ :=
  placed.filter fun i => decide (i ∈ (priorityEntries entries).map VehicleEntry.replicaId)

def BatchState.kept (entries : List VehicleEntry) (s : BatchState) : BatchState :=
  ⟨keptIds entries s.placed, s.batch.filter (isPriority entries), s.grew⟩

def ScheduleState.kept (entries : List VehicleEntry) (s : ScheduleState) : ScheduleState :=
  ⟨keptIds entries s.placed, s.batchesOut.map (List.filter (isPriority entries)), s.noSchedulableHead⟩

lemma mem_keptIds {e : VehicleEntry} (he : e ∈ priorityEntries entries) {placed : List ℤ} :
    e.replicaId ∈ keptIds entries placed ↔ e.replicaId ∈ placed := by
  rw [keptIds, List.mem_filter, decide_eq_true_eq]
  exact and_iff_left (List.mem_map_of_mem he)

lemma keptIds_cons_priority {e : VehicleEntry} (he : e ∈ priorityEntries entries) (placed : List ℤ) :
    keptIds entries (e.replicaId :: placed) = e.replicaId :: keptIds entries placed := by
  rw [keptIds, List.filter_cons_of_pos, ← keptIds]
  simpa using List.mem_map_of_mem (f := VehicleEntry.replicaId) he

lemma keptIds_cons_other (hd : Distinct entries) {e : VehicleEntry} (he : e ∈ entries)
    (hp : isPriority entries e = false) (placed : List ℤ) :
    keptIds entries (e.replicaId :: placed) = keptIds entries placed := by
  rw [keptIds, List.filter_cons_of_neg, ← keptIds]
  rw [decide_eq_true_eq, List.mem_map]
  rintro ⟨x, hx, hid⟩
  obtain ⟨hxe, hxp⟩ := mem_priorityEntries.mp hx
  obtain rfl := hd.eq_of_id hxe he hid
  exact absurd hxp (by simp [hp])

lemma isHead_kept {cand : VehicleEntry} (hc : cand ∈ priorityEntries entries) (placed : List ℤ) :
    isHead (priorityEntries entries) (keptIds entries placed) cand = isHead entries placed cand := by
  obtain ⟨hce, hcp⟩ := mem_priorityEntries.mp hc
  rw [Bool.eq_iff_iff, isHead_iff, isHead_iff, mem_keptIds hc]
  refine and_congr_right fun _ => ⟨fun h v hv hahead => ?_, fun h v hv hahead => ?_⟩
  · have hvp := mem_priorityEntries.mpr ⟨hv, isPriority_of_ahead hce hcp hahead⟩
    exact (mem_keptIds hvp).mp (h v hvp hahead)
  · exact (mem_keptIds hv).mpr (h v (mem_priorityEntries.mp hv).1 hahead)

lemma admitCandidate_priority {s : BatchState} (hbatch : ∀ b ∈ s.batch, isPriority entries b = true)
    {cand : VehicleEntry} (hc : cand ∈ priorityEntries entries) :
    admitCandidate (priorityEntries entries) (s.kept entries) cand = (admitCandidate entries s cand).kept entries ∧
      ∀ b ∈ (admitCandidate entries s cand).batch, isPriority entries b = true := by
  have hcp := (mem_priorityEntries.mp hc).2
  have hall : s.batch.filter (isPriority entries) = s.batch := List.filter_eq_self.mpr hbatch
  have hadm : admits (priorityEntries entries) (s.kept entries) cand = admits entries s cand := by
    simp only [admits, BatchState.kept, isHead_kept hc, hall]
  rw [admitCandidate, admitCandidate, hadm]
  split
  next =>
    refine ⟨?_, fun b hb => ?_⟩
    · simp only [BatchState.kept, keptIds_cons_priority hc, List.filter_append, List.filter_cons_of_pos hcp,
        List.filter_nil]
    · rcases List.mem_append.mp hb with hb | hb
      · exact hbatch b hb
      · exact List.mem_singleton.mp hb ▸ hcp
  next => exact ⟨rfl, hbatch⟩

lemma foldl_admitCandidate_priority (es : List VehicleEntry) (hes : ∀ e ∈ es, e ∈ priorityEntries entries)
    (s : BatchState) (hbatch : ∀ b ∈ s.batch, isPriority entries b = true) :
    es.foldl (admitCandidate (priorityEntries entries)) (s.kept entries) =
      (es.foldl (admitCandidate entries) s).kept entries := by
  induction es generalizing s with
  | nil => rfl
  | cons e es ih =>
    obtain ⟨hkept, hstill⟩ := admitCandidate_priority hbatch (hes e (by simp))
    rw [List.foldl_cons, List.foldl_cons, hkept]
    exact ih (fun x hx => hes x (by simp [hx])) _ hstill

lemma foldl_admitCandidate_other (hd : Distinct entries) (es : List VehicleEntry) (hes : ∀ e ∈ es, e ∈ entries)
    (hother : ∀ e ∈ es, isPriority entries e = false) (s : BatchState) :
    ((es.foldl (admitCandidate entries) s).kept entries).placed = (s.kept entries).placed ∧
      ((es.foldl (admitCandidate entries) s).kept entries).batch = (s.kept entries).batch := by
  induction es generalizing s with
  | nil => exact ⟨rfl, rfl⟩
  | cons e es ih =>
    have hstep : ((admitCandidate entries s e).kept entries).placed = (s.kept entries).placed ∧
        ((admitCandidate entries s e).kept entries).batch = (s.kept entries).batch := by
      rw [admitCandidate]
      split
      next =>
        have hp : ¬isPriority entries e = true := by simp [hother e (by simp)]
        simp only [BatchState.kept, keptIds_cons_other hd (hes e (by simp)) (hother e (by simp)), List.filter_append,
          List.filter_cons_of_neg hp, List.filter_nil, List.append_nil, and_self]
      next => exact ⟨rfl, rfl⟩
    obtain ⟨hplaced, hbatch⟩ := ih (fun x hx => hes x (by simp [hx])) (fun x hx => hother x (by simp [hx]))
      (admitCandidate entries s e)
    exact ⟨hplaced.trans hstep.1, hbatch.trans hstep.2⟩

section Split

variable {first rest : List VehicleEntry}

lemma growBatch_kept (hd : Distinct entries) (hfirst : ∀ e ∈ first, e ∈ priorityEntries entries)
    (hrest : ∀ e ∈ rest, e ∈ entries ∧ isPriority entries e = false) (fuel fuel' : ℕ) (s : BatchState)
    (hbatch : ∀ b ∈ s.batch, isPriority entries b = true) :
    keptIds entries (growBatch entries (first ++ rest) (fuel + 1) s).placed =
        (growBatch (priorityEntries entries) first (fuel' + 1) (s.kept entries)).placed ∧
      (growBatch entries (first ++ rest) (fuel + 1) s).batch.filter (isPriority entries) =
        (growBatch (priorityEntries entries) first (fuel' + 1) (s.kept entries)).batch := by
  have hqueue : ∀ e ∈ first ++ rest, e ∈ entries := by
    intro e he
    rcases List.mem_append.mp he with he | he
    · exact (mem_priorityEntries.mp (hfirst e he)).1
    · exact (hrest e he).1
  obtain ⟨hplaced, hmembers⟩ := growBatch_onePass hd hqueue fuel s
  obtain ⟨hplaced', hmembers'⟩ := growBatch_onePass hd.priority hfirst fuel' (s.kept entries)
  have hfold := foldl_admitCandidate_priority first hfirst { s with grew := false } hbatch
  obtain ⟨hp, hb⟩ := foldl_admitCandidate_other hd rest (fun e he => (hrest e he).1) (fun e he => (hrest e he).2)
    (first.foldl (admitCandidate entries) { s with grew := false })
  rw [hplaced, hmembers, hplaced', hmembers', growPass, growPass, List.foldl_append]
  exact ⟨hp.trans (congrArg BatchState.placed hfold).symm, hb.trans (congrArg BatchState.batch hfold).symm⟩

lemma placeHead_kept (hd : Distinct entries) (hfirst : ∀ e ∈ first, e ∈ priorityEntries entries)
    (hrest : ∀ e ∈ rest, e ∈ entries ∧ isPriority entries e = false) (allSingleton : Bool) (s : ScheduleState)
    {head : VehicleEntry} (he : head ∈ priorityEntries entries) :
    (placeHead allSingleton entries (first ++ rest) s head).kept entries =
      placeHead allSingleton (priorityEntries entries) first (s.kept entries) head := by
  have hp := (mem_priorityEntries.mp he).2
  have hopen : BatchState.kept entries ⟨head.replicaId :: s.placed, [head], false⟩ =
      ⟨head.replicaId :: keptIds entries s.placed, [head], false⟩ := by
    simp only [BatchState.kept, keptIds_cons_priority he, List.filter_cons_of_pos hp, List.filter_nil]
  have hkept : ∀ placed batch, (ScheduleState.mk placed (s.batchesOut ++ [batch]) s.noSchedulableHead).kept entries =
      ⟨keptIds entries placed, (s.kept entries).batchesOut ++ [batch.filter (isPriority entries)],
        s.noSchedulableHead⟩ := by
    intro placed batch
    simp [ScheduleState.kept]
  obtain ⟨hplaced, hbatch⟩ := growBatch_kept hd hfirst hrest (first ++ rest).length first.length
    ⟨head.replicaId :: s.placed, [head], false⟩ (by simpa using hp)
  rw [hopen] at hplaced hbatch
  rw [placeHead, placeHead, hkept]
  by_cases halone : allSingleton = true ∨ isQuietEntry head = true
  · have hsimple : ∀ a b : BatchState, (if allSingleton then a else if isQuietEntry head then a else b) = a := by
      intro a b
      rcases halone with h | h <;> simp [h]
    rw [hsimple, hsimple]
    simp only [keptIds_cons_priority he, List.filter_cons_of_pos hp, List.filter_nil, ScheduleState.kept]
  · obtain ⟨hmode, hloud⟩ := not_or.mp halone
    rw [if_neg hmode, if_neg hloud, if_neg hmode, if_neg hloud, hplaced, hbatch]
    rfl

lemma scheduleLoop_after (hd : Distinct entries) (hqueue : ∀ e, e ∈ queue ↔ e ∈ entries) (allSingleton : Bool)
    (fuel : ℕ) {s : ScheduleState} (hs : Progress entries s)
    (hdone : ∀ e ∈ priorityEntries entries, e.replicaId ∈ s.placed) :
    ∃ m, (scheduleLoop allSingleton entries queue fuel s).batchesOut.map (List.filter (isPriority entries)) =
      (s.kept entries).batchesOut ++ List.replicate m [] := by
  induction fuel generalizing s with
  | zero => exact ⟨0, by simp [scheduleLoop, ScheduleState.kept]⟩
  | succ fuel ih =>
    rw [scheduleLoop]
    split
    next hlt =>
      obtain ⟨e, he, hhead⟩ := exists_head hd hlt
      split
      next hnone => exact absurd hhead (List.find?_eq_none.mp hnone e ((hqueue e).mpr he))
      next head hfind =>
        have hmem : head ∈ entries := (hqueue head).mp (List.mem_of_find?_eq_some hfind)
        have hmembers : ∀ e ∈ queue, e ∈ entries := fun e he => (hqueue e).mp he
        obtain ⟨t, ht, heq⟩ := placeHead_growing hd hmembers hs.nodup allSingleton hmem (List.find?_some hfind)
        have hnew : t.batch.filter (isPriority entries) = [] := by
          rw [List.filter_eq_nil_iff]
          intro b hb hp
          have hbefore := hdone b (mem_priorityEntries.mpr ⟨ht.entry b hb, hp⟩)
          have hnodup := ht.placed.nodup_iff.mp ht.nodup
          exact (List.nodup_append.mp hnodup).2.2 _ hbefore _ (List.mem_map_of_mem hb) rfl
        have hplaced : ∀ e ∈ priorityEntries entries, e.replicaId ∈ t.placed := fun e he =>
          ht.placed.symm.subset (List.mem_append_left _ (hdone e he))
        have hprogress := hs.placeHead hd hmembers allSingleton hmem (List.find?_some hfind)
        rw [heq] at hprogress ⊢
        obtain ⟨m, hm⟩ := ih hprogress hplaced
        refine ⟨m + 1, hm.trans ?_⟩
        simp [ScheduleState.kept, hnew, List.replicate_succ]
    next => exact ⟨0, by simp [ScheduleState.kept]⟩

lemma placed_iff_kept_full (hd : Distinct entries) {placed : List ℤ} (hn : placed.Nodup) :
    (priorityEntries entries).length ≤ (keptIds entries placed).length ↔
      ∀ e ∈ priorityEntries entries, e.replicaId ∈ placed := by
  have hsub : keptIds entries placed ⊆ (priorityEntries entries).map VehicleEntry.replicaId := by
    intro i hi
    rw [keptIds, List.mem_filter, decide_eq_true_eq] at hi
    exact hi.2
  refine ⟨fun hfull e he => (mem_keptIds he).mp (placed_of_full (hn.filter _) hsub hfull he), fun h => ?_⟩
  have hids : (priorityEntries entries).map VehicleEntry.replicaId ⊆ keptIds entries placed := by
    intro i hi
    obtain ⟨e, he, rfl⟩ := List.mem_map.mp hi
    exact (mem_keptIds he).mpr (h e he)
  simpa using (List.Nodup.subperm hd.priority hids).length_le

lemma scheduleLoop_full (allSingleton : Bool) (fuel : ℕ) {s : ScheduleState} (h : entries.length ≤ s.placed.length) :
    scheduleLoop allSingleton entries queue fuel s = s := by
  cases fuel with
  | zero => rfl
  | succ fuel => rw [scheduleLoop, if_neg (not_lt.mpr h)]

theorem scheduleLoop_kept (hd : Distinct entries) (hfirst : ∀ e ∈ first, e ∈ priorityEntries entries)
    (hrest : ∀ e ∈ rest, e ∈ entries ∧ isPriority entries e = false)
    (hqueue : ∀ e, e ∈ first ++ rest ↔ e ∈ entries) (allSingleton : Bool) (fuel fuel' : ℕ) {s : ScheduleState}
    (hs : Progress entries s) (hfuel : entries.length ≤ s.placed.length + fuel)
    (hfuel' : (priorityEntries entries).length ≤ (s.kept entries).placed.length + fuel') :
    ∃ m, (scheduleLoop allSingleton entries (first ++ rest) fuel s).batchesOut.map
        (List.filter (isPriority entries)) =
      (scheduleLoop allSingleton (priorityEntries entries) first fuel' (s.kept entries)).batchesOut ++
        List.replicate m [] := by
  induction fuel generalizing fuel' s with
  | zero =>
    have hplaced : ∀ e ∈ priorityEntries entries, e.replicaId ∈ s.placed := fun e he =>
      placed_of_full hs.nodup hs.placed_subset (by omega) (mem_priorityEntries.mp he).1
    have hfull : (priorityEntries entries).length ≤ (s.kept entries).placed.length :=
      (placed_iff_kept_full hd hs.nodup).mpr hplaced
    rw [scheduleLoop, scheduleLoop_full _ _ hfull]
    exact ⟨0, by simp [ScheduleState.kept]⟩
  | succ fuel ih =>
    by_cases hdone : ∀ e ∈ priorityEntries entries, e.replicaId ∈ s.placed
    · have hfull : (priorityEntries entries).length ≤ (s.kept entries).placed.length :=
        (placed_iff_kept_full hd hs.nodup).mpr hdone
      rw [scheduleLoop_full _ fuel' hfull]
      exact scheduleLoop_after hd hqueue allSingleton _ hs hdone
    · have hlt' : (s.kept entries).placed.length < (priorityEntries entries).length :=
        not_le.mp fun hfull => hdone ((placed_iff_kept_full hd hs.nodup).mp hfull)
      have hlt : s.placed.length < entries.length := by
        by_contra hge
        exact hdone fun e he =>
          placed_of_full hs.nodup hs.placed_subset (not_lt.mp hge) (mem_priorityEntries.mp he).1
      obtain ⟨e, he, hhead⟩ := exists_head hd.priority hlt'
      have hsame : first.find? (isHead entries s.placed) =
          first.find? (isHead (priorityEntries entries) (s.kept entries).placed) :=
        List.find?_congr fun x hx => (isHead_kept (hfirst x hx) s.placed).symm
      have hefirst : e ∈ first := by
        obtain ⟨hee, hep⟩ := mem_priorityEntries.mp he
        rcases List.mem_append.mp ((hqueue e).mpr hee) with h | h
        · exact h
        · exact absurd hep (by simp [(hrest e h).2])
      obtain ⟨head, hfound⟩ : ∃ head, first.find? (isHead (priorityEntries entries) (s.kept entries).placed) =
          some head := by
        rw [← Option.isSome_iff_exists, List.find?_isSome]
        exact ⟨e, hefirst, hhead⟩
      have hheadp : head ∈ priorityEntries entries := hfirst head (List.mem_of_find?_eq_some hfound)
      have hfind : (first ++ rest).find? (isHead entries s.placed) = some head := by
        rw [List.find?_append, hsame, hfound, Option.some_or]
      obtain ⟨k, rfl⟩ : ∃ k, fuel' = k + 1 := ⟨fuel' - 1, by omega⟩
      have hstep := placeHead_kept hd hfirst hrest allSingleton s hheadp
      have hlen := placeHead_length allSingleton entries (first ++ rest) s head
      have hlen' := placeHead_length allSingleton (priorityEntries entries) first (s.kept entries) head
      have hprogress := hs.placeHead hd (fun x hx => (hqueue x).mp hx) allSingleton (mem_priorityEntries.mp hheadp).1
        (List.find?_some hfind)
      rw [← hstep] at hlen'
      rw [scheduleLoop, if_pos hlt, scheduleLoop, if_pos hlt']
      simp only [hfind, hfound]
      rw [← hstep]
      exact ih k hprogress (by omega) (by omega)

end Split

theorem schedule_kept (hd : Distinct entries) (hs : AmbulancesSigned entries) (allSingleton : Bool) :
    ∃ m, (schedule allSingleton entries).batchesOut.map (List.filter (isPriority entries)) =
      (schedule allSingleton (priorityEntries entries)).batchesOut ++ List.replicate m [] := by
  obtain ⟨hqueue, hother⟩ := workQueue_split hs
  have hfirst := (priorityQueue_filled hs).1.priority
  have hrest : ∀ e ∈ remainingEntries entries, e ∈ entries ∧ isPriority entries e = false := fun e he =>
    ⟨(mem_workQueue hd e).mp (List.mem_append_right _ he), hother e he⟩
  rw [schedule, schedule, hqueue]
  exact scheduleLoop_kept hd hfirst hrest (mem_workQueue hd) allSingleton _ _ Progress.initial (by simp) (by simp)

lemma mem_scheduleDecisions (singletonEnv : Option String) (hd : Distinct entries) {e : VehicleEntry}
    (he : e ∈ entries) (k : ℕ) :
    ⟨e.replicaId, k⟩ ∈ scheduleDecisions singletonEnv entries ↔
      ∃ b, (schedule (allSingletonMode singletonEnv) entries).batchesOut[k]? = some b ∧ e ∈ b := by
  obtain ⟨hp, hplaced⟩ := schedule_progress (allSingletonMode singletonEnv) hd
  have hall : ∀ e ∈ entries, e.replicaId ∈ idsOf (schedule (allSingletonMode singletonEnv) entries).batchesOut :=
    fun e he => hp.placed.subset (hplaced e he)
  constructor
  · intro h
    obtain ⟨b, hb, hi⟩ := batch_of_decision hall h
    exact ⟨b, hb, hp.batch_entry hd he hb hi⟩
  · rintro ⟨b, hb, hmem⟩
    obtain ⟨k', hk'⟩ := decision_of_entry he hall
    obtain ⟨b', hb', hi'⟩ := batch_of_decision hall hk'
    obtain rfl := batch_index_unique (hp.placed.nodup_iff.mp hp.nodup) hb hb' (List.mem_map_of_mem hmem) hi'
    exact hk'

lemma mem_kept_batch_iff {α : Type*} {p : α → Bool} {full alone : List (List α)} {m : ℕ}
    (h : full.map (List.filter p) = alone ++ List.replicate m []) {e : α} (he : p e = true) (k : ℕ) :
    (∃ b, full[k]? = some b ∧ e ∈ b) ↔ ∃ b, alone[k]? = some b ∧ e ∈ b := by
  have hget : (full.map (List.filter p))[k]? = (alone ++ List.replicate m [])[k]? := by rw [h]
  rw [List.getElem?_map] at hget
  constructor
  · rintro ⟨b, hb, hmem⟩
    have hkept : e ∈ b.filter p := List.mem_filter.mpr ⟨hmem, he⟩
    rw [hb, Option.map_some] at hget
    rcases lt_or_ge k alone.length with hlt | hge
    · rw [List.getElem?_append_left hlt] at hget
      exact ⟨_, hget.symm, hkept⟩
    · rw [List.getElem?_append_right hge] at hget
      obtain ⟨_, hnil⟩ := List.getElem?_eq_some_iff.mp hget.symm
      rw [List.getElem_replicate] at hnil
      exact absurd hkept (by simp [← hnil])
  · rintro ⟨b, hb, hmem⟩
    have hlt : k < alone.length := (List.getElem?_eq_some_iff.mp hb).1
    rw [List.getElem?_append_left hlt, hb] at hget
    obtain ⟨c, hc, rfl⟩ := Option.map_eq_some_iff.mp hget
    exact ⟨c, hc, List.mem_of_mem_filter hmem⟩

theorem buildIntersectionSchedule_priority (singletonEnv : Option String) (entries : List VehicleEntry)
    (hd : (entries.map VehicleEntry.replicaId).Nodup)
    (hsigned : ∀ e ∈ entries, e.isAmbulance ≠ 0 → e.cyberStatus = 1 ∧ e.simTimeUs ≠ uint64Max) :
    (∀ e ∈ entries, isPriority entries e = true → ∀ k, ⟨e.replicaId, k⟩ ∈ scheduleDecisions singletonEnv entries ↔
      ⟨e.replicaId, k⟩ ∈ scheduleDecisions singletonEnv (priorityEntries entries)) ∧
    ∀ e ∈ entries, isPriority entries e = true → ∀ k, ⟨e.replicaId, k⟩ ∈ scheduleDecisions singletonEnv entries →
      ∀ j < k, ∃ v ∈ entries, isPriority entries v = true ∧
        ⟨v.replicaId, j⟩ ∈ scheduleDecisions singletonEnv entries := by
  have hdp : Distinct (priorityEntries entries) := Distinct.priority hd
  obtain ⟨m, hm⟩ := schedule_kept hd hsigned (allSingletonMode singletonEnv)
  obtain ⟨hp', _⟩ := schedule_progress (allSingletonMode singletonEnv) hdp
  refine ⟨fun e he hp k => ?_, fun e he hp k hk j hj => ?_⟩
  · rw [mem_scheduleDecisions singletonEnv hd he,
      mem_scheduleDecisions singletonEnv hdp (mem_priorityEntries.mpr ⟨he, hp⟩)]
    exact mem_kept_batch_iff hm hp k
  · rw [mem_scheduleDecisions singletonEnv hd he] at hk
    obtain ⟨b, hb, _⟩ := (mem_kept_batch_iff hm hp k).mp hk
    have hlt : j < (schedule (allSingletonMode singletonEnv) (priorityEntries entries)).batchesOut.length :=
      hj.trans (List.getElem?_eq_some_iff.mp hb).1
    obtain ⟨v, hv⟩ := List.exists_mem_of_ne_nil _ (hp'.nonempty _ (List.getElem_mem hlt))
    obtain ⟨hve, hvp⟩ := mem_priorityEntries.mp (hp'.entry _ (List.getElem_mem hlt) v hv)
    refine ⟨v, hve, hvp, (mem_scheduleDecisions singletonEnv hd hve j).mpr ?_⟩
    exact (mem_kept_batch_iff hm hvp j).mpr ⟨_, List.getElem?_eq_getElem hlt, hv⟩

def ambulanceQueue : List VehicleEntry :=
  [⟨1, 10, 0, 1, 1, 1, 1, 0, 0⟩, ⟨3, 12, 0, 0, 1, 1, 1, 0, 0⟩, ⟨7, 15, 1, 0, 0, 2, 1, 0, 0⟩]

theorem buildIntersectionSchedule_priority_ambulance :
    ⟨7, 1⟩ ∈ scheduleDecisions none ambulanceQueue ∧
      (⟨7, 1⟩ ∈ scheduleDecisions none ambulanceQueue ↔
        ⟨7, 1⟩ ∈ scheduleDecisions none (priorityEntries ambulanceQueue)) :=
  ⟨by decide +kernel, (buildIntersectionSchedule_priority none ambulanceQueue (by decide) (by decide)).1
    ⟨7, 15, 1, 0, 0, 2, 1, 0, 0⟩ (by decide) (by decide) 1⟩

end V2vBft.Scheduler
