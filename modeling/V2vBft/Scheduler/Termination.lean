import V2vBft.Scheduler.Batches

namespace V2vBft.Scheduler

open Wire

variable {entries queue : List VehicleEntry}

lemma placed_length_le {placed : List ℤ} (hn : placed.Nodup)
    (hs : placed ⊆ entries.map VehicleEntry.replicaId) : placed.length ≤ entries.length := by
  have hsub : List.Subperm placed (entries.map VehicleEntry.replicaId) := hn.subperm hs
  simpa using hsub.length_le

lemma placed_of_full {placed : List ℤ} (hn : placed.Nodup)
    (hs : placed ⊆ entries.map VehicleEntry.replicaId) (hfull : entries.length ≤ placed.length)
    {e : VehicleEntry} (he : e ∈ entries) : e.replicaId ∈ placed := by
  have hperm := (hn.subperm hs).perm_of_length_le (by simpa using hfull)
  exact hperm.symm.subset (List.mem_map_of_mem he)

lemma Growing.placed_subset {before : List ℤ} {s : BatchState} (h : Growing entries before s)
    (hb : before ⊆ entries.map VehicleEntry.replicaId) : s.placed ⊆ entries.map VehicleEntry.replicaId := by
  intro i hi
  rcases List.mem_append.mp (h.placed.subset hi) with hi | hi
  · exact hb hi
  · obtain ⟨e, he, rfl⟩ := List.mem_map.mp hi
    exact List.mem_map_of_mem (h.entry e he)

lemma Progress.placed_subset {s : ScheduleState} (h : Progress entries s) :
    s.placed ⊆ entries.map VehicleEntry.replicaId := by
  intro i hi
  obtain ⟨e, he, rfl⟩ := List.mem_map.mp (h.placed.subset hi)
  obtain ⟨b, hb, heb⟩ := List.mem_flatten.mp he
  exact List.mem_map_of_mem (h.entry b hb e heb)

lemma growPass_length (entries queue : List VehicleEntry) (s : BatchState) :
    s.placed.length ≤ (growPass entries queue s).placed.length ∧
      ((growPass entries queue s).grew = true → s.placed.length < (growPass entries queue s).placed.length) := by
  have hfold : ∀ (es : List VehicleEntry) (t : BatchState),
      s.placed.length ≤ t.placed.length → (t.grew = true → s.placed.length < t.placed.length) →
      s.placed.length ≤ (es.foldl (admitCandidate entries) t).placed.length ∧
        ((es.foldl (admitCandidate entries) t).grew = true →
          s.placed.length < (es.foldl (admitCandidate entries) t).placed.length) := by
    intro es
    induction es with
    | nil => exact fun t hle hlt => ⟨hle, hlt⟩
    | cons e es ih =>
      intro t hle hlt
      refine ih _ ?_ ?_ <;> unfold admitCandidate <;> split
      · exact hle.trans (Nat.le_succ _)
      · exact hle
      · exact fun _ => Nat.lt_succ_of_le hle
      · exact hlt
  exact hfold queue _ le_rfl (by simp)

lemma growBatch_length (entries queue : List VehicleEntry) (fuel : ℕ) (s : BatchState) :
    s.placed.length ≤ (growBatch entries queue fuel s).placed.length := by
  induction fuel generalizing s with
  | zero => exact le_rfl
  | succ fuel ih =>
    have hpass := (growPass_length entries queue s).1
    simp only [growBatch]
    split
    · exact hpass.trans (ih _)
    · exact hpass

theorem growBatch_finishes {before : List ℤ} (hd : Distinct entries) (hqueue : ∀ e ∈ queue, e ∈ entries)
    (hb : before ⊆ entries.map VehicleEntry.replicaId) (fuel : ℕ) {s : BatchState}
    (h : GrowingLoud entries before s) (hfuel : entries.length < s.placed.length + fuel) :
    (growBatch entries queue fuel s).grew = false := by
  induction fuel generalizing s with
  | zero =>
    have hle := placed_length_le h.nodup (h.placed_subset hb)
    omega
  | succ fuel ih =>
    simp only [growBatch]
    split
    next hg =>
      have hlt := (growPass_length entries queue s).2 hg
      exact ih (h.growPass hd hqueue) (by omega)
    next hg => simpa using hg

lemma placeHead_length (allSingleton : Bool) (entries queue : List VehicleEntry) (s : ScheduleState)
    (head : VehicleEntry) :
    s.placed.length < (placeHead allSingleton entries queue s head).placed.length := by
  have hopen : s.placed.length < (head.replicaId :: s.placed).length := by simp
  simp only [placeHead]
  split
  · exact hopen
  · split
    · exact hopen
    · exact lt_of_lt_of_le hopen (growBatch_length entries queue _ ⟨head.replicaId :: s.placed, [head], false⟩)

lemma placeHead_growing {s : ScheduleState} (hd : Distinct entries) (hqueue : ∀ e ∈ queue, e ∈ entries)
    (hplaced : s.placed.Nodup) (allSingleton : Bool) {head : VehicleEntry} (he : head ∈ entries)
    (hh : isHead entries s.placed head = true) :
    ∃ t, Growing entries s.placed t ∧ placeHead allSingleton entries queue s head =
      { s with placed := t.placed, batchesOut := s.batchesOut ++ [t.batch] } := by
  have hopen := Growing.opened hplaced he hh
  refine ⟨_, ?_, rfl⟩
  split
  · exact hopen
  · split
    · exact hopen
    next hq => exact (GrowingLoud.growBatch hd hqueue _ ⟨hopen, by simpa using hq⟩).toGrowing

lemma Progress.placeHead {s : ScheduleState} (hd : Distinct entries) (hqueue : ∀ e ∈ queue, e ∈ entries)
    (h : Progress entries s) (allSingleton : Bool) {head : VehicleEntry} (he : head ∈ entries)
    (hh : isHead entries s.placed head = true) :
    Progress entries (placeHead allSingleton entries queue s head) := by
  obtain ⟨t, ht, heq⟩ := placeHead_growing hd hqueue h.nodup allSingleton he hh
  exact heq ▸ h.closeBatch ht

lemma exists_head {s : ScheduleState} (hd : Distinct entries) (hlt : s.placed.length < entries.length) : ∃ e ∈ entries, isHead entries s.placed e = true := by
  obtain ⟨e₀, he₀, hnew₀⟩ : ∃ e ∈ entries, e.replicaId ∉ s.placed := by
    by_contra hall
    push Not at hall
    have hids : entries.map VehicleEntry.replicaId ⊆ s.placed := by
      intro i hi
      obtain ⟨e, he, rfl⟩ := List.mem_map.mp hi
      exact hall e he
    have hle := (List.Nodup.subperm hd hids).length_le
    simp only [List.length_map] at hle
    omega
  let unplaced := (entries.filter fun e => decide (e.replicaId ∉ s.placed)).toFinset
  have hmem : ∀ e, e ∈ unplaced ↔ e ∈ entries ∧ e.replicaId ∉ s.placed := by
    intro e
    simp [unplaced]
  obtain ⟨e, heu, hmin⟩ := unplaced.exists_min_image queueKey ⟨e₀, (hmem e₀).mpr ⟨he₀, hnew₀⟩⟩
  obtain ⟨he, hnew⟩ := (hmem e).mp heu
  refine ⟨e, he, (isHead_iff _ _).mpr ⟨hnew, fun v hv hahead => ?_⟩⟩
  by_contra hvnew
  exact absurd hahead.2 (not_lt.mpr (hmin v ((hmem v).mpr ⟨hv, hvnew⟩)))

lemma Progress.scheduleLoop (allSingleton : Bool) (hd : Distinct entries)
    (hqueue : ∀ e, e ∈ queue ↔ e ∈ entries) (fuel : ℕ) {s : ScheduleState} (h : Progress entries s) :
    Progress entries (scheduleLoop allSingleton entries queue fuel s) ∧
      min entries.length (s.placed.length + fuel) ≤
        (scheduleLoop allSingleton entries queue fuel s).placed.length := by
  induction fuel generalizing s with
  | zero => exact ⟨h, by simp [Scheduler.scheduleLoop]⟩
  | succ fuel ih =>
    simp only [Scheduler.scheduleLoop]
    split
    next hlt =>
      obtain ⟨e, he, hhead⟩ := exists_head hd hlt
      split
      next hnone => exact absurd hhead (by simpa using List.find?_eq_none.mp hnone e ((hqueue e).mpr he))
      next head hfind =>
        have hm := (hqueue head).mp (List.mem_of_find?_eq_some hfind)
        have hp := h.placeHead hd (fun x hx => (hqueue x).mp hx) allSingleton hm (List.find?_some hfind)
        obtain ⟨hprogress, hlen⟩ := ih hp
        have hgrow := placeHead_length allSingleton entries queue s head
        exact ⟨hprogress, le_trans (by omega) hlen⟩
    next hge => exact ⟨h, by omega⟩

theorem schedule_progress (allSingleton : Bool) (hd : Distinct entries) :
    Progress entries (schedule allSingleton entries) ∧
      ∀ e ∈ entries, e.replicaId ∈ (schedule allSingleton entries).placed := by
  obtain ⟨hp, hlen⟩ := Progress.initial.scheduleLoop allSingleton hd (mem_workQueue hd) entries.length
  refine ⟨hp, fun e he => placed_of_full hp.nodup hp.placed_subset ?_ he⟩
  simpa using hlen

end V2vBft.Scheduler
