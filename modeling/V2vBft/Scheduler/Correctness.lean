import V2vBft.Scheduler.Termination

namespace V2vBft.Scheduler

open Wire

variable {entries : List VehicleEntry}

structure CrossingOrder (entries : List VehicleEntry) (nBatches : ℕ) (decisions : List VehicleDecision) :
    Prop where
  complete : decisions.map VehicleDecision.replicaId = entries.map VehicleEntry.replicaId
  bounded : ∀ d ∈ decisions, d.batchIndex < nBatches
  inhabited : ∀ k < nBatches, ∃ d ∈ decisions, d.batchIndex = k
  safe : ∀ a ∈ entries, ∀ b ∈ entries, a ≠ b → ∀ k, ⟨a.replicaId, k⟩ ∈ decisions → ⟨b.replicaId, k⟩ ∈ decisions →
    isSafeToBatch a.lane a.direction b.lane b.direction = true ∧ isQuietEntry a = false ∧ isQuietEntry b = false
  quietAlone : ∀ a ∈ entries, isQuietEntry a = true → ∀ b ∈ entries, ∀ k, ⟨a.replicaId, k⟩ ∈ decisions →
    ⟨b.replicaId, k⟩ ∈ decisions → b = a
  laneOrder : ∀ a ∈ entries, ∀ b ∈ entries, a.lane = b.lane →
    (a.positionInLane < b.positionInLane ∨ a.positionInLane = b.positionInLane ∧ a.replicaId < b.replicaId) →
    ∀ j k, ⟨a.replicaId, j⟩ ∈ decisions → ⟨b.replicaId, k⟩ ∈ decisions → j < k

def assignOne (bi : ℕ) (e : VehicleEntry) (d : VehicleDecision) (b : VehicleEntry) : VehicleDecision :=
  if e.replicaId = b.replicaId then ⟨b.replicaId, bi⟩ else d

def decisionFor (batches : List (List VehicleEntry × ℕ)) (e : VehicleEntry) (d : VehicleDecision) :
    VehicleDecision :=
  batches.foldl (fun d b => b.1.foldl (assignOne b.2 e) d) d

lemma foldl_assign (bi : ℕ) (batch : List VehicleEntry) (f : VehicleEntry → VehicleDecision) :
    batch.foldl (assign entries bi) (entries.map f) =
      entries.map fun e => batch.foldl (assignOne bi e) (f e) := by
  induction batch generalizing f with
  | nil => rfl
  | cons b batch ih =>
    simp only [List.foldl_cons]
    rw [← ih, assign, List.zipWith_map_right, List.zipWith_self]
    rfl

lemma decisionsOf_eq_map (batchesOut : List (List VehicleEntry)) :
    decisionsOf entries batchesOut = entries.map fun e => decisionFor batchesOut.zipIdx e ⟨0, 0⟩ := by
  have hfold : ∀ (bs : List (List VehicleEntry × ℕ)) (f : VehicleEntry → VehicleDecision),
      bs.foldl (fun ds b => b.1.foldl (assign entries b.2) ds) (entries.map f) =
        entries.map fun e => decisionFor bs e (f e) := by
    intro bs
    induction bs with
    | nil => exact fun _ => rfl
    | cons b bs ih =>
      intro f
      rw [List.foldl_cons, foldl_assign, ih]
      rfl
  exact hfold _ _

lemma foldl_assignOne (bi : ℕ) (e : VehicleEntry) (batch : List VehicleEntry) (d : VehicleDecision) :
    batch.foldl (assignOne bi e) d =
      if e.replicaId ∈ batch.map VehicleEntry.replicaId then ⟨e.replicaId, bi⟩ else d := by
  induction batch generalizing d with
  | nil => rfl
  | cons b batch ih =>
    rw [List.foldl_cons, ih, List.map_cons]
    by_cases hb : e.replicaId = b.replicaId
    · simp [assignOne, hb]
    · simp [assignOne, hb]

lemma decisionFor_cases (batches : List (List VehicleEntry)) (start : ℕ) (e : VehicleEntry) (d : VehicleDecision) :
    (decisionFor (batches.zipIdx start) e d = d ∧ e.replicaId ∉ idsOf batches) ∨
      ∃ k b, batches[k]? = some b ∧ e.replicaId ∈ b.map VehicleEntry.replicaId ∧
        decisionFor (batches.zipIdx start) e d = ⟨e.replicaId, start + k⟩ := by
  induction batches generalizing start d with
  | nil => exact Or.inl ⟨rfl, by simp [idsOf]⟩
  | cons b batches ih =>
    have hstep : decisionFor ((b :: batches).zipIdx start) e d =
        decisionFor (batches.zipIdx (start + 1)) e
          (if e.replicaId ∈ b.map VehicleEntry.replicaId then ⟨e.replicaId, start⟩ else d) := by
      rw [List.zipIdx_cons, decisionFor, List.foldl_cons, foldl_assignOne]
      rfl
    rw [hstep]
    rcases ih (start + 1) (if e.replicaId ∈ b.map VehicleEntry.replicaId then ⟨e.replicaId, start⟩ else d) with
      ⟨heq, hnot⟩ | ⟨k, b', hk, hmem, heq⟩
    · rw [heq]
      by_cases hb : e.replicaId ∈ b.map VehicleEntry.replicaId
      · exact Or.inr ⟨0, b, rfl, hb, by simp only [if_pos hb, Nat.add_zero]⟩
      · refine Or.inl ⟨if_neg hb, ?_⟩
        have hsplit : idsOf (b :: batches) = b.map VehicleEntry.replicaId ++ idsOf batches := by simp [idsOf]
        rw [hsplit, List.mem_append]
        exact not_or.mpr ⟨hb, hnot⟩
    · exact Or.inr ⟨k + 1, b', by simpa using hk, hmem, by rw [heq]; congr 1; omega⟩

lemma batch_of_decision {batchesOut : List (List VehicleEntry)} {i : ℤ} {k : ℕ}
    (hall : ∀ e ∈ entries, e.replicaId ∈ idsOf batchesOut)
    (h : ⟨i, k⟩ ∈ decisionsOf entries batchesOut) :
    ∃ b, batchesOut[k]? = some b ∧ i ∈ b.map VehicleEntry.replicaId := by
  rw [decisionsOf_eq_map] at h
  obtain ⟨e, he, heq⟩ := List.mem_map.mp h
  rcases decisionFor_cases batchesOut 0 e ⟨0, 0⟩ with ⟨-, hnot⟩ | ⟨k', b, hk, hmem, hdec⟩
  · exact absurd (hall e he) hnot
  · rw [hdec, VehicleDecision.mk.injEq, Nat.zero_add] at heq
    obtain ⟨rfl, rfl⟩ := heq
    exact ⟨b, hk, hmem⟩

lemma decision_of_entry {batchesOut : List (List VehicleEntry)} {e : VehicleEntry} (he : e ∈ entries)
    (hall : ∀ e ∈ entries, e.replicaId ∈ idsOf batchesOut) :
    ∃ k, ⟨e.replicaId, k⟩ ∈ decisionsOf entries batchesOut := by
  rw [decisionsOf_eq_map]
  rcases decisionFor_cases batchesOut 0 e ⟨0, 0⟩ with ⟨-, hnot⟩ | ⟨k, b, hk, hmem, hdec⟩
  · exact absurd (hall e he) hnot
  · exact ⟨0 + k, List.mem_map.mpr ⟨e, he, hdec⟩⟩

lemma decisionsOf_ids {batchesOut : List (List VehicleEntry)}
    (hall : ∀ e ∈ entries, e.replicaId ∈ idsOf batchesOut) :
    (decisionsOf entries batchesOut).map VehicleDecision.replicaId = entries.map VehicleEntry.replicaId := by
  rw [decisionsOf_eq_map, List.map_map]
  refine List.map_congr_left fun e he => ?_
  rcases decisionFor_cases batchesOut 0 e ⟨0, 0⟩ with ⟨-, hnot⟩ | ⟨k, b, hk, hmem, hdec⟩
  · exact absurd (hall e he) hnot
  · simp [hdec]

lemma batch_index_unique {batchesOut : List (List VehicleEntry)} (hn : (idsOf batchesOut).Nodup) {i : ℤ}
    {j k : ℕ} {b c : List VehicleEntry} (hb : batchesOut[j]? = some b) (hc : batchesOut[k]? = some c)
    (hib : i ∈ b.map VehicleEntry.replicaId) (hic : i ∈ c.map VehicleEntry.replicaId) : j = k := by
  have hflat : (batchesOut.map (List.map VehicleEntry.replicaId)).flatten.Nodup := by
    simpa [idsOf, List.map_flatten] using hn
  have hdis := List.pairwise_map.mp (List.nodup_flatten.mp hflat).2
  obtain ⟨hj, rfl⟩ := List.getElem?_eq_some_iff.mp hb
  obtain ⟨hk, rfl⟩ := List.getElem?_eq_some_iff.mp hc
  rcases lt_trichotomy j k with hlt | heq | hgt
  · exact (List.pairwise_iff_getElem.mp hdis j k hj hk hlt hib hic).elim
  · exact heq
  · exact (List.pairwise_iff_getElem.mp hdis k j hk hj hgt hic hib).elim

lemma Progress.batch_entry (hd : Distinct entries) {s : ScheduleState} (h : Progress entries s) {e : VehicleEntry}
    (he : e ∈ entries) {k : ℕ} {b : List VehicleEntry} (hb : s.batchesOut[k]? = some b)
    (hi : e.replicaId ∈ b.map VehicleEntry.replicaId) : e ∈ b := by
  obtain ⟨x, hx, hid⟩ := List.mem_map.mp hi
  have hxe := h.entry b (List.mem_of_getElem? hb) x hx
  exact hd.eq_of_id hxe he hid ▸ hx

lemma Progress.crossingOrder (hd : Distinct entries) {s : ScheduleState} (h : Progress entries s)
    (hplaced : ∀ e ∈ entries, e.replicaId ∈ s.placed) :
    CrossingOrder entries s.batchesOut.length (decisionsOf entries s.batchesOut) := by
  have hall : ∀ e ∈ entries, e.replicaId ∈ idsOf s.batchesOut := fun e he => h.placed.subset (hplaced e he)
  have hn : (idsOf s.batchesOut).Nodup := h.placed.nodup_iff.mp h.nodup
  have hsafe : ∀ a ∈ entries, ∀ b ∈ entries, a ≠ b → ∀ k,
      ⟨a.replicaId, k⟩ ∈ decisionsOf entries s.batchesOut →
      ⟨b.replicaId, k⟩ ∈ decisionsOf entries s.batchesOut → Compatible a b := by
    intro a ha b hb hne k hak hbk
    obtain ⟨batch, hbatch, hia⟩ := batch_of_decision hall hak
    obtain ⟨batch', hbatch', hib⟩ := batch_of_decision hall hbk
    obtain rfl : batch = batch' := Option.some.inj (hbatch.symm.trans hbatch')
    have hpair := h.compatible batch (List.mem_of_getElem? hbatch)
    exact hpair.forall (h.batch_entry hd ha hbatch hia)
      (h.batch_entry hd hb hbatch hib) hne
  refine ⟨decisionsOf_ids hall, ?_, ?_, hsafe, ?_, ?_⟩
  · rintro ⟨i, k⟩ hmem
    obtain ⟨b, hb, -⟩ := batch_of_decision hall hmem
    exact (List.getElem?_eq_some_iff.mp hb).1
  · intro k hk
    have hb : s.batchesOut[k]? = some s.batchesOut[k] := List.getElem?_eq_getElem hk
    have hbm := List.mem_of_getElem? hb
    obtain ⟨e, he⟩ := List.exists_mem_of_ne_nil _ (h.nonempty _ hbm)
    obtain ⟨k', hk'⟩ := decision_of_entry (h.entry _ hbm e he) hall
    obtain ⟨b', hb', hib'⟩ := batch_of_decision hall hk'
    exact ⟨⟨e.replicaId, k'⟩, hk', batch_index_unique hn hb' hb hib' (List.mem_map_of_mem he)⟩
  · intro a ha hquiet b hb k hak hbk
    by_contra hne
    have hcompat := hsafe a ha b hb (Ne.symm hne) k hak hbk
    exact absurd hquiet (by simp [hcompat.2.1])
  · intro a ha b hb hlane horder j k haj hbk
    obtain ⟨batch, hbatch, hia⟩ := batch_of_decision hall haj
    obtain ⟨batch', hbatch', hib⟩ := batch_of_decision hall hbk
    have hfront := h.fronts k batch' hbatch' b (h.batch_entry hd hb hbatch' hib) a ha
      ⟨hlane, (queueKey_lt a b).mpr horder⟩
    obtain ⟨x, hx, hid⟩ := List.mem_map.mp hfront
    obtain ⟨earlier, hearlier, hxe⟩ := List.mem_flatten.mp hx
    obtain ⟨i, hi⟩ := List.getElem?_of_mem hearlier
    have hik : i < k := (List.getElem?_eq_some_iff.mp hi).1.trans_le (List.length_take_le ..)
    rw [List.getElem?_take_of_lt hik] at hi
    have hji := batch_index_unique hn hbatch hi hia (List.mem_map.mpr ⟨x, hxe, hid⟩)
    omega

theorem buildIntersectionSchedule_crossingOrder (singletonEnv : Option String) (hdr : ProposeHdr)
    (entries : List VehicleEntry) (hd : (entries.map VehicleEntry.replicaId).Nodup) :
    ∃ decisions,
      (buildIntersectionSchedule singletonEnv hdr entries).orderBytes =
        orderBytes ⟨hdr.epoch, entries.length, (buildIntersectionSchedule singletonEnv hdr entries).nBatches⟩
          decisions ∧
      CrossingOrder entries (buildIntersectionSchedule singletonEnv hdr entries).nBatches decisions ∧
      (schedule (allSingletonMode singletonEnv) entries).noSchedulableHead = false := by
  obtain ⟨hp, hplaced⟩ := schedule_progress (allSingletonMode singletonEnv) hd
  exact ⟨_, rfl, hp.crossingOrder hd hplaced, hp.headFound⟩

theorem buildIntersectionSchedule_crossingOrder_queue :
    ∃ decisions, CrossingOrder
      [⟨4, 10, 0, 0, 0, 1, 1, 0, 0⟩, ⟨7, 12, 0, 1, 0, 1, 1, 0, 0⟩, ⟨2, 15, 0, 0, 0, 2, 0, 0, 0⟩] 2 decisions := by
  obtain ⟨decisions, -, horder, -⟩ := buildIntersectionSchedule_crossingOrder none ⟨0, 4, 0, 3⟩
    [⟨4, 10, 0, 0, 0, 1, 1, 0, 0⟩, ⟨7, 12, 0, 1, 0, 1, 1, 0, 0⟩, ⟨2, 15, 0, 0, 0, 2, 0, 0, 0⟩] (by decide)
  exact ⟨decisions, horder⟩

end V2vBft.Scheduler
