import V2vBft.Scheduler.WorkQueue

namespace V2vBft.Scheduler

open Wire

variable {entries queue : List VehicleEntry}

def Compatible (a b : VehicleEntry) : Prop :=
  isSafeToBatch a.lane a.direction b.lane b.direction = true ∧ isQuietEntry a = false ∧ isQuietEntry b = false

def idsOf (batches : List (List VehicleEntry)) : List ℤ := batches.flatten.map VehicleEntry.replicaId

lemma Compatible.symm {a b : VehicleEntry} (h : Compatible a b) : Compatible b a := by
  obtain ⟨hs, ha, hb⟩ := h
  exact ⟨isSafeToBatch_comm .. ▸ hs, hb, ha⟩

instance : Std.Symm Compatible := ⟨fun _ _ => Compatible.symm⟩

@[simp] lemma idsOf_append (xs ys : List (List VehicleEntry)) : idsOf (xs ++ ys) = idsOf xs ++ idsOf ys := by
  simp [idsOf]

@[simp] lemma idsOf_singleton (b : List VehicleEntry) : idsOf [b] = b.map VehicleEntry.replicaId := by
  simp [idsOf]

structure Growing (entries : List VehicleEntry) (before : List ℤ) (s : BatchState) : Prop where
  placed : s.placed.Perm (before ++ s.batch.map VehicleEntry.replicaId)
  nodup : s.placed.Nodup
  nonempty : s.batch ≠ []
  entry : ∀ e ∈ s.batch, e ∈ entries
  fronts : ∀ e ∈ s.batch, ∀ v ∈ entries, Ahead v e → v.replicaId ∈ before
  compatible : s.batch.Pairwise Compatible

lemma Growing.opened {before : List ℤ} {head : VehicleEntry} (hb : before.Nodup) (he : head ∈ entries)
    (hh : isHead entries before head = true) :
    Growing entries before ⟨head.replicaId :: before, [head], false⟩ := by
  obtain ⟨hnew, hfront⟩ := (isHead_iff before head).mp hh
  refine ⟨?_, List.nodup_cons.mpr ⟨hnew, hb⟩, by simp, by simpa using he, by simpa using hfront, by simp⟩
  exact (List.perm_append_singleton _ _).symm

lemma admits_iff (s : BatchState) (cand : VehicleEntry) :
    admits entries s cand = true ↔
      isHead entries s.placed cand = true ∧ isQuietEntry cand = false ∧
        ∀ b ∈ s.batch, isSafeToBatch cand.lane cand.direction b.lane b.direction = true := by
  simp only [admits, safeWithWholeBatch, Bool.and_eq_true, Bool.not_eq_true']
  constructor
  · rintro ⟨⟨hh, hq⟩, hs⟩
    exact ⟨hh, hq, by simpa [hq] using hs⟩
  · rintro ⟨hh, hq, hs⟩
    exact ⟨⟨hh, hq⟩, by simpa [hq] using hs⟩

lemma Growing.admitted {before : List ℤ} {s : BatchState} (hd : Distinct entries)
    (h : Growing entries before s) (hq : ∀ b ∈ s.batch, isQuietEntry b = false) {cand : VehicleEntry}
    (hc : cand ∈ entries) (ha : admits entries s cand = true) (grew : Bool) :
    Growing entries before ⟨cand.replicaId :: s.placed, s.batch ++ [cand], grew⟩ := by
  obtain ⟨hhead, hquiet, hsafe⟩ := (admits_iff s cand).mp ha
  obtain ⟨hnew, hfront⟩ := (isHead_iff s.placed cand).mp hhead
  refine ⟨?_, List.nodup_cons.mpr ⟨hnew, h.nodup⟩, by simp, ?_, ?_, ?_⟩
  · have hsnoc := (List.perm_append_singleton cand.replicaId s.placed).symm
    simpa using hsnoc.trans (h.placed.append_right _)
  · intro e he
    rcases List.mem_append.mp he with he | he
    · exact h.entry e he
    · exact List.mem_singleton.mp he ▸ hc
  · intro e he v hv hahead
    rcases List.mem_append.mp he with he | he
    · exact h.fronts e he v hv hahead
    · obtain rfl := List.mem_singleton.mp he
      rcases List.mem_append.mp (h.placed.subset (hfront v hv hahead)) with hb | hb
      · exact hb
      -- a vehicle of the same lane is never safe with the candidate, so it is not in the open batch
      · obtain ⟨x, hx, hid⟩ := List.mem_map.mp hb
        obtain rfl := hd.eq_of_id (h.entry x hx) hv hid
        exact absurd hahead.1.symm (lane_ne_of_isSafeToBatch (hsafe x hx))
  · refine List.pairwise_append.mpr ⟨h.compatible, List.pairwise_singleton _ _, ?_⟩
    intro a hab b hb
    obtain rfl := List.mem_singleton.mp hb
    exact Compatible.symm ⟨hsafe a hab, hquiet, hq a hab⟩

structure GrowingLoud (entries : List VehicleEntry) (before : List ℤ) (s : BatchState) : Prop
    extends Growing entries before s where
  loud : ∀ b ∈ s.batch, isQuietEntry b = false

lemma GrowingLoud.admitCandidate {before : List ℤ} {s : BatchState} (hd : Distinct entries)
    (h : GrowingLoud entries before s) {cand : VehicleEntry} (hc : cand ∈ entries) :
    GrowingLoud entries before (admitCandidate entries s cand) := by
  unfold Scheduler.admitCandidate
  split
  next ha =>
    refine ⟨h.admitted hd h.loud hc ha true, ?_⟩
    intro b hb
    rcases List.mem_append.mp hb with hb | hb
    · exact h.loud b hb
    · exact List.mem_singleton.mp hb ▸ ((admits_iff s cand).mp ha).2.1
  next => exact h

lemma GrowingLoud.growPass {before : List ℤ} {s : BatchState} (hd : Distinct entries)
    (hqueue : ∀ e ∈ queue, e ∈ entries) (h : GrowingLoud entries before s) :
    GrowingLoud entries before (growPass entries queue s) := by
  have hfold : ∀ (es : List VehicleEntry) (t : BatchState), (∀ e ∈ es, e ∈ entries) →
      GrowingLoud entries before t → GrowingLoud entries before (es.foldl (Scheduler.admitCandidate entries) t) := by
    intro es
    induction es with
    | nil => exact fun t _ ht => ht
    | cons e es ih =>
      exact fun t hes ht => ih _ (fun x hx => hes x (by simp [hx])) (ht.admitCandidate hd (hes e (by simp)))
  exact hfold queue _ hqueue ⟨⟨h.placed, h.nodup, h.nonempty, h.entry, h.fronts, h.compatible⟩, h.loud⟩

lemma GrowingLoud.growBatch {before : List ℤ} (hd : Distinct entries) (hqueue : ∀ e ∈ queue, e ∈ entries)
    (fuel : ℕ) {s : BatchState} (h : GrowingLoud entries before s) :
    GrowingLoud entries before (growBatch entries queue fuel s) := by
  induction fuel generalizing s with
  | zero => exact h
  | succ fuel ih =>
    simp only [Scheduler.growBatch]
    split
    · exact ih (h.growPass hd hqueue)
    · exact h.growPass hd hqueue

structure Progress (entries : List VehicleEntry) (s : ScheduleState) : Prop where
  placed : s.placed.Perm (idsOf s.batchesOut)
  nodup : s.placed.Nodup
  entry : ∀ b ∈ s.batchesOut, ∀ e ∈ b, e ∈ entries
  nonempty : ∀ b ∈ s.batchesOut, b ≠ []
  compatible : ∀ b ∈ s.batchesOut, b.Pairwise Compatible
  fronts : ∀ k b, s.batchesOut[k]? = some b → ∀ e ∈ b, ∀ v ∈ entries, Ahead v e →
    v.replicaId ∈ idsOf (s.batchesOut.take k)
  headFound : s.noSchedulableHead = false

lemma Progress.initial : Progress entries ⟨[], [], false⟩ := by
  constructor <;> simp [idsOf]

lemma Progress.closeBatch {s : ScheduleState} {t : BatchState} (h : Progress entries s)
    (ht : Growing entries s.placed t) :
    Progress entries { s with placed := t.placed, batchesOut := s.batchesOut ++ [t.batch] } := by
  refine ⟨?_, ht.nodup, ?_, ?_, ?_, ?_, h.headFound⟩
  · simpa using ht.placed.trans (h.placed.append_right _)
  · intro b hb
    rcases List.mem_append.mp hb with hb | hb
    · exact h.entry b hb
    · exact List.mem_singleton.mp hb ▸ ht.entry
  · intro b hb
    rcases List.mem_append.mp hb with hb | hb
    · exact h.nonempty b hb
    · exact List.mem_singleton.mp hb ▸ ht.nonempty
  · intro b hb
    rcases List.mem_append.mp hb with hb | hb
    · exact h.compatible b hb
    · exact List.mem_singleton.mp hb ▸ ht.compatible
  · intro k b hk e he v hv hahead
    rcases lt_or_ge k s.batchesOut.length with hlt | hge
    · rw [List.getElem?_append_left hlt] at hk
      rw [List.take_append_of_le_length hlt.le]
      exact h.fronts k b hk e he v hv hahead
    · rw [List.getElem?_append_right hge] at hk
      obtain ⟨hlen, rfl⟩ : k - s.batchesOut.length = 0 ∧ t.batch = b := by
        simpa [List.getElem?_singleton] using hk
      obtain rfl : k = s.batchesOut.length := by omega
      rw [List.take_left]
      exact h.placed.subset (ht.fronts e he v hv hahead)

end V2vBft.Scheduler
