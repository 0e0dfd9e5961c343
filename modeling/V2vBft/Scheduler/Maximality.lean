import V2vBft.Scheduler.Termination

namespace V2vBft.Scheduler

open Wire

variable {entries queue : List VehicleEntry}

def Maximal (entries : List VehicleEntry) (placed : List ℤ) (batch : List VehicleEntry) : Prop :=
  ∀ v ∈ entries, v.replicaId ∉ placed → isQuietEntry v = false → allSameLaneFrontPlaced v entries placed = true →
    safeWithWholeBatch v batch = false

structure BatchRules (batch : List VehicleEntry) : Prop where
  safe : ∀ a ∈ batch, ∀ b ∈ batch, a ≠ b → isSafeToBatch a.lane a.direction b.lane b.direction = true
  quietAlone : ∀ a ∈ batch, isQuietEntry a = true → ∀ b ∈ batch, b = a
  laneOrder : ∀ a ∈ batch, ∀ b ∈ batch, ¬Ahead a b

lemma Maximal.mono {placed placed' : List ℤ} {batch : List VehicleEntry} (h : Maximal entries placed batch)
    (hids : ∀ i, i ∈ placed ↔ i ∈ placed') : Maximal entries placed' batch := by
  intro v hv hnew hquiet hfront
  refine h v hv (fun hin => hnew ((hids _).mp hin)) hquiet ?_
  rw [allSameLaneFrontPlaced_iff] at hfront ⊢
  exact fun w hw hahead => (hids _).mpr (hfront w hw hahead)

lemma admitCandidate_grew {s : BatchState} (h : s.grew = true) (cand : VehicleEntry) :
    (admitCandidate entries s cand).grew = true := by
  rw [admitCandidate]
  split
  · rfl
  · exact h

lemma foldl_admitCandidate_grew (es : List VehicleEntry) {s : BatchState} (h : s.grew = true) :
    (es.foldl (admitCandidate entries) s).grew = true := by
  induction es generalizing s with
  | nil => exact h
  | cons e es ih => exact ih (admitCandidate_grew h e)

lemma foldl_admitCandidate_still (es : List VehicleEntry) {s : BatchState}
    (h : (es.foldl (admitCandidate entries) s).grew = false) :
    es.foldl (admitCandidate entries) s = s ∧ ∀ cand ∈ es, admits entries s cand = false := by
  induction es generalizing s with
  | nil => exact ⟨rfl, by simp⟩
  | cons e es ih =>
    rw [List.foldl_cons] at h ⊢
    cases hadmits : admits entries s e with
    | true =>
      have hgrew : (admitCandidate entries s e).grew = true := by rw [admitCandidate, if_pos hadmits]
      rw [foldl_admitCandidate_grew es hgrew] at h
      cases h
    | false =>
      have hsame : admitCandidate entries s e = s := by rw [admitCandidate, hadmits, if_neg (by simp)]
      rw [hsame] at h ⊢
      obtain ⟨hstill, hrefused⟩ := ih h
      exact ⟨hstill, List.forall_mem_cons.mpr ⟨hadmits, hrefused⟩⟩

lemma growPass_still {s : BatchState} (h : (growPass entries queue s).grew = false) {cand : VehicleEntry}
    (hcand : cand ∈ queue) : admits entries (growPass entries queue s) cand = false := by
  rw [growPass] at h ⊢
  obtain ⟨hstill, hrefused⟩ := foldl_admitCandidate_still queue h
  rw [hstill]
  exact hrefused cand hcand

lemma growBatch_still (fuel : ℕ) {s : BatchState} (h : (growBatch entries queue (fuel + 1) s).grew = false)
    {cand : VehicleEntry} (hcand : cand ∈ queue) :
    admits entries (growBatch entries queue (fuel + 1) s) cand = false := by
  induction fuel generalizing s with
  | zero =>
    simp only [growBatch, ite_self] at h ⊢
    exact growPass_still h hcand
  | succ fuel ih =>
    rw [growBatch] at h ⊢
    split at h
    next hgrew =>
      rw [if_pos hgrew]
      exact ih h
    next hgrew =>
      rw [if_neg hgrew]
      exact growPass_still h hcand

lemma maximal_of_still {s : BatchState} (hqueue : ∀ e ∈ entries, e ∈ queue)
    (h : ∀ cand ∈ queue, admits entries s cand = false) : Maximal entries s.placed s.batch := by
  intro v hv hnew hquiet hfront
  have hrefused := h v (hqueue v hv)
  have hhead : isHead entries s.placed v = true := by rw [isHead, decide_eq_true hnew, hfront, Bool.true_and]
  rwa [admits, hhead, hquiet, Bool.not_false, Bool.true_and, Bool.true_and] at hrefused

lemma growBatch_maximal {before : List ℤ} (hd : Distinct entries) (hqueue : ∀ e, e ∈ queue ↔ e ∈ entries)
    (hb : before ⊆ entries.map VehicleEntry.replicaId) {s : BatchState} (h : GrowingLoud entries before s) :
    Maximal entries (growBatch entries queue (queue.length + 1) s).placed
      (growBatch entries queue (queue.length + 1) s).batch := by
  have hlen : entries.length ≤ queue.length :=
    (List.Nodup.subperm (List.Nodup.of_map _ hd) fun e he => (hqueue e).mpr he).length_le
  have hstill := growBatch_finishes hd (fun e he => (hqueue e).mp he) hb (queue.length + 1) h (by omega)
  exact maximal_of_still (fun e he => (hqueue e).mpr he) fun cand hcand => growBatch_still queue.length hstill hcand

def ClosedMaximal (entries : List VehicleEntry) (batchesOut : List (List VehicleEntry)) : Prop :=
  ∀ pre batch post, batchesOut = pre ++ batch :: post → ∀ head, batch.head? = some head → isQuietEntry head = false →
    Maximal entries (idsOf (pre ++ [batch])) batch

lemma ClosedMaximal.snoc {batchesOut : List (List VehicleEntry)} (h : ClosedMaximal entries batchesOut)
    {batch : List VehicleEntry}
    (hnew : ∀ head, batch.head? = some head → isQuietEntry head = false →
      Maximal entries (idsOf (batchesOut ++ [batch])) batch) : ClosedMaximal entries (batchesOut ++ [batch]) := by
  intro pre b post hsplit head hhead hloud
  rcases List.eq_nil_or_concat post with rfl | ⟨post, last, rfl⟩
  · obtain ⟨rfl, hlast⟩ := List.append_inj' hsplit rfl
    obtain rfl := List.singleton_inj.mp hlast
    exact hnew head hhead hloud
  · rw [List.concat_eq_append, ← List.cons_append, ← List.append_assoc] at hsplit
    obtain ⟨rfl, -⟩ := List.append_inj' hsplit rfl
    exact h pre b post rfl head hhead hloud

lemma ClosedMaximal.placeHead {s : ScheduleState} (hd : Distinct entries) (hqueue : ∀ e, e ∈ queue ↔ e ∈ entries)
    (hp : Progress entries s) (h : ClosedMaximal entries s.batchesOut) {head : VehicleEntry} (he : head ∈ entries)
    (hh : isHead entries s.placed head = true) :
    ClosedMaximal entries (Scheduler.placeHead false entries queue s head).batchesOut := by
  have hnext := hp.placeHead hd (fun e he => (hqueue e).mp he) false he hh
  have hids : ∀ i, i ∈ (Scheduler.placeHead false entries queue s head).placed ↔
      i ∈ idsOf (Scheduler.placeHead false entries queue s head).batchesOut := fun i => hnext.placed.mem_iff
  rw [Scheduler.placeHead] at hids ⊢
  dsimp only at hids ⊢
  rw [if_neg (by simp)] at hids ⊢
  cases hquiet : isQuietEntry head with
  | true =>
    rw [if_pos rfl]
    refine h.snoc fun first hfirst hloud => ?_
    rw [List.head?_cons, Option.some.injEq] at hfirst
    rw [← hfirst, hquiet] at hloud
    cases hloud
  | false =>
    rw [hquiet, if_neg (by simp)] at hids
    rw [if_neg (by simp)]
    have hopen : GrowingLoud entries s.placed ⟨head.replicaId :: s.placed, [head], false⟩ :=
      ⟨Growing.opened hp.nodup he hh, by simpa using hquiet⟩
    exact h.snoc fun _ _ _ => (growBatch_maximal hd hqueue hp.placed_subset hopen).mono hids

lemma ClosedMaximal.scheduleLoop (hd : Distinct entries) (hqueue : ∀ e, e ∈ queue ↔ e ∈ entries) (fuel : ℕ)
    {s : ScheduleState} (hp : Progress entries s) (h : ClosedMaximal entries s.batchesOut) :
    ClosedMaximal entries (scheduleLoop false entries queue fuel s).batchesOut := by
  induction fuel generalizing s with
  | zero => exact h
  | succ fuel ih =>
    rw [Scheduler.scheduleLoop]
    split
    next hlt =>
      obtain ⟨e, he, hhead⟩ := exists_head hd hlt
      split
      next hnone => exact absurd hhead (by simpa using List.find?_eq_none.mp hnone e ((hqueue e).mpr he))
      next head hfind =>
        have hm := (hqueue head).mp (List.mem_of_find?_eq_some hfind)
        have hfound := List.find?_some hfind
        exact ih (hp.placeHead hd (fun x hx => (hqueue x).mp hx) false hm hfound) (h.placeHead hd hqueue hp hm hfound)
    next => exact h

lemma schedule_closedMaximal (hd : Distinct entries) : ClosedMaximal entries (schedule false entries).batchesOut := by
  refine ClosedMaximal.scheduleLoop hd (mem_workQueue hd) entries.length Progress.initial ?_
  intro pre batch post hsplit
  simp at hsplit

lemma Progress.batchRules {s : ScheduleState} (h : Progress entries s) {batch : List VehicleEntry}
    (hb : batch ∈ s.batchesOut) : BatchRules batch := by
  have hcompat : ∀ a ∈ batch, ∀ b ∈ batch, a ≠ b → Compatible a b := fun a ha b hb' hne =>
    (h.compatible batch hb).forall ha hb' hne
  refine ⟨fun a ha b hb hne => (hcompat a ha b hb hne).1, fun a ha hquiet b hb => ?_, fun a ha b hb hahead => ?_⟩
  · by_contra hne
    have hloud := (hcompat a ha b hb (Ne.symm hne)).2.1
    rw [hquiet] at hloud
    cases hloud
  · have hne : a ≠ b := by
      rintro rfl
      exact lt_irrefl _ hahead.2
    exact lane_ne_of_isSafeToBatch (hcompat a ha b hb hne).1 hahead.1

lemma Progress.merge_breaks {s : ScheduleState} (h : Progress entries s) (hclosed : ClosedMaximal entries s.batchesOut)
    {pre post : List (List VehicleEntry)} {first second : List VehicleEntry}
    (hsplit : s.batchesOut = pre ++ first :: second :: post) : ¬BatchRules (first ++ second) := by
  intro hrules
  have hfirst : s.batchesOut[pre.length]? = some first := by rw [hsplit, List.getElem?_append_right le_rfl]; simp
  have hsecond : s.batchesOut[pre.length + 1]? = some second := by
    rw [hsplit, List.getElem?_append_right (Nat.le_succ _)]
    simp
  have htake : s.batchesOut.take (pre.length + 1) = pre ++ [first] := by
    rw [hsplit, List.take_append, List.take_of_length_le (Nat.le_succ _)]
    simp
  have hmem : second ∈ s.batchesOut := List.mem_of_getElem? hsecond
  obtain ⟨e, he⟩ := List.exists_mem_of_ne_nil _ (h.nonempty second hmem)
  have hnodup : (idsOf s.batchesOut).Nodup := h.placed.nodup_iff.mp h.nodup
  have hnew : e.replicaId ∉ idsOf (pre ++ [first]) := by
    have hcut : s.batchesOut = (pre ++ [first]) ++ (second :: post) := by rw [hsplit]; simp
    rw [hcut, idsOf_append] at hnodup
    intro hin
    refine (List.nodup_append.mp hnodup).2.2 _ hin _ ?_ rfl
    exact List.mem_map_of_mem (List.mem_flatten.mpr ⟨second, List.mem_cons_self, he⟩)
  have hold : ∀ x ∈ first, x.replicaId ∈ idsOf (pre ++ [first]) := fun x hx =>
    List.mem_map_of_mem (List.mem_flatten.mpr ⟨first, by simp, hx⟩)
  have hne : ∀ x ∈ first, e ≠ x := by
    rintro x hx rfl
    exact hnew (hold e hx)
  have hin : e ∈ first ++ second := List.mem_append_right first he
  cases hhead : first.head? with
  | none => exact h.nonempty first (List.mem_of_getElem? hfirst) (List.head?_eq_none_iff.mp hhead)
  | some head =>
    have hheadmem : head ∈ first := List.mem_of_head? hhead
    cases hquiet : isQuietEntry head with
    | true =>
      exact hne head hheadmem (hrules.quietAlone head (List.mem_append_left second hheadmem) hquiet e hin)
    | false =>
      cases hloud : isQuietEntry e with
      | true =>
        exact hne head hheadmem (hrules.quietAlone e hin hloud head (List.mem_append_left second hheadmem)).symm
      | false =>
        have hfront : allSameLaneFrontPlaced e entries (idsOf (pre ++ [first])) = true := by
          rw [allSameLaneFrontPlaced_iff, ← htake]
          exact fun v hv hahead => h.fronts _ second hsecond e he v hv hahead
        have hunsafe := hclosed pre first (second :: post) hsplit head hhead hquiet e (h.entry second hmem e he) hnew
          hloud hfront
        rw [safeWithWholeBatch, hloud, if_neg (by simp), List.all_eq_false] at hunsafe
        obtain ⟨x, hx, hbad⟩ := hunsafe
        exact hbad (hrules.safe e hin x (List.mem_append_left second hx) (hne x hx))

theorem schedule_maximal (entries : List VehicleEntry) (hd : (entries.map VehicleEntry.replicaId).Nodup) :
    (∀ pre batch post, (schedule (allSingletonMode none) entries).batchesOut = pre ++ batch :: post →
        ∀ head, batch.head? = some head → isQuietEntry head = false →
          ∀ v ∈ entries, v.replicaId ∉ idsOf (pre ++ [batch]) → isQuietEntry v = false →
            allSameLaneFrontPlaced v entries (idsOf (pre ++ [batch])) = true → safeWithWholeBatch v batch = false) ∧
      (∀ batch ∈ (schedule (allSingletonMode none) entries).batchesOut, BatchRules batch) ∧
        ∀ pre first second post,
          (schedule (allSingletonMode none) entries).batchesOut = pre ++ first :: second :: post →
            ¬BatchRules (first ++ second) := by
  have hprogress := (schedule_progress (allSingletonMode none) hd).1
  have hclosed : ClosedMaximal entries (schedule (allSingletonMode none) entries).batchesOut := schedule_closedMaximal hd
  exact ⟨hclosed, fun batch hb => hprogress.batchRules hb, fun _ _ _ _ hsplit => hprogress.merge_breaks hclosed hsplit⟩

def threeCars : List VehicleEntry := [⟨4, 10, 0, 0, 0, 1, 1, 0, 0⟩, ⟨7, 12, 0, 1, 0, 1, 1, 0, 0⟩, ⟨2, 15, 0, 0, 0, 2, 1, 0, 0⟩]

theorem schedule_maximal_threeCars :
    ¬BatchRules ([⟨4, 10, 0, 0, 0, 1, 1, 0, 0⟩, ⟨7, 12, 0, 1, 0, 1, 1, 0, 0⟩] ++ [⟨2, 15, 0, 0, 0, 2, 1, 0, 0⟩]) :=
  (schedule_maximal threeCars (by decide)).2.2 [] _ _ [] (by decide +kernel)

end V2vBft.Scheduler
