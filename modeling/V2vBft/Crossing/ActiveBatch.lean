import V2vBft.Crossing.Exclusion

namespace V2vBft.Crossing

open Wire App Pbft Bridge Scheduler Library.GuardedRun Library.BatchGate

variable {fleet : Fleet} {dec : Bytes} {w : World} {entries : List VehicleEntry} {rid : ℤ} {k : ℕ}

def batchesOf (dec : Bytes) : List (List ℤ) := committedOrderBatches (OrderDecision.read dec)

def activeBatch (dec : Bytes) (traci : Traci) : ℤ := perceivedActiveBatch (batchesOf dec) traci

def leaderCandidates (dec : Bytes) (traci : Traci) : List ℤ :=
  cancelLeaderCandidatesForBatch (batchesOf dec) traci (activeBatch dec traci)

structure SeesBatches (dec : Bytes) (traci : Traci) : Prop where
  inside : ∀ rid ∈ carsOf dec, inBox traci rid = true →
    ∃ k : ℕ, activeBatch dec traci = k ∧ ⟨rid, k⟩ ∈ (OrderDecision.read dec).decisions
  finished : activeBatch dec traci = -1 ↔ ∀ rid ∈ carsOf dec, hasCleared traci rid = true
  waiting : ∀ rid ∈ leaderCandidates dec traci, rid ∈ carsOf dec ∧ hasEntered traci rid = false
  next : ∀ k : ℕ, activeBatch dec traci = k →
    leaderCandidates dec traci = ((batchesOf dec).getD (k + 1) []).insertionSort (· ≤ ·)

lemma batchesOf_length (dec : Bytes) : (batchesOf dec).length = (OrderDecision.read dec).nBatches := by
  simp [batchesOf, committedOrderBatches]

lemma mem_batchesOf {hk : k < (batchesOf dec).length} :
    rid ∈ (batchesOf dec)[k] ↔ ⟨rid, k⟩ ∈ (OrderDecision.read dec).decisions := by
  simp only [batchesOf, committedOrderBatches, List.getElem_map, List.getElem_range, List.mem_map, List.mem_filter,
    decide_eq_true_eq]
  constructor
  · rintro ⟨d, ⟨hd, hb⟩, hrid⟩
    rwa [← hb, ← hrid]
  · exact fun hd => ⟨_, ⟨hd, rfl⟩, rfl⟩

lemma mem_carsOf_of_decision (hd : ⟨rid, k⟩ ∈ (OrderDecision.read dec).decisions) : rid ∈ carsOf dec :=
  List.mem_map_of_mem (f := VehicleDecision.replicaId) hd

lemma Scheduled.batch_of_decision (hs : Scheduled entries dec) (hd : ⟨rid, k⟩ ∈ (OrderDecision.read dec).decisions) :
    ∃ hk : k < (batchesOf dec).length, rid ∈ (batchesOf dec)[k] := by
  have hk : k < (batchesOf dec).length := batchesOf_length dec ▸ hs.order.bounded _ hd
  exact ⟨hk, mem_batchesOf.mpr hd⟩

lemma Scheduled.decision_unique (hs : Scheduled entries dec) {j : ℕ} (hj : ⟨rid, j⟩ ∈ (OrderDecision.read dec).decisions)
    (hk : ⟨rid, k⟩ ∈ (OrderDecision.read dec).decisions) : j = k := by
  have hnodup : ((OrderDecision.read dec).decisions.map VehicleDecision.replicaId).Nodup :=
    hs.order.complete ▸ hs.distinct
  exact congrArg VehicleDecision.batchIndex (List.inj_on_of_nodup_map hnodup hj hk rfl)

lemma World.Inv.slot_of_entered (h : w.Inv fleet dec) (hs : Scheduled entries dec)
    (hd : ⟨rid, k⟩ ∈ (OrderDecision.read dec).decisions) (hin : hasEntered w.traci rid = true) :
    rid ∈ (gateOf dec w).released ∧ slotOf fleet dec rid = some k := by
  have hreleased := h.orderly.entered (show rid ∈ (gateOf dec w).entered from ⟨mem_carsOf_of_decision hd, hin⟩)
  obtain ⟨j, hj, -⟩ := h.orderly.behind rid hreleased
  exact ⟨hreleased, hs.decision_unique (hs.decision_of_slot hj) hd ▸ hj⟩

lemma World.Inv.blocked (h : w.Inv fleet dec) (hs : Scheduled entries dec) {u : ℤ} {j : ℕ}
    (hu : ⟨u, j⟩ ∈ (OrderDecision.read dec).decisions) (hopen : hasCleared w.traci u = false)
    (hd : ⟨rid, k⟩ ∈ (OrderDecision.read dec).decisions) (hlt : j < k) : hasEntered w.traci rid = false := by
  refine eq_false_of_ne_true fun hin => ?_
  obtain ⟨hreleased, hslot⟩ := h.slot_of_entered hs hd hin
  have hslotu : slotOf fleet dec u = some j := hs.slot_of_decision (hlt.trans (hs.slot_lt hslot)) hu
  exact h.orderly.later_waiting hs.gapless hslotu (fun hc => absurd hc.2 (by simp [hopen])) hslot hlt hreleased

lemma activeBatch_cases (dec : Bytes) (traci : Traci) :
    (activeBatch dec traci = -1 ∧ ∀ (k : ℕ) (hk : k < (batchesOf dec).length), ∀ rid ∈ (batchesOf dec)[k],
        hasCleared traci rid = true) ∨
      ∃ (k : ℕ) (hk : k < (batchesOf dec).length), activeBatch dec traci = k ∧
        (∃ rid ∈ (batchesOf dec)[k], hasCleared traci rid = false) ∧
        ∀ (j : ℕ) (hj : j < k), ∀ rid ∈ (batchesOf dec)[j], hasCleared traci rid = true := by
  unfold activeBatch perceivedActiveBatch
  cases hfind : (batchesOf dec).findIdx? fun batch => batch.any fun rid => !hasCleared traci rid with
  | none =>
    refine Or.inl ⟨rfl, fun k hk rid hrid => ?_⟩
    have hnone := List.findIdx?_eq_none_iff.mp hfind _ (List.getElem_mem hk)
    simpa using List.any_eq_false.mp hnone rid hrid
  | some k =>
    obtain ⟨hk, hopen, hearlier⟩ := List.findIdx?_eq_some_iff_getElem.mp hfind
    obtain ⟨rid, hrid, hc⟩ := List.any_eq_true.mp hopen
    refine Or.inr ⟨k, hk, rfl, ⟨rid, hrid, by simpa using hc⟩, fun j hj rid hrid => ?_⟩
    have hclear := hearlier j hj
    simp only [List.any_eq_true, Bool.not_eq_true', not_exists, not_and, Bool.not_eq_false] at hclear
    exact hclear rid hrid

lemma Scheduled.leaderCandidates_next {traci : Traci} (hs : Scheduled entries dec) (hactive : activeBatch dec traci = k)
    (hwaits : ∀ hlt : k + 1 < (batchesOf dec).length, ∀ rid ∈ (batchesOf dec)[k + 1], hasEntered traci rid = false) :
    leaderCandidates dec traci = ((batchesOf dec).getD (k + 1) []).insertionSort (· ≤ ·) := by
  have hneg : ¬activeBatch dec traci < 0 := by omega
  have hidx : (activeBatch dec traci + 1).toNat = k + 1 := by omega
  rw [leaderCandidates, cancelLeaderCandidatesForBatch, if_neg hneg, hidx]
  rcases Nat.lt_or_ge (k + 1) (batchesOf dec).length with hlt | hge
  · have hwhole : ((batchesOf dec)[k + 1]).filter (fun rid => !hasCleared traci rid) = (batchesOf dec)[k + 1] := by
      refine List.filter_eq_self.mpr fun rid hrid => ?_
      have hout := hwaits hlt rid hrid
      rw [Bool.not_eq_true', eq_false_of_ne_true fun hc => absurd (hasEntered_of_hasCleared hc) (by simp [hout])]
    have hne : (batchesOf dec)[k + 1].isEmpty = false := by
      obtain ⟨d, hd, hb⟩ := hs.order.inhabited (k + 1) (batchesOf_length dec ▸ hlt)
      have hmem : d.replicaId ∈ (batchesOf dec)[k + 1] := mem_batchesOf.mpr (hb ▸ hd)
      exact List.isEmpty_eq_false_iff.mpr (List.ne_nil_of_mem hmem)
    rw [List.drop_eq_getElem_cons hlt, List.map_cons, List.find?_cons_of_pos (by rw [hwhole, hne]; rfl), hwhole,
      List.getD_eq_getElem _ _ hlt]
  · rw [List.drop_of_length_le hge, List.getD_eq_default _ _ hge]
    rfl

lemma World.Inv.seesBatches (h : w.Inv fleet dec) (hs : Scheduled entries dec) : SeesBatches dec w.traci := by
  have hbatch : ∀ rid ∈ carsOf dec, ∃ (k : ℕ) (hk : k < (batchesOf dec).length), rid ∈ (batchesOf dec)[k] ∧
      ⟨rid, k⟩ ∈ (OrderDecision.read dec).decisions := by
    intro rid hrid
    obtain ⟨⟨_, k⟩, hd, rfl⟩ := List.mem_map.mp hrid
    obtain ⟨hk, hmem⟩ := hs.batch_of_decision hd
    exact ⟨k, hk, hmem, hd⟩
  rcases activeBatch_cases dec w.traci with ⟨hnone, hall⟩ | ⟨a, ha, hactive, ⟨u, hu, hopen⟩, hearlier⟩
  · have hclear : ∀ rid ∈ carsOf dec, hasCleared w.traci rid = true := by
      intro rid hrid
      obtain ⟨k, hk, hmem, -⟩ := hbatch rid hrid
      exact hall k hk rid hmem
    refine ⟨fun rid hrid hin => ?_, iff_of_true hnone hclear, fun rid hrid => ?_, fun k hk => ?_⟩
    · exact absurd (hclear rid hrid) (by simp [not_hasCleared_of_inBox hin])
    · simp [leaderCandidates, cancelLeaderCandidatesForBatch, hnone] at hrid
    · omega
  · have hopenDec := mem_batchesOf.mp hu
    have hlater : ∀ (k : ℕ) (hk : k < (batchesOf dec).length), a < k → ∀ rid ∈ (batchesOf dec)[k],
        hasEntered w.traci rid = false := fun k hk hlt rid hrid =>
      h.blocked hs hopenDec hopen (mem_batchesOf.mp hrid) hlt
    have hnext := hs.leaderCandidates_next hactive fun hlt => hlater (a + 1) hlt (Nat.lt_succ_self a)
    refine ⟨fun rid hrid hin => ?_, ?_, fun rid hrid => ?_, fun k hk => ?_⟩
    · obtain ⟨k, hk, hmem, hd⟩ := hbatch rid hrid
      refine ⟨k, ?_, hd⟩
      rcases lt_trichotomy k a with hlt | rfl | hgt
      · exact absurd (hearlier k hlt rid hmem) (by simp [not_hasCleared_of_inBox hin])
      · exact hactive
      · exact absurd (hasEntered_of_inBox hin) (by simp [hlater k hk hgt rid hmem])
    · refine iff_of_false (by omega) fun hall => ?_
      exact absurd (hall u (mem_carsOf_of_decision hopenDec)) (by simp [hopen])
    · rw [hnext, List.mem_insertionSort] at hrid
      rcases Nat.lt_or_ge (a + 1) (batchesOf dec).length with hlt | hge
      · rw [List.getD_eq_getElem _ _ hlt] at hrid
        exact ⟨mem_carsOf_of_decision (mem_batchesOf.mp hrid), hlater (a + 1) hlt (Nat.lt_succ_self a) rid hrid⟩
      · rw [List.getD_eq_default _ _ hge] at hrid
        exact absurd hrid List.not_mem_nil
    · obtain rfl : a = k := by omega
      exact hnext

theorem active_batch_seen (fleet : Fleet) (env : BridgeEnv) (s : ConsensusState) (request : Request) (payload : Bytes)
    (view : ProposalView) (exec : ExecutorEnv) (haccepts : AcceptsProposal env s request payload view)
    (horder : view.isCancel = false) (dec : Bytes) (hdec : (executeData exec payload).decision = some dec)
    (traci : Traci) (hstart : ∀ e ∈ orderEntries view, hasEntered traci e.replicaId = false)
    (events : List WorldEvent) (hok : Guarded (worldStep fleet) (World.ok fleet dec) (.initial traci) events) :
    SeesBatches dec (run (worldStep fleet) (.initial traci) events).traci := by
  have hs := accepted_scheduled haccepts horder hdec
  exact (hok.invariant World.Inv.step (worldInv_start hs hstart)).seesBatches hs

theorem active_batch_seen_twoBatches :
    SeesBatches fourCarOrder
      (run (worldStep sameCars) (.initial (carsAt ["N", "N", "N", "N"])) (twoBatches fourCarOrder)).traci := by
  have haccepts : AcceptsProposal eightCarEnv (primaryIs 1) (listingRequest 0 [0, 1, 2, 3])
      (listingPayload 0 [0, 1, 2, 3]) (listingView 0 [0, 1, 2, 3]) :=
    ⟨Or.inl rfl, rfl, by decide +kernel, by decide +kernel⟩
  exact active_batch_seen sameCars eightCarEnv (primaryIs 1) (listingRequest 0 [0, 1, 2, 3])
    (listingPayload 0 [0, 1, 2, 3]) (listingView 0 [0, 1, 2, 3]) plainExecutor haccepts rfl fourCarOrder
    (haccepts.orderDecision rfl plainExecutor).1 (carsAt ["N", "N", "N", "N"]) (by decide +kernel)
    (twoBatches fourCarOrder) (by decide +kernel)

end V2vBft.Crossing
