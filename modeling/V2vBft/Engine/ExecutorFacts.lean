import V2vBft.Engine.ReplicaFacts

namespace V2vBft.Engine

open Wire Pbft Bridge

variable {cfg : EngineConfig} {s s' s'' : Replica}

structure AdvanceStep (s s' : Replica) : Prop where
  consensus : s'.consensus = s.consensus
  pendingRecovery : s'.pendingRecovery = s.pendingRecovery
  committedStatus : s'.committedStatus = s.committedStatus
  lastSeq : s'.lastSeq = s.lastSeq
  dataQueue : s'.dataQueue = s.dataQueue
  inFlight : ∀ m ∈ s'.inFlight, m ∈ s.inFlight
  ready : ∀ m ∈ s'.executeQueue, m ∈ s.executeQueue ∨ m.seq < s'.nextExecuteSeq
  next : s.nextExecuteSeq ≤ s'.nextExecuteSeq
  capacity : s'.pool.capacity = s.pool.capacity
  slots : ∀ i, s'.pool.collector i = s.pool.collector i ∨
    ∃ n, s.nextExecuteSeq + s.pool.capacity ≤ n + 1 ∧ s'.pool.collector i = .fresh n

lemma AdvanceStep.trans (h : AdvanceStep s s') (h' : AdvanceStep s' s'') : AdvanceStep s s'' where
  consensus := h'.consensus.trans h.consensus
  pendingRecovery := h'.pendingRecovery.trans h.pendingRecovery
  committedStatus := h'.committedStatus.trans h.committedStatus
  lastSeq := h'.lastSeq.trans h.lastSeq
  dataQueue := h'.dataQueue.trans h.dataQueue
  inFlight := fun m hm => h.inFlight m (h'.inFlight m hm)
  ready := by
    intro m hm
    rcases h'.ready m hm with hm' | hlt
    · rcases h.ready m hm' with hm'' | hlt
      · exact Or.inl hm''
      · exact Or.inr (hlt.trans_le h'.next)
    · exact Or.inr hlt
  next := h.next.trans h'.next
  capacity := h'.capacity.trans h.capacity
  slots := by
    intro i
    rcases h'.slots i with hsame | ⟨n, hn, hfresh⟩
    · rw [hsame]
      exact h.slots i
    · have hnext := h.next
      rw [h.capacity] at hn
      exact Or.inr ⟨n, by omega, hfresh⟩

lemma mem_addNewData {request m : Request} {l : List Request} (h : m ∈ addNewData request l) : m = request ∨ m ∈ l := by
  induction l with
  | nil => exact Or.inl (List.mem_singleton.mp h)
  | cons r rest ih =>
    rw [addNewData] at h
    split at h
    next => exact List.mem_cons.mp h
    next =>
      split at h
      next => exact Or.inr h
      next =>
        rcases List.mem_cons.mp h with rfl | h
        · exact Or.inr List.mem_cons_self
        · rcases ih h with hm | hm
          · exact Or.inl hm
          · exact Or.inr (List.mem_cons_of_mem _ hm)

lemma push_advance {r : Request} {rest : List Request} (h : r.seq = s.nextExecuteSeq) :
    AdvanceStep { s with candidates := r :: rest }
      { s with
        candidates := rest
        executeQueue := s.executeQueue ++ [r]
        nextExecuteSeq := s.nextExecuteSeq + 1
        pool := s.pool.update s.nextExecuteSeq } where
  consensus := rfl
  pendingRecovery := rfl
  committedStatus := rfl
  lastSeq := rfl
  dataQueue := rfl
  inFlight := by
    intro m hm
    simp only [Replica.inFlight, List.mem_append, List.mem_cons, List.not_mem_nil, or_false] at hm ⊢
    tauto
  ready := by
    intro m hm
    rcases List.mem_append.mp hm with hm | hm
    · exact Or.inl hm
    · rw [List.mem_singleton.mp hm, h]
      exact Or.inr (Nat.lt_succ_self _)
  next := Nat.le_succ _
  capacity := update_capacity _
  slots := by
    intro i
    rcases update_collector (p := s.pool) s.nextExecuteSeq i with hsame | hfresh
    · exact Or.inl hsame
    · exact Or.inr ⟨_, Nat.le_succ _, hfresh⟩

lemma drainCandidates_advance (l : List Request) (s : Replica) :
    AdvanceStep { s with candidates := l } (drainCandidates l s) := by
  have hrefl : ∀ t : Replica, AdvanceStep t t := fun t =>
    ⟨rfl, rfl, rfl, rfl, rfl, fun _ hm => hm, fun _ hm => Or.inl hm, le_rfl, rfl, fun i => Or.inl rfl⟩
  induction l generalizing s with
  | nil => exact hrefl _
  | cons r rest ih =>
    rw [drainCandidates]
    split
    next h =>
      refine (push_advance h).trans ?_
      exact ih { s with
        executeQueue := s.executeQueue ++ [r]
        nextExecuteSeq := s.nextExecuteSeq + 1
        pool := s.pool.update s.nextExecuteSeq }
    next => exact hrefl _

theorem orderMessage_advance (s : Replica) : AdvanceStep s (orderMessage s) := by
  rw [orderMessage]
  split
  next => exact drainCandidates_advance s.candidates s
  next r rest hqueue =>
    have hpop : ∀ candidates, (∀ m ∈ candidates, m = r ∨ m ∈ s.candidates) →
        AdvanceStep s { s with commitQueue := rest, candidates := candidates } := by
      intro candidates hmem
      refine ⟨rfl, rfl, rfl, rfl, rfl, fun m hm => ?_, fun _ hm => Or.inl hm, le_rfl, rfl, fun i => Or.inl rfl⟩
      simp only [Replica.inFlight, List.mem_append, hqueue, List.mem_cons] at hm ⊢
      rcases hm with (hm | hm) | hm
      · exact Or.inl (Or.inl (Or.inr hm))
      · rcases hmem m hm with rfl | hm
        · exact Or.inl (Or.inl (Or.inl rfl))
        · exact Or.inl (Or.inr hm)
      · exact Or.inr hm
    split
    next => exact hpop s.candidates fun m hm => Or.inr hm
    next => exact (hpop _ fun m hm => mem_addNewData hm).trans (drainCandidates_advance _ { s with commitQueue := rest })

lemma advanceExecuteSeq_advance {target : ℕ} (htarget : s.nextExecuteSeq ≤ target) :
    AdvanceStep s (advanceExecuteSeq s target) := by
  have hfilter : ∀ (p : Request → Bool) m, m ∈ s.commitQueue ++ s.candidates.filter p ++ s.executeQueue →
      m ∈ s.inFlight := by
    intro p m hm
    simp only [Replica.inFlight, List.mem_append, List.mem_filter] at hm ⊢
    tauto
  rw [advanceExecuteSeq]
  split
  next =>
    exact ⟨rfl, rfl, rfl, rfl, rfl, fun m hm => hfilter _ m hm, fun _ hm => Or.inl hm, le_rfl, rfl, fun i => Or.inl rfl⟩
  next hlt =>
    refine ⟨rfl, rfl, rfl, rfl, rfl, fun m hm => hfilter _ m hm, fun _ hm => Or.inl hm, htarget, update_capacity _,
      fun i => ?_⟩
    rcases update_collector (p := s.pool) (target - 1) i with hsame | hfresh
    · exact Or.inl hsame
    · exact Or.inr ⟨_, by omega, hfresh⟩

lemma advanceExecuteSeq_next {target : ℕ} (htarget : s.nextExecuteSeq ≤ target) :
    (advanceExecuteSeq s target).nextExecuteSeq = target := by
  rw [advanceExecuteSeq]
  split
  next h => exact le_antisymm htarget h
  next => rfl

theorem gossipCancel_advance (s : Replica) (cancelledEpoch : ℕ) :
    AdvanceStep s (advanceExecutorAfterGossipCancel s cancelledEpoch) := by
  rw [advanceExecutorAfterGossipCancel]
  have htarget : s.nextExecuteSeq ≤ max s.nextExecuteSeq (2 * (cancelledEpoch + 1) + 1) := le_max_left _ _
  refine (advanceExecuteSeq_advance htarget).trans ?_
  refine ⟨rfl, rfl, rfl, rfl, rfl, fun _ hm => hm, fun _ hm => Or.inl hm, le_rfl, update_capacity _, fun i => ?_⟩
  rcases update_collector (p := (advanceExecuteSeq s _).pool) _ i with hsame | hfresh
  · exact Or.inl hsame
  · refine Or.inr ⟨_, ?_, hfresh⟩
    rw [advanceExecuteSeq_next htarget]
    omega

theorem executeMessage_cases (s : Replica) :
    (executeMessage s).2.pool = s.pool ∧ (executeMessage s).2.commitQueue = s.commitQueue ∧
      (executeMessage s).2.candidates = s.candidates ∧ (executeMessage s).2.nextExecuteSeq = s.nextExecuteSeq ∧
      (executeMessage s).2.committedStatus = s.committedStatus ∧ (executeMessage s).2.lastSeq = s.lastSeq ∧
      (∀ m ∈ (executeMessage s).2.executeQueue, m ∈ s.executeQueue) ∧
      ((executeMessage s).1 = [] ∧ (executeMessage s).2.dataQueue = s.dataQueue ∨
        ∃ r ∈ s.executeQueue, (executeMessage s).1 = [⟨r.seq, r.currentView, r.hash, r.data⟩] ∧
          (executeMessage s).2.dataQueue = s.dataQueue ++ [r.seq]) := by
  rw [executeMessage]
  split
  next h => exact ⟨rfl, rfl, rfl, rfl, rfl, rfl, fun m hm => hm, Or.inl ⟨rfl, rfl⟩⟩
  next r rest h =>
    have hrest : ∀ m ∈ rest, m ∈ s.executeQueue := fun m hm => h ▸ List.mem_cons_of_mem _ hm
    split
    next => exact ⟨rfl, rfl, rfl, rfl, rfl, rfl, hrest, Or.inl ⟨rfl, rfl⟩⟩
    next => exact ⟨rfl, rfl, rfl, rfl, rfl, rfl, hrest, Or.inr ⟨r, h ▸ List.mem_cons_self, rfl, rfl⟩⟩

end V2vBft.Engine
