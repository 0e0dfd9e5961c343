import V2vBft.Engine.StepFacts

namespace V2vBft.Engine

open Wire Pbft Bridge

variable {cfg : EngineConfig} {env : BridgeEnv} {s s' : Replica} {request : Request} {ev : EngineEvent}

structure SameExecutor (s s' : Replica) : Prop where
  executeQueue : s'.executeQueue = s.executeQueue
  nextExecuteSeq : s'.nextExecuteSeq = s.nextExecuteSeq
  executorLastSeq : s'.executorLastSeq = s.executorLastSeq

lemma SameExecutor.refl (s : Replica) : SameExecutor s s := ⟨rfl, rfl, rfl⟩

lemma SameExecutor.trans {s'' : Replica} (h : SameExecutor s s') (h' : SameExecutor s' s'') : SameExecutor s s'' :=
  ⟨h'.executeQueue.trans h.executeQueue, h'.nextExecuteSeq.trans h.nextExecuteSeq,
    h'.executorLastSeq.trans h.executorLastSeq⟩

lemma addConsensusMsg_executor (cfg : EngineConfig) (s : Replica) (request : Request) :
    SameExecutor s (addConsensusMsg cfg s request).2 := by
  rw [addConsensusMsg]
  repeat' split
  all_goals exact ⟨rfl, rfl, rfl⟩

lemma drainRecovery_executor (cfg : EngineConfig) (pending : List Request) (s : Replica) :
    SameExecutor s (drainRecovery cfg pending s) := by
  induction pending generalizing s with
  | nil => exact ⟨rfl, rfl, rfl⟩
  | cons r rest ih =>
    rw [drainRecovery]
    split
    next =>
      refine SameExecutor.trans ?_ (ih _)
      split
      next =>
        have h := addConsensusMsg_executor cfg { s with nextSeq := r.seq + 1 } r
        exact ⟨h.executeQueue, h.nextExecuteSeq, h.executorLastSeq⟩
      next => exact SameExecutor.refl s
    next => exact ⟨rfl, rfl, rfl⟩

lemma processRecoveryPropose_executor : SameExecutor s (processRecoveryPropose cfg s request) := by
  rw [processRecoveryPropose]
  split
  next =>
    have h := drainRecovery_executor cfg s.pendingRecovery { s with nextSeq := request.seq + 1 }
    exact SameExecutor.trans ⟨h.executeQueue, h.nextExecuteSeq, h.executorLastSeq⟩ (addConsensusMsg_executor cfg _ _)
  next =>
    split
    next => exact ⟨rfl, rfl, rfl⟩
    next =>
      split
      next => exact addConsensusMsg_executor cfg s _
      next => exact SameExecutor.refl s

lemma voteOn_executor (answer : Request) (hs : SameExecutor s s') :
    SameExecutor s (voteOn cfg s' request answer).2 :=
  hs.trans (addConsensusMsg_executor cfg s' request)

lemma acceptPropose_executor : SameExecutor s (acceptPropose cfg s request).2 := by
  rw [acceptPropose]
  repeat' split
  · exact SameExecutor.refl s
  · exact ⟨rfl, rfl, rfl⟩
  · exact voteOn_executor _ ⟨rfl, rfl, rfl⟩
  · exact ⟨rfl, rfl, rfl⟩
  · exact voteOn_executor _ ⟨rfl, rfl, rfl⟩

lemma processProposeMsg_executor : SameExecutor s (processProposeMsg cfg env s request).2 := by
  rw [processProposeMsg]
  split
  next => exact processRecoveryPropose_executor
  next =>
    split
    next => exact acceptPropose_executor
    next =>
      dsimp only
      split
      next =>
        set checked := ({ s with consensus := (preVerify env s.consensus request).2 } : Replica).lookedUp request
        have hchecked : SameExecutor s checked := ⟨rfl, rfl, rfl⟩
        exact hchecked.trans acceptPropose_executor
      next => exact ⟨rfl, rfl, rfl⟩

lemma processPrepareMsg_executor : SameExecutor s (processPrepareMsg cfg s request).2 := by
  rw [processPrepareMsg]
  repeat' split
  · exact addConsensusMsg_executor cfg s request
  · exact ⟨rfl, rfl, rfl⟩
  · exact voteOn_executor _ ⟨rfl, rfl, rfl⟩

lemma processCommitMsg_executor : SameExecutor s (processCommitMsg cfg s request) := by
  rw [processCommitMsg]
  repeat' split
  · exact addConsensusMsg_executor cfg s request
  · exact ⟨rfl, rfl, rfl⟩
  · have hlooked : SameExecutor s (s.lookedUp request) := ⟨rfl, rfl, rfl⟩
    exact hlooked.trans (addConsensusMsg_executor cfg _ request)

lemma processNewRequest_executor : SameExecutor s (processNewRequest cfg env s request).2 := by
  rw [processNewRequest]
  repeat' split
  · exact SameExecutor.refl s
  · exact SameExecutor.refl s
  · dsimp only
    split
    next =>
      rw [propose]
      repeat' split
      all_goals exact ⟨rfl, rfl, rfl⟩
    next => exact ⟨rfl, rfl, rfl⟩

lemma internalConsensusCommit_executor : SameExecutor s (internalConsensusCommit cfg env s request).2 := by
  rw [internalConsensusCommit]
  cases request.type with
  | newTxns => exact processNewRequest_executor
  | prePrepare => exact processProposeMsg_executor
  | prepare => exact processPrepareMsg_executor
  | commit => exact processCommitMsg_executor

structure Pushed (s s' : Replica) (k : ℕ) : Prop where
  executeQueue : s'.executeQueue.map Request.seq = s.executeQueue.map Request.seq ++ List.range' s.nextExecuteSeq k
  nextExecuteSeq : s'.nextExecuteSeq = s.nextExecuteSeq + k
  executorLastSeq : s'.executorLastSeq = s.executorLastSeq

lemma SameExecutor.pushed (h : SameExecutor s s') : Pushed s s' 0 :=
  ⟨by rw [h.executeQueue]; simp, h.nextExecuteSeq, h.executorLastSeq⟩

lemma drainCandidates_pushed (l : List Request) (s : Replica) : ∃ k, Pushed s (drainCandidates l s) k := by
  induction l generalizing s with
  | nil => exact ⟨0, SameExecutor.pushed ⟨rfl, rfl, rfl⟩⟩
  | cons r rest ih =>
    rw [drainCandidates]
    split
    next h =>
      obtain ⟨k, hk⟩ := ih { s with
        executeQueue := s.executeQueue ++ [r]
        nextExecuteSeq := s.nextExecuteSeq + 1
        pool := s.pool.update s.nextExecuteSeq }
      refine ⟨k + 1, ?_, ?_, hk.executorLastSeq⟩
      · rw [hk.executeQueue, List.range'_succ]
        simp [h]
      · rw [hk.nextExecuteSeq]
        dsimp only
        omega
    next => exact ⟨0, SameExecutor.pushed ⟨rfl, rfl, rfl⟩⟩

lemma orderMessage_pushed (s : Replica) : ∃ k, Pushed s (orderMessage s) k := by
  rw [orderMessage]
  split
  next => exact drainCandidates_pushed s.candidates s
  next r rest _ =>
    split
    next => exact ⟨0, SameExecutor.pushed ⟨rfl, rfl, rfl⟩⟩
    next =>
      obtain ⟨k, h⟩ := drainCandidates_pushed (addNewData r s.candidates) { s with commitQueue := rest }
      exact ⟨k, h.executeQueue, h.nextExecuteSeq, h.executorLastSeq⟩

structure Jumped (s s' : Replica) (reach : ℕ) : Prop where
  executeQueue : s'.executeQueue = s.executeQueue
  nextExecuteSeq : s'.nextExecuteSeq = reach + 1
  executorLastSeq : s'.executorLastSeq = max s.executorLastSeq (toInt32 reach)

lemma maxPendingExecutedSeq_of_pos (hpos : 0 < s.nextExecuteSeq) : s.maxPendingExecutedSeq + 1 = s.nextExecuteSeq := by
  rw [Replica.maxPendingExecutedSeq, if_neg hpos.ne']
  omega

lemma gossipCancel_jumped (s : Replica) (cancelledEpoch : ℕ) (hpos : 0 < s.nextExecuteSeq) :
    Jumped s (advanceExecutorAfterGossipCancel s cancelledEpoch)
      (max s.maxPendingExecutedSeq (2 * (cancelledEpoch + 1))) := by
  set target := max s.nextExecuteSeq (2 * (cancelledEpoch + 1) + 1) with htarget
  have hreach : max s.maxPendingExecutedSeq (2 * (cancelledEpoch + 1)) + 1 = target := by
    have hpending := maxPendingExecutedSeq_of_pos hpos
    omega
  have hnext : (advanceExecuteSeq s target).nextExecuteSeq = target := advanceExecuteSeq_next (le_max_left _ _)
  have hkept : (advanceExecuteSeq s target).executeQueue = s.executeQueue ∧
      (advanceExecuteSeq s target).executorLastSeq = max s.executorLastSeq (toInt32 (target - 1)) := by
    rw [advanceExecuteSeq]
    split <;> exact ⟨rfl, rfl⟩
  refine ⟨hkept.1, hnext.trans hreach.symm, hkept.2.trans ?_⟩
  rw [← hreach, Nat.add_sub_cancel]

inductive HeadStep (s s' : Replica) : List Execution → Prop
  | idle (hnil : s.executeQueue = []) (hsame : s' = s) : HeadStep s s' []
  | dropped (r : Request) (rest : List Request) (hqueue : s.executeQueue = r :: rest)
      (hdup : s.executorLastSeq ≠ 0 ∧ r.seq ≤ s.lastRun) (hrest : s'.executeQueue = rest)
      (hnext : s'.nextExecuteSeq = s.nextExecuteSeq) (hlast : s'.executorLastSeq = s.executorLastSeq) :
      HeadStep s s' []
  | ran (r : Request) (rest : List Request) (hqueue : s.executeQueue = r :: rest)
      (hfresh : s.executorLastSeq = 0 ∨ s.lastRun < r.seq) (hrest : s'.executeQueue = rest)
      (hnext : s'.nextExecuteSeq = s.nextExecuteSeq)
      (hlast : s'.executorLastSeq = if s.executorLastSeq = 0 then toInt32 r.seq else s.executorLastSeq + 1) :
      HeadStep s s' [⟨r.seq, r.currentView, r.hash, r.data⟩]

lemma executeMessage_head (s : Replica) : HeadStep s (executeMessage s).2 (executeMessage s).1 := by
  rw [executeMessage]
  split
  next h => exact .idle h rfl
  next r rest h =>
    split
    next hdup => exact .dropped r rest h hdup rfl rfl rfl
    next hfresh => exact .ran r rest h (by omega) rfl rfl rfl

structure InOrder (s : Replica) : Prop where
  inRange : 0 ≤ s.executorLastSeq ∧ s.executorLastSeq < int32Bound
  behind : s.lastRun < s.nextExecuteSeq
  queue : ∃ old, s.executeQueue.map Request.seq =
      old ++ List.range' (s.lastRun + 1) (s.nextExecuteSeq - 1 - s.lastRun) ∧
    ∀ seq ∈ old, 0 < seq ∧ seq ≤ s.lastRun

lemma lastRun_of_eq {last : ℕ} (h : s.executorLastSeq = last) (hlast : last ≤ int32Bound) : s.lastRun = last := by
  rw [Replica.lastRun, h]
  exact toUint64_of_le (hlast.trans (by rw [int32Bound, uint64Max]; omega))

lemma InOrder.lastSeq (h : InOrder s) : s.executorLastSeq = s.lastRun := by
  obtain ⟨last, hlast⟩ := Int.eq_ofNat_of_zero_le h.inRange.1
  have hbound : last ≤ int32Bound := by
    have := h.inRange.2
    omega
  rw [lastRun_of_eq hlast hbound, hlast]

lemma InOrder.lastRun_lt (h : InOrder s) : s.lastRun < int32Bound := by
  have hlast := h.lastSeq
  have hrange := h.inRange
  omega

lemma inOrder_initial (cfg : EngineConfig) (primaryId : ℤ) : InOrder (.initial cfg primaryId) :=
  ⟨⟨le_rfl, Int.zero_lt_one.trans (by decide)⟩, Nat.zero_lt_one, [], rfl, fun _ h => absurd h List.not_mem_nil⟩

lemma lastRun_eq (h : s'.executorLastSeq = s.executorLastSeq) : s'.lastRun = s.lastRun := congrArg toUint64 h

lemma InOrder.same (h : InOrder s) (hs : SameExecutor s s') : InOrder s' := by
  have hlast : s'.lastRun = s.lastRun := lastRun_eq hs.executorLastSeq
  rcases h with ⟨hrange, hbehind, hqueue⟩
  refine ⟨?_, ?_, ?_⟩
  · rwa [hs.executorLastSeq]
  · rwa [hlast, hs.nextExecuteSeq]
  · rwa [hs.executeQueue, hlast, hs.nextExecuteSeq]

lemma InOrder.pushed {k : ℕ} (h : InOrder s) (hp : Pushed s s' k) : InOrder s' := by
  have hlast : s'.lastRun = s.lastRun := lastRun_eq hp.executorLastSeq
  obtain ⟨hrange, hbehind, old, hqueue, hold⟩ := h
  refine ⟨hp.executorLastSeq ▸ hrange, by rw [hlast, hp.nextExecuteSeq]; omega, old, ?_, by rwa [hlast]⟩
  have hstart : s.nextExecuteSeq = s.lastRun + 1 + 1 * (s.nextExecuteSeq - 1 - s.lastRun) := by omega
  rw [hp.executeQueue, hqueue, hlast, hp.nextExecuteSeq, List.append_assoc]
  nth_rewrite 2 [hstart]
  rw [List.range'_append]
  congr 2
  omega

lemma InOrder.jumped_last {reach : ℕ} (h : InOrder s) (hj : Jumped s s' reach) (hreach : s.nextExecuteSeq ≤ reach + 1)
    (hfits : reach < int32Bound) : s'.executorLastSeq = reach := by
  have hlast := h.lastSeq
  have hbehind := h.behind
  rw [hj.executorLastSeq, toInt32_of_lt hfits]
  omega

lemma InOrder.jumped {reach : ℕ} (h : InOrder s) (hj : Jumped s s' reach) (hreach : s.nextExecuteSeq ≤ reach + 1)
    (hfits : reach < int32Bound) : InOrder s' := by
  have hseq := h.jumped_last hj hreach hfits
  have hlast : s'.lastRun = reach := lastRun_of_eq hseq hfits.le
  obtain ⟨hrange, hbehind, old, hqueue, hold⟩ := h
  refine ⟨by rw [hseq]; omega, by rw [hlast, hj.nextExecuteSeq]; omega, s.executeQueue.map Request.seq, ?_,
    fun seq hseq => ?_⟩
  · rw [hj.executeQueue, hlast, hj.nextExecuteSeq]
    simp
  · rw [hqueue] at hseq
    rw [hlast]
    rcases List.mem_append.mp hseq with hmem | hmem
    · have := hold seq hmem
      omega
    · rw [List.mem_range'_1] at hmem
      omega

lemma InOrder.head {r : Request} {rest : List Request} (h : InOrder s) (hqueue : s.executeQueue = r :: rest)
    (hfresh : s.executorLastSeq = 0 ∨ s.lastRun < r.seq) :
    r.seq = s.lastRun + 1 ∧ s.lastRun + 1 < s.nextExecuteSeq ∧
      rest.map Request.seq = List.range' (s.lastRun + 1 + 1) (s.nextExecuteSeq - 1 - (s.lastRun + 1)) := by
  have hlast := h.lastSeq
  obtain ⟨-, hbehind, old, hseqs, hold⟩ := h
  rw [hqueue, List.map_cons] at hseqs
  cases old with
  | cons q old =>
    have hq := hold q List.mem_cons_self
    have hhead : r.seq = q := (List.cons.inj hseqs).1
    omega
  | nil =>
    cases hcount : s.nextExecuteSeq - 1 - s.lastRun with
    | zero =>
      rw [hcount] at hseqs
      cases hseqs
    | succ k =>
      rw [hcount, List.nil_append, List.range'_succ] at hseqs
      obtain ⟨hhead, htail⟩ := List.cons.inj hseqs
      refine ⟨hhead, by omega, htail.trans ?_⟩
      congr 1
      omega

lemma InOrder.headStep {executed : List Execution} (h : InOrder s) (hs : HeadStep s s' executed)
    (hfits : ∀ r ∈ s.executeQueue.head?, r.seq < int32Bound) :
    InOrder s' ∧ (executed = [] ∧ s'.lastRun = s.lastRun ∨
      executed.map Execution.seq = [s.lastRun + 1] ∧ s'.lastRun = s.lastRun + 1) := by
  cases hs with
  | idle _ hsame =>
    subst hsame
    exact ⟨h, Or.inl ⟨rfl, rfl⟩⟩
  | dropped r rest hqueue hdup hrest hnext hlast =>
    have hrun : s'.lastRun = s.lastRun := lastRun_eq hlast
    refine ⟨?_, Or.inl ⟨rfl, hrun⟩⟩
    obtain ⟨hrange, hbehind, old, hseqs, hold⟩ := h
    rw [hqueue, List.map_cons] at hseqs
    cases old with
    | nil =>
      have hmem : r.seq ∈ List.range' (s.lastRun + 1) (s.nextExecuteSeq - 1 - s.lastRun) := by
        rw [← List.nil_append (List.range' _ _), ← hseqs]
        exact List.mem_cons_self
      rw [List.mem_range'_1] at hmem
      omega
    | cons q old =>
      refine ⟨hlast ▸ hrange, by rwa [hrun, hnext], old, ?_, fun seq hseq => ?_⟩
      · rw [hrest, hrun, hnext]
        exact (List.cons.inj hseqs).2
      · rw [hrun]
        exact hold seq (List.mem_cons_of_mem _ hseq)
  | ran r rest hqueue hfresh hrest hnext hlast =>
    obtain ⟨hseq, hbelow, htail⟩ := h.head hqueue hfresh
    have hbefore := h.lastSeq
    have hbound : s.lastRun + 1 < int32Bound := hseq ▸ hfits r (by rw [hqueue]; rfl)
    have hlast' : s'.executorLastSeq = (s.lastRun + 1 : ℕ) := by
      rw [hlast, hseq, toInt32_of_lt hbound]
      split <;> omega
    have hrun : s'.lastRun = s.lastRun + 1 := lastRun_of_eq hlast' hbound.le
    refine ⟨⟨by rw [hlast']; omega, by rw [hrun, hnext]; exact hbelow, [], ?_, fun _ hmem => absurd hmem List.not_mem_nil⟩,
      Or.inr ⟨by rw [List.map_singleton, hseq], hrun⟩⟩
    rw [hrest, hrun, hnext, List.nil_append]
    exact htail

-- assert(last_seq_ + 1 == request->seq()) of Execute, for the request it takes next
def Replica.seqAssertion (s : Replica) : Prop :=
  ∀ r rest, s.executeQueue = r :: rest → s.executorLastSeq ≠ 0 → s.lastRun < r.seq →
    toUint64 (s.executorLastSeq + 1) = r.seq

lemma InOrder.seqAssertion (h : InOrder s) : s.seqAssertion := by
  intro r rest hqueue _ hlt
  have hbound : s.lastRun + 1 ≤ uint64Max := by
    have hrun := h.lastRun_lt
    rw [int32Bound] at hrun
    rw [uint64Max]
    omega
  rw [h.lastSeq, (h.head hqueue (Or.inr hlt)).1, ← toUint64_of_le hbound]
  push_cast
  rfl

theorem engineStep_inOrder (cfg : EngineConfig) (ev : EngineEvent) (h : InOrder s)
    (hev : ∀ cancelledEpoch, ev ≠ .gossipCancel cancelledEpoch)
    (hfits : ev = .executeMessage → ∀ r ∈ s.executeQueue.head?, r.seq < int32Bound) :
    InOrder (engineStep cfg s ev).2 ∧
      ((engineStep cfg s ev).1.executed = [] ∧ (engineStep cfg s ev).2.lastRun = s.lastRun ∨
        (engineStep cfg s ev).1.executed.map Execution.seq = [s.lastRun + 1] ∧
          (engineStep cfg s ev).2.lastRun = s.lastRun + 1) := by
  have hquiet : ∀ r : Output × Replica, SameExecutor s r.2 → r.1.executed = [] → InOrder r.2 ∧
      (r.1.executed = [] ∧ r.2.lastRun = s.lastRun ∨
        r.1.executed.map Execution.seq = [s.lastRun + 1] ∧ r.2.lastRun = s.lastRun + 1) :=
    fun r hs hnone => ⟨h.same hs, Or.inl ⟨hnone, lastRun_eq hs.executorLastSeq⟩⟩
  cases ev with
  | gossipCancel cancelledEpoch => exact absurd rfl (hev cancelledEpoch)
  | executeMessage => exact h.headStep (executeMessage_head s) (hfits rfl)
  | orderMessage =>
    obtain ⟨k, hk⟩ := orderMessage_pushed s
    exact ⟨h.pushed hk, Or.inl ⟨rfl, lastRun_eq hk.executorLastSeq⟩⟩
  | receive env request =>
    exact hquiet _ internalConsensusCommit_executor (internalConsensusCommit_executed cfg env s request)
  | updateCheckPointStatus =>
    refine hquiet (.none, updateCheckPointStatus s) ?_ rfl
    rw [updateCheckPointStatus]
    dsimp only
    split <;> exact ⟨rfl, rfl, rfl⟩
  | promotePrimaryFromCert primaryOmnet =>
    refine hquiet (.none, promotePrimaryFromCert cfg s primaryOmnet) ?_ rfl
    rw [promotePrimaryFromCert]
    split <;> exact ⟨rfl, rfl, rfl⟩
  | getVerifiedVoteProgress request =>
    refine hquiet (engineStep cfg s (.getVerifiedVoteProgress request)) ?_ rfl
    rw [engineStep]
    dsimp only
    split <;> exact ⟨rfl, rfl, rfl⟩
  | expireProposed hash => exact hquiet (engineStep cfg s (.expireProposed hash)) ⟨rfl, rfl, rfl⟩ rfl
  | expireExecuted hash => exact hquiet (engineStep cfg s (.expireExecuted hash)) ⟨rfl, rfl, rfl⟩ rfl
  | prepareLocalSubmission => exact hquiet (engineStep cfg s .prepareLocalSubmission) ⟨rfl, rfl, rfl⟩ rfl
  | setPrimary primary version => exact hquiet (engineStep cfg s (.setPrimary primary version)) ⟨rfl, rfl, rfl⟩ rfl
  | installPending view => exact hquiet (engineStep cfg s (.installPending view)) ⟨rfl, rfl, rfl⟩ rfl

def assigns (cfg : EngineConfig) (env : BridgeEnv) (s : Replica) (request : Request) : Bool :=
  decide (request.type = .newTxns) && decide (request.hash ∉ s.executedHashes) &&
    decide (cfg.selfId = s.consensus.info.primaryId) && (preVerify env s.consensus request).1 &&
    decide (request.hash ∉ s.proposed) && !s.seqUsedUp cfg

def handedOut (out : Output) : List ℕ :=
  (out.sent.filter fun m => decide (m.type = .prePrepare)).map Request.seq

lemma handedOut_nil {out : Output} (h : ∀ m ∈ out.sent, m.type ≠ .prePrepare) : handedOut out = [] := by
  rw [handedOut, List.map_eq_nil_iff, List.filter_eq_nil_iff]
  exact fun m hm => by simpa using h m hm

lemma voteOn_sent (answer : Request) : ∀ m ∈ (voteOn cfg s request answer).1, m = answer := by
  intro m hm
  rw [voteOn] at hm
  dsimp only at hm
  split at hm
  · exact List.mem_singleton.mp hm
  · exact absurd hm List.not_mem_nil

lemma acceptPropose_sent : ∀ m ∈ (acceptPropose cfg s request).1, m = prepareFor cfg request := by
  intro m hm
  rw [acceptPropose] at hm
  repeat' split at hm
  all_goals first | exact absurd hm List.not_mem_nil | exact voteOn_sent _ m hm

lemma processProposeMsg_sent : ∀ m ∈ (processProposeMsg cfg env s request).1.sent, m = prepareFor cfg request := by
  intro m hm
  rw [processProposeMsg] at hm
  split at hm
  · exact absurd hm List.not_mem_nil
  · split at hm
    · exact acceptPropose_sent m hm
    · dsimp only at hm
      split at hm
      · exact acceptPropose_sent m hm
      · exact absurd hm List.not_mem_nil

lemma processPrepareMsg_sent : ∀ m ∈ (processPrepareMsg cfg s request).1, m = commitFor cfg request := by
  intro m hm
  rw [processPrepareMsg] at hm
  repeat' split at hm
  all_goals first | exact absurd hm List.not_mem_nil | exact voteOn_sent _ m hm

lemma processNewRequest_handedOut (htype : request.type = .newTxns) :
    handedOut (processNewRequest cfg env s request).1 = if assigns cfg env s request then [s.nextSeq] else [] := by
  rw [processNewRequest]
  split
  next h => simp [assigns, h, handedOut, Output.none]
  next hnew =>
    split
    next h => simp [assigns, h, handedOut, htype]
    next hself =>
      dsimp only
      split
      next hok =>
        rw [propose]
        split
        next h =>
          have h' : request.hash ∈ s.proposed := h
          simp [assigns, h', handedOut]
        next hprop =>
          have hprop' : request.hash ∉ s.proposed := hprop
          split
          next h =>
            have h' : s.seqUsedUp cfg = true := h
            simp [assigns, h', handedOut]
          next h =>
            have h' : s.seqUsedUp cfg = false := eq_false_of_ne_true h
            have hself' : cfg.selfId = s.consensus.info.primaryId := not_not.mp hself
            rw [if_pos (by simp [assigns, htype, hnew, hself', hok, hprop', h'])]
            rfl
      next h => simp [assigns, h, handedOut, Output.none]

theorem engineStep_handedOut (cfg : EngineConfig) (s : Replica) (ev : EngineEvent) :
    handedOut (engineStep cfg s ev).1 = [] ∨
      ∃ env request, ev = .receive env request ∧ assigns cfg env s request = true ∧
        handedOut (engineStep cfg s ev).1 = [s.nextSeq] := by
  cases ev with
  | receive env request =>
    rw [engineStep, internalConsensusCommit]
    cases htype : request.type with
    | newTxns =>
      dsimp only
      rw [processNewRequest_handedOut htype]
      by_cases h : assigns cfg env s request = true
      · exact Or.inr ⟨env, request, rfl, h, if_pos h⟩
      · exact Or.inl (if_neg h)
    | prePrepare =>
      exact Or.inl (handedOut_nil fun m hm => by rw [processProposeMsg_sent m hm]; simp [prepareFor])
    | prepare => exact Or.inl (handedOut_nil fun m hm => by rw [processPrepareMsg_sent m hm]; simp [commitFor])
    | commit => exact Or.inl rfl
  | _ => exact Or.inl rfl

lemma nextSeq_of_assigns (h : assigns cfg env s request = true) (hfits : s.maxPendingExecutedSeq < uint32Modulus) :
    s.maxPendingExecutedSeq ≤ s.nextSeq := by
  simp only [assigns, Bool.and_eq_true, Bool.not_eq_true', Replica.seqUsedUp, Bool.or_eq_false_iff,
    decide_eq_false_iff_not, not_lt, Nat.mod_eq_of_lt hfits] at h
  exact h.2.1

end V2vBft.Engine
