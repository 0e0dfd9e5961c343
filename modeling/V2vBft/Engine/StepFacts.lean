import V2vBft.Engine.ExecutorFacts

namespace V2vBft.Engine

open Wire Pbft Bridge

variable {cfg : EngineConfig} {Q : Request → Prop} {s s' : Replica} {ev : EngineEvent} {sent : List Request}

inductive SlotChange (cfg : EngineConfig) (Q : Request → Prop) (s : Replica) (ev : EngineEvent) (i : ℕ)
    (c' : TransactionCollector) : Prop
  | proposals (h : SlotStep Q (s.pool.collector i) c')
  | fresh (n : ℕ) (hn : s.nextExecuteSeq + s.pool.capacity ≤ n + 1) (h : c' = .fresh n)
  | vote (env : BridgeEnv) (request : Request) (hev : ev = .receive env request)
      (htype : request.type = .prepare ∨ request.type = .commit) (hhears : s.hears cfg request = true)
      (hopen : s.isCommitted request.seq = false) (hindex : i = s.pool.index request.seq)
      (h : c' = (s.collect cfg request).collector)

inductive SendsCommit (cfg : EngineConfig) (s : Replica) (request : Request) (s' : Replica) : Prop
  | prepared (hhears : s.hears cfg request = true) (hopen : s.isCommitted request.seq = false)
      (h : (s.collect cfg request).changed = true)
      (hslot : s'.pool.getCollector request.seq = (s.collect cfg request).collector)
  | already (hhears : s.hears cfg request = true) (h : s.isCommitted request.seq = true)

structure StepSpec (cfg : EngineConfig) (Q : Request → Prop) (s : Replica) (ev : EngineEvent) (sent : List Request)
    (s' : Replica) : Prop where
  waits : s'.Waits Q
  capacity : s'.pool.capacity = s.pool.capacity
  next : s.nextExecuteSeq ≤ s'.nextExecuteSeq
  slots : ∀ i, SlotChange cfg Q s ev i (s'.pool.collector i)
  inFlight : ∀ m ∈ s'.inFlight, m ∈ s.inFlight ∨ ∃ env request, ev = .receive env request ∧
    s.hears cfg request = true ∧ s.isCommitted request.seq = false ∧ (s.collect cfg request).committed = some m
  ready : ∀ m ∈ s'.executeQueue, m ∈ s.executeQueue ∨ m.seq < s'.nextExecuteSeq
  data : ∀ q ∈ s'.dataQueue, q ∈ s.dataQueue ∨ ∃ m ∈ s.executeQueue, q = m.seq
  lastSeq : s'.lastSeq = s.lastSeq ∨ s'.lastSeq ∈ s.dataQueue
  committed : ∀ q ∈ s'.committedStatus, q ∈ s.committedStatus ∨ ∃ env request, ev = .receive env request ∧
    request.type = .commit ∧ request.seq = q ∧ (s.collect cfg request).changed = true ∧
    s'.pool.getCollector q = (s.collect cfg request).collector
  sent : ∀ m ∈ sent, m.type = .commit → ∃ env request, ev = .receive env request ∧ request.type = .prepare ∧
    request.isRecovery = false ∧ m = commitFor cfg request ∧ SendsCommit cfg s request s'

def completes (cfg : EngineConfig) (s : Replica) (request : Request) : Prop :=
  let c := s.pool.getCollector request.seq
  s.hears cfg request = true ∧ s.isCommitted request.seq = false ∧ c.seq = request.seq ∧
    Completes (s.quorumForRequest cfg request) c request ∧
    (request.type = .prepare ∧ c.status = .readyPrepare ∨ request.type = .commit ∧ c.status = .readyCommit)

instance (request : Request) : Decidable (completes cfg s request) :=
  inferInstanceAs (Decidable (_ ∧ _ ∧ _ ∧ _ ∧ _))

lemma ProposeStep.spec (h : ProposeStep Q s s') (hwaits : s'.Waits Q) (hsent : ∀ m ∈ sent, m.type ≠ .commit) :
    StepSpec cfg Q s ev sent s' where
  waits := hwaits
  capacity := h.capacity
  next := h.nextExecuteSeq.ge
  slots i := .proposals (h.slots i)
  inFlight _ hm := Or.inl (h.inFlight ▸ hm)
  ready _ hm := Or.inl (h.executeQueue ▸ hm)
  data _ hq := Or.inl (h.dataQueue ▸ hq)
  lastSeq := Or.inl h.lastSeq
  committed _ hq := Or.inl (h.committedStatus ▸ hq)
  sent m hm hcommit := absurd hcommit (hsent m hm)

lemma AdvanceStep.spec (h : AdvanceStep s s') (hwaits : s.Waits Q) : StepSpec cfg Q s ev [] s' where
  waits r hr := hwaits r (h.pendingRecovery ▸ hr)
  capacity := h.capacity
  next := h.next
  slots i := by
    rcases h.slots i with hsame | ⟨n, hn, hfresh⟩
    · rw [hsame]
      exact .proposals (SlotStep.refl _)
    · exact .fresh n hn hfresh
  inFlight m hm := Or.inl (h.inFlight m hm)
  ready := h.ready
  data q hq := Or.inl (h.dataQueue ▸ hq)
  lastSeq := Or.inl h.lastSeq
  committed q hq := Or.inl (h.committedStatus ▸ hq)
  sent m hm := absurd hm (by simp)

lemma VoteStep.spec {env : BridgeEnv} {request answer : Request} (h : VoteStep cfg s request answer sent s')
    (htype : request.type = .prepare ∨ request.type = .commit) (hwaits : s'.Waits Q)
    (hsent : ∀ m ∈ sent, request.type = .prepare ∧ request.isRecovery = false ∧ m = commitFor cfg request) :
    StepSpec cfg Q s (.receive env request) sent s' := by
  cases h with
  | idle hcore hnone =>
    refine hcore.propose.spec hwaits fun m hm => ?_
    rw [hnone] at hm
    exact absurd hm (by simp)
  | already hcore hhears hcommitted _ =>
    have h := @ProposeStep.spec cfg Q s s' (.receive env request) [] hcore.propose hwaits (by simp)
    refine ⟨h.waits, h.capacity, h.next, h.slots, h.inFlight, h.ready, h.data, h.lastSeq, h.committed, ?_⟩
    intro m hm _
    obtain ⟨hprepare, hfirst, hm⟩ := hsent m hm
    exact ⟨env, request, rfl, hprepare, hfirst, hm, .already hhears hcommitted⟩
  | counted hhears hopen hcore hanswer =>
    have hslot : s'.pool.getCollector request.seq = (s.collect cfg request).collector := by
      rw [hcore.pool]
      simp only [Replica.collected, LockFreeCollectorPool.getCollector, setCollector_collector]
      exact if_pos rfl
    refine ⟨hwaits, ?_, hcore.nextExecuteSeq.ge, fun i => ?_, fun m hm => ?_, fun m hm => ?_, fun q hq => ?_,
      Or.inl hcore.lastSeq, fun q hq => ?_, fun m hm _ => ?_⟩
    · rw [hcore.pool]
      rfl
    · rw [hcore.pool]
      simp only [Replica.collected, setCollector_collector]
      split
      next hi => exact .vote env request rfl htype hhears hopen hi rfl
      next => exact .proposals (SlotStep.refl _)
    · rw [hcore.inFlight] at hm
      simp only [Replica.inFlight, Replica.collected, List.mem_append, Option.mem_toList] at hm ⊢
      rcases hm with ((hm | hm) | hm) | hm
      · exact Or.inl (Or.inl (Or.inl hm))
      · exact Or.inr ⟨env, request, rfl, hhears, hopen, hm⟩
      · exact Or.inl (Or.inl (Or.inr hm))
      · exact Or.inl (Or.inr hm)
    · exact Or.inl (hcore.executeQueue ▸ hm)
    · exact Or.inl (hcore.dataQueue ▸ hq)
    · rw [hcore.committedStatus] at hq
      simp only [Replica.collected] at hq
      split at hq
      next hchanged =>
        rcases Finset.mem_insert.mp hq with rfl | hq
        · exact Or.inr ⟨env, request, rfl, hchanged.2, rfl, hchanged.1, hslot⟩
        · exact Or.inl hq
      next => exact Or.inl hq
    · obtain ⟨hprepare, hfirst, rfl⟩ := hsent m hm
      refine ⟨env, request, rfl, hprepare, hfirst, rfl, .prepared hhears hopen ?_ hslot⟩
      rcases hanswer with hnone | ⟨_, hchanged⟩
      · rw [hnone] at hm
        exact absurd hm (by simp)
      · exact hchanged

lemma processPrepareMsg_pendingRecovery (cfg : EngineConfig) (s : Replica) (request : Request) :
    (processPrepareMsg cfg s request).2.pendingRecovery = s.pendingRecovery := by
  rw [processPrepareMsg]
  split
  next => exact addConsensusMsg_pendingRecovery cfg s request
  next =>
    split
    next => rfl
    next => exact addConsensusMsg_pendingRecovery cfg (s.lookedUp request) request

lemma processCommitMsg_pendingRecovery (cfg : EngineConfig) (s : Replica) (request : Request) :
    (processCommitMsg cfg s request).pendingRecovery = s.pendingRecovery := by
  rw [processCommitMsg]
  split
  next => exact addConsensusMsg_pendingRecovery cfg s request
  next =>
    split
    next => rfl
    next => exact addConsensusMsg_pendingRecovery cfg (s.lookedUp request) request

lemma receive_spec {env : BridgeEnv} {request : Request} (hcalm : s.Calm) (hwaits : s.Waits Q)
    (hQ : request.type = .prePrepare → admits cfg env s request = true →
      Q request ∧ Q { request with forceRecovery := false }) :
    StepSpec cfg Q s (.receive env request) (internalConsensusCommit cfg env s request).1.sent
      (internalConsensusCommit cfg env s request).2 := by
  rw [internalConsensusCommit]
  cases htype : request.type with
  | newTxns =>
    obtain ⟨hcore, hpending, hsent⟩ := processNewRequest_step cfg env s request htype
    exact hcore.propose.spec (fun r hr => hwaits r (hpending ▸ hr)) fun m hm => (hsent m hm).2
  | prePrepare =>
    obtain ⟨hstep, hwaits', hsent⟩ := processProposeMsg_step cfg env hcalm hwaits htype (hQ htype)
    refine hstep.spec hwaits' fun m hm => ?_
    rw [hsent m hm]
    simp [prepareFor]
  | prepare =>
    refine (processPrepareMsg_step cfg s request).spec (Or.inl htype) ?_ fun m hm => ⟨htype, ?_, ?_⟩
    · exact fun r hr => hwaits r (processPrepareMsg_pendingRecovery cfg s request ▸ hr)
    · by_contra hrec
      exact absurd hm (by simp [processPrepareMsg, hrec])
    · cases processPrepareMsg_step cfg s request with
      | idle hcore hsent => exact absurd hm (by simp [hsent])
      | already hcore hhears hcommitted hsent => rcases hsent with h | h <;> simp_all
      | counted hhears hopen hcore hsent => rcases hsent with h | ⟨h, _⟩ <;> simp_all
  | commit =>
    refine (processCommitMsg_step cfg s request).spec (Or.inr htype) ?_ (by simp)
    exact fun r hr => hwaits r (processCommitMsg_pendingRecovery cfg s request ▸ hr)

theorem engineStep_spec (cfg : EngineConfig) (ev : EngineEvent) (hcalm : s.Calm) (hwaits : s.Waits Q)
    (hQ : ∀ env request, ev = .receive env request → request.type = .prePrepare →
      admits cfg env s request = true → Q request ∧ Q { request with forceRecovery := false }) :
    StepSpec cfg Q s ev (engineStep cfg s ev).1.sent (engineStep cfg s ev).2 := by
  have hquiet : ∀ {t : Replica}, SameCore s t → t.pendingRecovery = s.pendingRecovery → StepSpec cfg Q s ev [] t :=
    fun hcore hpending => hcore.propose.spec (fun r hr => hwaits r (hpending ▸ hr)) (by simp)
  cases ev with
  | receive env request => exact receive_spec hcalm hwaits (hQ env request rfl)
  | orderMessage => exact (orderMessage_advance s).spec hwaits
  | gossipCancel cancelledEpoch => exact (gossipCancel_advance s cancelledEpoch).spec hwaits
  | executeMessage =>
    obtain ⟨hpool, hcommit, hcand, hnext, hstatus, hlast, hqueue, hout⟩ := executeMessage_cases s
    have hpending : (executeMessage s).2.pendingRecovery = s.pendingRecovery := by
      rw [executeMessage]
      split
      next => rfl
      next => split <;> rfl
    refine ⟨fun r hr => hwaits r (hpending ▸ hr), by rw [engineStep, hpool], hnext.ge, fun i => ?_, fun m hm => ?_,
      fun m hm => Or.inl (hqueue m hm), fun q hq => ?_, Or.inl hlast, fun q hq => Or.inl (hstatus ▸ hq), by
        simp [engineStep]⟩
    · rw [engineStep, hpool]
      exact .proposals (SlotStep.refl _)
    · simp only [engineStep, Replica.inFlight, hcommit, hcand, List.mem_append] at hm ⊢
      rcases hm with hm | hm
      · exact Or.inl (Or.inl hm)
      · exact Or.inl (Or.inr (hqueue m hm))
    · simp only [engineStep] at hq
      rcases hout with ⟨_, hsame⟩ | ⟨r, hr, _, hdata⟩
      · exact Or.inl (hsame ▸ hq)
      · rw [hdata, List.mem_append, List.mem_singleton] at hq
        rcases hq with hq | rfl
        · exact Or.inl hq
        · exact Or.inr ⟨r, hr, rfl⟩
  | updateCheckPointStatus =>
    rw [engineStep, updateCheckPointStatus]
    split
    next hmem =>
      refine ⟨hwaits, rfl, le_rfl, fun i => .proposals (SlotStep.refl _), fun m hm => Or.inl hm,
        fun m hm => Or.inl hm, fun q hq => Or.inl (List.mem_of_mem_erase hq), Or.inr hmem,
        fun q hq => Or.inl (Finset.mem_of_mem_filter q hq), by simp [Output.none]⟩
    next => exact hquiet (SameCore.refl s) rfl
  | expireProposed hash => exact hquiet ⟨⟨rfl, rfl, rfl, rfl, rfl, rfl, rfl⟩, rfl⟩ rfl
  | expireExecuted hash => exact hquiet ⟨⟨rfl, rfl, rfl, rfl, rfl, rfl, rfl⟩, rfl⟩ rfl
  | prepareLocalSubmission => exact hquiet ⟨⟨rfl, rfl, rfl, rfl, rfl, rfl, rfl⟩, rfl⟩ rfl
  | promotePrimaryFromCert primaryOmnet =>
    rw [engineStep, promotePrimaryFromCert]
    split
    next => exact hquiet (SameCore.refl s) rfl
    next => exact hquiet ⟨⟨rfl, rfl, rfl, rfl, rfl, rfl, rfl⟩, rfl⟩ rfl
  | setPrimary primary version => exact hquiet ⟨⟨rfl, rfl, rfl, rfl, rfl, rfl, rfl⟩, rfl⟩ rfl
  | installPending view => exact hquiet ⟨⟨rfl, rfl, rfl, rfl, rfl, rfl, rfl⟩, rfl⟩ rfl
  | getVerifiedVoteProgress request =>
    rw [engineStep]
    split
    next => exact hquiet (lookedUp_core s request) rfl
    next => exact hquiet (SameCore.refl s) rfl

lemma collect_vote (cfg : EngineConfig) {request : Request} (hcalm : s.Calm)
    (htype : request.type = .prepare ∨ request.type = .commit) :
    (s.collect cfg request).collector.seq = (s.pool.getCollector request.seq).seq ∧
      (∀ m ∈ (s.collect cfg request).collector.stored, m ∈ (s.pool.getCollector request.seq).stored) ∧
      ∀ v ∈ (s.collect cfg request).collector.senders, v ∈ (s.pool.getCollector request.seq).senders ∨
        v = voteOf request ∧ (s.pool.getCollector request.seq).seq = request.seq := by
  have hne : request.type ≠ .prePrepare := by
    rcases htype with h | h <;> simp [h]
  cases collect_step cfg request hcalm with
  | same hc => exact ⟨by rw [hc], fun m hm => hc ▸ hm, fun v hv => Or.inl (hc ▸ hv)⟩
  | queued h => exact absurd h hne
  | stored h => exact absurd h hne
  | voted _ hseq hc =>
    refine ⟨by rw [hc]; rfl, fun m hm => by rw [hc] at hm; exact hm, fun v hv => ?_⟩
    rw [hc] at hv
    exact (mem_record.mp hv).symm.imp id fun h => ⟨h, hseq⟩
  | prepared _ hseq _ _ hseq' hsenders _ _ hstored =>
    refine ⟨hseq', hstored, fun v hv => ?_⟩
    rw [hsenders] at hv
    exact (mem_record.mp hv).symm.imp id fun h => ⟨h, hseq⟩
  | executed _ hseq _ _ hseq' hsenders _ _ hstored =>
    refine ⟨hseq', fun m hm => hstored ▸ hm, fun v hv => ?_⟩
    rw [hsenders] at hv
    exact (mem_record.mp hv).symm.imp id fun h => ⟨h, hseq⟩

lemma collect_committed {request m : Request} (hcalm : s.Calm) (h : (s.collect cfg request).committed = some m) :
    request.type = .commit ∧ (s.pool.getCollector request.seq).seq = request.seq ∧
      (s.pool.getCollector request.seq).status = .readyCommit ∧
      Completes (s.quorumForRequest cfg request) (s.pool.getCollector request.seq) request ∧
      (s.pool.getCollector request.seq).mainRequest = some m := by
  cases collect_step cfg request hcalm with
  | executed htype hseq hb hquorum _ _ _ _ _ hmain => exact ⟨htype, hseq, hb, hquorum, hmain ▸ h⟩
  | same _ _ hnone => simp [h] at hnone
  | queued _ _ _ _ hnone => simp [h] at hnone
  | stored _ _ _ _ _ hnone => simp [h] at hnone
  | voted _ _ _ _ hnone => simp [h] at hnone
  | prepared _ _ _ _ _ _ _ _ _ hnone => simp [h] at hnone

lemma internalConsensusCommit_executed (cfg : EngineConfig) (env : BridgeEnv) (s : Replica) (request : Request) :
    (internalConsensusCommit cfg env s request).1.executed = [] := by
  rw [internalConsensusCommit]
  cases request.type with
  | newTxns =>
    dsimp only
    rw [processNewRequest]
    split
    next => rfl
    next =>
      split
      next => rfl
      next =>
        dsimp only
        split <;> rfl
  | prePrepare =>
    dsimp only
    rw [processProposeMsg]
    split
    next => rfl
    next =>
      split
      next => rfl
      next =>
        dsimp only
        split <;> rfl
  | _ => rfl

theorem engineStep_executed (cfg : EngineConfig) (s : Replica) (ev : EngineEvent) :
    ∀ x ∈ (engineStep cfg s ev).1.executed, ∃ r ∈ s.executeQueue, x = ⟨r.seq, r.currentView, r.hash, r.data⟩ := by
  intro x hx
  cases ev with
  | executeMessage =>
    obtain ⟨_, _, _, _, _, _, _, ⟨hnone, _⟩ | ⟨r, hr, hone, _⟩⟩ := executeMessage_cases s
    · exact absurd hx (by simp [engineStep, hnone])
    · exact ⟨r, hr, by simpa [engineStep, hone] using hx⟩
  | receive env request => exact absurd hx (by simp [engineStep, internalConsensusCommit_executed])
  | _ => exact absurd hx (by simp [engineStep, Output.none])

theorem StepSpec.calm (h : StepSpec cfg Q s ev sent s') (hcalm : s.Calm) : s'.Calm := by
  intro i
  cases h.slots i with
  | proposals h =>
    rcases h.status with hs | ⟨_, hs⟩
    · rw [hs]
      exact hcalm i
    · simp [hs]
  | fresh n hn h => simp [h]
  | vote env request hev htype hhears hopen hindex h =>
    rw [h]
    cases collect_step cfg request hcalm with
    | same hc => rw [hc]; exact hcalm _
    | queued _ _ hc => rw [hc]; exact hcalm _
    | stored _ _ status hs hc =>
      rw [hc]
      rcases hs with hs | ⟨_, hs⟩
      · exact hs ▸ hcalm _
      · simp [hs]
    | voted _ _ hc => rw [hc]; exact hcalm _
    | prepared _ _ _ _ _ _ hs => simp [hs]
    | executed _ _ _ _ _ _ hs => simp [hs]

end V2vBft.Engine
