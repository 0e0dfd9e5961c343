import V2vBft.Engine.Firewall
import V2vBft.Engine.Network
import V2vBft.Library.Quorum

namespace V2vBft.Engine

open Wire Pbft Bridge Library.GuardedRun Library.Quorum

variable {M : Membership} {n : Network} {e : NetworkEvent} {cfg : EngineConfig} {Q : Request → Prop} {s s' : Replica}
variable {ev : EngineEvent} {sent : List Request}

def TransactionStatue.open (status : TransactionStatue) : Prop := status = .none ∨ status = .readyPrepare

structure Settled (s : Replica) (seq : ℕ) : Prop where
  closed : (s.pool.getCollector seq).seq = seq → ¬(s.pool.getCollector seq).status.open
  low : seq + 1 < s.nextExecuteSeq + s.pool.capacity

lemma SlotStep.closed {c c' : TransactionCollector} (h : SlotStep Q c c') (hopen : ¬c.status.open) :
    ¬c'.status.open := by
  rcases h.status with hs | ⟨hs, _⟩
  · rwa [hs]
  · exact absurd (Or.inl hs) hopen

lemma collect_closed {request : Request} (hcalm : s.Calm) (hopen : ¬(s.pool.getCollector request.seq).status.open) :
    ¬(s.collect cfg request).collector.status.open := by
  cases collect_step cfg request hcalm with
  | same hc => rwa [hc]
  | queued _ _ hc => rwa [hc]
  | stored _ _ status hs hc =>
    rw [hc]
    rcases hs with hs | ⟨hs, _⟩
    · rwa [hs]
    · exact absurd (Or.inl hs) hopen
  | voted _ _ hc => rwa [hc]
  | prepared _ _ _ _ _ _ hs => rintro (h | h) <;> simp [hs] at h
  | executed _ _ _ _ _ _ hs => rintro (h | h) <;> simp [hs] at h

lemma StepSpec.index (h : StepSpec cfg Q s ev sent s') (seq : ℕ) : s'.pool.index seq = s.pool.index seq := by
  rw [LockFreeCollectorPool.index, h.capacity, LockFreeCollectorPool.index]

lemma StepSpec.settled {seq : ℕ} (h : StepSpec cfg Q s ev sent s') (hcalm : s.Calm) (hset : Settled s seq) :
    Settled s' seq := by
  have hnext := h.next
  refine ⟨fun hseq => ?_, ?_⟩
  · rw [LockFreeCollectorPool.getCollector, h.index] at hseq ⊢
    cases h.slots (s.pool.index seq) with
    | proposals hslot =>
      rw [hslot.seq] at hseq
      exact hslot.closed (hset.closed hseq)
    | fresh n hn hfresh =>
      rw [hfresh, fresh_seq] at hseq
      have hlow := hset.low
      omega
    | vote env request hev htype hhears hopen hindex hcollect =>
      have hgc : s.pool.getCollector seq = s.pool.getCollector request.seq := by
        rw [LockFreeCollectorPool.getCollector, hindex, ← LockFreeCollectorPool.getCollector]
      rw [hcollect] at hseq ⊢
      obtain ⟨hkeep, _⟩ := collect_vote cfg hcalm htype
      rw [hkeep, ← hgc] at hseq
      exact collect_closed hcalm (hgc ▸ hset.closed hseq)
  · rw [h.capacity]
    have hlow := hset.low
    omega

lemma prepared_of_changed {request : Request} (hcalm : s.Calm) (htype : request.type = .prepare)
    (h : (s.collect cfg request).changed = true) :
    (s.pool.getCollector request.seq).seq = request.seq ∧ (s.pool.getCollector request.seq).status = .readyPrepare ∧
      Completes (s.quorumForRequest cfg request) (s.pool.getCollector request.seq) request ∧
      (s.collect cfg request).collector.status = .readyCommit := by
  cases collect_step cfg request hcalm with
  | same _ hno => simp [h] at hno
  | queued _ _ _ hno => simp [h] at hno
  | stored hno => simp [htype] at hno
  | voted _ _ _ hno => simp [h] at hno
  | prepared _ hseq hb hquorum _ _ ha => exact ⟨hseq, hb, hquorum, ha⟩
  | executed hno => simp [htype] at hno

lemma executed_of_changed {request : Request} (hcalm : s.Calm) (htype : request.type = .commit)
    (h : (s.collect cfg request).changed = true) :
    (s.pool.getCollector request.seq).seq = request.seq ∧ (s.pool.getCollector request.seq).status = .readyCommit := by
  cases collect_step cfg request hcalm with
  | same _ hno => simp [h] at hno
  | queued _ _ _ hno => simp [h] at hno
  | stored hno => simp [htype] at hno
  | voted _ _ _ hno => simp [h] at hno
  | prepared hno => simp [htype] at hno
  | executed _ hseq hb => exact ⟨hseq, hb⟩

def Known (proposals : List Request) (seq : ℕ) (hash : Bytes) (data : BatchData) : Prop :=
  ∃ r ∈ proposals, r.seq = seq ∧ r.hash = hash ∧ r.data = data

def CommitSent (sent : List Request) (id : ℤ) (seq : ℕ) (hash : Bytes) : Prop :=
  ∃ m ∈ sent, m.type = .commit ∧ m.senderId = id ∧ m.seq = seq ∧ m.hash = hash

def Decided (decisions : List Decision) (seq : ℕ) (hash : Bytes) : Prop := ∃ d ∈ decisions, d.seq = seq ∧ d.hash = hash

lemma Known.mono {l l' : List Request} {seq : ℕ} {hash : Bytes} {data : BatchData} (h : Known l seq hash data) :
    Known (l' ++ l) seq hash data := by
  obtain ⟨r, hr, hrest⟩ := h
  exact ⟨r, List.mem_append_right _ hr, hrest⟩

lemma CommitSent.mono {l l' : List Request} {id : ℤ} {seq : ℕ} {hash : Bytes} (h : CommitSent l id seq hash) :
    CommitSent (l' ++ l) id seq hash := by
  obtain ⟨m, hm, hrest⟩ := h
  exact ⟨m, List.mem_append_right _ hm, hrest⟩

lemma Decided.mono {l l' : List Decision} {seq : ℕ} {hash : Bytes} (h : Decided l seq hash) :
    Decided (l' ++ l) seq hash := by
  obtain ⟨d, hd, hrest⟩ := h
  exact ⟨d, List.mem_append_right _ hd, hrest⟩

structure LocalInv (M : Membership) (n : Network) (id : ℤ) (s : Replica) : Prop where
  calm : s.Calm
  waits : s.Waits fun r => Known n.proposals r.seq r.hash r.data
  stored : ∀ i, ∀ m ∈ (s.pool.collector i).stored,
    Known n.proposals m.seq m.hash m.data ∧ m.seq = (s.pool.collector i).seq
  bound : ∀ i, ¬(s.pool.collector i).status.open →
    (s.pool.collector i).seq + 1 < s.nextExecuteSeq + s.pool.capacity
  committed : ∀ q ∈ s.committedStatus, Settled s q
  sent : ∀ seq hash, CommitSent n.sent id seq hash → Settled s seq
  unique : ∀ seq h h', CommitSent n.sent id seq h → CommitSent n.sent id seq h' → h = h'
  last : s.lastSeq < s.nextExecuteSeq
  data : ∀ q ∈ s.dataQueue, q < s.nextExecuteSeq
  ready : ∀ m ∈ s.executeQueue, m.seq < s.nextExecuteSeq
  votes : ∀ i, ∀ v ∈ (s.pool.collector i).senders, v.type = .commit →
    v.senderId ∈ M.faulty ∨ CommitSent n.sent v.senderId (s.pool.collector i).seq v.hash
  inFlight : ∀ m ∈ s.inFlight, Known n.proposals m.seq m.hash m.data ∧ Decided n.decisions m.seq m.hash

lemma LocalInv.mono {id : ℤ} (h : LocalInv M n id s) (hother : id ≠ e.id)
    (hnew : ∀ id seq hash, CommitSent (networkStep M n e).sent id seq hash → CommitSent n.sent id seq hash ∨ id = e.id) :
    LocalInv M (networkStep M n e) id s where
  calm := h.calm
  waits r hr := ⟨(h.waits r hr).1, (h.waits r hr).2.mono⟩
  stored i m hm := ⟨(h.stored i m hm).1.mono, (h.stored i m hm).2⟩
  bound := h.bound
  committed := h.committed
  sent seq hash hsent := h.sent seq hash ((hnew id seq hash hsent).resolve_right hother)
  unique seq u v hu hv :=
    h.unique seq u v ((hnew id seq u hu).resolve_right hother) ((hnew id seq v hv).resolve_right hother)
  last := h.last
  data := h.data
  ready := h.ready
  votes i v hv hcommit := (h.votes i v hv hcommit).imp_right CommitSent.mono
  inFlight m hm := ⟨(h.inFlight m hm).1.mono, (h.inFlight m hm).2.mono⟩

structure ActingStep (M : Membership) (n : Network) (e : NetworkEvent) : Prop where
  inv : LocalInv M n e.id (n.replica e.id)
  genuine : authentic M n e
  ok : agreementOk M n e

lemma ActingStep.spec (h : ActingStep M n e) :
    StepSpec (M.config e.id) (fun r => Known (networkStep M n e).proposals r.seq r.hash r.data) (n.replica e.id) e.event
      (engineStep (M.config e.id) (n.replica e.id) e.event).1.sent
      (engineStep (M.config e.id) (n.replica e.id) e.event).2 := by
  refine engineStep_spec _ _ h.inv.calm (fun r hr => ⟨(h.inv.waits r hr).1, (h.inv.waits r hr).2.mono⟩) ?_
  intro env request hev htype hadmits
  have hmem : request ∈ (networkStep M n e).proposals := by
    refine List.mem_append_left _ ?_
    rw [hev, admitted, if_pos ⟨htype, hadmits⟩]
    exact List.mem_singleton_self _
  exact ⟨⟨request, hmem, rfl, rfl, rfl⟩, ⟨request, hmem, rfl, rfl, rfl⟩⟩

lemma ActingStep.newCommit (h : ActingStep M n e) {id : ℤ} {seq : ℕ} {hash : Bytes}
    (hsent : CommitSent (networkStep M n e).sent id seq hash) :
    CommitSent n.sent id seq hash ∨ id = e.id ∧ ∃ env request, e.event = .receive env request ∧
      request.type = .prepare ∧ request.isRecovery = false ∧ request.seq = seq ∧ request.hash = hash ∧
      SendsCommit (M.config e.id) (n.replica e.id) request
        (engineStep (M.config e.id) (n.replica e.id) e.event).2 := by
  obtain ⟨m, hm, htype, hid, hseq, hhash⟩ := hsent
  rcases List.mem_append.mp hm with hm | hm
  · obtain ⟨env, request, hev, hprepare, hfirst, rfl, hsends⟩ := h.spec.sent m hm htype
    exact Or.inr ⟨hid.symm, env, request, hev, hprepare, hfirst, hseq, hhash, hsends⟩
  · exact Or.inl ⟨m, hm, htype, hid, hseq, hhash⟩

lemma LocalInv.settled_of_isCommitted {id : ℤ} {request : Request} (h : LocalInv M n id s)
    (hhears : s.hears cfg request = true) (hcommitted : s.isCommitted request.seq = true) :
    Settled s request.seq := by
  have hlast := h.last
  simp only [Replica.hears, Replica.isValidMsg, Bool.and_eq_true, decide_eq_true_eq] at hhears
  simp only [Replica.isCommitted, Bool.or_eq_true, decide_eq_true_eq] at hcommitted
  have hvalid : s.maxPendingExecutedSeq ≤ request.seq := hhears.1.1.2
  have hnext := s.nextExecuteSeq_le
  rcases hcommitted with hlt | hmem
  · omega
  · exact h.committed _ hmem

lemma ActingStep.settled_of_sends (h : ActingStep M n e) {env : BridgeEnv} {request : Request}
    (hev : e.event = .receive env request) (hprepare : request.type = .prepare)
    (hsends : SendsCommit (M.config e.id) (n.replica e.id) request
      (engineStep (M.config e.id) (n.replica e.id) e.event).2) :
    Settled (engineStep (M.config e.id) (n.replica e.id) e.event).2 request.seq := by
  cases hsends with
  | prepared hhears hopen hchanged hslot =>
    obtain ⟨hseq, hbefore, hquorum, hafter⟩ := prepared_of_changed h.inv.calm hprepare hchanged
    refine ⟨fun _ => ?_, ?_⟩
    · rw [hslot]
      rintro (hs | hs) <;> simp [hafter] at hs
    · have hring := h.ok.2.2.1
      rw [withinRing, hev] at hring
      have hlow := hring ⟨hprepare, hhears, hopen, hseq, hquorum, Or.inl ⟨hprepare, hbefore⟩⟩
      have hnext := h.spec.next
      rw [h.spec.capacity]
      omega
  | already hhears hcommitted =>
    exact h.spec.settled h.inv.calm (h.inv.settled_of_isCommitted hhears hcommitted)

lemma ActingStep.unique_of_sends (h : ActingStep M n e) {env : BridgeEnv} {request : Request} {hash : Bytes}
    (hev : e.event = .receive env request) (hprepare : request.type = .prepare) (hfirst : request.isRecovery = false)
    (hsends : SendsCommit (M.config e.id) (n.replica e.id) request
      (engineStep (M.config e.id) (n.replica e.id) e.event).2)
    (hold : CommitSent n.sent e.id request.seq hash) : hash = request.hash := by
  cases hsends with
  | prepared hhears hopen hchanged hslot =>
    obtain ⟨hseq, hbefore, _, _⟩ := prepared_of_changed h.inv.calm hprepare hchanged
    exact absurd (Or.inr hbefore) ((h.inv.sent _ _ hold).closed hseq)
  | already hhears hcommitted =>
    obtain ⟨m, hm, htype, hid, hmseq, rfl⟩ := hold
    have hrepeat := h.ok.2.1
    rw [repeatsCommit, hev] at hrepeat
    exact hrepeat ⟨hprepare, hfirst, hhears, hcommitted⟩ m hm htype hid hmseq

lemma ActingStep.bound (h : ActingStep M n e) (i : ℕ)
    (hclosed : ¬((engineStep (M.config e.id) (n.replica e.id) e.event).2.pool.collector i).status.open) :
    ((engineStep (M.config e.id) (n.replica e.id) e.event).2.pool.collector i).seq + 1 <
      (engineStep (M.config e.id) (n.replica e.id) e.event).2.nextExecuteSeq +
        (engineStep (M.config e.id) (n.replica e.id) e.event).2.pool.capacity := by
  have hnext := h.spec.next
  rw [h.spec.capacity]
  cases h.spec.slots i with
  | proposals hslot =>
    rw [hslot.seq]
    have hbefore : ¬((n.replica e.id).pool.collector i).status.open := by
      intro hopen
      rcases hslot.status with hs | ⟨_, hs⟩
      · exact hclosed (hs ▸ hopen)
      · exact hclosed (Or.inr hs)
    have hlow := h.inv.bound i hbefore
    omega
  | fresh k hk hfresh =>
    refine absurd (Or.inl ?_) hclosed
    rw [hfresh, fresh_status]
  | vote env request hev htype hhears hopen hindex hcollect =>
    obtain ⟨hkeep, _⟩ := collect_vote (M.config e.id) h.inv.calm htype
    rw [hcollect] at hclosed ⊢
    rw [hkeep]
    by_cases hbefore : ((n.replica e.id).pool.getCollector request.seq).status.open
    · have hlow : request.seq + 1 < (n.replica e.id).nextExecuteSeq + (n.replica e.id).pool.capacity ∧
          ((n.replica e.id).pool.getCollector request.seq).seq = request.seq := by
        cases collect_step (M.config e.id) request h.inv.calm with
        | same hc => exact absurd (hc ▸ hbefore) hclosed
        | queued _ _ hc => exact absurd (hc ▸ hbefore) hclosed
        | stored hno => rcases htype with ht | ht <;> simp [ht] at hno
        | voted _ _ hc => exact absurd (hc ▸ hbefore) hclosed
        | prepared hprepare hseq hb hquorum =>
          have hring := h.ok.2.2.1
          rw [withinRing, hev] at hring
          exact ⟨hring ⟨hprepare, hhears, hopen, hseq, hquorum, Or.inl ⟨hprepare, hb⟩⟩, hseq⟩
        | executed _ _ hb => rcases hbefore with hs | hs <;> simp [hb] at hs
      omega
    · have hlow : ((n.replica e.id).pool.getCollector request.seq).seq + 1 < _ := h.inv.bound _ hbefore
      omega

lemma ActingStep.stored (h : ActingStep M n e) (i : ℕ) : ∀ m ∈
    ((engineStep (M.config e.id) (n.replica e.id) e.event).2.pool.collector i).stored,
    Known (networkStep M n e).proposals m.seq m.hash m.data ∧
      m.seq = ((engineStep (M.config e.id) (n.replica e.id) e.event).2.pool.collector i).seq := by
  intro m hm
  cases h.spec.slots i with
  | proposals hslot =>
    rw [hslot.seq]
    rcases hslot.stored m hm with hm | ⟨hknown, hseq⟩
    · exact ⟨(h.inv.stored i m hm).1.mono, (h.inv.stored i m hm).2⟩
    · exact ⟨hknown, hseq⟩
  | fresh k hk hfresh => exact absurd hm (by simp [hfresh])
  | vote env request hev htype hhears hopen hindex hcollect =>
    obtain ⟨hkeep, hstored, _⟩ := collect_vote (M.config e.id) h.inv.calm htype
    rw [hcollect] at hm ⊢
    rw [hkeep]
    exact ⟨(h.inv.stored _ m (hstored m hm)).1.mono, (h.inv.stored _ m (hstored m hm)).2⟩

lemma ActingStep.votes (h : ActingStep M n e) (i : ℕ) : ∀ v ∈
    ((engineStep (M.config e.id) (n.replica e.id) e.event).2.pool.collector i).senders, v.type = .commit →
    v.senderId ∈ M.faulty ∨ CommitSent (networkStep M n e).sent v.senderId
      ((engineStep (M.config e.id) (n.replica e.id) e.event).2.pool.collector i).seq v.hash := by
  intro v hv hcommit
  cases h.spec.slots i with
  | proposals hslot =>
    rw [hslot.seq]
    exact (h.inv.votes i v (hslot.senders ▸ hv) hcommit).imp_right CommitSent.mono
  | fresh k hk hfresh => exact absurd hv (by simp [hfresh])
  | vote env request hev htype hhears hopen hindex hcollect =>
    obtain ⟨hkeep, _, hsenders⟩ := collect_vote (M.config e.id) h.inv.calm htype
    rw [hcollect] at hv ⊢
    rw [hkeep]
    rcases hsenders v hv with hv | ⟨rfl, hseq⟩
    · exact (h.inv.votes _ v hv hcommit).imp_right CommitSent.mono
    · have hgenuine := h.genuine.2
      rw [hev] at hgenuine
      rcases hgenuine with hnew | hfaulty | hsent
      · exact absurd (hnew.symm.trans hcommit) (by simp)
      · exact Or.inl hfaulty
      · exact Or.inr (CommitSent.mono ⟨request, hsent, hcommit, rfl, hseq.symm, rfl⟩)

lemma ActingStep.inFlight (h : ActingStep M n e) : ∀ m ∈
    (engineStep (M.config e.id) (n.replica e.id) e.event).2.inFlight,
    Known (networkStep M n e).proposals m.seq m.hash m.data ∧ Decided (networkStep M n e).decisions m.seq m.hash := by
  intro m hm
  rcases h.spec.inFlight m hm with hm | ⟨env, request, hev, hhears, hopen, hcommitted⟩
  · exact ⟨(h.inv.inFlight m hm).1.mono, (h.inv.inFlight m hm).2.mono⟩
  · obtain ⟨hcommit, hseq, hbefore, hquorum, hmain⟩ := collect_committed h.inv.calm hcommitted
    have hcompletes : completes (M.config e.id) (n.replica e.id) request :=
      ⟨hhears, hopen, hseq, hquorum, Or.inr ⟨hcommit, hbefore⟩⟩
    obtain ⟨hknown, hmseq⟩ := h.inv.stored _ m (List.mem_append_left _ (Option.mem_toList.mpr hmain))
    have hsound := h.ok.2.2.2
    rw [decidesSoundly, hev] at hsound
    have hhash := (hsound ⟨hcommit, hcompletes⟩).1 m hmain
    refine ⟨hknown.mono, ⟨e.id, request.seq, request.hash, electorate M (n.replica e.id) request,
      (n.replica e.id).quorumForRequest (M.config e.id) request⟩, List.mem_append_left _ ?_, ?_, hhash.symm⟩
    · rw [hev, decided, if_pos ⟨hcommit, hcompletes⟩]
      exact List.mem_singleton_self _
    · exact hseq.symm.trans hmseq.symm

lemma ActingStep.localInv (h : ActingStep M n e) :
    LocalInv M (networkStep M n e) e.id (engineStep (M.config e.id) (n.replica e.id) e.event).2 where
  calm := h.spec.calm h.inv.calm
  waits := h.spec.waits
  stored := h.stored
  bound := h.bound
  committed := by
    intro q hq
    rcases h.spec.committed q hq with hq | ⟨env, request, hev, hcommit, rfl, hchanged, hslot⟩
    · exact h.spec.settled h.inv.calm (h.inv.committed q hq)
    · obtain ⟨hseq, hbefore⟩ := executed_of_changed h.inv.calm hcommit hchanged
      have hclosed : ¬((n.replica e.id).pool.getCollector request.seq).status.open := by
        rintro (hs | hs) <;> simp [hbefore] at hs
      have hnext := h.spec.next
      have hlow : ((n.replica e.id).pool.getCollector request.seq).seq + 1 < _ := h.inv.bound _ hclosed
      refine ⟨fun _ => ?_, ?_⟩
      · rw [hslot]
        exact collect_closed h.inv.calm hclosed
      · rw [h.spec.capacity]
        omega
  sent := by
    intro seq hash hsent
    rcases h.newCommit hsent with hold | ⟨_, env, request, hev, hprepare, _, rfl, _, hsends⟩
    · exact h.spec.settled h.inv.calm (h.inv.sent seq hash hold)
    · exact h.settled_of_sends hev hprepare hsends
  unique := by
    intro seq u v hu hv
    rcases h.newCommit hu with hu | ⟨_, env, request, hev, hprepare, hfirst, rfl, rfl, hsends⟩ <;>
      rcases h.newCommit hv with hv | ⟨_, env', request', hev', hprepare', hfirst', hseq', hhash', hsends'⟩
    · exact h.inv.unique seq u v hu hv
    · subst hseq' hhash'
      exact h.unique_of_sends hev' hprepare' hfirst' hsends' hu
    · exact (h.unique_of_sends hev hprepare hfirst hsends hv).symm
    · rw [hev, EngineEvent.receive.injEq] at hev'
      rw [hev'.2, hhash']
  last := by
    have hnext := h.spec.next
    rcases h.spec.lastSeq with hsame | hmem
    · have hlast := h.inv.last
      omega
    · have hdata := h.inv.data _ hmem
      omega
  data := by
    intro q hq
    have hnext := h.spec.next
    rcases h.spec.data q hq with hq | ⟨m, hm, rfl⟩
    · exact (h.inv.data q hq).trans_le hnext
    · exact (h.inv.ready m hm).trans_le hnext
  ready := by
    intro m hm
    rcases h.spec.ready m hm with hm | hlt
    · exact (h.inv.ready m hm).trans_le h.spec.next
    · exact hlt
  votes := h.votes
  inFlight := h.inFlight

structure Certified (M : Membership) (sent : List Request) (d : Decision) : Prop where
  members : d.electorate ⊆ M.ids
  voters : ∃ S ⊆ d.electorate, d.quorum ≤ S.card ∧ ∀ id ∈ S, id ∈ M.faulty ∨ CommitSent sent id d.seq d.hash

structure AgreementInv (M : Membership) (n : Network) : Prop where
  locals : ∀ id ∈ M.honest, LocalInv M n id (n.replica id)
  senders : ∀ id seq hash, CommitSent n.sent id seq hash → id ∈ M.honest
  binds : ∀ r ∈ n.proposals, ∀ r' ∈ n.proposals, r.seq = r'.seq → r.hash = r'.hash → r.data = r'.data
  certified : ∀ d ∈ n.decisions, Certified M n.sent d
  agree : ∀ d ∈ n.decisions, ∀ d' ∈ n.decisions, d.seq = d'.seq → d.hash = d'.hash
  executed : ∀ x ∈ n.executed, Known n.proposals x.2.seq x.2.hash x.2.data ∧ Decided n.decisions x.2.seq x.2.hash

lemma agreementInv_initial (M : Membership) (primaryId : ℤ) : AgreementInv M (.initial M primaryId) where
  locals id _ :=
    { calm := fun i => by simp [Network.initial, Replica.initial, LockFreeCollectorPool.create]
      waits := fun r hr => absurd hr (by simp [Network.initial, Replica.initial])
      stored := fun i m hm => absurd hm (by simp [Network.initial, Replica.initial, LockFreeCollectorPool.create])
      bound := fun i hi => absurd (Or.inl rfl) hi
      committed := fun q hq => absurd hq (by simp [Network.initial, Replica.initial])
      sent := fun seq hash h => absurd h (by simp [Network.initial, CommitSent])
      unique := fun seq u v hu => absurd hu (by simp [Network.initial, CommitSent])
      last := by simp [Network.initial, Replica.initial]
      data := fun q hq => absurd hq (by simp [Network.initial, Replica.initial])
      ready := fun m hm => absurd hm (by simp [Network.initial, Replica.initial])
      votes := fun i v hv => absurd hv (by simp [Network.initial, Replica.initial, LockFreeCollectorPool.create])
      inFlight := fun m hm => absurd hm (by simp [Network.initial, Replica.initial, Replica.inFlight]) }
  senders id seq hash h := absurd h (by simp [Network.initial, CommitSent])
  binds r hr := absurd hr (by simp [Network.initial])
  certified d hd := absurd hd (by simp [Network.initial])
  agree d hd := absurd hd (by simp [Network.initial])
  executed x hx := absurd hx (by simp [Network.initial])

lemma Certified.mono {l l' : List Request} {d : Decision} (h : Certified M l d) : Certified M (l' ++ l) d := by
  obtain ⟨S, hS, hcard, hvote⟩ := h.voters
  exact ⟨h.members, S, hS, hcard, fun id hid => (hvote id hid).imp_right CommitSent.mono⟩

lemma mem_electorate {request : Request} {id : ℤ} (h : id ∈ electorate M s request) : id ∈ M.ids :=
  (Finset.mem_filter.mp h).1

lemma decided_cases {d : Decision}
    (hd : d ∈ decided M e.id (n.replica e.id) e.event) :
    ∃ env request, e.event = .receive env request ∧ request.type = .commit ∧
      completes (M.config e.id) (n.replica e.id) request ∧ d = ⟨e.id, request.seq, request.hash,
        electorate M (n.replica e.id) request, (n.replica e.id).quorumForRequest (M.config e.id) request⟩ := by
  cases hev : e.event with
  | receive env request =>
    rw [hev, decided] at hd
    split at hd
    next hok => exact ⟨env, request, rfl, hok.1, hok.2, List.mem_singleton.mp hd⟩
    next => exact absurd hd (by simp)
  | _ => exact absurd hd (by simp [hev, decided])

lemma ActingStep.certified (h : ActingStep M n e) {d : Decision}
    (hd : d ∈ decided M e.id (n.replica e.id) e.event) : Certified M (networkStep M n e).sent d := by
  obtain ⟨env, request, hev, hcommit, hcompletes, rfl⟩ := decided_cases hd
  have hsound := h.ok.2.2.2
  rw [decidesSoundly, hev] at hsound
  obtain ⟨_, hvoters, _⟩ := hsound ⟨hcommit, hcompletes⟩
  obtain ⟨_, _, hseq, hquorum, _⟩ := hcompletes
  refine ⟨fun id hid => mem_electorate hid, _, hvoters, ?_, fun id hid => ?_⟩
  · rw [Completes, hcommit] at hquorum
    exact hquorum
  · obtain ⟨v, hv, rfl⟩ := Finset.mem_image.mp hid
    obtain ⟨hmem, htype, hhash⟩ := Finset.mem_filter.mp hv
    rcases mem_record.mp hmem with rfl | hold
    · have hgenuine := h.genuine.2
      rw [hev] at hgenuine
      rcases hgenuine with hnew | hfaulty | hsent
      · exact absurd (hnew.symm.trans hcommit) (by simp)
      · exact Or.inl hfaulty
      · exact Or.inr (CommitSent.mono ⟨request, hsent, hcommit, rfl, rfl, rfl⟩)
    · have hvote := h.inv.votes _ v hold htype
      rw [show ((n.replica e.id).pool.collector _).seq = request.seq from hseq, hhash] at hvote
      exact hvote.imp_right CommitSent.mono

lemma AgreementInv.acting (h : AgreementInv M n) (hgenuine : authentic M n e) (hok : agreementOk M n e) :
    ActingStep M n e := ⟨h.locals e.id hgenuine.1, hgenuine, hok⟩

lemma AgreementInv.senders_step (h : AgreementInv M n) (hgenuine : authentic M n e) (hok : agreementOk M n e) {id : ℤ}
    {seq : ℕ} {hash : Bytes} (hsent : CommitSent (networkStep M n e).sent id seq hash) : id ∈ M.honest := by
  rcases (h.acting hgenuine hok).newCommit hsent with hold | ⟨rfl, _⟩
  · exact h.senders id seq hash hold
  · exact hgenuine.1

lemma AgreementInv.locals_step (h : AgreementInv M n) (hgenuine : authentic M n e) (hok : agreementOk M n e) {id : ℤ}
    (hid : id ∈ M.honest) : LocalInv M (networkStep M n e) id ((networkStep M n e).replica id) := by
  have hact := h.acting hgenuine hok
  by_cases hself : id = e.id
  · subst hself
    simp only [networkStep, Function.update_self]
    exact hact.localInv
  · simp only [networkStep, Function.update_of_ne hself]
    refine (h.locals id hid).mono hself fun id' seq hash hsent => ?_
    exact (hact.newCommit hsent).imp_right And.left

lemma AgreementInv.agree_new (h : AgreementInv M n) (hgenuine : authentic M n e) (hok : agreementOk M n e)
    {d d' : Decision} (hd : d ∈ decided M e.id (n.replica e.id) e.event) (hd' : d' ∈ n.decisions)
    (hseq : d'.seq = d.seq) : d'.hash = d.hash := by
  have hact := h.acting hgenuine hok
  obtain ⟨S, hS, hcard, hvote⟩ := (hact.certified hd).voters
  obtain ⟨S', hS', hcard', hvote'⟩ := (h.certified d' hd').mono.voters
  obtain ⟨env, request, hev, hcommit, hcompletes, hnew⟩ := decided_cases hd
  have hsound := hok.2.2.2
  rw [decidesSoundly, hev] at hsound
  obtain ⟨_, _, hoverlap⟩ := hsound ⟨hcommit, hcompletes⟩
  have hlt : (d'.electorate ∪ d.electorate).card + M.f < d'.quorum + d.quorum := by
    rw [hnew]
    exact hoverlap d' hd' (by rw [hseq, hnew])
  have hfaulty : (d'.electorate ∩ M.faulty).card ≤ M.f :=
    (Finset.card_le_card Finset.inter_subset_right).trans M.faulty_card
  refine (overlap_of_lt hlt).agree hfaulty (fun x _ u v hu hv => ?_) hS' hS hcard' hcard (hseq ▸ hvote') hvote
  exact (h.locals_step hgenuine hok (h.senders_step hgenuine hok hu)).unique d.seq u v hu hv

lemma AgreementInv.binds_step (h : AgreementInv M n) (hok : agreementOk M n e) : ∀ r ∈ (networkStep M n e).proposals,
    ∀ r' ∈ (networkStep M n e).proposals, r.seq = r'.seq → r.hash = r'.hash → r.data = r'.data := by
  intro r hr r' hr' hseq hhash
  have hone : ∀ a ∈ admitted (M.config e.id) (n.replica e.id) e.event,
      ∀ b ∈ admitted (M.config e.id) (n.replica e.id) e.event, a = b := by
    cases e.event with
    | receive env request =>
      intro a ha b hb
      rw [admitted] at ha hb
      split at ha
      next hif =>
        rw [if_pos hif] at hb
        rw [List.mem_singleton.mp ha, List.mem_singleton.mp hb]
      next => exact absurd ha (by simp)
    | _ => exact fun a ha => absurd ha (by simp [admitted])
  rcases List.mem_append.mp hr with hr | hr <;> rcases List.mem_append.mp hr' with hr' | hr'
  · rw [hone r hr r' hr']
  · exact (hok.1 r hr r' hr' hseq.symm hhash.symm).symm
  · exact hok.1 r' hr' r hr hseq hhash
  · exact h.binds r hr r' hr' hseq hhash

theorem agreementInv_step (h : AgreementInv M n) (hgenuine : authentic M n e) (hok : agreementOk M n e) :
    AgreementInv M (networkStep M n e) where
  locals _ hid := h.locals_step hgenuine hok hid
  senders _ _ _ hsent := h.senders_step hgenuine hok hsent
  binds := h.binds_step hok
  certified d hd := by
    rcases List.mem_append.mp hd with hd | hd
    · exact (h.acting hgenuine hok).certified hd
    · exact (h.certified d hd).mono
  agree d hd d' hd' hseq := by
    rcases List.mem_append.mp hd with hd | hd <;> rcases List.mem_append.mp hd' with hd' | hd'
    · obtain ⟨_, _, hev, _, _, rfl⟩ := decided_cases hd
      obtain ⟨_, _, hev', _, _, rfl⟩ := decided_cases hd'
      rw [hev, EngineEvent.receive.injEq] at hev'
      exact congrArg Request.hash hev'.2
    · exact (h.agree_new hgenuine hok hd hd' hseq.symm).symm
    · exact h.agree_new hgenuine hok hd' hd hseq
    · exact h.agree d hd d' hd' hseq
  executed x hx := by
    rcases List.mem_append.mp hx with hx | hx
    · obtain ⟨y, hy, rfl⟩ := List.mem_map.mp hx
      obtain ⟨r, hr, rfl⟩ := engineStep_executed _ _ _ y hy
      have hflight := (h.locals e.id hgenuine.1).inFlight r (List.mem_append_right _ hr)
      exact ⟨hflight.1.mono, hflight.2.mono⟩
    · exact ⟨(h.executed x hx).1.mono, (h.executed x hx).2.mono⟩

theorem agreement (M : Membership) (primaryId : ℤ) (events : List NetworkEvent)
    (hrun : Guarded (networkStep M) (fun n e => authentic M n e ∧ agreementOk M n e) (.initial M primaryId) events) :
    ∀ x ∈ (run (networkStep M) (.initial M primaryId) events).executed,
      ∀ y ∈ (run (networkStep M) (.initial M primaryId) events).executed,
        x.2.seq = y.2.seq → x.2.data = y.2.data := by
  have hinv : AgreementInv M (run (networkStep M) (.initial M primaryId) events) :=
    hrun.invariant (fun n e h hok => agreementInv_step h hok.1 hok.2) (agreementInv_initial M primaryId)
  intro x hx y hy hseq
  obtain ⟨⟨r, hr, hrseq, hrhash, hrdata⟩, d, hd, hdseq, hdhash⟩ := hinv.executed x hx
  obtain ⟨⟨r', hr', hrseq', hrhash', hrdata'⟩, d', hd', hdseq', hdhash'⟩ := hinv.executed y hy
  have hhash : d.hash = d'.hash := hinv.agree d hd d' hd' (hdseq.trans (hseq.trans hdseq'.symm))
  have hdata : r.data = r'.data := by
    refine hinv.binds r hr r' hr' (hrseq.trans (hseq.trans hrseq'.symm)) ?_
    rw [hrhash, hrhash', ← hdhash, ← hdhash', hhash]
  rw [← hrdata, ← hrdata', hdata]

def eightMembers : Membership where
  ids := {1, 2, 3, 4, 5, 6, 7, 8}
  faulty := {1}
  f := 1
  maxProcessTxn := 1
  enableViewchange := false
  faulty_subset := by decide
  faulty_card := by decide
  card_ids := by decide

-- the primary hands replicas 2 and 3 one proposal each, and both hear the votes of 1, 2 and 3
def twoReplicaEvents (cars cars' : List ℕ) : List NetworkEvent :=
  [⟨2, .receive eightCarEnv (batchRequest .prePrepare 1 [listingPayload 0 cars])⟩,
    ⟨3, .receive eightCarEnv (batchRequest .prePrepare 1 [listingPayload 0 cars'])⟩] ++
  ([.prepare, .commit].flatMap fun type => [1, 2, 3].flatMap fun id =>
    [⟨2, .receive eightCarEnv (batchRequest type id [])⟩, ⟨3, .receive eightCarEnv (batchRequest type id [])⟩]) ++
  [⟨2, .orderMessage⟩, ⟨3, .orderMessage⟩, ⟨2, .executeMessage⟩, ⟨3, .executeMessage⟩]

def afterTwoReplicas (cars cars' : List ℕ) : Network :=
  run (networkStep eightMembers) (.initial eightMembers 1) (twoReplicaEvents cars cars')

theorem agreement_twoReplicas :
    (afterTwoReplicas [0, 1, 2, 3] [0, 1, 2, 3]).executed.map (fun x => (x.1, x.2.seq)) = [(3, 1), (2, 1)] ∧
      ∀ x ∈ (afterTwoReplicas [0, 1, 2, 3] [0, 1, 2, 3]).executed,
        ∀ y ∈ (afterTwoReplicas [0, 1, 2, 3] [0, 1, 2, 3]).executed, x.2.seq = y.2.seq → x.2.data = y.2.data :=
  ⟨by decide +kernel, agreement eightMembers 1 (twoReplicaEvents [0, 1, 2, 3] [0, 1, 2, 3]) (by decide +kernel)⟩

theorem equivocation_executed :
    Guarded (networkStep eightMembers) (authentic eightMembers) (.initial eightMembers 1)
        (twoReplicaEvents [0, 1, 2, 3] [0, 1, 2, 4]) ∧
      (afterTwoReplicas [0, 1, 2, 3] [0, 1, 2, 4]).executed =
        [(3, ⟨1, 1, ascii "omnet-tx-3", .batch [listingPayload 0 [0, 1, 2, 4]]⟩),
          (2, ⟨1, 1, ascii "omnet-tx-3", .batch [listingPayload 0 [0, 1, 2, 3]]⟩)] ∧
      listingPayload 0 [0, 1, 2, 4] ≠ listingPayload 0 [0, 1, 2, 3] :=
  ⟨by decide +kernel, by decide +kernel, by decide +kernel⟩

end V2vBft.Engine
