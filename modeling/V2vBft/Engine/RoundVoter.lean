import V2vBft.Engine.RoundEffects

namespace V2vBft.Engine

open Wire Pbft Bridge

section Voters

variable {M : Membership} {R : Round M} {i : ℤ} {s s' : Replica} {r : Request} {sent heard : List Request}
  {done : List Execution}

structure Queues (s : Replica) (commitQueue executeQueue : List Request) (next : ℕ) : Prop where
  commitQueue : s.commitQueue = commitQueue
  candidates : s.candidates = []
  executeQueue : s.executeQueue = executeQueue
  next : s.nextExecuteSeq = next

inductive Round.Stage (R : Round M) (s : Replica) (done : List Execution) : Prop
  | waiting (hopen : (s.slot R).status ≠ .executed) (hqueues : Queues s [] [] R.proposal.seq)
      (hlast : s.lastRun < R.proposal.seq) (hdone : done = [])
  | committed (hclosed : (s.slot R).status = .executed) (hqueues : Queues s [R.proposal] [] R.proposal.seq)
      (hlast : s.lastRun < R.proposal.seq) (hdone : done = [])
  | ordered (hclosed : (s.slot R).status = .executed) (hqueues : Queues s [] [R.proposal] (R.proposal.seq + 1))
      (hlast : s.lastRun < R.proposal.seq) (hdone : done = [])
  | executed (hclosed : (s.slot R).status = .executed) (hqueues : Queues s [] [] (R.proposal.seq + 1))
      (hdone : done = [R.execution])

structure Round.VoterInv (R : Round M) (i : ℤ) (s : Replica) (sent heard : List Request) (done : List Execution) :
    Prop where
  slot : R.Slot (s.slot R)
  favours : R.favours i s
  capacity : 0 < s.pool.capacity
  opened : (s.slot R).status ≠ .executed → s.isCommitted R.proposal.seq = false
  proposed : (s.slot R).status = .none → R.proposal.hash ∈ s.proposed → i = R.proposal.senderId
  stage : R.Stage s done
  votes : ∀ v ∈ (s.slot R).senders, v.senderId ∈ M.faulty ∨ ∃ m ∈ sent, voteOf m = v ∧ m.seq = R.proposal.seq
  recorded : ∀ b : Ballot, (s.slot R).status.rank ≤ b.rank → ∀ j ∈ R.voters, ∀ m ∈ heard, R.IsVote b j m →
    R.vote b j ∈ (s.slot R).senders
  unheard : (s.slot R).status = .none → R.proposal ∉ heard
  sends : ∀ b : Ballot, b.rank ≤ (s.slot R).status.rank → ∃ m ∈ sent, R.IsVote b i m
  unsent : ∀ b : Ballot, (s.slot R).status.rank < b.rank → ∀ m ∈ sent, m.type = b.type → m.seq = R.proposal.seq →
    m.senderId ≠ i

lemma rank_le_two (b : Ballot) : 1 ≤ b.rank ∧ b.rank ≤ 2 := by
  cases b <;> exact ⟨by decide, by decide⟩

lemma rank_executed {status : TransactionStatue} (h : status = .executed) (b : Ballot) : b.rank < status.rank := by
  rw [h]
  exact Nat.lt_succ_of_le (rank_le_two b).2

lemma rank_eq_zero {status : TransactionStatue} : status.rank = 0 ↔ status = .none := by
  cases status <;> simp [TransactionStatue.rank]

lemma voteOf_isVote {b : Ballot} {j : ℤ} {m : Request} (h : R.IsVote b j m) : voteOf m = R.vote b j := by
  rw [voteOf, Round.vote, h.type, h.hash, h.senderId]

lemma Round.VoterInv.keep (h : R.VoterInv i s sent heard done) {new msgs : List Request} {done' : List Execution}
    (hslot : ∃ others, s'.slot R = { s.slot R with otherMainRequests := others }) (hfavours : R.favours i s')
    (hcapacity : s'.pool.capacity = s.pool.capacity)
    (hopened : (s.slot R).status ≠ .executed → s'.isCommitted R.proposal.seq = false)
    (hproposed : (s.slot R).status = .none → R.proposal.hash ∈ s'.proposed → R.proposal.hash ∈ s.proposed)
    (hstage : R.Stage s' done')
    (hproposal : (s.slot R).status = .none → R.proposal ∉ msgs)
    (hballots : ∀ b : Ballot, (s.slot R).status.rank ≤ b.rank → ∀ j ∈ R.voters, ∀ m ∈ msgs, ¬R.IsVote b j m)
    (hsent : ∀ b : Ballot, ∀ m ∈ new, m.type = b.type → m.seq = R.proposal.seq → b.rank ≤ (s.slot R).status.rank) :
    R.VoterInv i s' (new ++ sent) (msgs ++ heard) done' := by
  obtain ⟨others, hsame⟩ := hslot
  have hstatus : (s'.slot R).status = (s.slot R).status := by rw [hsame]
  have hsenders : (s'.slot R).senders = (s.slot R).senders := by rw [hsame]
  refine ⟨?_, hfavours, hcapacity ▸ h.capacity, hstatus ▸ hopened, ?_, hstage, ?_, ?_, ?_, ?_, ?_⟩
  · rw [hsame]
    exact ⟨h.slot.seq, h.slot.uncommitted, h.slot.calm, h.slot.unprepared, h.slot.empty, h.slot.main, h.slot.waits⟩
  · rw [hstatus]
    exact fun hnone hmem => h.proposed hnone (hproposed hnone hmem)
  · rw [hsenders]
    exact fun v hv => (h.votes v hv).imp_right fun ⟨m, hm, heq⟩ => ⟨m, List.mem_append_right _ hm, heq⟩
  · rw [hstatus, hsenders]
    intro b hb j hj m hm hvote
    rcases List.mem_append.mp hm with hm | hm
    · exact absurd hvote (hballots b hb j hj m hm)
    · exact h.recorded b hb j hj m hm hvote
  · rw [hstatus]
    intro hnone hm
    exact (List.mem_append.mp hm).elim (hproposal hnone) (h.unheard hnone)
  · rw [hstatus]
    exact fun b hb => (h.sends b hb).imp fun m hm => ⟨List.mem_append_right _ hm.1, hm.2⟩
  · rw [hstatus]
    intro b hb m hm htype hseq
    rcases List.mem_append.mp hm with hm | hm
    · exact absurd (hsent b m hm htype hseq) (not_le.mpr hb)
    · exact h.unsent b hb m hm htype hseq

lemma Round.VoterInv.bystander (h : R.VoterInv i s sent heard done) {new : List Request}
    (hsent : ∀ b : Ballot, ∀ m ∈ new, m.type = b.type → m.senderId ≠ i) : R.VoterInv i s (new ++ sent) heard done where
  slot := h.slot
  favours := h.favours
  capacity := h.capacity
  opened := h.opened
  proposed := h.proposed
  stage := h.stage
  votes v hv := (h.votes v hv).imp_right fun ⟨m, hm, heq⟩ => ⟨m, List.mem_append_right _ hm, heq⟩
  recorded := h.recorded
  unheard := h.unheard
  sends b hb := (h.sends b hb).imp fun _ hm => ⟨List.mem_append_right _ hm.1, hm.2⟩
  unsent b hb m hm htype hseq := by
    rcases List.mem_append.mp hm with hm | hm
    · exact hsent b m hm htype
    · exact h.unsent b hb m hm htype hseq

lemma activeFor_eq (hseq : r.seq = R.proposal.seq) (hhash : r.hash = R.proposal.hash) (id : ℤ) :
    s.isActiveForRequest r id = s.isActiveForRequest R.proposal id := by
  rw [Replica.isActiveForRequest, forcedView_eq, hseq, hhash, ← forcedView_eq, Replica.isActiveForRequest]

lemma quorumFor_eq {cfg : EngineConfig} (hseq : r.seq = R.proposal.seq) (hhash : r.hash = R.proposal.hash) :
    s.quorumForRequest cfg r = s.quorumForRequest cfg R.proposal := by
  rw [Replica.quorumForRequest, forcedView_eq, hseq, hhash, ← forcedView_eq, Replica.quorumForRequest]

lemma Round.VoterInv.waiting (h : R.VoterInv i s sent heard done) (hopen : (s.slot R).status ≠ .executed) :
    Queues s [] [] R.proposal.seq ∧ s.lastRun < R.proposal.seq ∧ done = [] := by
  cases h.stage with
  | waiting _ hqueues hlast hdone => exact ⟨hqueues, hlast, hdone⟩
  | committed hclosed => exact absurd hclosed hopen
  | ordered hclosed => exact absurd hclosed hopen
  | executed hclosed => exact absurd hclosed hopen

lemma Round.VoterInv.isValidMsg (h : R.VoterInv i s sent heard done) (hopen : (s.slot R).status ≠ .executed)
    (hseq : r.seq = R.proposal.seq) (hview : r.currentView = R.proposal.currentView) : s.isValidMsg r = true := by
  obtain ⟨hqueues, hlast, _⟩ := h.waiting hopen
  rw [Replica.isValidMsg, Replica.maxPendingExecutedSeq, hqueues.next, if_neg (Nat.ne_zero_of_lt hlast), h.favours.1,
    hseq, hview]
  simp

lemma Round.VoterInv.hears (h : R.VoterInv i s sent heard done) (hopen : (s.slot R).status ≠ .executed)
    (hi : i ∈ R.voters) {b : Ballot} {j : ℤ} (hj : j ∈ R.voters) (hvote : R.IsVote b j r) :
    s.hears (M.config i) r = true := by
  have hactive : ∀ id ∈ R.voters, s.isActiveForRequest r id = true := by
    intro id hid
    rw [activeFor_eq hvote.seq hvote.hash]
    exact h.favours.2.1 id (Finset.mem_insert_of_mem hid)
  rw [Replica.hears, h.isValidMsg hopen hvote.seq hvote.currentView, hvote.senderId, hactive j hj,
    hactive (M.config i).selfId hi]
  simp

lemma Round.VoterInv.strangers (h : R.VoterInv i s sent heard done) (htype : r.type = .prepare)
    (hseq : r.seq = R.proposal.seq)
    (hprepares : ∀ m ∈ sent, m.type = .prepare → m.seq = R.proposal.seq → m.hash = R.proposal.hash)
    (hauthentic : r.senderId ∈ M.faulty ∨ r ∈ sent) (hhash : r.hash ≠ R.proposal.hash) :
    (((s.slot R).record r).voters r.type r.hash).card ≤ M.f := by
  refine (Finset.card_le_card fun id hid => ?_).trans M.faulty_card
  rcases mem_record.mp (mem_voters.mp hid) with heq | hold
  · obtain rfl : id = r.senderId := congrArg Vote.senderId heq
    exact hauthentic.resolve_right fun hmem => hhash (hprepares r hmem htype hseq)
  · refine (h.votes _ hold).resolve_right ?_
    rintro ⟨m, hm, hvote, hmseq⟩
    rw [voteOf, Vote.mk.injEq] at hvote
    exact hhash (hvote.2.1.symm.trans (hprepares m hm (hvote.1.trans htype) hmseq))

lemma Round.VoterInv.missing (h : R.VoterInv i s sent heard done) (hi : i ∈ R.voters) {b : Ballot}
    (hrank : (s.slot R).status.rank < b.rank) : ∃ j ∈ R.voters, R.vote b j ∉ (s.slot R).senders := by
  refine ⟨i, hi, fun hmem => ?_⟩
  rcases h.votes _ hmem with hfaulty | ⟨m, hm, hvote, hseq⟩
  · exact (Finset.mem_sdiff.mp (R.voters_honest hi)).2 hfaulty
  · rw [voteOf, Round.vote, Vote.mk.injEq] at hvote
    exact h.unsent b hrank m hm hvote.1 hseq hvote.2.2

lemma Round.VoterInv.tallied (h : R.VoterInv i s sent heard done) (hi : i ∈ R.voters)
    (hopen : (s.slot R).status ≠ .executed) (hseq : r.seq = R.proposal.seq)
    (htype : r.type = .prepare ∨ r.type = .commit)
    (hprepares : ∀ m ∈ sent, m.type = .prepare → m.seq = R.proposal.seq → m.hash = R.proposal.hash)
    (hauthentic : r.senderId ∈ M.faulty ∨ r ∈ sent)
    (hmany : r.type = .prepare → r.hash ≠ R.proposal.hash → M.f < s.quorumForRequest (M.config i) r) :
    R.Tallied (s.slot R) r (s.collect (M.config i) r) := by
  rw [Replica.collect, hseq]
  refine h.slot.addRequest hopen hseq htype _ (fun hhash hstored => ?_) (fun hprepare hq _ => ?_) fun hbefore => ?_
  · rw [quorumFor_eq hseq hhash]
    exact h.favours.2.2 hstored
  · by_contra hhash
    have hfew := h.strangers hprepare hseq hprepares hauthentic hhash
    have hquorum : s.quorumForRequest (M.config i) r ≤ (((s.slot R).record r).voters r.type r.hash).card := hq
    have := hmany hprepare hhash
    omega
  · exact h.missing hi (by rw [hbefore]; decide)

lemma Queues.of_samePipeline {commitQueue executeQueue : List Request} {next : ℕ}
    (h : Queues s commitQueue executeQueue next) (hsame : SamePipeline s s') :
    Queues s' commitQueue executeQueue next :=
  ⟨hsame.commitQueue.trans h.commitQueue, hsame.candidates.trans h.candidates,
    hsame.executeQueue.trans h.executeQueue, hsame.nextExecuteSeq.trans h.next⟩

lemma SamePipeline.lastRun (h : SamePipeline s s') : s'.lastRun = s.lastRun := congrArg toUint64 h.executorLastSeq

lemma Round.Stage.of_samePipeline (h : R.Stage s done) (hsame : SamePipeline s s')
    (hstatus : (s'.slot R).status = (s.slot R).status) : R.Stage s' done := by
  cases h with
  | waiting hopen hqueues hlast hdone =>
    exact .waiting (hstatus ▸ hopen) (hqueues.of_samePipeline hsame) (hsame.lastRun ▸ hlast) hdone
  | committed hclosed hqueues hlast hdone =>
    exact .committed (hstatus ▸ hclosed) (hqueues.of_samePipeline hsame) (hsame.lastRun ▸ hlast) hdone
  | ordered hclosed hqueues hlast hdone =>
    exact .ordered (hstatus ▸ hclosed) (hqueues.of_samePipeline hsame) (hsame.lastRun ▸ hlast) hdone
  | executed hclosed hqueues hdone => exact .executed (hstatus ▸ hclosed) (hqueues.of_samePipeline hsame) hdone

lemma slot_setCollector {c : TransactionCollector} (hslot : s'.pool = s.pool.setCollector R.proposal.seq c) :
    s'.slot R = c := by
  rw [Replica.slot, hslot, LockFreeCollectorPool.getCollector, setCollector_collector]
  exact if_pos rfl

lemma Round.VoterInv.counted (h : R.VoterInv i s sent heard done) {res : AddResult}
    (hopen : (s.slot R).status ≠ .executed) (htally : R.Tallied (s.slot R) r res) {b : Ballot} (htype : r.type = b.type)
    (hseq : r.seq = R.proposal.seq) (hauthentic : r.senderId ∈ M.faulty ∨ r ∈ sent) {new : List Request}
    (hslot : s'.slot R = res.collector) (hfavours : R.favours i s') (hcapacity : s'.pool.capacity = s.pool.capacity)
    (hopened : res.collector.status ≠ .executed → s'.isCommitted R.proposal.seq = false)
    (hproposed : s'.proposed = s.proposed) (hcommitQueue : s'.commitQueue = s.commitQueue ++ res.committed.toList)
    (hcandidates : s'.candidates = s.candidates) (hexecuteQueue : s'.executeQueue = s.executeQueue)
    (hnext : s'.nextExecuteSeq = s.nextExecuteSeq) (hlast : s'.executorLastSeq = s.executorLastSeq)
    (hquiet : res.changed = false → new = [])
    (hanswer : res.changed = true → r.type = .prepare → ∃ m ∈ new, R.IsVote .commit i m) :
    R.VoterInv i s' (new ++ sent) (r :: heard) done := by
  obtain ⟨hqueues, hlastSeq, hdone⟩ := h.waiting hopen
  have hlastRun : s'.lastRun = s.lastRun := congrArg toUint64 hlast
  have hnotProposal : R.proposal ≠ r := by
    rintro rfl
    exact b.type_ne.1 (htype.symm.trans R.proposes)
  have hup : (s.slot R).status.rank ≤ res.collector.status.rank := by
    cases htally.step with
    | held hstatus => rw [hstatus]
    | prepared _ _ hbefore hafter => rw [hbefore, hafter]; decide
    | executed _ hbefore hafter => rw [hbefore, hafter]; decide
  have hnone : res.collector.status = .none → (s.slot R).status = .none := by
    intro hs
    rw [← rank_eq_zero] at hs ⊢
    exact Nat.le_zero.mp (hs ▸ hup)
  refine ⟨hslot ▸ htally.slot, hfavours, hcapacity ▸ h.capacity, hslot ▸ hopened, ?_, ?_, ?_, ?_, ?_, ?_, ?_⟩
  · rw [hslot, hproposed]
    exact fun hs hmem => h.proposed (hnone hs) hmem
  · cases htally.step with
    | held hstatus _ hcommitted =>
      refine .waiting (by rw [hslot, hstatus]; exact hopen) ⟨?_, hcandidates.trans hqueues.candidates,
        hexecuteQueue.trans hqueues.executeQueue, hnext.trans hqueues.next⟩ (hlastRun ▸ hlastSeq) hdone
      rw [hcommitQueue, hcommitted, hqueues.commitQueue]
      rfl
    | prepared _ _ hbefore hafter _ hcommitted =>
      refine .waiting (by rw [hslot, hafter]; exact TransactionStatue.noConfusion) ⟨?_,
        hcandidates.trans hqueues.candidates, hexecuteQueue.trans hqueues.executeQueue, hnext.trans hqueues.next⟩ (hlastRun ▸ hlastSeq) hdone
      rw [hcommitQueue, hcommitted, hqueues.commitQueue]
      rfl
    | executed _ hbefore hafter hcommitted =>
      refine .committed (by rw [hslot, hafter]) ⟨?_, hcandidates.trans hqueues.candidates,
        hexecuteQueue.trans hqueues.executeQueue, hnext.trans hqueues.next⟩ (hlastRun ▸ hlastSeq) hdone
      rw [hcommitQueue, hcommitted, hqueues.commitQueue]
      rfl
  · rw [hslot]
    intro v hv
    rcases htally.within v hv with rfl | hold
    · exact hauthentic.imp_right fun hmem => ⟨r, List.mem_append_right _ hmem, rfl, hseq⟩
    · exact (h.votes v hold).imp_right fun ⟨m, hm, heq⟩ => ⟨m, List.mem_append_right _ hm, heq⟩
  · rw [hslot]
    intro b' hb' j hj m hm hvote
    rcases List.mem_cons.mp hm with rfl | hm
    · exact voteOf_isVote hvote ▸ htally.records b' hvote.type (hup.trans hb')
    · exact htally.grows _ (h.recorded b' (hup.trans hb') j hj m hm hvote)
  · rw [hslot]
    intro hs hm
    exact (List.mem_cons.mp hm).elim hnotProposal (h.unheard (hnone hs))
  · rw [hslot]
    intro b' hb'
    have hold : b'.rank ≤ (s.slot R).status.rank → ∃ m ∈ new ++ sent, R.IsVote b' i m := fun hle =>
      (h.sends b' hle).imp fun m hm => ⟨List.mem_append_right _ hm.1, hm.2⟩
    cases htally.step with
    | held hstatus => exact hold (hstatus ▸ hb')
    | prepared hprepare _ hbefore hafter hchanged =>
      cases b' with
      | prepare => exact hold (by rw [hbefore]; decide)
      | commit =>
        obtain ⟨m, hm, hvote⟩ := hanswer hchanged hprepare
        exact ⟨m, List.mem_append_left _ hm, hvote⟩
    | executed _ hbefore => exact hold (by rw [hbefore]; exact (rank_le_two b').2)
  · rw [hslot]
    intro b' hb' m hm hmtype hmseq
    cases htally.step with
    | held hstatus hchanged =>
      rw [hquiet hchanged, List.nil_append] at hm
      exact h.unsent b' (hstatus ▸ hb') m hm hmtype hmseq
    | prepared _ _ _ hafter =>
      rw [hafter] at hb'
      exact absurd (rank_le_two b').2 (not_le.mpr hb')
    | executed _ _ hafter => exact absurd (rank_executed hafter b') (not_lt.mpr hb'.le)

lemma LooksUp.samePipeline (h : LooksUp s s') : SamePipeline s s' := by
  obtain ⟨_, rfl⟩ := h
  exact ⟨rfl, rfl, rfl, rfl, rfl⟩

lemma commitFor_isVote (hseq : r.seq = R.proposal.seq) (hhash : r.hash = R.proposal.hash)
    (hview : r.currentView = R.proposal.currentView) (hregular : r.isRecovery = false) :
    R.IsVote .commit i (commitFor (M.config i) r) :=
  ⟨rfl, hseq, hhash, hview, rfl, hregular⟩

lemma Round.VoterInv.receive_ballot (h : R.VoterInv i s sent heard done) (hi : i ∈ R.voters) {b : Ballot}
    (htype : r.type = b.type) (hseq : r.seq = R.proposal.seq) (hregular : r.isRecovery = false)
    (hprepares : ∀ m ∈ sent, m.type = .prepare → m.seq = R.proposal.seq → m.hash = R.proposal.hash)
    (hauthentic : r.senderId ∈ M.faulty ∨ r ∈ sent)
    (hmany : r.type = .prepare → r.hash ≠ R.proposal.hash → M.f < s.quorumForRequest (M.config i) r)
    (hfavours : R.favours i s') {answer new : List Request}
    (hanswer : r.type = .prepare → answer = [commitFor (M.config i) r])
    (heffect : ((s.collect (M.config i) r).changed = true → (s.collect (M.config i) r).ret = 0 ∨
      (s.collect (M.config i) r).ret = 1) → VoteEffect (M.config i) s r answer new s') :
    R.VoterInv i s' (new ++ sent) (r :: heard) done := by
  have hnotProposal : R.proposal ∉ [r] := by
    rw [List.mem_singleton]
    rintro rfl
    exact b.type_ne.1 (htype.symm.trans R.proposes)
  have hslot_eq : s.pool.getCollector r.seq = s.slot R := by rw [hseq, Replica.slot]
  by_cases hdone : (s.slot R).status = .executed
  · -- the collector is closed: nothing moves, and a late PREPARE may be answered once more
    have hcollect : s.collect (M.config i) r = ⟨s.slot R, -2, false, none⟩ := by
      rw [Replica.collect, hslot_eq]
      exact addRequest_executed hdone _
    have hbelow : ∀ b : Ballot, ¬(s.slot R).status.rank ≤ b.rank := fun b => not_le.mpr (rank_executed hdone b)
    have hstays : ∀ t, t.slot R = s.slot R → t.pool.capacity = s.pool.capacity → R.favours i t → SamePipeline s t →
        R.VoterInv i t (new ++ sent) ([r] ++ heard) done := by
      intro t hslot hcapacity hfav hsame
      refine h.keep ⟨(s.slot R).otherMainRequests, by rw [hslot]⟩ hfav hcapacity (fun hopen => absurd hdone hopen)
        (fun hnone => absurd (hnone.symm.trans hdone) TransactionStatue.noConfusion)
        (h.stage.of_samePipeline hsame (by rw [hslot])) (fun _ => hnotProposal) (fun b hb => absurd hb (hbelow b))
        fun b m hm htype' _ => (rank_executed hdone b).le
    cases heffect (by simp [hcollect]) with
    | counted _ _ looked hlooked hstate =>
      obtain ⟨_, rfl⟩ := hlooked
      refine hstays s' ?_ ?_ hfavours ?_
      · rw [hstate, hcollect]
        refine @slot_setCollector M R s _ _ ?_
        simp only [Replica.collected, hseq]
      · rw [hstate]
        rfl
      · rw [hstate, hcollect]
        exact ⟨by simp [Replica.collected], rfl, rfl, rfl, rfl⟩
    | left _ hlooked =>
      have hsame := hlooked.samePipeline
      obtain ⟨_, rfl⟩ := hlooked
      exact hstays _ rfl rfl hfavours hsame
  · have htally := h.tallied hi hdone hseq (by cases b <;> simp [htype, Ballot.type]) hprepares hauthentic hmany
    cases heffect fun _ => htally.ret with
    | counted hhears hopen looked hlooked hstate hnew =>
      obtain ⟨_, rfl⟩ := hlooked
      refine h.counted hdone htally htype hseq hauthentic ?_ hfavours ?_ (fun hne => ?_) ?_ ?_ ?_ ?_ ?_ ?_
        (fun hchanged => ?_) fun hchanged hprepare => ?_
      · rw [hstate]
        refine @slot_setCollector M R s _ _ ?_
        simp only [Replica.collected, hseq]
      · rw [hstate]
        rfl
      · have hkeep : ¬((s.collect (M.config i) r).changed = true ∧ r.type = .commit) := by
          rintro ⟨hchanged, hcommit⟩
          cases htally.step with
          | held _ hno => exact absurd (hchanged.symm.trans hno) (by simp)
          | prepared hprepare => exact absurd (hcommit.symm.trans hprepare) (by simp)
          | executed _ _ hafter => exact hne hafter
        rw [hstate, Replica.isCommitted]
        simp only [Replica.collected, if_neg hkeep]
        exact h.opened hdone
      all_goals try rw [hstate]; rfl
      · rw [hnew, if_neg (by simp [hchanged])]
      · refine ⟨commitFor (M.config i) r, ?_, ?_⟩
        · rw [hnew, if_pos hchanged, hanswer hprepare]
          exact List.mem_singleton_self _
        · have hhash : r.hash = R.proposal.hash := by
            cases htally.step with
            | held _ hno => exact absurd (hchanged.symm.trans hno) (by simp)
            | prepared _ hhash => exact hhash
            | executed hcommit => exact absurd (hcommit.symm.trans hprepare) (by simp)
          refine commitFor_isVote hseq hhash ?_ hregular
          simp only [Replica.hears, Replica.isValidMsg, Bool.and_eq_true, decide_eq_true_eq] at hhears
          rw [hhears.1.1.1, h.favours.1]
    | left hno hlooked hnew =>
      have hopen := h.opened hdone
      have hsame := hlooked.samePipeline
      have hquiet : new = [] := by
        rcases hnew with hnil | ⟨hclosed, _⟩
        · exact hnil
        · rw [hseq, hopen] at hclosed
          exact absurd hclosed (by simp)
      obtain ⟨_, rfl⟩ := hlooked
      change R.VoterInv i _ (new ++ sent) ([r] ++ heard) done
      refine h.keep ⟨(s.slot R).otherMainRequests, rfl⟩ hfavours rfl (fun _ => hopen) (fun _ hmem => hmem)
        (h.stage.of_samePipeline hsame rfl) (fun _ => hnotProposal) (fun b hb j hj m hm hvote => ?_) fun b m hm => ?_
      · obtain rfl := List.mem_singleton.mp hm
        have hclosed := hno (h.hears hdone hi hj hvote)
        rw [hseq, hopen] at hclosed
        exact absurd hclosed (by simp)
      · rw [hquiet] at hm
        exact absurd hm List.not_mem_nil

lemma Checked.samePipeline (h : Checked s s') : SamePipeline s s' := by
  obtain ⟨_, _, rfl⟩ := h
  exact ⟨rfl, rfl, rfl, rfl, rfl⟩

lemma proposal_not_ballot {b : Ballot} {j : ℤ} : ¬R.IsVote b j R.proposal := fun hvote =>
  b.type_ne.1 (hvote.type.symm.trans R.proposes)

lemma Round.VoterInv.receive_proposal_again (h : R.VoterInv i s sent heard done) (hstored : (s.slot R).status ≠ .none)
    (hfavours : R.favours i s') {new : List Request} (heffect : ProposeEffect (M.config i) s R.proposal new s') :
    R.VoterInv i s' (new ++ sent) (R.proposal :: heard) done := by
  have hrank : 1 ≤ (s.slot R).status.rank := Nat.one_le_iff_ne_zero.mpr fun hzero => hstored (rank_eq_zero.mp hzero)
  have hstays : (∀ m ∈ new, m = prepareFor (M.config i) R.proposal) →
      (∃ others, s'.slot R = { s.slot R with otherMainRequests := others }) → s'.pool.capacity = s.pool.capacity →
      s'.isCommitted R.proposal.seq = s.isCommitted R.proposal.seq → SamePipeline s s' →
      R.VoterInv i s' (new ++ sent) ([R.proposal] ++ heard) done := by
    intro hnew hslot hcapacity hcommitted hsame
    refine h.keep hslot hfavours hcapacity (fun hopen => hcommitted.trans (h.opened hopen))
      (fun hnone => absurd hnone hstored) (h.stage.of_samePipeline hsame (by obtain ⟨_, heq⟩ := hslot; rw [heq])) (fun hnone => absurd hnone hstored)
      (fun b _ j _ m hm hvote => ?_) fun b m hm htype _ => ?_
    · obtain rfl := List.mem_singleton.mp hm
      exact proposal_not_ballot hvote
    · rw [hnew m hm] at htype
      obtain rfl : b = .prepare := Ballot.type_injective htype.symm
      exact hrank
  cases heffect with
  | counted base hbase hstate hnew =>
    obtain ⟨others, hadd⟩ := @Round.Slot.addProposal_again _ R _ (base.quorumForRequest (M.config i) R.proposal) h.slot hstored
      (M.config i).enableViewchange
    have hcollect : base.collect (M.config i) R.proposal =
        ⟨{ s.slot R with otherMainRequests := others }, -2, false, none⟩ := by
      obtain ⟨_, _, rfl⟩ := hbase
      exact hadd
    rw [hcollect] at hstate
    obtain ⟨_, _, rfl⟩ := hbase
    refine hstays hnew ⟨others, ?_⟩ ?_ ?_ ?_
    · rw [hstate]
      exact @slot_setCollector M R s _ _ rfl
    · rw [hstate]
      rfl
    · rw [hstate]
      simp only [Replica.isCommitted, Replica.collected, Bool.false_eq_true, false_and, if_false]
    · rw [hstate]
      exact ⟨by simp [Replica.collected], rfl, rfl, rfl, rfl⟩
  | left hbase hnew =>
    have hsame := hbase.samePipeline
    obtain ⟨_, _, rfl⟩ := hbase
    exact hstays hnew ⟨(s.slot R).otherMainRequests, rfl⟩ rfl rfl hsame

lemma Round.VoterInv.opening (h : R.VoterInv i s sent heard done) (hnone : (s.slot R).status = .none)
    (hslot : R.Slot (R.opening (s.slot R))) (hopening : s'.slot R = R.opening (s.slot R)) (hfavours : R.favours i s')
    (hcapacity : s'.pool.capacity = s.pool.capacity)
    (hcommitted : s'.isCommitted R.proposal.seq = s.isCommitted R.proposal.seq) (hsame : SamePipeline s s') :
    R.VoterInv i s' ([prepareFor (M.config i) R.proposal] ++ sent) (R.proposal :: heard) done := by
  have hopen : (s.slot R).status ≠ .executed := by simp [hnone]
  have hstatus : (s'.slot R).status = .readyPrepare := by
    rw [hopening]
    rfl
  have hnot : (s'.slot R).status ≠ .none := by simp [hstatus]
  have hbelow : ∀ b : Ballot, (s.slot R).status.rank ≤ b.rank := fun b => by
    rw [hnone]
    exact Nat.zero_le _
  obtain ⟨hqueues, hlast, hdone⟩ := h.waiting hopen
  refine ⟨hopening ▸ hslot, hfavours, hcapacity ▸ h.capacity, fun _ => hcommitted.trans (h.opened hopen),
    fun hno => absurd hno hnot, ?_, ?_, ?_, fun hno => absurd hno hnot, ?_, ?_⟩
  · exact .waiting (by simp [hstatus]) (hqueues.of_samePipeline hsame) (hsame.lastRun ▸ hlast) hdone
  · rw [hopening]
    exact fun v hv => (h.votes v hv).imp_right fun ⟨m, hm, heq⟩ => ⟨m, List.mem_append_right _ hm, heq⟩
  · rw [hopening]
    intro b _ j hj m hm hvote
    rcases List.mem_cons.mp hm with rfl | hm
    · exact absurd hvote proposal_not_ballot
    · exact h.recorded b (hbelow b) j hj m hm hvote
  · intro b hb
    obtain rfl : b = .prepare := by
      rw [hstatus] at hb
      cases b with
      | prepare => rfl
      | commit => exact absurd hb (by decide)
    exact ⟨_, List.mem_append_left _ (List.mem_singleton_self _), rfl, rfl, rfl, rfl, rfl, R.regular⟩
  · intro b hb m hm htype hseq
    rcases List.mem_append.mp hm with hm | hm
    · rw [List.mem_singleton.mp hm] at htype
      obtain rfl : b = .prepare := Ballot.type_injective htype.symm
      rw [hstatus] at hb
      exact absurd hb (by decide)
    · refine h.unsent b ?_ m hm htype hseq
      rw [hnone]
      exact (rank_le_two b).1

lemma Round.VoterInv.receive_proposal_first (h : R.VoterInv i s sent heard done) (hi : i ∈ R.voters)
    (hnone : (s.slot R).status = .none) {env : BridgeEnv}
    (hpre : i ≠ R.proposal.senderId → (preVerify env s.consensus R.proposal).1 = true)
    (hfavours : R.favours i (processProposeMsg (M.config i) env s R.proposal).2) :
    R.VoterInv i (processProposeMsg (M.config i) env s R.proposal).2
      ((processProposeMsg (M.config i) env s R.proposal).1.sent ++ sent) (R.proposal :: heard) done := by
  have hopen : (s.slot R).status ≠ .executed := by simp [hnone]
  obtain ⟨t, hchecked, hproposed, hsent, hstate⟩ :=
    @processProposeMsg_accepts s R.proposal (M.config i) env R.regular hpre
  rw [hsent, hstate]
  rw [hstate] at hfavours
  have hinfo : t.consensus.info = ⟨R.proposal.senderId, R.proposal.currentView⟩ :=
    (acceptPropose_info (M.config i) t R.proposal).symm.trans hfavours.1
  have hactive : ∀ j ∈ insert R.proposal.senderId R.voters, t.isActiveForRequest R.proposal j = true := by
    intro j hj
    rw [← hfavours.2.1 j hj, Replica.isActiveForRequest, forcedView_eq,
      ← acceptPropose_viewAt (M.config i) t R.proposal, ← forcedView_eq, Replica.isActiveForRequest]
  obtain ⟨hadd, hslot⟩ := @Round.Slot.addProposal _ R _ (t.quorumForRequest (M.config i) R.proposal) h.slot hnone
    (M.config i).enableViewchange (h.missing hi (by rw [hnone]; decide))
  have hcollect : t.collect (M.config i) R.proposal = ⟨R.opening (s.slot R), 0, true, none⟩ := by
    obtain ⟨_, _, rfl⟩ := hchecked
    exact hadd
  have hvalid : t.isValidMsg R.proposal = true := by
    obtain ⟨hqueues, hlast, _⟩ := h.waiting hopen
    have hnext : t.nextExecuteSeq = R.proposal.seq := hchecked.samePipeline.nextExecuteSeq.trans hqueues.next
    rw [Replica.isValidMsg, Replica.maxPendingExecutedSeq, hnext, if_neg (Nat.ne_zero_of_lt hlast), hinfo]
    simp
  have hunseen : R.proposal.senderId = (M.config i).selfId ∨ R.proposal.hash ∉ t.proposed := by
    by_cases hmem : R.proposal.hash ∈ t.proposed
    · exact Or.inl (h.proposed hnone (hproposed ▸ hmem)).symm
    · exact Or.inr hmem
  have hcommitted : t.isCommitted R.proposal.seq = false := by
    obtain ⟨_, _, rfl⟩ := hchecked
    exact h.opened hopen
  obtain ⟨hanswer, base, hbase, hfinal⟩ := @acceptPropose_fresh t R.proposal (M.config i) (by rw [hinfo])
    (hactive i (Finset.mem_insert_of_mem hi)) hunseen hvalid (hactive _ (Finset.mem_insert_self _ _)) hcommitted
    (by rw [hcollect]) (by rw [hcollect])
  rw [hfinal, hcollect] at hfavours
  rw [hanswer, hfinal, hcollect]
  obtain ⟨_, _, rfl⟩ := hchecked.trans hbase
  refine h.opening hnone hslot (@slot_setCollector M R s _ _ rfl) hfavours rfl ?_ ⟨?_, rfl, rfl, rfl, rfl⟩
  · simp only [Replica.isCommitted, Replica.collected, R.proposes, reduceCtorEq, and_false, if_false]
  · simp [Replica.collected]

structure Round.KeepsRound (R : Round M) (s s' : Replica) : Prop where
  slot : s'.slot R = s.slot R
  consensus : s'.consensus = s.consensus
  capacity : s'.pool.capacity = s.pool.capacity
  committed : s'.isCommitted R.proposal.seq = s.isCommitted R.proposal.seq
  proposed : s'.proposed = s.proposed

lemma orderMessage_stage (hcapacity : 0 < s.pool.capacity) (h : R.Stage s done) :
    R.KeepsRound s (orderMessage s) ∧ R.Stage (orderMessage s) done ∧
      ((s.slot R).status = .executed → (orderMessage s).commitQueue = []) := by
  have hidle : ∀ {executeQueue next}, Queues s [] executeQueue next → orderMessage s = s := by
    intro executeQueue next hqueues
    have hsame : { s with candidates := [] } = s := by rw [← hqueues.candidates]
    rw [orderMessage, hqueues.commitQueue]
    dsimp only
    rw [hqueues.candidates, drainCandidates, hsame]
  cases h with
  | waiting hopen hqueues hlast hdone =>
    rw [hidle hqueues]
    exact ⟨⟨rfl, rfl, rfl, rfl, rfl⟩, .waiting hopen hqueues hlast hdone, fun _ => hqueues.commitQueue⟩
  | committed hclosed hqueues hlast hdone =>
    have horder : orderMessage s =
        { s with
          commitQueue := []
          candidates := []
          executeQueue := [R.proposal]
          nextExecuteSeq := R.proposal.seq + 1
          pool := s.pool.update R.proposal.seq } := by
      rw [orderMessage, hqueues.commitQueue]
      dsimp only
      rw [if_neg (by simp [hqueues.next]), hqueues.candidates, addNewData, drainCandidates,
        if_pos hqueues.next.symm, drainCandidates, hqueues.executeQueue, hqueues.next]
      rfl
    have hslot : Replica.slot R (orderMessage s) = s.slot R := by
      rw [horder]
      exact getCollector_update hcapacity R.proposal.seq
    refine ⟨⟨hslot, ?_, ?_, ?_, ?_⟩, .ordered (by rw [hslot, hclosed]) ⟨?_, ?_, ?_, ?_⟩ ?_ hdone, fun _ => ?_⟩
    all_goals rw [horder]
    · exact update_capacity _
    · rfl
    · exact hlast
  | ordered hclosed hqueues hlast hdone =>
    rw [hidle hqueues]
    exact ⟨⟨rfl, rfl, rfl, rfl, rfl⟩, .ordered hclosed hqueues hlast hdone, fun _ => hqueues.commitQueue⟩
  | executed hclosed hqueues hdone =>
    rw [hidle hqueues]
    exact ⟨⟨rfl, rfl, rfl, rfl, rfl⟩, .executed hclosed hqueues hdone, fun _ => hqueues.commitQueue⟩

lemma executeMessage_stage (h : R.Stage s done) :
    R.KeepsRound s (executeMessage s).2 ∧
      R.Stage (executeMessage s).2
        (((executeMessage s).1.filter fun x => decide (x.seq = R.proposal.seq)) ++ done) ∧
      ((s.slot R).status = .executed → s.commitQueue = [] →
        (((executeMessage s).1.filter fun x => decide (x.seq = R.proposal.seq)) ++ done) = [R.execution]) := by
  have hidle : ∀ {commitQueue next}, Queues s commitQueue [] next → executeMessage s = ([], s) := by
    intro commitQueue next hqueues
    rw [executeMessage, hqueues.executeQueue]
  cases h with
  | waiting hopen hqueues hlast hdone =>
    rw [hidle hqueues]
    exact ⟨⟨rfl, rfl, rfl, rfl, rfl⟩, .waiting hopen hqueues hlast hdone, fun hclosed => absurd hclosed hopen⟩
  | committed hclosed hqueues hlast hdone =>
    rw [hidle hqueues]
    refine ⟨⟨rfl, rfl, rfl, rfl, rfl⟩, .committed hclosed hqueues hlast hdone, fun _ hempty => ?_⟩
    rw [hqueues.commitQueue] at hempty
    exact absurd hempty (by simp)
  | ordered hclosed hqueues hlast hdone =>
    have hexecute : executeMessage s = ([R.execution],
        { s with
          executeQueue := []
          executorLastSeq := if s.executorLastSeq = 0 then toInt32 R.proposal.seq else s.executorLastSeq + 1
          executedHashes := R.proposal.hash :: s.executedHashes
          dataQueue := s.dataQueue ++ [R.proposal.seq] }) := by
      rw [executeMessage, hqueues.executeQueue]
      dsimp only
      rw [if_neg fun hold => absurd hold.2 (not_le.mpr hlast)]
      rfl
    have hout : ([R.execution].filter fun x => decide (x.seq = R.proposal.seq)) ++ done = [R.execution] := by
      rw [hdone]
      simp [Round.execution]
    rw [hexecute]
    dsimp only
    rw [hout]
    exact ⟨⟨rfl, rfl, rfl, rfl, rfl⟩,
      .executed hclosed ⟨hqueues.commitQueue, hqueues.candidates, rfl, hqueues.next⟩ rfl, fun _ _ => rfl⟩
  | executed hclosed hqueues hdone =>
    rw [hidle hqueues]
    exact ⟨⟨rfl, rfl, rfl, rfl, rfl⟩, .executed hclosed hqueues hdone, fun _ _ => hdone⟩

lemma Round.VoterInv.executor_event (h : R.VoterInv i s sent heard done) (hkeeps : R.KeepsRound s s')
    (hfavours : R.favours i s') {done' : List Execution} (hstage : R.Stage s' done') :
    R.VoterInv i s' sent heard done' :=
  show R.VoterInv i s' ([] ++ sent) ([] ++ heard) done' from h.keep ⟨(s.slot R).otherMainRequests, by rw [hkeeps.slot]⟩ hfavours hkeeps.capacity
    (fun hopen => hkeeps.committed.trans (h.opened hopen)) (fun _ hmem => hkeeps.proposed ▸ hmem) hstage
    (fun _ => List.not_mem_nil) (fun _ _ _ _ _ hm => absurd hm List.not_mem_nil)
    fun _ _ hm => absurd hm List.not_mem_nil

lemma Round.VoterInv.spared (h : R.VoterInv i s sent heard done) {ev : EngineEvent}
    (hspares : R.Spares s (engineStep (M.config i) s ev).2) (hfavours : R.favours i (engineStep (M.config i) s ev).2)
    (hother : ∀ m ∈ ev.messages, ¬(m.seq = R.proposal.seq ∧ m.type ≠ .newTxns)) :
    R.VoterInv i (engineStep (M.config i) s ev).2 ((engineStep (M.config i) s ev).1.sent ++ sent) (ev.messages ++ heard)
      done := by
  refine h.keep ⟨(s.slot R).otherMainRequests, by rw [hspares.slot]⟩ hfavours hspares.capacity hspares.opened
    (fun _ => hspares.proposed) (h.stage.of_samePipeline hspares.executor (by rw [hspares.slot])) (fun _ hm => ?_)
    (fun b _ j _ m hm hvote => ?_) fun b m hm htype hseq => ?_
  · exact hother _ hm ⟨rfl, by simp [R.proposes]⟩
  · exact hother m hm ⟨hvote.seq, by rw [hvote.type]; exact b.type_ne.2⟩
  · obtain ⟨_, env, r, rfl, hrseq, _, hkind⟩ := engineStep_ballots _ _ _ m hm b htype
    refine absurd ⟨hrseq.trans hseq, ?_⟩ (hother r (List.mem_singleton_self r))
    rcases hkind with ⟨hr, _⟩ | ⟨hr, _⟩ <;> simp [hr]

end Voters

end V2vBft.Engine
