import V2vBft.Engine.Collector

namespace V2vBft.Engine

open Wire Pbft

variable {c : TransactionCollector} {p : LockFreeCollectorPool} {request : Request} {quorum : ℕ} {enableViewchange : Bool}

def TransactionCollector.stored (c : TransactionCollector) : List Request :=
  c.mainRequest.toList ++ c.otherMainRequests

@[simp] lemma fresh_seq (n : ℕ) : (TransactionCollector.fresh n).seq = n := rfl

@[simp] lemma fresh_status (n : ℕ) : (TransactionCollector.fresh n).status = .none := rfl

@[simp] lemma fresh_senders (n : ℕ) : (TransactionCollector.fresh n).senders = ∅ := rfl

@[simp] lemma fresh_stored (n : ℕ) : (TransactionCollector.fresh n).stored = [] := rfl

@[simp] lemma record_seq : (c.record request).seq = c.seq := rfl

lemma mem_record {v : Vote} : v ∈ (c.record request).senders ↔ v = voteOf request ∨ v ∈ c.senders := Finset.mem_insert

lemma mem_voters {type : RequestType} {hash : Bytes} {id : ℤ} :
    id ∈ c.voters type hash ↔ ⟨type, hash, id⟩ ∈ c.senders := by
  simp only [TransactionCollector.voters, Finset.mem_image, Finset.mem_filter]
  constructor
  · rintro ⟨v, ⟨hv, rfl, rfl⟩, rfl⟩
    exact hv
  · intro h
    exact ⟨_, ⟨h, rfl, rfl⟩, rfl⟩

def Completes (quorum : ℕ) (c : TransactionCollector) (request : Request) : Prop :=
  quorum ≤ ((c.record request).voters request.type request.hash).card

instance : Decidable (Completes quorum c request) := inferInstanceAs (Decidable (_ ≤ _))

inductive AddStep (enableViewchange : Bool) (quorum : ℕ) (c : TransactionCollector) (request : Request) (r : AddResult) : Prop
  | same (hcollector : r.collector = c) (hchanged : r.changed = false) (hcommitted : r.committed = none)
  | queued (htype : request.type = .prePrepare) (hseq : c.seq = request.seq)
      (hcollector : r.collector = { c with otherMainRequests := c.otherMainRequests ++ [request] })
      (hchanged : r.changed = false) (hcommitted : r.committed = none)
  | stored (htype : request.type = .prePrepare) (hseq : c.seq = request.seq) (status : TransactionStatue)
      (hstatus : status = c.status ∨ c.status = .none ∧ status = .readyPrepare)
      (hcollector : r.collector =
        { c with mainRequest := some request, view := request.currentView, status := status })
      (hcommitted : r.committed = none)
  | voted (htype : request.type ≠ .prePrepare) (hseq : c.seq = request.seq)
      (hcollector : r.collector = c.record request) (hchanged : r.changed = false) (hcommitted : r.committed = none)
  | prepared (htype : request.type = .prepare) (hseq : c.seq = request.seq) (hbefore : c.status = .readyPrepare)
      (hquorum : Completes quorum c request) (hseq' : r.collector.seq = c.seq)
      (hsenders : r.collector.senders = (c.record request).senders) (hafter : r.collector.status = .readyCommit)
      (hmain : enableViewchange = false ∧ r.collector.mainRequest = c.mainRequest ∨
        enableViewchange = true ∧ ∀ m ∈ r.collector.mainRequest, m.hash = request.hash)
      (hstored : ∀ m ∈ r.collector.stored, m ∈ c.stored) (hcommitted : r.committed = none)
  | executed (htype : request.type = .commit) (hseq : c.seq = request.seq) (hbefore : c.status = .readyCommit)
      (hquorum : Completes quorum c request) (hseq' : r.collector.seq = c.seq)
      (hsenders : r.collector.senders = (c.record request).senders) (hafter : r.collector.status = .executed)
      (hmain : r.collector.mainRequest = c.mainRequest) (hstored : r.collector.stored = c.stored)
      (hcommitted : r.committed = c.mainRequest)

lemma mayConsensusChangeStatus_prePrepare (count : ℕ) (status : TransactionStatue) (ret : Bool) :
    (mayConsensusChangeStatus quorum .prePrepare count status ret).2 = status ∨
      status = .none ∧ (mayConsensusChangeStatus quorum .prePrepare count status ret).2 = .readyPrepare := by
  cases status with
  | none => exact Or.inr ⟨rfl, rfl⟩
  | _ => exact Or.inl rfl

lemma addMainRequest_step (htype : request.type = .prePrepare) (hseq : c.seq = request.seq) :
    AddStep enableViewchange quorum c request (c.addMainRequest quorum request) := by
  rw [TransactionCollector.addMainRequest]
  split
  next => exact .queued htype hseq rfl rfl rfl
  next =>
    rw [htype]
    exact .stored htype hseq _ (mayConsensusChangeStatus_prePrepare 1 c.status _) rfl rfl

lemma countVote_cases (c : TransactionCollector) (quorum : ℕ) (htype : request.type ≠ .prePrepare) :
    c.countVote quorum request = (false, c.status) ∨
      (request.type = .prepare ∧ c.status = .readyPrepare ∧ Completes quorum c request ∧
        c.countVote quorum request = (true, .readyCommit)) ∨
      request.type = .commit ∧ c.status = .readyCommit ∧ Completes quorum c request ∧
        c.countVote quorum request = (true, .readyExecute) := by
  simp only [TransactionCollector.countVote, TransactionCollector.voteCount, Completes]
  cases ht : request.type with
  | prePrepare => exact absurd ht htype
  | newTxns => exact Or.inl rfl
  | prepare =>
    cases hs : c.status with
    | readyPrepare =>
      by_cases hq : quorum ≤ ((c.record request).voters .prepare request.hash).card
      · exact Or.inr (Or.inl ⟨rfl, rfl, hq, by simp [mayConsensusChangeStatus, hq]⟩)
      · exact Or.inl (by simp [mayConsensusChangeStatus, hq])
    | _ => exact Or.inl rfl
  | commit =>
    cases hs : c.status with
    | readyCommit =>
      by_cases hq : quorum ≤ ((c.record request).voters .commit request.hash).card
      · exact Or.inr (Or.inr ⟨rfl, rfl, hq, by simp [mayConsensusChangeStatus, hq]⟩)
      · exact Or.inl (by simp [mayConsensusChangeStatus, hq])
    | _ => exact Or.inl rfl

lemma replaceMain_stored (c : TransactionCollector) (hash : Bytes) : ∀ m ∈ (c.replaceMain hash).stored, m ∈ c.stored := by
  intro m hm
  rw [TransactionCollector.replaceMain] at hm
  split at hm
  next => exact hm
  next main hmain =>
    split at hm
    next => exact hm
    next =>
      simp only [TransactionCollector.stored, List.append_nil, Option.mem_toList] at hm
      exact List.mem_append_right _ (List.mem_of_find?_eq_some hm)

lemma replaceMain_hash (c : TransactionCollector) (hash : Bytes) :
    ∀ m ∈ (c.replaceMain hash).mainRequest, m.hash = hash := by
  intro m hm
  rw [TransactionCollector.replaceMain] at hm
  split at hm
  next hnone => exact absurd hm (by simp [hnone])
  next main hmain =>
    split at hm
    next heq =>
      obtain rfl := Option.some.inj (hmain.symm.trans hm)
      exact heq
    next => simpa using List.find?_some hm

lemma replaceMain_frame (c : TransactionCollector) (hash : Bytes) :
    (c.replaceMain hash).seq = c.seq ∧ (c.replaceMain hash).senders = c.senders ∧
      (c.replaceMain hash).status = c.status := by
  rw [TransactionCollector.replaceMain]
  split
  next => exact ⟨rfl, rfl, rfl⟩
  next => split <;> exact ⟨rfl, rfl, rfl⟩

lemma addPrepareProof_step (htype : request.type = .prepare) (hseq : c.seq = request.seq) :
    AddStep true quorum c request (c.addPrepareProof quorum request) := by
  rw [TransactionCollector.addPrepareProof]
  split
  next hopen =>
    rcases countVote_cases c quorum (show request.type ≠ .prePrepare by simp [htype]) with h | ⟨_, hs, hq, h⟩ | h
    · have hne : c.status ≠ .readyCommit := by
        rcases hopen.1 with hs | hs <;> simp [hs]
      simp only [h, hne, if_false]
      exact .voted (by simp [htype]) hseq rfl rfl rfl
    · simp only [h, if_true]
      have hframe := replaceMain_frame { c.record request with status := .readyCommit, isPrepared := true } request.hash
      refine .prepared htype hseq hs hq hframe.1 hframe.2.1 hframe.2.2 (Or.inr ⟨rfl, ?_⟩) ?_ rfl
      · exact replaceMain_hash { c.record request with status := .readyCommit, isPrepared := true } request.hash
      · exact replaceMain_stored { c.record request with status := .readyCommit, isPrepared := true } request.hash
    · exact absurd (htype.symm.trans h.1) (by simp)
  next => exact .same rfl rfl rfl

lemma commit_frame (c : TransactionCollector) :
    c.commit.1.seq = c.seq ∧ c.commit.1.senders = c.senders ∧ c.commit.1.status = .executed ∧
      c.commit.1.mainRequest = c.mainRequest ∧ c.commit.1.stored = c.stored ∧ c.commit.2 = c.mainRequest := by
  rw [TransactionCollector.commit]
  split
  next h => exact ⟨rfl, rfl, rfl, rfl, rfl, h.symm⟩
  next h => exact ⟨rfl, rfl, rfl, rfl, rfl, h.symm⟩

lemma addVote_step (htype : request.type ≠ .prePrepare) (hseq : c.seq = request.seq) (hne : c.status ≠ .readyExecute)
    (hproof : enableViewchange = true → request.type ≠ .prepare) :
    AddStep enableViewchange quorum c request (c.addVote quorum request) := by
  rw [TransactionCollector.addVote]
  rcases countVote_cases c quorum htype with h | ⟨ht, hs, hq, h⟩ | ⟨ht, hs, hq, h⟩
  · simp only [h, hne, if_false]
    exact .voted htype hseq rfl rfl rfl
  · simp only [h, reduceCtorEq, if_false]
    have hoff : enableViewchange = false := Bool.eq_false_iff.mpr fun hon => hproof hon ht
    exact .prepared ht hseq hs hq rfl rfl rfl (Or.inl ⟨hoff, rfl⟩) (fun m hm => hm) rfl
  · simp only [h, if_true]
    obtain ⟨hseq', hsenders, hafter, hmain, hstored, hcommitted⟩ :=
      commit_frame { c.record request with status := .readyExecute }
    exact .executed ht hseq hs hq hseq' hsenders hafter hmain hstored hcommitted

theorem addRequest_step (enableViewchange : Bool) (hne : c.status ≠ .readyExecute) :
    AddStep enableViewchange quorum c request (c.addRequest enableViewchange quorum request) := by
  rw [TransactionCollector.addRequest]
  split
  next => exact .same rfl rfl rfl
  next =>
    split
    next => exact .same rfl rfl rfl
    next hseq =>
      have hseq := not_not.mp hseq
      split
      next htype => exact addMainRequest_step htype hseq
      next htype =>
        split
        next h =>
          obtain rfl : enableViewchange = true := h.1
          exact addPrepareProof_step h.2 hseq
        next h => exact addVote_step htype hseq hne fun hon ht => h ⟨hon, ht⟩

lemma setCollector_collector (seq i : ℕ) :
    (p.setCollector seq c).collector i = if i = p.index seq then c else p.collector i := Function.update_apply ..

lemma update_collector (seq i : ℕ) :
    (p.update seq).collector i = p.collector i ∨ (p.update seq).collector i = .fresh (seq + p.capacity) := by
  rw [LockFreeCollectorPool.update]
  split
  next => exact Or.inl rfl
  next =>
    rw [setCollector_collector]
    split
    · exact Or.inr rfl
    · exact Or.inl rfl

@[simp] lemma setCollector_capacity (seq : ℕ) : (p.setCollector seq c).capacity = p.capacity := rfl

@[simp] lemma update_capacity (seq : ℕ) : (p.update seq).capacity = p.capacity := by
  rw [LockFreeCollectorPool.update]
  split <;> rfl

end V2vBft.Engine
