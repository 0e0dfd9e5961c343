import V2vBft.Engine.Round

namespace V2vBft.Engine

open Wire Pbft Bridge

variable {s s' : Replica} {r : Request}

def LooksUp (s s' : Replica) : Prop :=
  ∃ registry, s' = { s with consensus := { s.consensus with registry := registry } }

lemma LooksUp.once (s : Replica) (r : Request) : LooksUp s (s.lookedUp r) := ⟨_, rfl⟩

lemma LooksUp.twice (s : Replica) (r : Request) : LooksUp s ((s.lookedUp r).lookedUp r) := ⟨_, rfl⟩

inductive VoteEffect (cfg : EngineConfig) (s : Replica) (r : Request) (answer : List Request) (new : List Request)
    (s' : Replica) : Prop
  | counted (hhears : s.hears cfg r = true) (hopen : s.isCommitted r.seq = false) (looked : Replica)
      (hlooked : LooksUp s looked) (hstate : s' = looked.collected r (s.collect cfg r))
      (hnew : new = if (s.collect cfg r).changed then answer else [])
  | left (hno : s.hears cfg r = true → s.isCommitted r.seq = true) (hlooked : LooksUp s s')
      (hnew : new = [] ∨ s.isCommitted r.seq = true ∧ new = answer)

lemma addConsensusMsg_heard {cfg : EngineConfig} (hvalid : s.isValidMsg r = true)
    (hactive : s.isActiveForRequest r r.senderId = true) (hopen : s.isCommitted r.seq = false)
    (hret : (s.collect cfg r).changed = true → (s.collect cfg r).ret = 0 ∨ (s.collect cfg r).ret = 1) :
    ((addConsensusMsg cfg s r).1 = .stateChanged ↔ (s.collect cfg r).changed = true) ∧
      (addConsensusMsg cfg s r).2 = (s.lookedUp r).collected r (s.collect cfg r) := by
  rw [addConsensusMsg, if_neg (by simp [hvalid]), if_neg (by simp [hactive]), if_neg (by simp [hopen])]
  refine ⟨?_, rfl⟩
  dsimp only
  split
  next hcode =>
    refine iff_of_false (by simp) fun hchanged => ?_
    rcases hret hchanged with h | h
    · exact hcode.1 h
    · exact hcode.2 h
  next =>
    split
    next hchanged => exact iff_of_true rfl hchanged
    next hchanged => exact iff_of_false (by simp) hchanged

lemma voteOn_effect {cfg : EngineConfig} {answer : Request} (hself : s.isActiveForRequest r cfg.selfId = true)
    (hret : (s.collect cfg r).changed = true → (s.collect cfg r).ret = 0 ∨ (s.collect cfg r).ret = 1) :
    VoteEffect cfg s r [answer] (voteOn cfg (s.lookedUp r) r answer).1 (voteOn cfg (s.lookedUp r) r answer).2 := by
  rw [voteOn]
  cases hvalid : s.isValidMsg r with
  | false =>
    have hadd : addConsensusMsg cfg (s.lookedUp r) r = (.invalid, s.lookedUp r) := by
      rw [addConsensusMsg, if_pos (by simp [hvalid])]
    rw [hadd]
    exact .left (fun hhears => by simp [Replica.hears, hvalid] at hhears) (.once s r) (Or.inl rfl)
  | true =>
    cases hactive : s.isActiveForRequest r r.senderId with
    | false =>
      have hadd : addConsensusMsg cfg (s.lookedUp r) r = (.ok, (s.lookedUp r).lookedUp r) := by
        rw [addConsensusMsg, if_neg (by simp [hvalid]), if_pos (by simp [hactive])]
      rw [hadd]
      exact .left (fun hhears => by simp [Replica.hears, hactive] at hhears) (.twice s r) (Or.inl rfl)
    | true =>
      cases hopen : s.isCommitted r.seq with
      | true =>
        have hadd : addConsensusMsg cfg (s.lookedUp r) r = (.stateChanged, (s.lookedUp r).lookedUp r) := by
          rw [addConsensusMsg, if_neg (by simp [hvalid]), if_neg (by simp [hactive]),
            if_pos (show (s.lookedUp r).isCommitted r.seq = true from hopen)]
        rw [hadd]
        exact .left (fun _ => hopen) (.twice s r) (Or.inr ⟨hopen, rfl⟩)
      | false =>
        obtain ⟨hcode, hstate⟩ := @addConsensusMsg_heard (s.lookedUp r) r cfg
          (by simpa using hvalid) (by simpa using hactive) hopen (by simpa using hret)
        rw [lookedUp_collect] at hcode hstate
        refine .counted (by simp [Replica.hears, hvalid, hactive, hself]) hopen _ (.twice s r) hstate ?_
        dsimp only
        split
        next h => rw [if_pos (hcode.mp h)]
        next h => rw [if_neg fun hchanged => h (hcode.mpr hchanged)]

lemma processPrepareMsg_effect {cfg : EngineConfig} (hregular : r.isRecovery = false)
    (hret : (s.collect cfg r).changed = true → (s.collect cfg r).ret = 0 ∨ (s.collect cfg r).ret = 1) :
    VoteEffect cfg s r [commitFor cfg r] (processPrepareMsg cfg s r).1 (processPrepareMsg cfg s r).2 := by
  rw [processPrepareMsg, if_neg (by simp [hregular])]
  split
  next hself =>
    refine .left (fun hhears => ?_) (.once s r) (Or.inl rfl)
    simp only [Replica.hears, hregular, Bool.false_or, Bool.and_eq_true] at hhears
    simp [hhears.2] at hself
  next hself => exact voteOn_effect (by simpa using hself) hret

lemma processCommitMsg_effect {cfg : EngineConfig} (hregular : r.isRecovery = false)
    (hret : (s.collect cfg r).changed = true → (s.collect cfg r).ret = 0 ∨ (s.collect cfg r).ret = 1) :
    VoteEffect cfg s r [] [] (processCommitMsg cfg s r) := by
  have hsilent : ∀ {new s'}, VoteEffect cfg s r [r] new s' → VoteEffect cfg s r [] [] s' := by
    intro new s' h
    cases h with
    | counted hhears hopen looked hlooked hstate =>
      exact .counted hhears hopen looked hlooked hstate (by split <;> rfl)
    | left hno hlooked => exact .left hno hlooked (Or.inl rfl)
  rw [processCommitMsg, if_neg (by simp [hregular])]
  split
  next hself =>
    refine .left (fun hhears => ?_) (.once s r) (Or.inl rfl)
    simp only [Replica.hears, hregular, Bool.false_or, Bool.and_eq_true] at hhears
    simp [hhears.2] at hself
  next hself => exact hsilent (voteOn_effect (by simpa using hself) hret)

def Checked (s s' : Replica) : Prop :=
  ∃ consensus proposed, s' = { s with consensus := consensus, proposed := proposed }

lemma Checked.trans {s'' : Replica} (h : Checked s s') (h' : Checked s' s'') : Checked s s'' := by
  obtain ⟨_, _, rfl⟩ := h
  obtain ⟨_, _, rfl⟩ := h'
  exact ⟨_, _, rfl⟩

inductive ProposeEffect (cfg : EngineConfig) (s : Replica) (r : Request) (new : List Request) (s' : Replica) : Prop
  | counted (base : Replica) (hbase : Checked s base) (hstate : s' = base.collected r (base.collect cfg r))
      (hnew : ∀ m ∈ new, m = prepareFor cfg r)
  | left (hbase : Checked s s') (hnew : ∀ m ∈ new, m = prepareFor cfg r)

lemma ProposeEffect.of_checked {cfg : EngineConfig} {new : List Request} {s'' : Replica} (hbase : Checked s s')
    (h : ProposeEffect cfg s' r new s'') : ProposeEffect cfg s r new s'' := by
  cases h with
  | counted base hchecked hstate hnew => exact .counted base (hbase.trans hchecked) hstate hnew
  | left hchecked hnew => exact .left (hbase.trans hchecked) hnew

lemma voteOn_propose (cfg : EngineConfig) (s : Replica) (r : Request) :
    ProposeEffect cfg s r (voteOn cfg s r (prepareFor cfg r)).1 (voteOn cfg s r (prepareFor cfg r)).2 := by
  have hnew : ∀ m ∈ (voteOn cfg s r (prepareFor cfg r)).1, m = prepareFor cfg r := by
    intro m hm
    rw [voteOn] at hm
    dsimp only at hm
    split at hm
    · exact List.mem_singleton.mp hm
    · exact absurd hm List.not_mem_nil
  cases addConsensusMsg_cases cfg s r with
  | skipped _ hstate =>
    refine .left ?_ hnew
    rw [voteOn]
    rcases hstate with h | h <;> rw [h]
    · exact ⟨_, _, rfl⟩
    · exact ⟨_, _, rfl⟩
  | already _ _ _ hstate =>
    refine .left ?_ hnew
    rw [voteOn, hstate]
    exact ⟨_, _, rfl⟩
  | counted _ _ _ _ hstate =>
    refine .counted (s.lookedUp r) ⟨_, _, rfl⟩ ?_ hnew
    rw [voteOn, hstate, lookedUp_collect]

lemma acceptPropose_effect (cfg : EngineConfig) (s : Replica) (r : Request) :
    ProposeEffect cfg s r (acceptPropose cfg s r).1 (acceptPropose cfg s r).2 := by
  have hnil : ∀ m ∈ ([] : List Request), m = prepareFor cfg r := fun m hm => absurd hm List.not_mem_nil
  rw [acceptPropose]
  split
  next => exact .left ⟨_, _, rfl⟩ hnil
  next =>
    split
    next => exact .left ⟨_, _, rfl⟩ hnil
    next =>
      split
      next => exact (voteOn_propose cfg (s.lookedUp r) r).of_checked ⟨_, _, rfl⟩
      next =>
        split
        next => exact .left ⟨_, _, rfl⟩ hnil
        next => exact (voteOn_propose cfg _ r).of_checked ⟨_, _, rfl⟩

lemma processProposeMsg_effect (cfg : EngineConfig) (env : BridgeEnv) (s : Replica) (hregular : r.isRecovery = false) :
    ProposeEffect cfg s r (processProposeMsg cfg env s r).1.sent (processProposeMsg cfg env s r).2 := by
  rw [processProposeMsg, if_neg (by simp [hregular])]
  split
  next => exact acceptPropose_effect cfg s r
  next =>
    dsimp only
    split
    next => exact (acceptPropose_effect cfg _ r).of_checked ⟨_, _, rfl⟩
    next => exact .left ⟨_, _, rfl⟩ fun m hm => absurd hm List.not_mem_nil

lemma voteOn_fresh {cfg : EngineConfig} {answer : Request} (hvalid : s.isValidMsg r = true)
    (hactive : s.isActiveForRequest r r.senderId = true) (hopen : s.isCommitted r.seq = false)
    (hchanged : (s.collect cfg r).changed = true) (hret : (s.collect cfg r).ret = 0) :
    (voteOn cfg s r answer).1 = [answer] ∧
      (voteOn cfg s r answer).2 = (s.lookedUp r).collected r (s.collect cfg r) := by
  obtain ⟨hcode, hstate⟩ := addConsensusMsg_heard hvalid hactive hopen fun _ => Or.inl hret
  rw [voteOn]
  exact ⟨if_pos (hcode.mpr hchanged), hstate⟩

lemma acceptPropose_fresh {cfg : EngineConfig} (hprimary : s.consensus.info.primaryId = r.senderId)
    (hself : s.isActiveForRequest r cfg.selfId = true)
    (hfresh : r.senderId = cfg.selfId ∨ r.hash ∉ s.proposed) (hvalid : s.isValidMsg r = true)
    (hactive : s.isActiveForRequest r r.senderId = true) (hopen : s.isCommitted r.seq = false)
    (hchanged : (s.collect cfg r).changed = true) (hret : (s.collect cfg r).ret = 0) :
    (acceptPropose cfg s r).1 = [prepareFor cfg r] ∧
      ∃ base, Checked s base ∧ (acceptPropose cfg s r).2 = base.collected r (s.collect cfg r) := by
  rw [acceptPropose, if_neg (by simp [hprimary]), if_neg (by simp [hself])]
  by_cases hown : r.senderId = cfg.selfId
  · rw [if_pos hown]
    obtain ⟨hsent, hstate⟩ := @voteOn_fresh (s.lookedUp r) r cfg (prepareFor cfg r) hvalid (by simpa using hactive)
      hopen (by simpa using hchanged) (by simpa using hret)
    rw [lookedUp_collect] at hstate
    exact ⟨hsent, _, ⟨_, _, rfl⟩, hstate⟩
  · rw [if_neg hown, if_neg (show r.hash ∉ s.proposed from hfresh.resolve_left hown)]
    have hcollect : ∀ proposed, { s.lookedUp r with proposed := proposed }.collect cfg r = s.collect cfg r :=
      fun _ => lookedUp_collect s r r
    obtain ⟨hsent, hstate⟩ := @voteOn_fresh { s.lookedUp r with proposed := r.hash :: s.proposed } r cfg
      (prepareFor cfg r) hvalid ((lookedUp_isActiveForRequest s r r r.senderId).trans hactive) hopen (by rw [hcollect]; exact hchanged)
      (by rw [hcollect]; exact hret)
    rw [hcollect] at hstate
    exact ⟨hsent, _, ⟨_, _, rfl⟩, hstate⟩

lemma acceptPropose_info (cfg : EngineConfig) (s : Replica) (r : Request) :
    (acceptPropose cfg s r).2.consensus.info = s.consensus.info := by
  have hvote : ∀ t : Replica, (voteOn cfg t r (prepareFor cfg r)).2.consensus.info = t.consensus.info := by
    intro t
    rw [voteOn]
    cases addConsensusMsg_cases cfg t r with
    | skipped _ hstate =>
      rcases hstate with h | h
      · rw [h]
      · rw [h]
        rfl
    | already _ _ _ hstate => rw [hstate]; rfl
    | counted _ _ _ _ hstate => rw [hstate]; rfl
  rw [acceptPropose]
  split
  next => rfl
  next =>
    split
    next => rfl
    next =>
      split
      next => exact hvote (s.lookedUp r)
      next =>
        split
        next => rfl
        next => exact hvote _

lemma processProposeMsg_accepts {cfg : EngineConfig} (env : BridgeEnv) (hregular : r.isRecovery = false)
    (hpre : cfg.selfId ≠ r.senderId → (preVerify env s.consensus r).1 = true) :
    ∃ t, Checked s t ∧ t.proposed = s.proposed ∧
      (processProposeMsg cfg env s r).1.sent = (acceptPropose cfg t r).1 ∧
      (processProposeMsg cfg env s r).2 = (acceptPropose cfg t r).2 := by
  rw [processProposeMsg, if_neg (by simp [hregular])]
  split
  next => exact ⟨s, ⟨_, _, rfl⟩, rfl, rfl, rfl⟩
  next hother =>
    dsimp only
    rw [if_pos (hpre (Ne.symm hother))]
    exact ⟨{ s with consensus := (preVerify env s.consensus r).2 }.lookedUp r, ⟨_, _, rfl⟩, rfl, rfl, rfl⟩

lemma getCollector_update {p : LockFreeCollectorPool} (hcapacity : 0 < p.capacity) (seq : ℕ) :
    (p.update seq).getCollector seq = p.getCollector seq := by
  rw [LockFreeCollectorPool.update]
  split
  next => rfl
  next =>
    have hother : (seq + p.capacity) % (2 * p.capacity) ≠ seq % (2 * p.capacity) := by
      intro heq
      have hmod : seq + p.capacity ≡ seq + 0 [MOD 2 * p.capacity] := heq
      have hdvd := (Nat.modEq_zero_iff_dvd).mp (Nat.ModEq.add_left_cancel' seq hmod)
      have := Nat.le_of_dvd hcapacity hdvd
      omega
    rw [LockFreeCollectorPool.getCollector, setCollector_collector, if_neg]
    · rfl
    · exact fun heq => hother heq.symm

lemma engineStep_ballots (cfg : EngineConfig) (s : Replica) (ev : EngineEvent) :
    ∀ m ∈ (engineStep cfg s ev).1.sent, ∀ b : Ballot, m.type = b.type → m.senderId = cfg.selfId ∧
      ∃ env r, ev = .receive env r ∧ r.seq = m.seq ∧ r.hash = m.hash ∧
        (r.type = .prePrepare ∧ b = .prepare ∨ r.type = .prepare ∧ b = .commit) := by
  intro m hm b htype
  cases ev with
  | receive env r =>
    rw [engineStep, internalConsensusCommit] at hm
    cases hr : r.type with
    | newTxns =>
      rw [hr] at hm
      dsimp only at hm
      rw [processNewRequest] at hm
      split at hm
      next => exact absurd hm List.not_mem_nil
      next =>
        split at hm
        next =>
          obtain rfl := List.mem_singleton.mp hm
          exact absurd (htype.symm.trans hr) b.type_ne.2
        next =>
          dsimp only at hm
          split at hm
          next =>
            rw [propose] at hm
            split at hm
            next => exact absurd hm List.not_mem_nil
            next =>
              split at hm
              next => exact absurd hm List.not_mem_nil
              next =>
                rw [List.mem_singleton.mp hm] at htype
                exact absurd htype.symm b.type_ne.1
          next => exact absurd hm List.not_mem_nil
    | prePrepare =>
      rw [hr] at hm
      dsimp only at hm
      have hregular : r.isRecovery = false := by
        rw [processProposeMsg] at hm
        split at hm
        next => exact absurd hm List.not_mem_nil
        next h => simpa using h
      have hprepare : m = prepareFor cfg r := by
        cases processProposeMsg_effect cfg env s hregular with
        | counted _ _ _ hnew => exact hnew m hm
        | left _ hnew => exact hnew m hm
      rw [hprepare] at htype ⊢
      exact ⟨rfl, env, r, rfl, rfl, rfl, Or.inl ⟨hr, Ballot.type_injective htype.symm⟩⟩
    | prepare =>
      rw [hr] at hm
      dsimp only at hm
      have hcommit : m = commitFor cfg r := by
        rw [processPrepareMsg] at hm
        split at hm
        next => exact absurd hm List.not_mem_nil
        next =>
          split at hm
          next => exact absurd hm List.not_mem_nil
          next =>
            rw [voteOn] at hm
            dsimp only at hm
            split at hm
            · exact List.mem_singleton.mp hm
            · exact absurd hm List.not_mem_nil
      rw [hcommit] at htype ⊢
      exact ⟨rfl, env, r, rfl, rfl, rfl, Or.inr ⟨hr, Ballot.type_injective htype.symm⟩⟩
    | commit =>
      rw [hr] at hm
      exact absurd hm List.not_mem_nil
  | _ => exact absurd hm List.not_mem_nil

end V2vBft.Engine
