import V2vBft.App.EpochFrame

namespace V2vBft.App

open Wire

variable {cfg : AppConfig} {s s' : AppState} {ev : AppEvent} {acc : GossipAccumulator}

def GossipAccumulator.Distinct (acc : GossipAccumulator) : Prop := (acc.entries.map Prod.fst).Nodup

lemma record_distinct (h : acc.Distinct) (senderId : ℤ) (epoch : ℕ) (orderBytes : Bytes) :
    (acc.record senderId epoch orderBytes).Distinct := by
  rw [GossipAccumulator.Distinct, GossipAccumulator.record, List.map_cons, List.nodup_cons]
  constructor
  · intro hmem
    obtain ⟨vote, hvote, hkey⟩ := List.mem_map.mp hmem
    have hne := (List.mem_filter.mp hvote).2
    simp [hkey] at hne
  · exact List.Nodup.sublist (List.Sublist.map _ List.filter_sublist) h

lemma mem_record {senderId : ℤ} {epoch : ℕ} {orderBytes : Bytes} {vote : (ℕ × ℤ) × Bytes}
    (h : vote ∈ (acc.record senderId epoch orderBytes).entries) :
    vote = ((epoch, senderId), orderBytes) ∨ vote ∈ acc.entries := by
  rcases List.mem_cons.mp h with heq | hold
  · exact Or.inl heq
  · exact Or.inr (List.mem_filter.mp hold).1

lemma exists_honest_vote {members honest : Finset ℤ} {epoch : ℕ} {orderBytes : Bytes} {f : ℤ}
    (hdistinct : acc.Distinct) (hmembers : ∀ vote ∈ acc.entries, vote.1.2 ∈ members)
    (hcard : ((members \ honest).card : ℤ) ≤ f) (hcount : f + 1 ≤ acc.count epoch orderBytes) :
    ∃ id ∈ honest, ((epoch, id), orderBytes) ∈ acc.entries := by
  set votes := acc.entries.filter fun vote => decide (vote.1.1 = epoch) && decide (vote.2 = orderBytes) with hvotes
  have hmem : ∀ vote ∈ votes, vote ∈ acc.entries ∧ vote.1.1 = epoch ∧ vote.2 = orderBytes := by
    intro vote h
    obtain ⟨hentry, hsame⟩ := List.mem_filter.mp h
    simp only [Bool.and_eq_true, decide_eq_true_eq] at hsame
    exact ⟨hentry, hsame⟩
  have hlength : f + 1 ≤ votes.length := by
    rwa [hvotes, ← List.countP_eq_length_filter]
  have hnodup : (votes.map fun vote => vote.1.2).Nodup := by
    apply List.Nodup.map_on
    · intro x hx y hy heq
      obtain ⟨-, hxe, hxb⟩ := hmem x hx
      obtain ⟨-, hye, hyb⟩ := hmem y hy
      exact Prod.ext (Prod.ext (hxe.trans hye.symm) heq) (hxb.trans hyb.symm)
    · exact List.Nodup.filter _ hdistinct.of_map
  have hvoters : ((votes.map fun vote => vote.1.2).toFinset.card : ℤ) = votes.length := by
    rw [List.toFinset_card_of_nodup hnodup, List.length_map]
  have hex : ∃ id ∈ (votes.map fun vote => vote.1.2).toFinset, id ∉ members \ honest := by
    by_contra hall
    push Not at hall
    have hle := Finset.card_le_card hall
    omega
  obtain ⟨id, hid, hnot⟩ := hex
  obtain ⟨vote, hvote, rfl⟩ := List.mem_map.mp (List.mem_toFinset.mp hid)
  obtain ⟨hentry, hepoch, hbytes⟩ := hmem vote hvote
  have hhonest : vote.1.2 ∈ honest := by
    by_contra hbyz
    exact hnot (Finset.mem_sdiff.mpr ⟨hmembers vote hentry, hbyz⟩)
  refine ⟨vote.1.2, hhonest, ?_⟩
  rw [← hepoch, ← hbytes]
  exact hentry

structure SameGossip (s s' : AppState) : Prop where
  pending : ∀ dec ∈ s'.pendingOrders, dec ∈ s.pendingOrders
  orders : s'.orderGossip = s.orderGossip
  cancels : s'.cancelGossip = s.cancelGossip

lemma SameGossip.trans {s'' : AppState} (h : SameGossip s s') (h' : SameGossip s' s'') : SameGossip s s'' :=
  ⟨fun dec hdec => h.pending dec (h'.pending dec hdec), h'.orders.trans h.orders, h'.cancels.trans h.cancels⟩

lemma CertOnly.sameGossip (h : CertOnly s s') : SameGossip s s' := by
  rw [h]
  exact ⟨fun _ hdec => hdec, rfl, rfl⟩

lemma commitCancel_sameGossip (dec : Bytes) (gossipAdopted recallable : Bool) :
    SameGossip s (commitCancel cfg s dec gossipAdopted recallable).1 := by
  rw [commitCancel]
  dsimp only
  rw [beginPostCancelDiscovery]
  split <;> exact ⟨fun _ hdec => hdec, rfl, rfl⟩

lemma applyOrder_sameGossip (order : OrderDecision) (now : ℤ) : SameGossip s (applyOrder cfg s order now).1 := by
  rw [applyOrder]
  dsimp only
  split
  next => exact ⟨fun _ hdec => hdec, rfl, rfl⟩
  next =>
    split
    next => exact ⟨fun _ hdec => hdec, rfl, rfl⟩
    next batch _ =>
      rw [takeSlot]
      dsimp only
      split <;> exact ⟨fun _ hdec => hdec, rfl, rfl⟩

lemma processOrder_sameGossip (completed recallable : Bool) (now : ℤ) :
    SameGossip s (processOrder cfg s completed recallable now).1 := by
  rw [processOrder]
  split
  next => exact ⟨fun _ hdec => hdec, rfl, rfl⟩
  next dec rest hqueue =>
    have hpop : SameGossip s { s with pendingOrders := rest } :=
      ⟨fun d hd => by rw [hqueue]; exact List.mem_cons_of_mem dec hd, rfl, rfl⟩
    rw [processDecision]
    split
    next => exact hpop.trans (commitCancel_sameGossip dec false recallable)
    next =>
      split
      next => exact hpop
      next order _ => exact hpop.trans (applyOrder_sameGossip order now)

structure VotesFrom (old new : GossipAccumulator) (received : Option (ℤ × ℕ × Bytes)) : Prop where
  distinct : old.Distinct → new.Distinct
  source : ∀ vote ∈ new.entries, vote ∈ old.entries ∨ received = some (vote.1.2, vote.1.1, vote.2)

lemma VotesFrom.refl (received : Option (ℤ × ℕ × Bytes)) : VotesFrom acc acc received := ⟨id, fun _ h => Or.inl h⟩

lemma VotesFrom.record (senderId : ℤ) (epoch : ℕ) (orderBytes : Bytes) :
    VotesFrom acc (acc.record senderId epoch orderBytes) (some (senderId, epoch, orderBytes)) where
  distinct := fun h => record_distinct h senderId epoch orderBytes
  source := by
    intro vote h
    rcases mem_record h with rfl | hold
    · exact Or.inr rfl
    · exact Or.inl hold

def orderReceived : AppEvent → Option (ℤ × ℕ × Bytes)
  | .decisionGossip senderId inner _ => (gossipParse inner).map fun gossip => (senderId, gossip.1, gossip.2)
  | _ => none

def cancelReceived : AppEvent → Option (ℤ × ℕ × Bytes)
  | .cancelCommitGossip senderId inner _ => (gossipParse inner).map fun gossip => (senderId, gossip.1, gossip.2)
  | _ => none

def adoptedBy (cfg : AppConfig) (s : AppState) : AppEvent → Option (ℕ × Bytes)
  | .decisionGossip senderId inner completed => adoptedOrder cfg s senderId inner completed
  | _ => none

structure GossipAppStep (cfg : AppConfig) (s : AppState) (ev : AppEvent) : Prop where
  pending : ∀ dec ∈ (appStep cfg s ev).1.pendingOrders, dec ∈ s.pendingOrders ∨ ev = .orderDecided dec ∨
    ∃ epoch, adoptedBy cfg s ev = some (epoch, dec)
  orders : VotesFrom s.orderGossip (appStep cfg s ev).1.orderGossip (orderReceived ev)
  cancels : VotesFrom s.cancelGossip (appStep cfg s ev).1.cancelGossip (cancelReceived ev)

lemma SameGossip.appStep (h : SameGossip s (appStep cfg s ev).1) : GossipAppStep cfg s ev where
  pending := fun dec hdec => Or.inl (h.pending dec hdec)
  orders := by
    rw [h.orders]
    exact VotesFrom.refl _
  cancels := by
    rw [h.cancels]
    exact VotesFrom.refl _

lemma handleDecisionGossip_gossip (senderId : ℤ) (inner : Bytes) (completed : Bool) :
    GossipAppStep cfg s (.decisionGossip senderId inner completed) := by
  cases hadopt : adoptedOrder cfg s senderId inner completed with
  | some adopted =>
    have hstep : (App.appStep cfg s (.decisionGossip senderId inner completed)).1 =
        { s with
          pendingOrders := s.pendingOrders ++ [adopted.2]
          lastCommittedEpoch := adopted.1
          hasCommittedOrder := true
          orderGossip := .empty } := by
      simp only [App.appStep, handleDecisionGossip, hadopt]
    refine ⟨fun dec hdec => ?_, ?_, ?_⟩
    · rw [hstep] at hdec
      rcases List.mem_append.mp hdec with hold | hnew
      · exact Or.inl hold
      · obtain rfl := List.mem_singleton.mp hnew
        exact Or.inr (Or.inr ⟨adopted.1, hadopt⟩)
    · rw [hstep]
      exact ⟨fun _ => List.nodup_nil, fun _ h => absurd h List.not_mem_nil⟩
    · rw [hstep]
      exact VotesFrom.refl _
  | none =>
    have hstep : (App.appStep cfg s (.decisionGossip senderId inner completed)).1 =
        recordOrderVote s senderId inner completed := by
      simp only [App.appStep, handleDecisionGossip, hadopt]
    cases hparse : gossipParse inner with
    | none =>
      apply SameGossip.appStep
      rw [hstep, recordOrderVote, hparse]
      exact ⟨fun _ hdec => hdec, rfl, rfl⟩
    | some gossip =>
      have hreceived : orderReceived (.decisionGossip senderId inner completed) =
          some (senderId, gossip.1, gossip.2) := by rw [orderReceived, hparse, Option.map_some]
      cases hcounted : decisionGossipCounted s gossip.1 completed with
      | false =>
        apply SameGossip.appStep
        simp only [hstep, recordOrderVote, hparse, hcounted, Bool.false_eq_true, if_false]
        exact ⟨fun _ hdec => hdec, rfl, rfl⟩
      | true =>
        refine ⟨fun dec hdec => Or.inl ?_, ?_, ?_⟩
        · simpa only [hstep, recordOrderVote, hparse, hcounted, if_true] using hdec
        · simp only [hstep, recordOrderVote, hparse, hcounted, if_true, hreceived]
          exact VotesFrom.record senderId gossip.1 gossip.2
        · simp only [hstep, recordOrderVote, hparse, hcounted, if_true]
          exact VotesFrom.refl _

lemma recordCancelVote_gossip (senderId : ℤ) (inner : Bytes) (recallable : Bool) :
    (∀ dec ∈ (recordCancelVote s senderId inner).pendingOrders, dec ∈ s.pendingOrders) ∧
      (recordCancelVote s senderId inner).orderGossip = s.orderGossip ∧
      VotesFrom s.cancelGossip (recordCancelVote s senderId inner).cancelGossip
        (cancelReceived (.cancelCommitGossip senderId inner recallable)) := by
  cases hparse : gossipParse inner with
  | none =>
    rw [recordCancelVote, hparse]
    exact ⟨fun _ hdec => hdec, rfl, VotesFrom.refl _⟩
  | some gossip =>
    have hreceived : cancelReceived (.cancelCommitGossip senderId inner recallable) =
        some (senderId, gossip.1, gossip.2) := by rw [cancelReceived, hparse, Option.map_some]
    rw [recordCancelVote, hparse, hreceived]
    dsimp only
    split
    next => exact ⟨fun _ hdec => hdec, rfl, VotesFrom.record senderId gossip.1 gossip.2⟩
    next => exact ⟨fun _ hdec => hdec, rfl, VotesFrom.refl _⟩

lemma handleCancelCommitGossip_gossip (senderId : ℤ) (inner : Bytes) (recallable : Bool) :
    GossipAppStep cfg s (.cancelCommitGossip senderId inner recallable) := by
  obtain ⟨hpending, horders, hcancels⟩ := recordCancelVote_gossip (s := s) senderId inner recallable
  have hlast : SameGossip (recordCancelVote s senderId inner)
      (App.appStep cfg s (.cancelCommitGossip senderId inner recallable)).1 := by
    simp only [App.appStep, handleCancelCommitGossip]
    split
    next => exact ⟨fun _ hdec => hdec, rfl, rfl⟩
    next attestation _ => exact commitCancel_sameGossip attestation true recallable
  refine ⟨fun dec hdec => Or.inl (hpending dec (hlast.pending dec hdec)), ?_, ?_⟩
  · rw [hlast.orders, horders]
    exact VotesFrom.refl _
  · rw [hlast.cancels]
    exact hcancels

lemma appStep_gossip (cfg : AppConfig) (s : AppState) (ev : AppEvent) : GossipAppStep cfg s ev := by
  cases ev with
  | decisionGossip senderId inner completed => exact handleDecisionGossip_gossip senderId inner completed
  | cancelCommitGossip senderId inner recallable => exact handleCancelCommitGossip_gossip senderId inner recallable
  | processOrder completed recallable now => exact (processOrder_sameGossip completed recallable now).appStep
  | cancelCert payload recallable => exact (handleCancelCert_certOnly payload recallable).sameGossip.appStep
  | cancelCertFormed cert recallable => exact (broadcastCancelCert_certOnly cert recallable).sameGossip.appStep
  | clearancePoll formed cleared now => exact (clearancePoll_certOnly formed cleared now).sameGossip.appStep
  | disableCrashComms => exact SameGossip.appStep ⟨fun _ hdec => hdec, rfl, rfl⟩
  | resumeTimer =>
    apply SameGossip.appStep
    simp only [App.appStep, resumeTimer]
    repeat' split
    all_goals exact ⟨fun _ hdec => hdec, rfl, rfl⟩
  | orderTimeout =>
    apply SameGossip.appStep
    simp only [App.appStep, orderTimeout]
    split <;> exact ⟨fun _ hdec => hdec, rfl, rfl⟩
  | orderDecided dec =>
    refine ⟨fun d hd => ?_, VotesFrom.refl _, VotesFrom.refl _⟩
    rcases List.mem_append.mp hd with hold | hnew
    · exact Or.inl hold
    · exact Or.inr (Or.inl (by rw [List.mem_singleton.mp hnew]))

end V2vBft.App
