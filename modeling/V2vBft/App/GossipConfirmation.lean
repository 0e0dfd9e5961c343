import V2vBft.App.GossipNetwork

/-! When a gossiping replica confirms that its ORDER has spread: the votes that it counts, and those that it drops. -/

namespace V2vBft.App

open Wire Library.GuardedRun

-- `heard` observes the decision frames that came from the replicas named in them: sender, epoch, ORDER
structure Confirming where
  gossiping : Gossiping
  heard : List (ℤ × ℕ × Bytes)
  deriving DecidableEq, Repr

def Confirming.initial : Confirming := ⟨.initial, []⟩

variable (cfg : AppConfig) (g : GossipConfig) (publicKey : ℤ → Bytes)

-- sender named in the frame, epoch and ORDER of a frame whose signature verifies under the key it carries
def verifiedVote : NetAction → Option (ℤ × ℕ × Bytes)
  | .receive .decision frame _ _ =>
    if cfg.verifyBytes frame.pubKey frame.inner frame.sig then
      (gossipParse frame.inner).map fun vote => (frame.senderId, vote.1, vote.2)
    else none
  | _ => none

def genuineVote : NetAction → Option (ℤ × ℕ × Bytes)
  | .receive .decision frame completed recallable =>
    if frame.pubKey = publicKey frame.senderId then verifiedVote cfg (.receive .decision frame completed recallable)
    else none
  | _ => none

def countedVote (s : AppState) : NetAction → Option (ℤ × ℕ × Bytes)
  | .receive .decision frame completed recallable =>
    (verifiedVote cfg (.receive .decision frame completed recallable)).filter fun vote =>
      decisionGossipCounted s vote.2.1 completed
  | _ => none

def adoptsOrder (s : AppState) : NetAction → Bool
  | .receive .decision frame completed _ =>
    cfg.verifyBytes frame.pubKey frame.inner frame.sig &&
      (adoptedOrder cfg s frame.senderId frame.inner completed).isSome
  | _ => false

def confirmNext (r : Confirming) (a : NetAction) : Confirming :=
  ⟨match a.localEvent cfg with
    | none => r.gossiping
    | some ev => gossipNext cfg g r.gossiping ev,
    (genuineVote cfg publicKey a).toList ++ r.heard⟩

variable {cfg g publicKey} {r : Confirming} {a : NetAction} {s : AppState} {honest : Finset ℤ} {epoch : ℕ} {bytes : Bytes}

lemma mem_record_iff {acc : GossipAccumulator} {id senderId : ℤ} {number : ℕ} {orderBytes : Bytes} :
    ((epoch, id), bytes) ∈ (acc.record senderId number orderBytes).entries ↔
      if (epoch, id) = (number, senderId) then bytes = orderBytes else ((epoch, id), bytes) ∈ acc.entries := by
  rw [GossipAccumulator.record, List.mem_cons, List.mem_filter, Prod.mk.injEq]
  by_cases hkey : (epoch, id) = (number, senderId)
  · rw [if_pos hkey]
    simp [hkey]
  · rw [if_neg hkey]
    simp [hkey]

lemma appStep_orderGossip {ev : AppEvent} (h : ∀ senderId inner completed, ev ≠ .decisionGossip senderId inner completed) :
    (appStep cfg s ev).1.orderGossip = s.orderGossip := by
  cases ev with
  | decisionGossip senderId inner completed => exact absurd rfl (h senderId inner completed)
  | cancelCommitGossip senderId inner recallable =>
    simp only [appStep, handleCancelCommitGossip]
    have hrecord := (recordCancelVote_gossip (s := s) senderId inner recallable).2.1
    split
    next => exact hrecord
    next attestation _ => exact (commitCancel_sameGossip attestation true recallable).orders.trans hrecord
  | processOrder completed recallable now => exact (processOrder_sameGossip completed recallable now).orders
  | cancelCert payload recallable => exact (handleCancelCert_certOnly payload recallable).sameGossip.orders
  | cancelCertFormed cert recallable => exact (broadcastCancelCert_certOnly cert recallable).sameGossip.orders
  | clearancePoll formed cleared now => exact (clearancePoll_certOnly formed cleared now).sameGossip.orders
  | resumeTimer =>
    simp only [appStep, resumeTimer]
    repeat' split
    all_goals rfl
  | orderTimeout =>
    simp only [appStep, orderTimeout]
    split <;> rfl
  | orderDecided dec | disableCrashComms => rfl

lemma decisionGossip_orderGossip {senderId : ℤ} {inner : Bytes} {completed : Bool} :
    (appStep cfg s (.decisionGossip senderId inner completed)).1.orderGossip =
      if (adoptedOrder cfg s senderId inner completed).isSome then .empty
      else
        match (gossipParse inner).filter fun vote => decisionGossipCounted s vote.1 completed with
        | none => s.orderGossip
        | some vote => s.orderGossip.record senderId vote.1 vote.2 := by
  rw [appStep, handleDecisionGossip]
  cases adoptedOrder cfg s senderId inner completed with
  | some adopted => rfl
  | none =>
    dsimp only
    rw [recordOrderVote]
    cases gossipParse inner with
    | none => rfl
    | some vote =>
      cases hcounted : decisionGossipCounted s vote.1 completed <;> simp [hcounted, Option.filter]

def votesAfter (cfg : AppConfig) (s : AppState) (a : NetAction) : GossipAccumulator :=
  if adoptsOrder cfg s a then .empty
  else
    match countedVote cfg s a with
    | none => s.orderGossip
    | some vote => s.orderGossip.record vote.1 vote.2.1 vote.2.2

lemma confirmNext_votes (r : Confirming) (a : NetAction) :
    (confirmNext cfg g publicKey r a).gossiping.app.orderGossip = votesAfter cfg r.gossiping.app a := by
  have hother : ∀ ev : AppEvent, (∀ senderId inner completed, ev ≠ .decisionGossip senderId inner completed) →
      (gossipNext cfg g r.gossiping (.app ev)).app.orderGossip = r.gossiping.app.orderGossip := by
    intro ev hev
    rw [gossipNext, gossipStep_app]
    exact appStep_orderGossip hev
  rw [confirmNext, votesAfter]
  cases a with
  | signOther bytes => rfl
  | internal ev =>
    simp only [NetAction.localEvent, adoptsOrder, countedVote, Bool.false_eq_true, if_false]
    cases hreception : ev.isReception with
    | true => rfl
    | false =>
      rw [if_neg (by simp)]
      cases ev with
      | gossipTimer => exact congrArg AppState.orderGossip (gossipTimer_sent cfg g r.gossiping).2.1
      | cancelGossipTimer => exact congrArg AppState.orderGossip (cancelGossipTimer_sent cfg g r.gossiping).2.1
      | app ev =>
        refine hother ev fun senderId inner completed heq => ?_
        subst heq
        cases hreception
  | receive kind frame completed recallable =>
    cases kind with
    | cancelCommit =>
      simp only [NetAction.localEvent, adoptsOrder, countedVote, Bool.false_eq_true, if_false, receivedEvent]
      split
      next => rfl
      next ev hev =>
        obtain ⟨-, heq⟩ := Option.ite_none_right_eq_some.mp hev
        obtain rfl := Option.some.inj heq
        exact hother _ fun senderId inner completed => by simp
    | decision =>
      simp only [NetAction.localEvent, adoptsOrder, countedVote, verifiedVote, receivedEvent]
      by_cases hverify : cfg.verifyBytes frame.pubKey frame.inner frame.sig = true
      · simp only [hverify, if_true, Bool.true_and]
        rw [gossipNext, gossipStep_app, decisionGossip_orderGossip]
        cases gossipParse frame.inner with
        | none => rfl
        | some vote =>
          cases hcounted : decisionGossipCounted r.gossiping.app vote.1 completed <;> simp [hcounted, Option.filter]
      · simp [hverify]

def VotesKept (honest : Finset ℤ) (epoch : ℕ) (bytes : Bytes) (r : Confirming) : Prop :=
  ∀ id ∈ honest, (id, epoch, bytes) ∈ r.heard → ((epoch, id), bytes) ∈ r.gossiping.app.orderGossip.entries

-- what must not happen to those votes: arriving uncounted, another ORDER under the same name, and an adoption from gossip
structure KeepsVotes (cfg : AppConfig) (publicKey : ℤ → Bytes) (honest : Finset ℤ) (epoch : ℕ) (bytes : Bytes)
    (r : Confirming) (a : NetAction) : Prop where
  counted : ∀ vote ∈ genuineVote cfg publicKey a, vote.1 ∈ honest → vote.2 = (epoch, bytes) →
    vote ∈ countedVote cfg r.gossiping.app a ∨ ((epoch, vote.1), bytes) ∈ r.gossiping.app.orderGossip.entries
  named : ∀ vote ∈ countedVote cfg r.gossiping.app a, vote.1 ∈ honest → vote.2.1 = epoch →
    (vote.1, epoch, bytes) ∈ r.heard → vote.2.2 = bytes
  notAdopted : adoptsOrder cfg r.gossiping.app a = true →
    (∀ vote ∈ r.heard, vote.1 ∈ honest → vote.2 ≠ (epoch, bytes)) ∧
      ∀ vote ∈ genuineVote cfg publicKey a, vote.1 ∈ honest → vote.2 ≠ (epoch, bytes)

instance : Decidable (KeepsVotes cfg publicKey honest epoch bytes r a) :=
  have : Decidable (∀ vote ∈ genuineVote cfg publicKey a, vote.1 ∈ honest → vote.2 = (epoch, bytes) →
      vote ∈ countedVote cfg r.gossiping.app a ∨ ((epoch, vote.1), bytes) ∈ r.gossiping.app.orderGossip.entries) :=
    inferInstance
  have : Decidable (∀ vote ∈ countedVote cfg r.gossiping.app a, vote.1 ∈ honest → vote.2.1 = epoch →
      (vote.1, epoch, bytes) ∈ r.heard → vote.2.2 = bytes) :=
    inferInstance
  have : Decidable (adoptsOrder cfg r.gossiping.app a = true →
      (∀ vote ∈ r.heard, vote.1 ∈ honest → vote.2 ≠ (epoch, bytes)) ∧
        ∀ vote ∈ genuineVote cfg publicKey a, vote.1 ∈ honest → vote.2 ≠ (epoch, bytes)) :=
    inferInstance
  decidable_of_iff (_ ∧ _ ∧ _) ⟨fun h => ⟨h.1, h.2.1, h.2.2⟩, fun h => ⟨h.counted, h.named, h.notAdopted⟩⟩

lemma genuine_verified {vote : ℤ × ℕ × Bytes} (h : genuineVote cfg publicKey a = some vote) :
    verifiedVote cfg a = some vote := by
  cases a with
  | internal | signOther => cases h
  | receive kind frame completed recallable =>
    cases kind with
    | cancelCommit => cases h
    | decision =>
      rw [genuineVote] at h
      exact (Option.ite_none_right_eq_some.mp h).2

lemma counted_verified {vote : ℤ × ℕ × Bytes} (h : countedVote cfg s a = some vote) : verifiedVote cfg a = some vote := by
  cases a with
  | internal | signOther => cases h
  | receive kind frame completed recallable =>
    cases kind with
    | cancelCommit => cases h
    | decision => exact (Option.filter_eq_some_iff.mp h).1

lemma mem_heard {vote : ℤ × ℕ × Bytes} :
    vote ∈ (confirmNext cfg g publicKey r a).heard ↔ genuineVote cfg publicKey a = some vote ∨ vote ∈ r.heard := by
  rw [confirmNext, List.mem_append, Option.mem_toList]

lemma votesKept_step_iff (h : VotesKept honest epoch bytes r) (a : NetAction) :
    VotesKept honest epoch bytes (confirmNext cfg g publicKey r a) ↔ KeepsVotes cfg publicKey honest epoch bytes r a := by
  rw [VotesKept, confirmNext_votes, votesAfter]
  simp only [mem_heard]
  cases hadopts : adoptsOrder cfg r.gossiping.app a with
  | true =>
    rw [if_pos rfl]
    constructor
    · intro hafter
      have hold : ∀ vote ∈ r.heard, vote.1 ∈ honest → vote.2 ≠ (epoch, bytes) := by
        rintro ⟨id, -⟩ hmem hid rfl
        exact absurd (hafter id hid (Or.inr hmem)) List.not_mem_nil
      have hnew : ∀ vote ∈ genuineVote cfg publicKey a, vote.1 ∈ honest → vote.2 ≠ (epoch, bytes) := by
        rintro ⟨id, -⟩ hmem hid rfl
        exact absurd (hafter id hid (Or.inl hmem)) List.not_mem_nil
      refine ⟨fun vote hvote hid heq => absurd heq (hnew vote hvote hid), fun vote _ hid _ hmem => ?_, fun _ => ⟨hold, hnew⟩⟩
      exact absurd rfl (hold _ hmem hid)
    · intro hkeeps id hid hheard
      obtain ⟨hold, hnew⟩ := hkeeps.notAdopted hadopts
      rcases hheard with hgenuine | hmem
      · exact absurd rfl (hnew _ hgenuine hid)
      · exact absurd rfl (hold _ hmem hid)
  | false =>
    rw [if_neg (by simp)]
    have hno : ¬ adoptsOrder cfg r.gossiping.app a = true := by simp [hadopts]
    cases hcounted : countedVote cfg r.gossiping.app a with
    | none =>
      dsimp only
      constructor
      · intro hafter
        refine ⟨?_, fun vote hvote => ?_, fun hyes => absurd hyes hno⟩
        · rintro ⟨id, -⟩ hgenuine hid rfl
          exact Or.inr (hafter id hid (Or.inl hgenuine))
        · rw [hcounted] at hvote
          cases hvote
      · intro hkeeps id hid hheard
        rcases hheard with hgenuine | hmem
        · rcases hkeeps.counted _ hgenuine hid rfl with hvote | hentry
          · rw [hcounted] at hvote
            cases hvote
          · exact hentry
        · exact h id hid hmem
    | some vote =>
      obtain ⟨senderId, number, orderBytes⟩ := vote
      have hverified := counted_verified hcounted
      have hsame : ∀ vote, genuineVote cfg publicKey a = some vote → vote = (senderId, number, orderBytes) :=
        fun vote hgenuine => Option.some.inj ((genuine_verified hgenuine).symm.trans hverified)
      dsimp only
      constructor
      · intro hafter
        refine ⟨fun vote hgenuine _ _ => Or.inl (hcounted.trans (congrArg some (hsame vote hgenuine).symm)),
          fun vote hvote hid hnumber hmem => ?_, fun hyes => absurd hyes hno⟩
        obtain rfl := Option.some.inj (hcounted.symm.trans hvote)
        have hentry := hafter senderId hid (Or.inr hmem)
        have hkey : (epoch, senderId) = (number, senderId) := by rw [← hnumber]
        rw [mem_record_iff, if_pos hkey] at hentry
        exact hentry.symm
      · intro hkeeps id hid hheard
        rw [mem_record_iff]
        rcases hheard with hgenuine | hmem
        · obtain ⟨rfl, hrest⟩ := Prod.mk.inj (hsame _ hgenuine)
          obtain ⟨rfl, rfl⟩ := Prod.mk.inj hrest
          exact if_pos rfl ▸ rfl
        · split
          next hkey =>
            obtain ⟨rfl, rfl⟩ := Prod.mk.inj hkey
            exact (hkeeps.named _ hcounted hid rfl hmem).symm
          next => exact h id hid hmem

theorem votesKept_iff (events : List NetAction) :
    (∀ pre post, events = pre ++ post → VotesKept honest epoch bytes (run (confirmNext cfg g publicKey) .initial pre)) ↔
      Guarded (confirmNext cfg g publicKey) (KeepsVotes cfg publicKey honest epoch bytes) .initial events := by
  have hinit : VotesKept honest epoch bytes .initial := fun id _ hmem => absurd hmem List.not_mem_nil
  rw [forall_prefix_iff, and_iff_right hinit]
  exact guarded_congr (fun r a hr => votesKept_step_iff hr a) (fun r a _ hafter => hafter) hinit

def GossipsOrder (epoch : ℕ) (bytes : Bytes) (r : Confirming) : Prop :=
  r.gossiping.gossipEpoch = epoch ∧ r.gossiping.gossipOrderBytes = bytes ∧ bytes ≠ []

def ConfirmedOnceHeard (cfg : AppConfig) (honest : Finset ℤ) (epoch : ℕ) (bytes : Bytes) (r : Confirming) : Prop :=
  GossipsOrder epoch bytes r →
    anchoredFaults cfg.toleratedFaults cfg.totalVehicles + 1 ≤
      ((honest.filter fun id => (id, epoch, bytes) ∈ r.heard).card : ℤ) →
    decisionGossipPropagationConfirmed cfg r.gossiping = true

lemma card_le_count {acc : GossipAccumulator} {voters : Finset ℤ}
    (h : ∀ id ∈ voters, ((epoch, id), bytes) ∈ acc.entries) : voters.card ≤ acc.count epoch bytes := by
  have hsub : voters.image (fun id => ((epoch, id), bytes)) ⊆
      (acc.entries.filter fun vote => decide (vote.1.1 = epoch) && decide (vote.2 = bytes)).toFinset := by
    intro vote hvote
    obtain ⟨id, hid, rfl⟩ := Finset.mem_image.mp hvote
    exact List.mem_toFinset.mpr (List.mem_filter.mpr ⟨h id hid, by simp⟩)
  have hinj : Function.Injective fun id : ℤ => ((epoch, id), bytes) := fun id id' heq => by simpa using heq
  calc voters.card = (voters.image fun id => ((epoch, id), bytes)).card := (Finset.card_image_of_injective _ hinj).symm
    _ ≤ _ := Finset.card_le_card hsub
    _ ≤ _ := List.toFinset_card_le _
    _ = acc.count epoch bytes := List.countP_eq_length_filter.symm

lemma VotesKept.confirmed (h : VotesKept honest epoch bytes r) : ConfirmedOnceHeard cfg honest epoch bytes r := by
  rintro ⟨rfl, rfl, hne⟩ hheard
  have hcount := @card_le_count r.gossiping.gossipEpoch r.gossiping.gossipOrderBytes r.gossiping.app.orderGossip
    (honest.filter fun id => (id, r.gossiping.gossipEpoch, r.gossiping.gossipOrderBytes) ∈ r.heard) fun id hid =>
      h id (Finset.mem_filter.mp hid).1 (Finset.mem_filter.mp hid).2
  rw [decisionGossipPropagationConfirmed, Bool.and_eq_true, decide_eq_true_eq, decide_eq_true_eq]
  exact ⟨hne, by omega⟩

theorem confirmed_of_kept (cfg : AppConfig) (g : GossipConfig) (publicKey : ℤ → Bytes) (honest : Finset ℤ) (epoch : ℕ)
    (bytes : Bytes) (events : List NetAction)
    (hkeeps : ∀ pre post, events = pre ++ post →
      GossipsOrder epoch bytes (run (confirmNext cfg g publicKey) .initial pre) →
      Guarded (confirmNext cfg g publicKey) (KeepsVotes cfg publicKey honest epoch bytes) .initial pre) :
    ∀ pre post, events = pre ++ post →
      ConfirmedOnceHeard cfg honest epoch bytes (run (confirmNext cfg g publicKey) .initial pre) := by
  intro pre post hsplit hgossips
  have hkept := (votesKept_iff pre).mpr (hkeeps pre post hsplit hgossips) pre [] (List.append_nil pre).symm
  exact hkept.confirmed hgossips

def repeatedOrder : Bytes := orderDecisionBytes 1 [(0, 0), (1, 0), (2, 1)]

def decided (dec : Bytes) : List NetAction :=
  [.internal (.app (.orderDecided dec)), .internal (.app (.processOrder false true 5))]

def voteFor (epoch : ℕ) (orderBytes : Bytes) (id : ℤ) : NetAction :=
  .receive .decision ⟨id, gossipingCars.publicKey id, [7], gossipSerialize epoch orderBytes⟩ false true

-- a straggler hears ORDER 1 while ORDER 0 is still applied, before it learns that ORDER 0 was cancelled
def straggling : List NetAction :=
  decided agreedOrder ++ [voteFor 1 repeatedOrder 0, voteFor 1 repeatedOrder 1] ++ decided (crashCancelBytes 0) ++
    [.internal .gossipTimer] ++ decided repeatedOrder

theorem confirmed_of_kept_straggling :
    ConfirmedOnceHeard fourCars {0, 1, 2} 1 repeatedOrder
      (run (confirmNext fourCars ⟨true, 0, 0⟩ gossipingCars.publicKey) .initial straggling) ∧
      GossipsOrder 1 repeatedOrder (run (confirmNext fourCars ⟨true, 0, 0⟩ gossipingCars.publicKey) .initial straggling) := by
  have hguarded : Guarded (confirmNext fourCars ⟨true, 0, 0⟩ gossipingCars.publicKey)
      (KeepsVotes fourCars gossipingCars.publicKey {0, 1, 2} 1 repeatedOrder) .initial straggling := by
    decide +kernel
  refine ⟨confirmed_of_kept fourCars ⟨true, 0, 0⟩ gossipingCars.publicKey {0, 1, 2} 1 repeatedOrder straggling
    (fun pre post hsplit _ => (guarded_append.mp (hsplit ▸ hguarded)).1) straggling [] (List.append_nil _).symm, ?_⟩
  exact ⟨by decide +kernel, by decide +kernel, by decide +kernel⟩

def lateVotes : List NetAction := decided agreedOrder ++ [voteFor 0 agreedOrder 0, voteFor 0 agreedOrder 1]

theorem lateVotes_unconfirmed :
    ¬ ConfirmedOnceHeard fourCars {0, 1, 2} 0 agreedOrder
      (run (confirmNext fourCars ⟨true, 0, 0⟩ gossipingCars.publicKey) .initial lateVotes) := by
  intro h
  have hconfirmed := h ⟨by decide +kernel, by decide +kernel, by decide +kernel⟩ (by decide +kernel)
  exact absurd hconfirmed (by decide +kernel)

end V2vBft.App
