import V2vBft.App.EpochFrame
import V2vBft.App.HaltInvariant
import V2vBft.Bridge.CrossLeader
import V2vBft.Bridge.Executor
import V2vBft.Engine.Manager

/-! The consensus engine and the application of one replica, and where they stand in the committed ledger. -/

namespace V2vBft.Ledger

open Wire App Bridge Library.GuardedRun
open Engine (EngineConfig ManagerEvent InOrder assigns executedSeqs allHandedOut int32Bound)

structure LedgerConfig where
  app : AppConfig
  engine : EngineConfig
  executor : ExecutorEnv
  primaryId : ℤ

-- kept for the record, newest first: the numbers run, those handed out with what had been run before, the adopted ORDERs
structure LedgerNode where
  engine : Engine.Replica
  app : AppState
  executed : List ℕ
  assigned : List (ℕ × List ℕ)
  adopted : List Bytes

def LedgerNode.initial (cfg : LedgerConfig) : LedgerNode := ⟨.initial cfg.engine cfg.primaryId, .initial, [], [], []⟩

inductive LedgerEvent
  | engine (ev : ManagerEvent)
  | app (ev : AppEvent)

def decisionsOf (exec : ExecutorEnv) (executed : List Engine.Execution) : List Bytes :=
  executed.flatMap fun x => x.data.userRequests.filterMap fun payload => (executeData exec payload).decision

def engineNext (cfg : LedgerConfig) (n : LedgerNode) (ev : ManagerEvent) : LedgerNode :=
  let r := Engine.managerStep cfg.engine n.engine ev
  { n with
    engine := r.2
    app := { n.app with
      pendingOrders := n.app.pendingOrders ++ decisionsOf cfg.executor (r.1.flatMap Engine.Output.executed) }
    executed := (executedSeqs r.1).reverse ++ n.executed
    assigned := (allHandedOut r.1).map (fun seq => (seq, n.executed)) ++ n.assigned }

def appNext (cfg : LedgerConfig) (n : LedgerNode) (ev : AppEvent) : LedgerNode :=
  let stepped := { n with app := (appStep cfg.app n.app ev).1 }
  match ev with
  | .decisionGossip senderId inner completed =>
    { stepped with
      adopted := ((adoptedOrder cfg.app n.app senderId inner completed).map Prod.snd).toList ++ n.adopted }
  | .cancelCommitGossip senderId inner _ =>
    match adoptedAttestation cfg.app n.app senderId inner with
    | none => stepped
    | some dec =>
      { stepped with
        engine := Engine.advanceExecutorAfterGossipCancel n.engine (CancelDecisionHdr.read dec).cancelledEpoch }
  | _ => stepped

def ledgerStep (cfg : LedgerConfig) (n : LedgerNode) : LedgerEvent → LedgerNode
  | .engine (.engine (.gossipCancel _)) => n
  | .app (.orderDecided _) => n
  | .engine ev => engineNext cfg n ev
  | .app ev => appNext cfg n ev

def decisionEpoch (dec : Bytes) : ℕ :=
  if isCancelDecision dec then (CancelDecisionHdr.read dec).cancelledEpoch else (OrderHdr.read dec).epoch

def decisionAt (ledger : List Bytes) (seq : ℕ) : Option Bytes := if seq = 0 then none else ledger[seq - 1]?

def LedgerNode.holds (ledger : List Bytes) (n : LedgerNode) (seq : ℕ) : Prop :=
  seq ∈ n.executed ∨
    ∃ dec, decisionAt ledger seq = some dec ∧
      (dec ∈ n.adopted ∨ n.app.isEpochTombstoned (decisionEpoch dec) = true)

-- the part of the ledger that the executor has not run, up to `reach`, is that of the epoch
structure FitsJump (ledger : List Bytes) (last reach epoch : ℕ) : Prop where
  inside : ∀ seq dec, decisionAt ledger seq = some dec → decisionEpoch dec = epoch → seq ≤ reach
  full : ∀ seq, last < seq → seq ≤ reach → ∃ dec, decisionAt ledger seq = some dec ∧ decisionEpoch dec = epoch

def LedgerNode.jumpReach (n : LedgerNode) (epoch : ℕ) : ℕ := max n.engine.maxPendingExecutedSeq (2 * (epoch + 1))

-- the numbers fit the executor's int, and a NEWVIEW or a checkpoint names the one that the executor waits for
def orderOk (cfg : LedgerConfig) (n : LedgerNode) : LedgerEvent → Prop
  | .engine (.engine .executeMessage) => ∀ r ∈ n.engine.executeQueue.head?, r.seq < int32Bound
  | .engine (.setNextCommitSeq seq) => Engine.toUint64 (Engine.toInt32 seq) = n.engine.nextExecuteSeq
  | .app (.cancelCommitGossip senderId inner _) =>
    ∀ dec, adoptedAttestation cfg.app n.app senderId inner = some dec →
      n.jumpReach (CancelDecisionHdr.read dec).cancelledEpoch < int32Bound
  | _ => True

def heldOk (cfg : LedgerConfig) (ledger : List Bytes) (n : LedgerNode) : LedgerEvent → Prop
  | .engine (.engine (.receive env request)) =>
    assigns cfg.engine env n.engine request = true →
      n.engine.maxPendingExecutedSeq < uint32Modulus ∧ n.engine.nextSeq ≠ n.engine.lastRun
  | .app (.decisionGossip senderId inner completed) =>
    ∀ adopted, adoptedOrder cfg.app n.app senderId inner completed = some adopted →
      ∀ seq, decisionAt ledger seq = some adopted.2 → seq ≤ n.engine.lastRun
  | .app (.processOrder _ _ _) =>
    ∀ dec rest, n.app.pendingOrders = dec :: rest → isCancelDecision dec = true →
      ∀ seq other, decisionAt ledger seq = some other →
        decisionEpoch other = (CancelDecisionHdr.read dec).cancelledEpoch → seq ≤ n.engine.lastRun
  | .app (.cancelCommitGossip senderId inner _) =>
    ∀ dec, adoptedAttestation cfg.app n.app senderId inner = some dec →
      FitsJump ledger n.engine.lastRun (n.jumpReach (CancelDecisionHdr.read dec).cancelledEpoch)
        (CancelDecisionHdr.read dec).cancelledEpoch
  | _ => True

def ledgerOk (cfg : LedgerConfig) (ledger : List Bytes) (n : LedgerNode) (ev : LedgerEvent) : Prop :=
  orderOk cfg n ev ∧ heldOk cfg ledger n ev

variable {cfg : LedgerConfig} {ledger : List Bytes} {n n' : LedgerNode}

lemma ledgerStep_cases (cfg : LedgerConfig) (n : LedgerNode) (ev : LedgerEvent) :
    ledgerStep cfg n ev = n ∨
      (∃ e, ev = .engine e ∧ (∀ epoch, e ≠ .engine (.gossipCancel epoch)) ∧ ledgerStep cfg n ev = engineNext cfg n e) ∨
      ∃ e, ev = .app e ∧ ledgerStep cfg n ev = appNext cfg n e := by
  cases ev with
  | engine ev =>
    cases ev with
    | engine ev =>
      cases ev with
      | gossipCancel epoch => exact Or.inl rfl
      | _ => exact Or.inr (Or.inl ⟨_, rfl, by simp, rfl⟩)
    | _ => exact Or.inr (Or.inl ⟨_, rfl, by simp, rfl⟩)
  | app ev =>
    cases ev with
    | orderDecided dec => exact Or.inl rfl
    | _ => exact Or.inr (Or.inr ⟨_, rfl, rfl⟩)

structure RunInv (n : LedgerNode) : Prop where
  order : InOrder n.engine
  increasing : n.executed.Pairwise (· > ·)
  run : ∀ seq ∈ n.executed, seq ≤ n.engine.lastRun

lemma runInv_initial (cfg : LedgerConfig) : RunInv (.initial cfg) :=
  ⟨Engine.inOrder_initial _ _, List.Pairwise.nil, fun _ h => absurd h List.not_mem_nil⟩

inductive EngineMove (n n' : LedgerNode) : Prop
  | kept (hran : n'.executed = n.executed) (hlast : n'.engine.lastRun = n.engine.lastRun)
  | ran (hran : n'.executed = (n.engine.lastRun + 1) :: n.executed) (hlast : n'.engine.lastRun = n.engine.lastRun + 1)

lemma RunInv.move {ev : ManagerEvent} (h : RunInv n) (hok : orderOk cfg n (.engine ev))
    (hev : ∀ epoch, ev ≠ .engine (.gossipCancel epoch)) :
    InOrder (engineNext cfg n ev).engine ∧ EngineMove n (engineNext cfg n ev) := by
  obtain ⟨horder, hmove⟩ := Engine.managerStep_inOrder cfg.engine ev h.order hev (fun heq => by subst heq; exact hok)
    fun seq heq => by subst heq; exact hok
  refine ⟨horder, ?_⟩
  rcases hmove with ⟨hnone, hlast⟩ | ⟨hone, hlast⟩
  · refine .kept ?_ hlast
    rw [engineNext, hnone]
    rfl
  · refine .ran ?_ hlast
    rw [engineNext, hone]
    rfl

lemma RunInv.engine {ev : ManagerEvent} (h : RunInv n) (hok : orderOk cfg n (.engine ev))
    (hev : ∀ epoch, ev ≠ .engine (.gossipCancel epoch)) : RunInv (engineNext cfg n ev) := by
  obtain ⟨horder, hmove⟩ := h.move hok hev
  cases hmove with
  | kept hran hlast => exact ⟨horder, hran ▸ h.increasing, fun seq hseq => hlast ▸ h.run seq (hran ▸ hseq)⟩
  | ran hran hlast =>
    refine ⟨horder, ?_, fun seq hseq => ?_⟩
    · rw [hran]
      exact List.pairwise_cons.mpr ⟨fun seq hseq => Nat.lt_succ_of_le (h.run seq hseq), h.increasing⟩
    · rw [hlast]
      rw [hran] at hseq
      rcases List.mem_cons.mp hseq with rfl | hold
      · exact le_rfl
      · exact (h.run seq hold).trans (Nat.le_succ _)

lemma reach_ge (h : InOrder n.engine) (epoch : ℕ) :
    n.engine.nextExecuteSeq ≤ n.jumpReach epoch + 1 ∧ n.engine.lastRun ≤ n.jumpReach epoch := by
  have hbehind := h.behind
  have hpending := n.engine.nextExecuteSeq_le
  rw [LedgerNode.jumpReach]
  omega

lemma jumped_lastRun (h : InOrder n.engine) {epoch : ℕ} (hfits : n.jumpReach epoch < int32Bound) :
    InOrder (Engine.advanceExecutorAfterGossipCancel n.engine epoch) ∧
      (Engine.advanceExecutorAfterGossipCancel n.engine epoch).lastRun = n.jumpReach epoch := by
  have hjump := Engine.gossipCancel_jumped n.engine epoch (Nat.zero_lt_of_lt h.behind)
  have hreach := (reach_ge h epoch).1
  exact ⟨h.jumped hjump hreach hfits, Engine.lastRun_of_eq (h.jumped_last hjump hreach hfits) hfits.le⟩

lemma RunInv.jumped (h : RunInv n) (app : AppState) {epoch : ℕ} (hfits : n.jumpReach epoch < int32Bound) :
    RunInv { n with app := app, engine := Engine.advanceExecutorAfterGossipCancel n.engine epoch } := by
  obtain ⟨horder, hlast⟩ := jumped_lastRun h.order hfits
  refine ⟨horder, h.increasing, fun seq hseq => ?_⟩
  rw [hlast]
  exact (h.run seq hseq).trans (reach_ge h.order epoch).2

lemma RunInv.app {ev : AppEvent} (h : RunInv n) (hok : orderOk cfg n (.app ev)) : RunInv (appNext cfg n ev) := by
  cases ev with
  | cancelCommitGossip senderId inner recallable =>
    rw [appNext]
    dsimp only
    split
    next => exact ⟨h.order, h.increasing, h.run⟩
    next dec hadopt => exact h.jumped _ (hok dec hadopt)
  | _ => exact ⟨h.order, h.increasing, h.run⟩

lemma RunInv.step (ev : LedgerEvent) (h : RunInv n) (hok : orderOk cfg n ev) : RunInv (ledgerStep cfg n ev) := by
  rcases ledgerStep_cases cfg n ev with hidle | ⟨ev, rfl, hev, hstep⟩ | ⟨ev, rfl, hstep⟩
  · rwa [hidle]
  · exact hstep ▸ h.engine hok hev
  · exact hstep ▸ h.app hok

theorem executor_ordered (cfg : LedgerConfig) (events : List LedgerEvent)
    (h : Guarded (ledgerStep cfg) (orderOk cfg) (.initial cfg) events) :
    (run (ledgerStep cfg) (.initial cfg) events).executed.Pairwise (· > ·) ∧
      (run (ledgerStep cfg) (.initial cfg) events).engine.seqAssertion := by
  have hinv : RunInv (run (ledgerStep cfg) (.initial cfg) events) :=
    h.invariant (fun _ ev hinv hok => hinv.step ev hok) (runInv_initial cfg)
  exact ⟨hinv.increasing, hinv.order.seqAssertion⟩

structure LedgerInv (ledger : List Bytes) (n : LedgerNode) : Prop extends RunInv n where
  unused : ∀ handed ∈ n.assigned, handed.1 ∉ handed.2
  held : ∀ seq, 1 ≤ seq → (n.holds ledger seq ↔ seq ≤ n.engine.lastRun)

lemma LedgerInv.engine {ev : ManagerEvent} (h : LedgerInv ledger n) (hok : ledgerOk cfg ledger n (.engine ev))
    (hev : ∀ epoch, ev ≠ .engine (.gossipCancel epoch)) : LedgerInv ledger (engineNext cfg n ev) := by
  have hunused : ∀ handed ∈ (engineNext cfg n ev).assigned, handed.1 ∉ handed.2 := by
    intro handed hmem
    rcases List.mem_append.mp hmem with hnew | hold
    · obtain ⟨seq, hseq, rfl⟩ := List.mem_map.mp hnew
      rcases Engine.managerStep_handedOut cfg.engine n.engine ev with hnil | ⟨env, request, rfl, hassigns, hout⟩
      · rw [hnil] at hseq
        exact absurd hseq List.not_mem_nil
      · rw [hout] at hseq
        obtain rfl := List.mem_singleton.mp hseq
        obtain ⟨hfits, hne⟩ := hok.2 hassigns
        have hpending := Engine.nextSeq_of_assigns hassigns hfits
        have hnext := n.engine.nextExecuteSeq_le
        have hbehind := h.order.behind
        intro hrun
        have hlast := h.run _ hrun
        dsimp only at hlast
        omega
    · exact h.unused handed hold
  refine ⟨h.toRunInv.engine hok.1 hev, hunused, fun seq hseq => ?_⟩
  have hkept : (engineNext cfg n ev).holds ledger seq ↔
      seq ∈ (engineNext cfg n ev).executed ∨ ∃ dec, decisionAt ledger seq = some dec ∧
        (dec ∈ n.adopted ∨ n.app.isEpochTombstoned (decisionEpoch dec) = true) := Iff.rfl
  have hheld := h.held seq hseq
  rw [LedgerNode.holds] at hheld
  cases (h.toRunInv.move hok.1 hev).2 with
  | kept hran hlast => rw [hkept, hran, hlast, hheld]
  | ran hran hlast =>
    rw [hkept, hran, hlast, List.mem_cons, or_assoc, hheld]
    omega

lemma LedgerInv.behind (h : LedgerInv ledger n) (hrun : n'.executed = n.executed) (hhanded : n'.assigned = n.assigned)
    (hengine : n'.engine = n.engine)
    (hkept : ∀ dec, dec ∈ n.adopted ∨ n.app.isEpochTombstoned (decisionEpoch dec) = true →
      dec ∈ n'.adopted ∨ n'.app.isEpochTombstoned (decisionEpoch dec) = true)
    (hnew : ∀ seq dec, decisionAt ledger seq = some dec →
      dec ∈ n'.adopted ∨ n'.app.isEpochTombstoned (decisionEpoch dec) = true →
      (dec ∈ n.adopted ∨ n.app.isEpochTombstoned (decisionEpoch dec) = true) ∨ seq ≤ n.engine.lastRun) :
    LedgerInv ledger n' := by
  refine ⟨⟨hengine ▸ h.order, hrun ▸ h.increasing, ?_⟩, hhanded ▸ h.unused, fun seq hseq => ?_⟩
  · rw [hrun, hengine]
    exact h.run
  rw [hengine, ← h.held seq hseq]
  constructor
  · rintro (hran | ⟨dec, hat, hdec⟩)
    · exact Or.inl (hrun ▸ hran)
    · rcases hnew seq dec hat hdec with hold | hle
      · exact Or.inr ⟨dec, hat, hold⟩
      · exact (h.held seq hseq).mpr hle
  · rintro (hran | ⟨dec, hat, hdec⟩)
    · exact Or.inl (hrun.symm ▸ hran)
    · exact Or.inr ⟨dec, hat, hkept dec hdec⟩

lemma LedgerInv.sameEpochs {ev : AppEvent} (h : LedgerInv ledger n) (hsame : SameEpochs n.app (appStep cfg.app n.app ev).1) :
    LedgerInv ledger { n with app := (appStep cfg.app n.app ev).1 } := by
  refine h.behind rfl rfl rfl (fun dec hdec => ?_) fun seq dec _ hdec => Or.inl ?_
  · exact hdec.imp id fun ht => (hsame.isEpochTombstoned _).trans ht
  · exact hdec.imp id fun ht => (hsame.isEpochTombstoned _).symm.trans ht

lemma LedgerInv.jumped {senderId : ℤ} {inner dec : Bytes} {recallable : Bool} (h : LedgerInv ledger n)
    (hadopt : adoptedAttestation cfg.app n.app senderId inner = some dec)
    (hbound : n.jumpReach (CancelDecisionHdr.read dec).cancelledEpoch < int32Bound)
    (hfits : FitsJump ledger n.engine.lastRun (n.jumpReach (CancelDecisionHdr.read dec).cancelledEpoch)
      (CancelDecisionHdr.read dec).cancelledEpoch) :
    LedgerInv ledger (appNext cfg n (.cancelCommitGossip senderId inner recallable)) := by
  set epoch := (CancelDecisionHdr.read dec).cancelledEpoch with hepoch
  set reach := n.jumpReach epoch with hreach
  have hnode : appNext cfg n (.cancelCommitGossip senderId inner recallable) =
      { n with
        app := (appStep cfg.app n.app (.cancelCommitGossip senderId inner recallable)).1
        engine := Engine.advanceExecutorAfterGossipCancel n.engine epoch } := by
    simp only [appNext, hadopt]
    rfl
  have htombs := (adopted_cancelled recallable hadopt).tombstoned
  have hpast : n.engine.lastRun ≤ reach := (reach_ge h.order epoch).2
  have hlast := (jumped_lastRun h.order hbound).2
  rw [hnode]
  refine ⟨h.toRunInv.jumped _ hbound, h.unused, fun seq hseq => ?_⟩
  dsimp only
  rw [hlast]
  constructor
  · rintro (hran | ⟨d, hat, hd⟩)
    · exact (h.run seq hran).trans hpast
    · simp only [htombs, Bool.or_eq_true, decide_eq_true_eq] at hd
      rcases hd with hold | hthis | hold
      · exact ((h.held seq hseq).mp (Or.inr ⟨d, hat, Or.inl hold⟩)).trans hpast
      · exact hfits.inside seq d hat hthis
      · exact ((h.held seq hseq).mp (Or.inr ⟨d, hat, Or.inr hold⟩)).trans hpast
  · intro hle
    by_cases hrun : seq ≤ n.engine.lastRun
    · refine ((h.held seq hseq).mpr hrun).imp id fun ⟨d, hat, hd⟩ => ⟨d, hat, hd.imp id fun ht => ?_⟩
      rw [htombs, ht, Bool.or_true]
    · obtain ⟨d, hat, hthis⟩ := hfits.full seq (Nat.lt_of_not_le hrun) hle
      refine Or.inr ⟨d, hat, Or.inr ?_⟩
      rw [htombs, hthis]
      simp [hepoch]

lemma LedgerInv.app {ev : AppEvent} (h : LedgerInv ledger n) (hok : ledgerOk cfg ledger n (.app ev)) :
    LedgerInv ledger (appNext cfg n ev) := by
  cases ev with
  | decisionGossip senderId inner completed =>
    have hsame : SameEpochs n.app (handleDecisionGossip cfg.app n.app senderId inner completed) :=
      handleDecisionGossip_sameEpochs senderId inner completed
    refine h.behind rfl rfl rfl (fun dec hdec => ?_) fun seq dec hat hdec => ?_
    · exact hdec.imp (List.mem_append_right _) fun ht => (hsame.isEpochTombstoned _).trans ht
    · rcases hdec with hadopted | ht
      · rcases List.mem_append.mp hadopted with hnew | hold
        · obtain ⟨adopted, hadopt, rfl⟩ := Option.map_eq_some_iff.mp (Option.mem_toList.mp hnew)
          exact Or.inr (hok.2 adopted hadopt seq hat)
        · exact Or.inl (Or.inl hold)
      · exact Or.inl (Or.inr ((hsame.isEpochTombstoned _).symm.trans ht))
  | cancelCommitGossip senderId inner recallable =>
    cases hadopt : adoptedAttestation cfg.app n.app senderId inner with
    | none =>
      have hnode : appNext cfg n (.cancelCommitGossip senderId inner recallable) =
          { n with app := (appStep cfg.app n.app (.cancelCommitGossip senderId inner recallable)).1 } := by
        simp only [appNext, hadopt]
      rw [hnode]
      exact h.sameEpochs (unadopted_sameEpochs hadopt)
    | some dec => exact h.jumped hadopt (hok.1 dec hadopt) (hok.2 dec hadopt)
  | processOrder completed recallable now =>
    cases appStep_epochs cfg.app n.app (.processOrder completed recallable now) with
    | kept hsame => exact h.sameEpochs hsame
    | applied order _ hsame => exact h.sameEpochs hsame
    | cancelled dec hsrc hcancel =>
      obtain ⟨_, _, _, rest, -, hqueue, hdec⟩ | ⟨_, _, _, hno, -⟩ := hsrc
      · refine h.behind rfl rfl rfl (fun d hd => ?_) fun seq d hat hd => ?_
        · exact hd.imp id fun ht => by simp only [appNext, hcancel.tombstoned, ht, Bool.or_true]
        · simp only [appNext, hcancel.tombstoned, Bool.or_eq_true, decide_eq_true_eq] at hd
          rcases hd with hold | hthis | hold
          · exact Or.inl (Or.inl hold)
          · exact Or.inr (hok.2 dec rest hqueue hdec seq d hat hthis)
          · exact Or.inl (Or.inr hold)
      · cases hno
  | _ => exact h.sameEpochs (sameEpochs_of_noCancel (by simp) (by simp))

lemma LedgerInv.step (ev : LedgerEvent) (h : LedgerInv ledger n) (hok : ledgerOk cfg ledger n ev) :
    LedgerInv ledger (ledgerStep cfg n ev) := by
  rcases ledgerStep_cases cfg n ev with hidle | ⟨ev, rfl, hev, hstep⟩ | ⟨ev, rfl, hstep⟩
  · rwa [hidle]
  · exact hstep ▸ h.engine hok hev
  · exact hstep ▸ h.app hok

def orderGossip (dec : Bytes) : List LedgerEvent :=
  [0, 1].map fun senderId => .app (.decisionGossip senderId (gossipSerialize 0 dec) false)

def cancelGossip (dec : Bytes) : List LedgerEvent :=
  [0, 1].map fun senderId => .app (.cancelCommitGossip senderId (gossipSerialize 0 dec) true)

def votedListing : Pbft.Request := { listingRequest 0 [0, 1, 2, 3] with seq := 1 }

def voteFor (type : Pbft.RequestType) (senderId : ℤ) : LedgerEvent :=
  .engine (.engine (.receive eightCarEnv { votedListing with type := type, senderId := senderId, data := .batch [] }))

end V2vBft.Ledger
