import V2vBft.App.HaltInvariant
import V2vBft.Bridge.Executor
import V2vBft.Bridge.CrossLeader
import V2vBft.Bridge.CancelProposal

/-! The evidence gate of crash recovery: executor bookkeeping, application and proposal check together. -/

namespace V2vBft.App

open Wire Pbft Bridge Library.GuardedRun

variable {cfg : AppConfig} {exec : ExecutorEnv} {s s' : AppState}

-- a certificate whose parse throws is no evidence
def clearEvidenceCallback (ctx : WitnessContext) (gate : Bool) (cancelledEpoch : ℕ) (certBytes : Bytes) : Bool :=
  if certBytes = [] then false
  else
    match deserializeClearCert certBytes with
    | none => false
    | some cert =>
      if cert.cancelledEpoch ≠ cancelledEpoch then false
      else if !gate then true
      else if cert.echoes = [] then false
      else validateClearCert ctx cert

structure Replica where
  app : AppState
  crashRecoveryEpochs : List ℕ

def Replica.initial : Replica := ⟨.initial, []⟩

structure VerifyInput where
  expected : ℤ
  faults : ToleratedFaultState
  certSnapshot : Option (List CertEntry)
  consensus : ConsensusState

def Replica.bridgeEnv (cfg : AppConfig) (r : Replica) (inp : VerifyInput) : BridgeEnv where
  expected := inp.expected
  faults := inp.faults
  certSnapshot := inp.certSnapshot
  clearEvidence := some (clearEvidenceCallback (r.app.witnessContext cfg) true)
  crashRecoveryEpochs := r.crashRecoveryEpochs

inductive ReplicaEvent
  | execute (data : Bytes)
  | app (ev : AppEvent)
  | verify (inp : VerifyInput) (request : Request)

def replicaStep (cfg : AppConfig) (exec : ExecutorEnv) (r : Replica) : ReplicaEvent → Replica
  | .execute data =>
    let result := executeData exec data
    { app :=
        match result.decision with
        | none => r.app
        | some dec => (appStep cfg r.app (.orderDecided dec)).1
      crashRecoveryEpochs := result.crashRecoveryEpoch.toList ++ r.crashRecoveryEpochs }
  | .app ev => { r with app := (appStep cfg r.app ev).1 }
  | .verify _ _ => r

def isCrashCancel (dec : Bytes) : Bool :=
  isCancelDecision dec && decide ((CancelDecisionHdr.read dec).reason = 0)

def Replica.marked (r : Replica) (epoch : ℕ) : Bool := decide ((epoch + 1) % uint32Modulus ∈ r.crashRecoveryEpochs)

def Replica.recovers (r : Replica) (epoch : ℕ) (view : ProposalView) : Bool :=
  r.app.committedCancels.any fun c => decide (c.1 = epoch) &&
    decide ((CancelDecisionHdr.read c.2.attestation).reason = 0) &&
    decide ((orderHdr view).epoch = (c.1 + 1) % uint32Modulus)

structure ClearJustified (ctx : WitnessContext) (view : ProposalView) (epoch : ℕ) (cert : ClearCert) : Prop where
  carried : ∃ certBytes, clearEvidenceCert view.data (orderHdr view) = some certBytes ∧
    deserializeClearCert certBytes = some cert
  epoch : cert.cancelledEpoch = epoch
  valid : validateClearCert ctx cert = true

-- gossip brings no crash CANCEL that the executor has not marked, the executor's decisions are not mistaken for one,
-- and a wrapped recovery ORDER is refused or carries the evidence nobody asks it for
def clearOk (cfg : AppConfig) (r : Replica) : ReplicaEvent → Bool
  | .execute data =>
    match unwrapRollbackIfPresent data with
    | none => true
    | some view => view.isCancel || decide ((orderHdr view).epoch ≠ cancelDecisionMagic)
  | .app (.orderDecided _) => false
  | .app (.cancelCommitGossip senderId inner _) =>
    match adoptedAttestation cfg r.app senderId inner with
    | none => true
    | some dec => !isCrashCancel dec || r.marked (CancelDecisionHdr.read dec).cancelledEpoch
  | .app (.decisionGossip senderId inner completed) =>
    match adoptedOrder cfg r.app senderId inner completed with
    | none => true
    | some (_, dec) => !isCrashCancel dec || r.marked (CancelDecisionHdr.read dec).cancelledEpoch
  | .app _ => true
  | .verify inp request =>
    request.data.checkedPayload.all fun payload =>
      (unwrapRollbackIfPresent payload).all fun view =>
        !view.isRollback || !(r.app.committedCancels.any fun c => r.recovers c.1 view) ||
          !structurallyValidCancelJustification payload view.rollback ||
          evidenceOk (r.bridgeEnv cfg inp) view.data (orderHdr view)

structure SameLedger (s s' : AppState) : Prop where
  pending : s'.pendingOrders = s.pendingOrders
  cancels : s'.committedCancels = s.committedCancels

lemma SameLedger.trans {s'' : AppState} (h : SameLedger s s') (h' : SameLedger s' s'') : SameLedger s s'' :=
  ⟨h'.pending.trans h.pending, h'.cancels.trans h.cancels⟩

lemma handleValidCancelJustification_ledger (cfg : AppConfig) (s : AppState) (epoch : ℕ) (recallable : Bool) :
    SameLedger s (handleValidCancelJustification cfg s epoch recallable).1 := by
  unfold handleValidCancelJustification
  repeat' split
  all_goals exact ⟨rfl, rfl⟩

lemma broadcastCancelCert_ledger (cert : CancelCert) (recallable : Bool) :
    SameLedger s (broadcastCancelCert cfg s cert recallable).1 := by
  unfold broadcastCancelCert
  split
  next =>
    have h := handleValidCancelJustification_ledger cfg (s.seeCancelCert cert) cert.cancelledEpoch recallable
    exact ⟨h.pending, h.cancels⟩
  next => exact ⟨rfl, rfl⟩

lemma handleCancelCert_ledger (payload : Bytes) (recallable : Bool) :
    SameLedger s (handleCancelCert cfg s payload recallable).1 := by
  unfold handleCancelCert
  split
  next => exact ⟨rfl, rfl⟩
  next cert _ =>
    repeat' split
    any_goals exact ⟨rfl, rfl⟩
    have h := handleValidCancelJustification_ledger cfg (s.seeCancelCert cert) cert.cancelledEpoch recallable
    exact ⟨h.pending, h.cancels⟩

lemma perceiveCrashes_ledger (cfg : AppConfig) (s : AppState) (formed : List (CancelCert × Bool)) :
    SameLedger s (perceiveCrashes cfg s formed).1 := by
  induction formed generalizing s with
  | nil => exact ⟨rfl, rfl⟩
  | cons first formed ih => exact (broadcastCancelCert_ledger first.1 first.2).trans (ih _)

lemma clearancePoll_ledger (formed : List (CancelCert × Bool)) (cleared : List ℤ) (now : ℤ) :
    SameLedger s (clearancePoll cfg s formed cleared now).1 := by
  have hrelease : ∀ u, SameLedger u (releaseWaiting cfg u cleared now).1 := by
    intro u
    unfold releaseWaiting
    repeat' split
    all_goals exact ⟨rfl, rfl⟩
  unfold clearancePoll
  split
  next =>
    dsimp only
    refine SameLedger.trans ?_ (hrelease _)
    split
    next =>
      have h := perceiveCrashes_ledger cfg { s with pollScheduled := false } formed
      exact ⟨h.pending, h.cancels⟩
    next => exact ⟨rfl, rfl⟩
  next => exact ⟨rfl, rfl⟩

lemma applyOrder_ledger (order : OrderDecision) (now : ℤ) : SameLedger s (applyOrder cfg s order now).1 := by
  unfold applyOrder takeSlot
  dsimp only
  repeat' split
  all_goals exact ⟨rfl, rfl⟩

lemma commitCancel_ledger (cfg : AppConfig) (s : AppState) (dec : Bytes) (gossipAdopted recallable : Bool) :
    (commitCancel cfg s dec gossipAdopted recallable).1.pendingOrders = s.pendingOrders ∧
      ∀ c ∈ (commitCancel cfg s dec gossipAdopted recallable).1.committedCancels, c ∈ s.committedCancels ∨
        c.1 = (CancelDecisionHdr.read dec).cancelledEpoch ∧ c.2.attestation = dec := by
  have hbegin : ∀ (u : AppState) (epoch : ℕ), SameLedger u (beginPostCancelDiscovery cfg u epoch recallable) := by
    intro u epoch
    unfold beginPostCancelDiscovery
    split <;> exact ⟨rfl, rfl⟩
  unfold commitCancel
  dsimp only
  refine ⟨(hbegin _ _).pending, fun c hc => ?_⟩
  rw [(hbegin _ _).cancels] at hc
  rcases List.mem_cons.mp hc with rfl | hold
  · exact Or.inr ⟨rfl, rfl⟩
  · exact Or.inl (List.mem_filter.mp hold).1

lemma adoptedAttestation_cancel {senderId : ℤ} {inner dec : Bytes}
    (h : adoptedAttestation cfg s senderId inner = some dec) : isCancelDecision dec = true := by
  unfold adoptedAttestation at h
  split at h
  next => exact absurd h (by simp)
  next =>
    split at h
    next hcond =>
      obtain rfl := Option.some.inj h
      simp only [Bool.and_eq_true] at hcond
      exact hcond.1.1.1
    next => exact absurd h (by simp)

structure ClearInv (r : Replica) : Prop where
  pending : ∀ dec ∈ r.app.pendingOrders, isCrashCancel dec = true →
    r.marked (CancelDecisionHdr.read dec).cancelledEpoch = true
  cancels : ∀ c ∈ r.app.committedCancels, c.1 < 4294967296 ∧
    ((CancelDecisionHdr.read c.2.attestation).reason = 0 → r.marked c.1 = true)

lemma clearInv_initial : ClearInv .initial :=
  ⟨fun _ h => absurd h (List.not_mem_nil), fun _ h => absurd h (List.not_mem_nil)⟩

lemma ClearInv.app {r : Replica} {u : AppState} (h : ClearInv r)
    (hpending : ∀ dec ∈ u.pendingOrders, dec ∈ r.app.pendingOrders ∨
      (isCrashCancel dec = true → r.marked (CancelDecisionHdr.read dec).cancelledEpoch = true))
    (hcancels : ∀ c ∈ u.committedCancels, c ∈ r.app.committedCancels ∨
      c.1 = (CancelDecisionHdr.read c.2.attestation).cancelledEpoch ∧
        ((CancelDecisionHdr.read c.2.attestation).reason = 0 → r.marked c.1 = true)) :
    ClearInv { r with app := u } where
  pending := fun dec hdec hcrash => (hpending dec hdec).elim (fun hold => h.pending dec hold hcrash) fun hnew => hnew hcrash
  cancels := by
    intro c hc
    rcases hcancels c hc with hold | ⟨hepoch, hmark⟩
    · exact h.cancels c hold
    · exact ⟨hepoch ▸ readU32_lt _ _, hmark⟩

lemma ClearInv.ledger {r : Replica} {u : AppState} (h : ClearInv r) (hsame : SameLedger r.app u) :
    ClearInv { r with app := u } :=
  h.app (fun _ hdec => Or.inl (hsame.pending ▸ hdec)) fun _ hc => Or.inl (hsame.cancels ▸ hc)

lemma ClearInv.commit {r : Replica} {u : AppState} {dec : Bytes} (h : ClearInv r) (hu : SameLedger r.app u)
    (gossipAdopted recallable : Bool)
    (hmark : (CancelDecisionHdr.read dec).reason = 0 → r.marked (CancelDecisionHdr.read dec).cancelledEpoch = true) :
    ClearInv { r with app := (commitCancel cfg u dec gossipAdopted recallable).1 } := by
  obtain ⟨hp, hc⟩ := commitCancel_ledger cfg u dec gossipAdopted recallable
  refine h.app (fun d hd => Or.inl ?_) fun c hmem => ?_
  · rwa [hp, hu.pending] at hd
  · rcases hc c hmem with hold | ⟨hepoch, hatt⟩
    · exact Or.inl (hu.cancels ▸ hold)
    · rw [hatt, hepoch]
      exact Or.inr ⟨rfl, hmark⟩

lemma ClearInv.processOrder {r : Replica} (h : ClearInv r) (completed recallable : Bool) (now : ℤ) :
    ClearInv { r with app := (processOrder cfg r.app completed recallable now).1 } := by
  unfold App.processOrder
  split
  next => exact h.ledger ⟨rfl, rfl⟩
  next dec rest hqueue =>
    have hpop : ClearInv { r with app := { r.app with pendingOrders := rest } } :=
      h.app (fun d hd => Or.inl (by rw [hqueue]; exact List.mem_cons_of_mem dec hd)) fun _ hc => Or.inl hc
    unfold processDecision
    split
    next hdec =>
      refine hpop.commit ⟨rfl, rfl⟩ false recallable fun hreason => ?_
      exact h.pending dec (by rw [hqueue]; exact List.mem_cons_self) (by simp [isCrashCancel, hdec, hreason])
    next =>
      split
      next => exact hpop
      next order _ => exact hpop.ledger (applyOrder_ledger order now)

lemma ClearInv.execute {r : Replica} (h : ClearInv r) (data : Bytes) (hok : clearOk cfg r (.execute data) = true) :
    ClearInv (replicaStep cfg exec r (.execute data)) := by
  have hmono : ∀ epoch, r.marked epoch = true → (replicaStep cfg exec r (.execute data)).marked epoch = true :=
    fun epoch hm => decide_eq_true (List.mem_append_right _ (of_decide_eq_true hm))
  have hdecision : ∀ dec, (executeData exec data).decision = some dec → isCrashCancel dec = true →
      (replicaStep cfg exec r (.execute data)).marked (CancelDecisionHdr.read dec).cancelledEpoch = true := by
    intro dec hdec hcrash
    simp only [isCrashCancel, isCancelDecision, Bool.and_eq_true, decide_eq_true_eq] at hcrash
    obtain ⟨⟨-, hmagic⟩, hreason⟩ := hcrash
    cases hview : unwrapRollbackIfPresent data with
    | none => simp [executeData, hview] at hdec
    | some view =>
      cases hkind : view.isCancel with
      | true =>
        refine decide_eq_true (List.mem_append_left _ ?_)
        rw [executeData_crash hview hkind hdec hreason]
        exact List.mem_singleton_self _
      | false =>
        have horder : orderDecision exec view.data = some dec := by
          simpa only [executeData, hview, hkind, Bool.false_eq_true, if_false] using hdec
        have hother : (orderHdr view).epoch ≠ cancelDecisionMagic := by
          simpa only [clearOk, hview, hkind, Bool.false_or, decide_eq_true_eq] using hok
        exact absurd ((orderDecision_epoch horder).symm.trans hmagic) hother
  refine ⟨fun dec hdec hcrash => ?_, fun c hc => ?_⟩
  · cases hresult : (executeData exec data).decision with
    | none =>
      simp only [replicaStep, hresult] at hdec
      exact hmono _ (h.pending dec hdec hcrash)
    | some new =>
      simp only [replicaStep, hresult, appStep, List.mem_append, List.mem_singleton] at hdec
      rcases hdec with hold | rfl
      · exact hmono _ (h.pending dec hold hcrash)
      · exact hdecision dec hresult hcrash
  · have hold : c ∈ r.app.committedCancels := by
      cases hresult : (executeData exec data).decision with
      | none => simpa only [replicaStep, hresult] using hc
      | some new => simpa only [replicaStep, hresult, appStep] using hc
    exact ⟨(h.cancels c hold).1, fun hreason => hmono _ ((h.cancels c hold).2 hreason)⟩

lemma ClearInv.step (r : Replica) (ev : ReplicaEvent) (h : ClearInv r) (hok : clearOk cfg r ev = true) :
    ClearInv (replicaStep cfg exec r ev) := by
  cases ev with
  | execute data => exact h.execute data hok
  | verify inp request => exact h
  | app ev =>
    cases ev with
    | orderDecided dec => exact absurd hok (by simp [clearOk])
    | processOrder completed recallable now => exact h.processOrder completed recallable now
    | cancelCert payload recallable => exact h.ledger (handleCancelCert_ledger payload recallable)
    | cancelCertFormed cert recallable => exact h.ledger (broadcastCancelCert_ledger cert recallable)
    | clearancePoll formed cleared now => exact h.ledger (clearancePoll_ledger formed cleared now)
    | disableCrashComms => exact h.ledger ⟨rfl, rfl⟩
    | resumeTimer =>
      refine h.ledger ?_
      simp only [appStep, resumeTimer]
      repeat' split
      all_goals exact ⟨rfl, rfl⟩
    | orderTimeout =>
      refine h.ledger ?_
      simp only [appStep, orderTimeout]
      split <;> exact ⟨rfl, rfl⟩
    | cancelCommitGossip senderId inner recallable =>
      have hvote : SameLedger r.app (recordCancelVote r.app senderId inner) := by
        unfold recordCancelVote
        repeat' split
        all_goals exact ⟨rfl, rfl⟩
      simp only [replicaStep, appStep, handleCancelCommitGossip]
      cases hadopt : adoptedAttestation cfg r.app senderId inner with
      | none => exact h.ledger hvote
      | some dec =>
        refine h.commit hvote true recallable fun hreason => ?_
        simpa [clearOk, hadopt, isCrashCancel, adoptedAttestation_cancel hadopt, hreason] using hok
    | decisionGossip senderId inner completed =>
      simp only [replicaStep, appStep, handleDecisionGossip]
      cases hadopt : adoptedOrder cfg r.app senderId inner completed with
      | none =>
        refine h.ledger ?_
        dsimp only
        unfold recordOrderVote
        repeat' split
        all_goals exact ⟨rfl, rfl⟩
      | some adopted =>
        refine h.app (fun dec hdec => ?_) fun _ hc => Or.inl hc
        rcases List.mem_append.mp hdec with hold | hnew
        · exact Or.inl hold
        · obtain rfl := List.mem_singleton.mp hnew
          refine Or.inr fun hcrash => ?_
          simpa [clearOk, hadopt, hcrash] using hok

lemma clearEvidenceCallback_valid {ctx : WitnessContext} {epoch : ℕ} {certBytes : Bytes}
    (h : clearEvidenceCallback ctx true epoch certBytes = true) :
    ∃ cert, deserializeClearCert certBytes = some cert ∧ cert.cancelledEpoch = epoch ∧
      validateClearCert ctx cert = true := by
  unfold clearEvidenceCallback at h
  split at h
  next => exact absurd h (by simp)
  next =>
    split at h
    next => exact absurd h (by simp)
    next cert hcert =>
      refine ⟨cert, hcert, ?_⟩
      split at h
      next => exact absurd h (by simp)
      next hepoch =>
        rw [if_neg (by simp)] at h
        split at h
        next => exact absurd h (by simp)
        next => exact ⟨not_not.mp hepoch, h⟩

lemma evidenceOk_justified {r : Replica} (inp : VerifyInput) {view : ProposalView} {epoch : ℕ}
    (hepoch : epoch < 4294967296) (hnew : (orderHdr view).epoch = (epoch + 1) % uint32Modulus)
    (h : evidenceOk (r.bridgeEnv cfg inp) view.data (orderHdr view) = true) :
    ∃ cert, ClearJustified (r.app.witnessContext cfg) view epoch cert := by
  unfold evidenceOk at h
  split at h
  next certBytes fn hcert hfn =>
    obtain rfl := Option.some.inj hfn
    obtain ⟨cert, hparse, hce, hvalid⟩ := clearEvidenceCallback_valid h
    refine ⟨cert, ⟨certBytes, hcert, hparse⟩, ?_, hvalid⟩
    rw [hce, hnew]
    unfold uint32Modulus
    omega
  next => exact absurd h (by simp)

theorem recoveryOrder_clearJustified (cfg : AppConfig) (exec : ExecutorEnv) (events : List ReplicaEvent)
    (inp : VerifyInput) (request : Request)
    (hok : Guarded (replicaStep cfg exec) (fun r ev => clearOk cfg r ev = true) .initial
      (events ++ [.verify inp request]))
    (epoch : ℕ) (view : ProposalView) (c' : ConsensusState)
    (hrecovers : (run (replicaStep cfg exec) .initial events).recovers epoch view = true)
    (haccepts : AcceptsOrder ((run (replicaStep cfg exec) .initial events).bridgeEnv cfg inp) inp.consensus request view c') :
    ∃ cert, ClearJustified ((run (replicaStep cfg exec) .initial events).app.witnessContext cfg) view epoch cert := by
  obtain ⟨hpre, hlast⟩ := guarded_snoc hok
  have hinv := hpre.invariant ClearInv.step clearInv_initial
  set r := run (replicaStep cfg exec) .initial events
  have hfound := hrecovers
  simp only [Replica.recovers, List.any_eq_true, Bool.and_eq_true, decide_eq_true_eq] at hfound
  obtain ⟨c, hmem, ⟨rfl, hreason⟩, hnew⟩ := hfound
  obtain ⟨hlt, hmark⟩ := hinv.cancels c hmem
  obtain ⟨payload, rest, hdata, hunwrap, hadm, -⟩ := haccepts.admissible
  refine evidenceOk_justified inp hlt hnew ?_
  simp only [orderAdmissible, Bool.and_eq_true, Bool.or_eq_true, Bool.not_eq_true'] at hadm
  cases hroll : view.isRollback with
  | true =>
    -- wrapped: nothing but the guard speaks for the evidence
    have hstruct := hadm.1.1.1.1.1.1.1.1.1.2.resolve_left (by simp [hroll])
    have hany : (r.app.committedCancels.any fun c => r.recovers c.1 view) = true :=
      List.any_eq_true.mpr ⟨c, hmem, hrecovers⟩
    simpa [clearOk, hdata, BatchData.checkedPayload, hunwrap, hroll, hstruct, hany] using hlast
  | false =>
    have hrequires : requiresEvidence (r.bridgeEnv cfg inp) (orderHdr view) = true := by
      refine decide_eq_true ?_
      rw [hnew]
      exact of_decide_eq_true (hmark hreason)
    rcases hadm.1.1.1.1.1.1.1.1.1.1.2 with (h | h) | h
    · exact absurd (hroll.symm.trans h) (by simp)
    · exact absurd (hrequires.symm.trans h) (by simp)
    · exact h

def eightCars : AppConfig := { fourCars with totalVehicles := 8 }

def plainExecutor : ExecutorEnv := ⟨fun _ => [], none⟩

def eightCarInput : VerifyInput := ⟨8, ⟨true, 1, false⟩, eightCarEnv.certSnapshot, primaryIs 1⟩

def crashCancelPayload : Bytes := cancelPayload 0 0 (ascii "CANCEL_CERT|0|0|blocked_batch|0:") 0 [0, 1, 2, 3]

def orderRequest (payload : Bytes) : Request := { listingRequest 0 [0, 1, 2, 3] with data := .batch [payload] }

def orderAccepted (r : Replica) (payload : Bytes) : ConsensusState :=
  (preVerify (r.bridgeEnv eightCars eightCarInput) (primaryIs 1) (orderRequest payload)).2

def clearedPayload : Bytes :=
  let cert := ascii "CLEAR_CERT|0|0|0:" ++ toHex (zeros 33) ++ ascii ",07|1:" ++ toHex (zeros 33) ++ ascii ",07"
  listingPayload 0 [0, 1, 2, 3] ++ putU32 orderEvidenceMagic ++ putU16 1 ++ putU16 1 ++ putU32 cert.length ++ cert

def gossipedOrder : List ReplicaEvent :=
  [.app (.decisionGossip 0 (gossipSerialize 0 (orderDecisionBytes 0 [(0, 0), (1, 0), (2, 1)])) false),
    .app (.decisionGossip 1 (gossipSerialize 0 (orderDecisionBytes 0 [(0, 0), (1, 0), (2, 1)])) false),
    .app (.processOrder false true 5)]

def executedCancel : List ReplicaEvent := [.execute crashCancelPayload, .app (.processOrder false true 6)]

theorem recoveryOrder_clearJustified_executed :
    ∃ cert, ClearJustified
      ((run (replicaStep eightCars plainExecutor) .initial (gossipedOrder ++ executedCancel)).app.witnessContext eightCars)
      (ProposalView.initial clearedPayload) 0 cert :=
  recoveryOrder_clearJustified eightCars plainExecutor (gossipedOrder ++ executedCancel) eightCarInput
    (orderRequest clearedPayload) (by decide +kernel) 0 (ProposalView.initial clearedPayload)
    (orderAccepted (run (replicaStep eightCars plainExecutor) .initial (gossipedOrder ++ executedCancel)) clearedPayload)
    (by decide +kernel) ⟨Or.inl rfl, ⟨_, [], rfl, by decide +kernel⟩, rfl, by decide +kernel⟩

def gossipedCancel : List ReplicaEvent :=
  [.app (.cancelCommitGossip 0 (gossipSerialize 0 (crashCancelBytes 0)) true),
    .app (.cancelCommitGossip 1 (gossipSerialize 0 (crashCancelBytes 0)) true)]

def wrappedPayload : Bytes :=
  let just := putU32 0 ++ putU64 9 ++ zeros 32 ++ putU32 0
  putU32 1 ++ putU32 0 ++ zeros 4 ++ putU32 just.length ++ just ++ listingPayload 0 [0, 1, 2, 3]

def wrappedView : ProposalView :=
  { ProposalView.initial wrappedPayload with
    data := listingPayload 0 [0, 1, 2, 3]
    kind := .rollback
    rollback := ⟨1, 0, 0, 48⟩ }

-- after a gossip-adopted CANCEL any recovery ORDER passes, after an executed one a wrapped ORDER does
theorem recoveryOrder_without_clear :
    ((run (replicaStep eightCars plainExecutor) .initial gossipedCancel).recovers 0 (listingView 0 [0, 1, 2, 3]) = true ∧
      AcceptsOrder ((run (replicaStep eightCars plainExecutor) .initial gossipedCancel).bridgeEnv eightCars eightCarInput)
        (primaryIs 1) (listingRequest 0 [0, 1, 2, 3]) (listingView 0 [0, 1, 2, 3])
        (orderAccepted (run (replicaStep eightCars plainExecutor) .initial gossipedCancel)
          (listingPayload 0 [0, 1, 2, 3])) ∧
      ∀ ctx cert, ¬ClearJustified ctx (listingView 0 [0, 1, 2, 3]) 0 cert) ∧
    ((run (replicaStep eightCars plainExecutor) .initial executedCancel).recovers 0 wrappedView = true ∧
      AcceptsOrder ((run (replicaStep eightCars plainExecutor) .initial executedCancel).bridgeEnv eightCars eightCarInput)
        (primaryIs 1) (orderRequest wrappedPayload) wrappedView
        (orderAccepted (run (replicaStep eightCars plainExecutor) .initial executedCancel) wrappedPayload) ∧
      ∀ ctx cert, ¬ClearJustified ctx wrappedView 0 cert) := by
  have hnone : clearEvidenceCert (listingPayload 0 [0, 1, 2, 3]) (ProposeHdr.read (listingPayload 0 [0, 1, 2, 3])) =
      none := by decide +kernel
  refine ⟨⟨by decide +kernel, ⟨Or.inl rfl, ⟨_, [], rfl, by decide +kernel⟩, rfl, by decide +kernel⟩, ?_⟩,
    by decide +kernel, ⟨Or.inl rfl, ⟨_, [], rfl, by decide +kernel⟩, by decide +kernel, by decide +kernel⟩, ?_⟩
  all_goals
    intro ctx cert h
    obtain ⟨certBytes, hcert, -⟩ := h.carried
    exact absurd (hnone.symm.trans hcert) (by simp)

end V2vBft.App
