import V2vBft.Rollback.EchoCollector
import V2vBft.Rollback.Incidents

namespace V2vBft.Rollback

open Wire App Library.GuardedRun

structure WitnessConfig extends RollbackConfig where
  ecPubKey : Bytes
  -- with this replica's private key; none: signing fails
  signBytes : Bytes → Option Bytes

-- `heard` and `assembled` observe the echoes sent or received and the certificates broadcast
structure WitnessState where
  rollback : RollbackState
  cancelEchoCollector : EchoCollector
  cancelEchoSent : List Bytes
  heard : List (WitnessStatement × WitnessEcho)
  assembled : List CancelCert
  deriving DecidableEq, Repr

def WitnessState.start (s : RollbackState) : WitnessState := ⟨s, .empty, [], [], []⟩

def echoStatement (e : CancelEcho) : WitnessStatement := ⟨e.cancelledEpoch, toWitnessKind e.reason, e.reasonRef⟩

def emptyCancelEcho : CancelEcho := ⟨-1, 0, cancelCrash, [], zeros cryptoPubkeyBytes, []⟩

def deserializeCancelEcho (payload : Bytes) : Option CancelEcho :=
  let parts := splitStr payload 124
  if parts.length < 6 ∨ parts.head? ≠ some (ascii "CANCEL_ECHO") then some emptyCancelEcho
  else
    match stoul (parts.getD 1 []), stoi (parts.getD 2 []), stoi (parts.getD 4 []) with
    | some epoch, some reason, some signer =>
      let body := parts.getD 5 []
      let echo : CancelEcho := ⟨signer, toUint32 epoch, reason, parts.getD 3 [], zeros cryptoPubkeyBytes, []⟩
      if 44 ∉ body then some echo
      else
        match fromHex (body.takeWhile (· ≠ 44)), fromHex ((body.dropWhile (· ≠ 44)).drop 1) with
        | some pub, some sig =>
          some { echo with
            signerPubKey := if pub.length = cryptoPubkeyBytes then pub else zeros cryptoPubkeyBytes
            signature := if sig.length ≤ cryptoSigMaxBytes then sig else [] }
        | _, _ => none
    | _, _, _ => none

def toCancelEcho (we : WitnessEcho) (epoch : ℕ) (reason : ℤ) (reasonRef : Bytes) : CancelEcho :=
  ⟨we.signerId, epoch, reason, reasonRef, we.pubKey, we.sig⟩

def formedEcho (echo : CancelEcho) : Bool :=
  decide (0 ≤ echo.echoingReplicaId) && decide (echo.signature ≠ []) &&
    (decide (echo.reason = cancelCrash) || decide (echo.reason = cancelEmergency))

def bucketCert (echo : CancelEcho) (bucket : List WitnessEcho) : CancelCert :=
  ⟨echo.cancelledEpoch, echo.reason, echo.reasonRef,
    bucket.map fun we => toCancelEcho we echo.cancelledEpoch echo.reason echo.reasonRef⟩

def WitnessState.view (cfg : WitnessConfig) (s : WitnessState) : WitnessContext :=
  s.rollback.app.witnessContext cfg.toAppConfig

def WitnessState.broadcastCancelCert (cfg : WitnessConfig) (s : WitnessState) (cert : CancelCert) (sense : Sense) :
    WitnessState :=
  { s with
    rollback := Rollback.broadcastCancelCert cfg.toRollbackConfig s.rollback cert (serializeCancelCert cert) sense
    assembled := if validateCancelCert (s.view cfg) cert then cert :: s.assembled else s.assembled }

-- handleCancelEcho behind the signature check: the key of the signer is not looked up in the registry
def WitnessState.collectCancelEcho (cfg : WitnessConfig) (s : WitnessState) (echo : CancelEcho) (sense : Sense) :
    WitnessState :=
  match s.cancelEchoCollector.add (echoStatement echo) echo.toWitnessEcho with
  | (_, false) => s
  | (collector, true) =>
    let s := { s with cancelEchoCollector := collector }
    let bucket := collector.bucket (echoStatement echo).collectorKey
    if cfg.faults + 1 ≤ bucket.length ∧ (echoStatement echo).collectorKey ∉ s.rollback.app.cancelCertSeen then
      s.broadcastCancelCert cfg (bucketCert echo bucket) sense
    else s

def WitnessState.handleCancelEcho (cfg : WitnessConfig) (s : WitnessState) (payload : Bytes) (sense : Sense) :
    WitnessState :=
  if !cfg.enableRollback then s
  else
    match deserializeCancelEcho payload with
    | none => s
    | some echo =>
      if formedEcho echo && cfg.verifyBytes echo.signerPubKey ((echoStatement echo).signPayload echo.echoingReplicaId)
          echo.signature then s.collectCancelEcho cfg echo sense
      else s

def ownStatement (cancelledEpoch : ℕ) (reason : ℤ) (reasonRef : Bytes) : WitnessStatement :=
  ⟨cancelledEpoch, toWitnessKind reason, cleanRef reasonRef⟩

-- the threshold is not looked at
def WitnessState.sendCancelEcho (cfg : WitnessConfig) (s : WitnessState) (cancelledEpoch : ℕ) (reason : ℤ)
    (reasonRef : Bytes) : WitnessState :=
  let stmt := ownStatement cancelledEpoch reason reasonRef
  if !cfg.enableRollback || !cfg.hasPrivateKey then s
  else if stmt.collectorKey ∈ s.cancelEchoSent then s
  else
    let s :=
      { s with
        rollback := Rollback.sendCancelEcho cfg.toRollbackConfig s.rollback true
        cancelEchoSent := stmt.collectorKey :: s.cancelEchoSent }
    match cfg.signBytes (stmt.signPayload cfg.replicaId) with
    | none => s
    | some sig => { s with cancelEchoCollector := (s.cancelEchoCollector.add stmt ⟨cfg.replicaId, cfg.ecPubKey, sig⟩).1 }

inductive WitnessEvent
  | cancelEcho (payload : Bytes) (sense : Sense)
  | sendCancelEcho (cancelledEpoch : ℕ) (reason : ℤ) (reasonRef : Bytes)

def broughtEcho (cfg : WitnessConfig) (s : WitnessState) : WitnessEvent → Option (WitnessStatement × WitnessEcho)
  | .cancelEcho payload _ =>
    ((deserializeCancelEcho payload).filter formedEcho).map fun echo => (echoStatement echo, echo.toWitnessEcho)
  | .sendCancelEcho cancelledEpoch reason reasonRef =>
    let stmt := ownStatement cancelledEpoch reason reasonRef
    if !cfg.enableRollback || !cfg.hasPrivateKey || decide (stmt.collectorKey ∈ s.cancelEchoSent) then none
    else (cfg.signBytes (stmt.signPayload cfg.replicaId)).map fun sig => (stmt, ⟨cfg.replicaId, cfg.ecPubKey, sig⟩)

def witnessEcho (cfg : WitnessConfig) (s : WitnessState) : WitnessEvent → WitnessState
  | .cancelEcho payload sense => s.handleCancelEcho cfg payload sense
  | .sendCancelEcho cancelledEpoch reason reasonRef => s.sendCancelEcho cfg cancelledEpoch reason reasonRef

def witnessStep (cfg : WitnessConfig) (s : WitnessState) (ev : WitnessEvent) : WitnessState :=
  { witnessEcho cfg s ev with heard := s.heard ++ (broughtEcho cfg s ev).toList }

def genuineSigners (cfg : WitnessConfig) (s : WitnessState) (stmt : WitnessStatement)
    (heard : List (WitnessStatement × WitnessEcho)) : Finset ℤ :=
  supporters (s.view cfg) stmt (echoesOf stmt heard)

def Collected (cfg : WitnessConfig) (s : WitnessState) : Prop :=
  ∀ stmt ∈ s.heard.map Prod.fst, cfg.faults + 1 ≤ ((genuineSigners cfg s stmt s.heard).card : ℤ) →
    ∃ cert ∈ s.assembled, cert.statement = stmt ∧ validateCancelCert (s.view cfg) cert = true

def bucketWith (s : WitnessState) (stmt : WitnessStatement) (echo : WitnessEcho) : List WitnessEcho :=
  (s.cancelEchoCollector.add stmt echo).1.bucket stmt.collectorKey

-- the echo is a received one, rollback is on, no certificate of another replica was taken in for the statement, and
-- the collector takes the echo and holds f + 1 of the members under their own keys
structure Gathers (cfg : WitnessConfig) (s : WitnessState) (ev : WitnessEvent) (stmt : WitnessStatement)
    (echo : WitnessEcho) : Prop where
  received : ∃ payload sense, ev = .cancelEcho payload sense
  enabled : cfg.enableRollback = true
  unseen : stmt.collectorKey ∉ s.rollback.app.cancelCertSeen
  signed : cfg.verifyBytes echo.pubKey (stmt.signPayload echo.signerId) echo.sig = true
  taken : (s.cancelEchoCollector.add stmt echo).2 = true
  unhijacked : cfg.faults + 1 + (hijacked (s.view cfg) stmt (echoesOf stmt (s.heard ++ [(stmt, echo)]))
      (bucketWith s stmt echo)).card ≤
    ((genuineSigners cfg s stmt (s.heard ++ [(stmt, echo)])).card : ℤ)

def Assembled (cfg : WitnessConfig) (s : WitnessState) (stmt : WitnessStatement) : Prop :=
  ∃ cert ∈ s.assembled, cert.statement = stmt ∧ validateCancelCert (s.view cfg) cert = true

def gathersInTime (cfg : WitnessConfig) (s : WitnessState) (ev : WitnessEvent) : Prop :=
  ∀ stmt echo, broughtEcho cfg s ev = some (stmt, echo) →
    cfg.faults + 1 ≤ ((genuineSigners cfg s stmt (s.heard ++ [(stmt, echo)])).card : ℤ) →
      Assembled cfg s stmt ∨ Gathers cfg s ev stmt echo

variable {cfg : WitnessConfig} {s : WitnessState} {stmt : WitnessStatement} {echo : WitnessEcho}

lemma standsBehind_filter (ctx : WitnessContext) (bucket : List WitnessEcho) (signer : ℤ) :
    standsBehind ctx stmt (bucket.filter fun e => decide (e.sig ≠ [])) signer = standsBehind ctx stmt bucket signer := by
  rw [standsBehind, standsBehind, List.find?_filter]
  congr 3
  funext e
  cases decide (e.sig ≠ []) <;> simp

lemma validateWitnesses_filter (ctx : WitnessContext) (f : ℤ) (bucket : List WitnessEcho) :
    validateWitnesses ctx f stmt (bucket.filter fun e => decide (e.sig ≠ [])) = validateWitnesses ctx f stmt bucket := by
  have hbackers : backers ctx stmt (bucket.filter fun e => decide (e.sig ≠ [])) = backers ctx stmt bucket := by
    ext signer
    rw [mem_backers, mem_backers, standsBehind_filter]
  rw [validateWitnesses_eq, validateWitnesses_eq, hbackers]

lemma validateCancelCert_bucket (ctx : WitnessContext) {echo : CancelEcho} (hformed : formedEcho echo = true)
    (bucket : List WitnessEcho) :
    validateCancelCert ctx (bucketCert echo bucket) =
      validateWitnesses ctx (anchoredFaults ctx.toleratedFaults ctx.totalVehicles) (echoStatement echo) bucket := by
  have hreason : ¬((bucketCert echo bucket).reason ≠ cancelCrash ∧ (bucketCert echo bucket).reason ≠ cancelEmergency) := by
    simp only [formedEcho, Bool.and_eq_true, Bool.or_eq_true, decide_eq_true_eq] at hformed
    exact fun hno => hformed.2.elim hno.1 hno.2
  have hechoes : ((bucketCert echo bucket).echoes.filter fun e =>
      decide (e.cancelledEpoch = echo.cancelledEpoch) && decide (e.reason = echo.reason) &&
        decide (e.reasonRef = echo.reasonRef) && decide (e.signature ≠ [])).map CancelEcho.toWitnessEcho =
      bucket.filter fun e => decide (e.sig ≠ []) := by
    rw [bucketCert, List.filter_map, List.map_map]
    simp [toCancelEcho, CancelEcho.toWitnessEcho, Function.comp_def]
  rw [validateCancelCert, if_neg hreason]
  refine Eq.trans ?_ (validateWitnesses_filter ctx _ bucket)
  exact congrArg (validateWitnesses ctx _ (echoStatement echo)) hechoes

lemma validateWitnesses_length {ctx : WitnessContext} {f : ℤ} {bucket : List WitnessEcho}
    (h : validateWitnesses ctx f stmt bucket = true) : f + 1 ≤ (bucket.length : ℤ) := by
  rw [validateWitnesses] at h
  split at h
  · simp at h
  · omega

lemma collectCancelEcho_assembled {echo : CancelEcho} (hformed : formedEcho echo = true) (sense : Sense) :
    (s.collectCancelEcho cfg echo sense).assembled =
      if (s.cancelEchoCollector.add (echoStatement echo) echo.toWitnessEcho).2 = true ∧
          (echoStatement echo).collectorKey ∉ s.rollback.app.cancelCertSeen ∧
          validateWitnesses (s.view cfg) cfg.faults (echoStatement echo)
            (bucketWith s (echoStatement echo) echo.toWitnessEcho) = true then
        bucketCert echo (bucketWith s (echoStatement echo) echo.toWitnessEcho) :: s.assembled
      else s.assembled := by
  rw [WitnessState.collectCancelEcho, bucketWith]
  cases hadd : s.cancelEchoCollector.add (echoStatement echo) echo.toWitnessEcho with
  | mk collector fresh =>
    cases fresh with
    | false => simp
    | true =>
      have hvalid : validateCancelCert (s.view cfg)
          (bucketCert echo (collector.bucket (echoStatement echo).collectorKey)) =
            validateWitnesses (s.view cfg) cfg.faults (echoStatement echo)
              (collector.bucket (echoStatement echo).collectorKey) := validateCancelCert_bucket _ hformed _
      dsimp only
      split
      next hreached =>
        rw [WitnessState.broadcastCancelCert]
        change (if validateCancelCert (s.view cfg) _ = true then _ else _) = _
        rw [hvalid]
        simp only [true_and, hreached.2, not_false_eq_true]
      next hshort =>
        refine (if_neg fun hall => hshort ⟨validateWitnesses_length hall.2.2, hall.2.1⟩).symm

lemma collectCancelEcho_collector (echo : CancelEcho) (sense : Sense) :
    (s.collectCancelEcho cfg echo sense).cancelEchoCollector =
      (s.cancelEchoCollector.add (echoStatement echo) echo.toWitnessEcho).1 := by
  rw [WitnessState.collectCancelEcho]
  cases hadd : s.cancelEchoCollector.add (echoStatement echo) echo.toWitnessEcho with
  | mk collector fresh =>
    cases fresh with
    | false =>
      rw [EchoCollector.add] at hadd
      split at hadd
      · exact congrArg Prod.fst hadd
      · simp at hadd
    | true =>
      dsimp only
      split <;> rfl

lemma collectCancelEcho_view (echo : CancelEcho) (sense : Sense) :
    (s.collectCancelEcho cfg echo sense).view cfg = s.view cfg := by
  rw [WitnessState.collectCancelEcho]
  split
  · rfl
  · dsimp only
    split
    · exact broadcastCancelCert_view s.rollback _ _ sense
    · rfl

lemma sendCancelEcho_app {rcfg : RollbackConfig} (u : RollbackState) (fresh : Bool) :
    (sendCancelEcho rcfg u fresh).app = u.app := by
  rw [sendCancelEcho]
  repeat' split
  all_goals rfl

lemma sendCancelEcho_kept (cancelledEpoch : ℕ) (reason : ℤ) (reasonRef : Bytes) :
    (s.sendCancelEcho cfg cancelledEpoch reason reasonRef).view cfg = s.view cfg ∧
      (s.sendCancelEcho cfg cancelledEpoch reason reasonRef).assembled = s.assembled := by
  have hview : ∀ collector sent, WitnessState.view cfg
      { s with
        rollback := sendCancelEcho cfg.toRollbackConfig s.rollback true
        cancelEchoCollector := collector
        cancelEchoSent := sent } = s.view cfg := by
    intro collector sent
    rw [WitnessState.view, sendCancelEcho_app]
    rfl
  rw [WitnessState.sendCancelEcho]
  dsimp only
  split
  · exact ⟨rfl, rfl⟩
  · split
    · exact ⟨rfl, rfl⟩
    · split
      · exact ⟨hview _ _, rfl⟩
      · exact ⟨hview _ _, rfl⟩

lemma sendCancelEcho_collector (cancelledEpoch : ℕ) (reason : ℤ) (reasonRef : Bytes) :
    (s.sendCancelEcho cfg cancelledEpoch reason reasonRef).cancelEchoCollector =
      match broughtEcho cfg s (.sendCancelEcho cancelledEpoch reason reasonRef) with
      | none => s.cancelEchoCollector
      | some (stmt, echo) => (s.cancelEchoCollector.add stmt echo).1 := by
  rw [WitnessState.sendCancelEcho, broughtEcho]
  dsimp only
  split
  next hoff => rw [if_pos (by simp [hoff])]
  next hon =>
    split
    next hsent => rw [if_pos (by simp [hsent])]
    next hnew =>
      rw [if_neg (by simp [hnew]; simpa using hon)]
      cases cfg.signBytes ((ownStatement cancelledEpoch reason reasonRef).signPayload cfg.replicaId) <;> rfl

lemma broughtEcho_received {payload : Bytes} {sense : Sense} (h : broughtEcho cfg s (.cancelEcho payload sense) = some (stmt, echo)) :
    ∃ e, deserializeCancelEcho payload = some e ∧ formedEcho e = true ∧ echoStatement e = stmt ∧
      e.toWitnessEcho = echo := by
  obtain ⟨e, he, heq⟩ := Option.map_eq_some_iff.mp h
  obtain ⟨hparse, hformed⟩ := Option.filter_eq_some_iff.mp he
  obtain ⟨hstmt, hecho⟩ := Prod.mk.inj heq
  exact ⟨e, hparse, hformed, hstmt, hecho⟩

lemma handleCancelEcho_formed {payload : Bytes} {e : CancelEcho} (hparse : deserializeCancelEcho payload = some e)
    (hformed : formedEcho e = true) (sense : Sense) :
    s.handleCancelEcho cfg payload sense =
      if cfg.enableRollback && cfg.verifyBytes e.signerPubKey ((echoStatement e).signPayload e.echoingReplicaId)
          e.signature then s.collectCancelEcho cfg e sense
      else s := by
  rw [WitnessState.handleCancelEcho, hparse]
  dsimp only
  rw [hformed, Bool.true_and]
  cases cfg.enableRollback <;> simp

lemma handleCancelEcho_unformed {payload : Bytes} {sense : Sense} (h : broughtEcho cfg s (.cancelEcho payload sense) = none) :
    s.handleCancelEcho cfg payload sense = s := by
  rw [WitnessState.handleCancelEcho]
  split
  · rfl
  · cases hparse : deserializeCancelEcho payload with
    | none => rfl
    | some e =>
      have hformed : formedEcho e = false := by
        by_contra hformed
        simp [broughtEcho, hparse, Option.filter, hformed] at h
      simp [hformed]

lemma witnessStep_view (ev : WitnessEvent) : (witnessStep cfg s ev).view cfg = s.view cfg := by
  cases ev with
  | cancelEcho payload sense =>
    change (s.handleCancelEcho cfg payload sense).view cfg = s.view cfg
    rw [WitnessState.handleCancelEcho]
    repeat' split
    all_goals first | rfl | exact collectCancelEcho_view _ sense
  | sendCancelEcho cancelledEpoch reason reasonRef => exact (sendCancelEcho_kept cancelledEpoch reason reasonRef).1

lemma witnessStep_collector (h : s.cancelEchoCollector.Heard s.heard) (ev : WitnessEvent) :
    (witnessStep cfg s ev).cancelEchoCollector.Heard (witnessStep cfg s ev).heard := by
  cases ev with
  | cancelEcho payload sense =>
    cases hbrought : broughtEcho cfg s (.cancelEcho payload sense) with
    | none =>
      rw [witnessStep, witnessEcho, handleCancelEcho_unformed hbrought]
      exact h.more _
    | some brought =>
      obtain ⟨stmt, echo⟩ := brought
      obtain ⟨e, hparse, hformed, rfl, rfl⟩ := broughtEcho_received hbrought
      rw [witnessStep, witnessEcho, hbrought, handleCancelEcho_formed hparse hformed]
      dsimp only
      split
      · rw [collectCancelEcho_collector]
        exact h.add
      · exact h.more _
  | sendCancelEcho cancelledEpoch reason reasonRef =>
    rw [witnessStep, witnessEcho]
    dsimp only
    rw [sendCancelEcho_collector]
    cases broughtEcho cfg s (.sendCancelEcho cancelledEpoch reason reasonRef) with
    | none => exact h.more _
    | some brought => exact h.add

lemma bucketWith_heard (h : s.cancelEchoCollector.Heard s.heard) :
    bucketWith s stmt echo ⊆ echoesOf stmt (s.heard ++ [(stmt, echo)]) :=
  EchoCollector.Heard.bucket h.add

lemma gathers_received (h : s.cancelEchoCollector.Heard s.heard) {payload : Bytes} {sense : Sense} {e : CancelEcho} :
    Gathers cfg s (.cancelEcho payload sense) (echoStatement e) e.toWitnessEcho ↔
      (cfg.enableRollback && cfg.verifyBytes e.signerPubKey ((echoStatement e).signPayload e.echoingReplicaId)
          e.signature) = true ∧
        (s.cancelEchoCollector.add (echoStatement e) e.toWitnessEcho).2 = true ∧
          (echoStatement e).collectorKey ∉ s.rollback.app.cancelCertSeen ∧
            validateWitnesses (s.view cfg) cfg.faults (echoStatement e)
              (bucketWith s (echoStatement e) e.toWitnessEcho) = true := by
  rw [validateWitnesses_hijacked (bucketWith_heard h), Bool.and_eq_true]
  exact ⟨fun hg => ⟨⟨hg.enabled, hg.signed⟩, hg.taken, hg.unseen, hg.unhijacked⟩,
    fun ⟨⟨henabled, hsigned⟩, htaken, hunseen, hcount⟩ =>
      ⟨⟨payload, sense, rfl⟩, henabled, hunseen, hsigned, htaken, hcount⟩⟩

lemma assembled_step (h : s.cancelEchoCollector.Heard s.heard) {ev : WitnessEvent}
    (hbrought : broughtEcho cfg s ev = some (stmt, echo)) :
    Assembled cfg (witnessStep cfg s ev) stmt ↔ Assembled cfg s stmt ∨ Gathers cfg s ev stmt echo := by
  rw [Assembled, Assembled, witnessStep_view]
  cases ev with
  | sendCancelEcho cancelledEpoch reason reasonRef =>
    have hkept : (witnessStep cfg s (.sendCancelEcho cancelledEpoch reason reasonRef)).assembled = s.assembled :=
      (sendCancelEcho_kept cancelledEpoch reason reasonRef).2
    rw [hkept, or_iff_left]
    intro hgathers
    obtain ⟨payload, sense, hev⟩ := hgathers.received
    cases hev
  | cancelEcho payload sense =>
    obtain ⟨e, hparse, hformed, rfl, rfl⟩ := broughtEcho_received hbrought
    have hassembled : (witnessStep cfg s (.cancelEcho payload sense)).assembled =
        (s.handleCancelEcho cfg payload sense).assembled := rfl
    have hvalid := validateCancelCert_bucket (s.view cfg) hformed (bucketWith s (echoStatement e) e.toWitnessEcho)
    rw [hassembled, handleCancelEcho_formed hparse hformed, gathers_received h]
    split
    next hsigned =>
      rw [collectCancelEcho_assembled hformed]
      split
      next hgathered =>
        refine iff_of_true ⟨_, List.mem_cons_self, rfl, hvalid.trans hgathered.2.2⟩ (Or.inr ⟨hsigned, hgathered⟩)
      next hmissed => exact (or_iff_left fun hgathers => hmissed hgathers.2).symm
    next hunsigned => exact (or_iff_left fun hgathers => hunsigned hgathers.1).symm

lemma assembled_mono {ev : WitnessEvent} (h : Assembled cfg s stmt) : Assembled cfg (witnessStep cfg s ev) stmt := by
  obtain ⟨cert, hmem, hstmt, hvalid⟩ := h
  refine ⟨cert, ?_, hstmt, (witnessStep_view ev).symm ▸ hvalid⟩
  cases ev with
  | sendCancelEcho cancelledEpoch reason reasonRef =>
    exact (@sendCancelEcho_kept cfg s cancelledEpoch reason reasonRef).2.symm ▸ hmem
  | cancelEcho payload sense =>
    change cert ∈ (s.handleCancelEcho cfg payload sense).assembled
    cases hbrought : broughtEcho cfg s (.cancelEcho payload sense) with
    | none => exact (handleCancelEcho_unformed hbrought).symm ▸ hmem
    | some brought =>
      obtain ⟨e, hparse, hformed, -, -⟩ := broughtEcho_received hbrought
      rw [handleCancelEcho_formed hparse hformed]
      split
      · rw [collectCancelEcho_assembled hformed]
        split
        · exact List.mem_cons_of_mem _ hmem
        · exact hmem
      · exact hmem

lemma collected_step (h : s.cancelEchoCollector.Heard s.heard) (hcollected : Collected cfg s) (ev : WitnessEvent) :
    Collected cfg (witnessStep cfg s ev) ↔ gathersInTime cfg s ev := by
  have hheard : (witnessStep cfg s ev).heard = s.heard ++ (broughtEcho cfg s ev).toList := rfl
  have hview : (witnessStep cfg s ev).view cfg = s.view cfg := witnessStep_view ev
  cases hbrought : broughtEcho cfg s ev with
  | none =>
    rw [hbrought, Option.toList_none, List.append_nil] at hheard
    refine iff_of_true (fun stmt hstmt hcount => ?_) fun stmt echo hsome => by simp [hbrought] at hsome
    rw [hheard] at hstmt
    rw [genuineSigners, hview, hheard] at hcount
    exact assembled_mono (hcollected stmt hstmt hcount)
  | some brought =>
    obtain ⟨stmt, echo⟩ := brought
    rw [hbrought, Option.toList_some] at hheard
    constructor
    · intro hnext stmt' echo' hsame hcount
      obtain ⟨rfl, rfl⟩ := Prod.mk.inj (Option.some.inj (hbrought.symm.trans hsame))
      refine (assembled_step h hbrought).mp (hnext stmt (by rw [hheard]; simp) ?_)
      rw [genuineSigners, hview, hheard]
      exact hcount
    · intro hgathers stmt' hstmt' hcount
      rw [hheard] at hstmt'
      rw [genuineSigners, hview, hheard] at hcount
      by_cases hsame : stmt' = stmt
      · subst hsame
        exact (assembled_step h hbrought).mpr (hgathers stmt' echo hbrought hcount)
      · have hothers : echoesOf stmt' (s.heard ++ [(stmt, echo)]) = echoesOf stmt' s.heard := by
          rw [echoesOf_append]
          simp [echoesOf, Ne.symm hsame]
        rw [hothers] at hcount
        rw [List.map_append, List.mem_append] at hstmt'
        exact assembled_mono (hcollected stmt' (hstmt'.resolve_right (by simpa using hsame)) hcount)

theorem collected_iff (cfg : WitnessConfig) (s : RollbackState) (events : List WitnessEvent) :
    (∀ pre post, events = pre ++ post → Collected cfg (run (witnessStep cfg) (.start s) pre)) ↔
      Guarded (witnessStep cfg) (gathersInTime cfg) (.start s) events := by
  have hstart : Collected cfg (.start s) := fun stmt hstmt => by simp [WitnessState.start] at hstmt
  have hempty : (WitnessState.start s).cancelEchoCollector.Heard (WitnessState.start s).heard := fun entry hentry => by
    simp [WitnessState.start, EchoCollector.empty] at hentry
  have hiff : ∀ t ev, t.cancelEchoCollector.Heard t.heard ∧ Collected cfg t →
      (gathersInTime cfg t ev ↔ Collected cfg (witnessStep cfg t ev)) :=
    fun t ev hsound => (collected_step hsound.1 hsound.2 ev).symm
  have hstep : ∀ t ev, t.cancelEchoCollector.Heard t.heard ∧ Collected cfg t → gathersInTime cfg t ev →
      (witnessStep cfg t ev).cancelEchoCollector.Heard (witnessStep cfg t ev).heard ∧
        Collected cfg (witnessStep cfg t ev) :=
    fun t ev hsound hok => ⟨witnessStep_collector hsound.1 ev, (hiff t ev hsound).mp hok⟩
  rw [forall_prefix_iff, and_iff_right hstart, guarded_congr hiff hstep ⟨hempty, hstart⟩]

def carKey (car : ℕ) : Bytes := List.replicate cryptoPubkeyBytes (UInt8.ofNat (10 + car))

def signedWith (pubKey msg : Bytes) : Bytes := pubKey.take 1 ++ msg

def witnessCars : WitnessConfig where
  toRollbackConfig :=
    { fourRollbackCars with
      registeredKeys := [(0, carKey 0), (1, carKey 1), (2, carKey 2), (3, carKey 3)]
      verifyBytes := fun pubKey msg sig => decide (sig = signedWith pubKey msg) }
  ecPubKey := carKey 2
  signBytes := fun msg => some (signedWith (carKey 2) msg)

def orderedCars : WitnessState :=
  .start (run (rollbackStep witnessCars.toRollbackConfig) .initial
    [.orderDecided (orderDecisionBytes 0 [(0, 0), (1, 0), (2, 1), (3, 1)]), .processOrder false [] (stopped 5)])

def crashEcho (signer : String) (pubKey : Bytes) : WitnessEvent :=
  .cancelEcho (ascii ("CANCEL_ECHO|0|0|blocked_batch:0:1|" ++ signer ++ "|") ++ toHex pubKey ++ ascii "," ++
    toHex (signedWith pubKey (ascii ("0:0:blocked_batch:0:1:" ++ signer)))) (stopped 6)

def hijackedRun : List WitnessEvent := [crashEcho "0" (carKey 3), crashEcho "0" (carKey 0), crashEcho "1" (carKey 1)]

def ownEchoLast : List WitnessEvent := [crashEcho "0" (carKey 0), .sendCancelEcho 0 0 (ascii "blocked_batch:0:1")]

lemma not_collected {s : WitnessState} (hmem : batchBlocked ∈ s.heard.map Prod.fst)
    (hcount : cfg.faults + 1 ≤ ((genuineSigners cfg s batchBlocked s.heard).card : ℤ)) (hnone : s.assembled = []) :
    ¬Collected cfg s := by
  intro hcollected
  obtain ⟨cert, hcert, -⟩ := hcollected batchBlocked hmem hcount
  simp [hnone] at hcert

-- a stranger's key holds the place of car 0, and the own echo is not counted when it comes last
theorem genuineEchoes_not_assembled :
    ¬Collected witnessCars (run (witnessStep witnessCars) orderedCars hijackedRun) ∧
      ¬Collected witnessCars (run (witnessStep witnessCars) orderedCars ownEchoLast) :=
  ⟨not_collected (by decide +kernel) (by decide +kernel) (by decide +kernel),
    not_collected (by decide +kernel) (by decide +kernel) (by decide +kernel)⟩

example : ((run (witnessStep witnessCars) orderedCars
    [crashEcho "0" (carKey 0), crashEcho "0" (carKey 3), crashEcho "1" (carKey 1)]).assembled.map
      CancelCert.statement) = [batchBlocked] := by decide +kernel

end V2vBft.Rollback
