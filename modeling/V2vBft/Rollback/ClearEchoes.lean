import V2vBft.Rollback.CancelEchoes

namespace V2vBft.Rollback

open Wire App Arrival Library.GuardedRun

-- `heard` observes the echoes sent or received; candidate none: a certificate without echoes
structure ClearState where
  rollback : RollbackState
  clearEchoCollector : EchoCollector
  clearEchoSent : List Bytes
  clearCertSeen : List Bytes
  clearCertCandidateKeys : List Bytes
  clearCertCandidate : Option ClearCert
  clearCertCandidateTimer : Bool
  heard : List (WitnessStatement × WitnessEcho)
  deriving DecidableEq, Repr

def ClearState.start (s : RollbackState) (seen : List Bytes) : ClearState := ⟨s, .empty, [], seen, [], none, false, []⟩

def incidentStatement (incident : BlockedIncident) : WitnessStatement :=
  ⟨incident.cancelledEpoch, .clear, formatBlockedBatchRef incident.cancelledEpoch incident.executingBatch⟩

def clearKey (incident : BlockedIncident) : Bytes := (incidentStatement incident).collectorKey

def emptyClearEcho : ClearEcho := ⟨-1, 0, 0, zeros cryptoPubkeyBytes, []⟩

def deserializeClearEcho (payload : Bytes) : Option ClearEcho :=
  let parts := splitStr payload 124
  if parts.length < 5 ∨ parts.head? ≠ some (ascii "CLEAR_ECHO") then some emptyClearEcho
  else
    match stoul (parts.getD 1 []), stoul (parts.getD 2 []), stoi (parts.getD 3 []) with
    | some epoch, some batch, some signer =>
      let body := parts.getD 4 []
      let echo : ClearEcho := ⟨signer, toUint32 epoch, toUint32 batch, zeros cryptoPubkeyBytes, []⟩
      if 44 ∉ body then some echo
      else
        match fromHex (body.takeWhile (· ≠ 44)), fromHex ((body.dropWhile (· ≠ 44)).drop 1) with
        | some pub, some sig =>
          some { echo with
            signerPubKey := if pub.length = cryptoPubkeyBytes then pub else zeros cryptoPubkeyBytes
            signature := if sig.length ≤ cryptoSigMaxBytes then sig else [] }
        | _, _ => none
    | _, _, _ => none

def echoIncident (echo : ClearEcho) : BlockedIncident := ⟨echo.cancelledEpoch, echo.executingBatch⟩

def toClearEcho (we : WitnessEcho) (cancelledEpoch executingBatch : ℕ) : ClearEcho :=
  ⟨we.signerId, cancelledEpoch, executingBatch, we.pubKey, we.sig⟩

def certPrimary (cfg : RollbackConfig) (s : RollbackState) : ℤ :=
  let eligible (rid : ℤ) : Bool :=
    if s.app.cancelPending then shouldIncludeInRollbackMembership cfg s rid
    else decide (0 ≤ rid) && decide (rid < cfg.totalVehicles)
  (s.stores.collectedCerts.map extractReplicaId).foldl
    (fun primary rid => if eligible rid && (decide (primary < 0) || decide (rid < primary)) then rid else primary) (-1)

def clearPropagationRank (cfg : RollbackConfig) (s : RollbackState) : ℤ :=
  let members := clearPropagationMembers cfg s
  let primary := certPrimary cfg s
  let ranked := if 0 ≤ primary ∧ primary ∈ members then primary :: members.erase primary else members
  if cfg.replicaId ∈ ranked then ranked.idxOf cfg.replicaId else -1

def ClearState.view (cfg : WitnessConfig) (s : ClearState) : WitnessContext :=
  s.rollback.app.witnessContext cfg.toAppConfig

def ClearState.hushed (s : ClearState) (incident : BlockedIncident) : Bool :=
  decide (incidentState s.rollback incident = .cleared) || decide (clearKey incident ∈ s.clearCertSeen) ||
    decide (clearKey incident ∈ s.clearCertCandidateKeys)

def ClearState.cancelClearCertCandidate (s : ClearState) : ClearState :=
  { s with clearCertCandidate := none, clearCertCandidateTimer := false }

-- the retries of the certificate and the WAIT advisory are stopped as well
def ClearState.onIncidentCleared (s : ClearState) (incident : BlockedIncident) (clearCertBytes : Bytes) : ClearState :=
  if incidentState s.rollback incident = .blocking then
    { s with rollback := Rollback.onIncidentCleared s.rollback incident clearCertBytes }.cancelClearCertCandidate
  else s

def ClearState.scheduleClearCertCandidate (cfg : WitnessConfig) (s : ClearState) (cert : ClearCert) : ClearState :=
  if !cfg.enableRollback || cert.echoes.isEmpty then s
  else if clearKey (clearedIncident cert) ∈ s.clearCertSeen ∨
      clearKey (clearedIncident cert) ∈ s.clearCertCandidateKeys then s
  else if clearPropagationRank cfg.toRollbackConfig s.rollback < 0 then s
  else
    { s with
      clearCertCandidateKeys := clearKey (clearedIncident cert) :: s.clearCertCandidateKeys
      clearCertCandidate := some cert
      clearCertCandidateTimer := true }

def bucketClearCert (incident : BlockedIncident) (bucket : List WitnessEcho) : ClearCert :=
  ⟨incident.cancelledEpoch, incident.executingBatch,
    bucket.map fun we => toClearEcho we incident.cancelledEpoch incident.executingBatch⟩

-- handleClearEcho behind the signature check: the certificate is not validated before it is scheduled
def ClearState.collectClearEcho (cfg : WitnessConfig) (s : ClearState) (incident : BlockedIncident)
    (echo : WitnessEcho) : ClearState :=
  match s.clearEchoCollector.add (incidentStatement incident) echo with
  | (_, false) => s
  | (collector, true) =>
    let s := { s with clearEchoCollector := collector }
    let bucket := collector.bucket (clearKey incident)
    if cfg.faults + 1 ≤ bucket.length ∧ clearKey incident ∉ s.clearCertSeen then
      s.scheduleClearCertCandidate cfg (bucketClearCert incident bucket)
    else s

def formedClearEcho (echo : ClearEcho) : Bool := decide (0 ≤ echo.echoingReplicaId) && decide (echo.signature ≠ [])

def verifiedEcho (ctx : WitnessContext) (stmt : WitnessStatement) (echo : WitnessEcho) : Bool :=
  ctx.keyMatches echo.signerId echo.pubKey && ctx.verifyBytes echo.pubKey (stmt.signPayload echo.signerId) echo.sig

def ClearState.handleClearEcho (cfg : WitnessConfig) (s : ClearState) (payload : Bytes) : ClearState :=
  if !cfg.enableRollback then s
  else
    match deserializeClearEcho payload with
    | none => s
    | some echo =>
      if !formedClearEcho echo || s.hushed (echoIncident echo) then s
      else if verifiedEcho (s.view cfg) (incidentStatement (echoIncident echo)) echo.toWitnessEcho then
        s.collectClearEcho cfg (echoIncident echo) echo.toWitnessEcho
      else s

-- the threshold is not looked at
def ClearState.sendClearEcho (cfg : WitnessConfig) (s : ClearState) (incident : BlockedIncident) : ClearState :=
  if !cfg.enableRollback || !cfg.hasPrivateKey then s
  else if s.hushed incident then s
  else if clearKey incident ∈ s.clearEchoSent then s
  else
    let s := { s with clearEchoSent := clearKey incident :: s.clearEchoSent }
    match cfg.signBytes ((incidentStatement incident).signPayload cfg.replicaId) with
    | none => s
    | some sig =>
      { s with
        clearEchoCollector :=
          (s.clearEchoCollector.add (incidentStatement incident) ⟨cfg.replicaId, cfg.ecPubKey, sig⟩).1 }

-- the relay of the certificate only sends
def ClearState.handleClearCert (cfg : WitnessConfig) (s : ClearState) (carrier : ℤ) (packet : Bytes) : ClearState :=
  if !cfg.enableRollback then s
  else
    match carriedClear cfg.toRollbackConfig s.rollback carrier packet with
    | none => s
    | some (cert, rawCert) =>
      let s := { s with clearCertSeen := clearKey (clearedIncident cert) :: s.clearCertSeen }
      s.cancelClearCertCandidate.onIncidentCleared (clearedIncident cert) rawCert

def ClearState.broadcastClearCert (cfg : WitnessConfig) (s : ClearState) (cert : ClearCert) : ClearState :=
  if validateClearCert (s.view cfg) cert then
    { s with clearCertSeen := clearKey (clearedIncident cert) :: s.clearCertSeen }.onIncidentCleared
      (clearedIncident cert) (serializeClearCert cert)
  else s

def ClearState.candidateTimerFires (cfg : WitnessConfig) (s : ClearState) : ClearState :=
  let s := { s with clearCertCandidateTimer := false }
  match s.clearCertCandidate with
  | none => s
  | some cert =>
    if incidentState s.rollback (clearedIncident cert) = .cleared ∨ s.rollback.app.orderApplied = true then
      s.cancelClearCertCandidate
    else s.broadcastClearCert cfg cert

-- the arrival certificates collected meanwhile are any
inductive ClearEvent
  | clearEcho (payload : Bytes)
  | sendClearEcho (incident : BlockedIncident)
  | clearCert (carrier : ℤ) (packet : Bytes)
  | candidateTimer
  | collectedCerts (certs : List Bytes)

def broughtClear (cfg : WitnessConfig) (s : ClearState) : ClearEvent → Option (BlockedIncident × WitnessEcho)
  | .clearEcho payload =>
    ((deserializeClearEcho payload).filter formedClearEcho).map fun echo => (echoIncident echo, echo.toWitnessEcho)
  | .sendClearEcho incident =>
    if !cfg.enableRollback || !cfg.hasPrivateKey || s.hushed incident || decide (clearKey incident ∈ s.clearEchoSent)
    then none
    else
      (cfg.signBytes ((incidentStatement incident).signPayload cfg.replicaId)).map fun sig =>
        (incident, ⟨cfg.replicaId, cfg.ecPubKey, sig⟩)
  | _ => none

def heardWith (s : ClearState) (incident : BlockedIncident) (echo : WitnessEcho) :
    List (WitnessStatement × WitnessEcho) :=
  s.heard ++ [(incidentStatement incident, echo)]

def clearHandled (cfg : WitnessConfig) (s : ClearState) : ClearEvent → ClearState
  | .clearEcho payload => s.handleClearEcho cfg payload
  | .sendClearEcho incident => s.sendClearEcho cfg incident
  | .clearCert carrier packet => s.handleClearCert cfg carrier packet
  | .candidateTimer => if s.clearCertCandidateTimer then s.candidateTimerFires cfg else s
  | .collectedCerts certs =>
    { s with rollback := { s.rollback with stores := { s.rollback.stores with collectedCerts := certs } } }

def clearStep (cfg : WitnessConfig) (s : ClearState) (ev : ClearEvent) : ClearState :=
  { clearHandled cfg s ev with
    heard := match broughtClear cfg s ev with
      | none => s.heard
      | some (incident, echo) => heardWith s incident echo }

variable {cfg : WitnessConfig} {s : ClearState} {incident : BlockedIncident} {echo : WitnessEcho}
  {heard : List (WitnessStatement × WitnessEcho)}

lemma incidentStatement_injective : Function.Injective incidentStatement := by
  intro i j h
  obtain ⟨epoch, batch⟩ := i
  obtain ⟨epoch', batch'⟩ := j
  obtain ⟨hepoch, -, href⟩ := WitnessStatement.mk.inj h
  dsimp only at hepoch
  subst hepoch
  have hbatch : batch = batch' := decimalNat_injective (List.append_cancel_left href)
  rw [hbatch]

lemma validateClearCert_bucket (ctx : WitnessContext) (incident : BlockedIncident) (bucket : List WitnessEcho) :
    validateClearCert ctx (bucketClearCert incident bucket) =
      validateWitnesses ctx (anchoredFaults ctx.toleratedFaults ctx.totalVehicles) (incidentStatement incident)
        bucket := by
  have hechoes : ((bucketClearCert incident bucket).echoes.filter fun e =>
      decide (e.cancelledEpoch = incident.cancelledEpoch) && decide (e.executingBatch = incident.executingBatch) &&
        decide (e.signature ≠ [])).map ClearEcho.toWitnessEcho = bucket.filter fun e => decide (e.sig ≠ []) := by
    rw [bucketClearCert, List.filter_map, List.map_map]
    simp [toClearEcho, ClearEcho.toWitnessEcho, Function.comp_def]
  rw [validateClearCert]
  refine Eq.trans ?_ (validateWitnesses_filter ctx _ bucket)
  exact congrArg (validateWitnesses ctx _ (incidentStatement incident)) hechoes

lemma clearPropagationRank_neg (cfg : RollbackConfig) (s : RollbackState) :
    clearPropagationRank cfg s < 0 ↔ cfg.replicaId ∉ clearPropagationMembers cfg s := by
  have hranked : ∀ (members : List ℤ) (primary : ℤ), (cfg.replicaId ∈
      if 0 ≤ primary ∧ primary ∈ members then primary :: members.erase primary else members) ↔
        cfg.replicaId ∈ members := by
    intro members primary
    split
    next hmem => exact (List.perm_cons_erase hmem.2).symm.mem_iff
    next => rfl
  rw [clearPropagationRank]
  by_cases hself : cfg.replicaId ∈ clearPropagationMembers cfg s
  · rw [if_pos ((hranked _ _).mpr hself)]
    exact iff_of_false (by omega) (not_not.mpr hself)
  · rw [if_neg (mt (hranked _ _).mp hself)]
    exact iff_of_true (by omega) hself

lemma add_mem {c : EchoCollector} {stmt : WitnessStatement} (h : (c.add stmt echo).2 = true) :
    echo ∈ (c.add stmt echo).1.bucket stmt.collectorKey := by
  rw [EchoCollector.add] at h ⊢
  split at h
  · simp at h
  next hnew =>
    rw [if_neg hnew]
    simp [EchoCollector.bucket]

lemma incidentState_cleared (s : RollbackState) (incident other : BlockedIncident) (clearCertBytes : Bytes) :
    incidentState (onIncidentCleared s incident clearCertBytes) other =
      if incident = other ∧ incidentState s other = .blocking then .cleared else incidentState s other :=
  stateIn_absorb s.incidentRegistry (.clear incident clearCertBytes) other

lemma onIncidentCleared_state (clearCertBytes : Bytes) (other : BlockedIncident) :
    incidentState (s.onIncidentCleared incident clearCertBytes).rollback other =
      if incident = other ∧ incidentState s.rollback other = .blocking then .cleared
      else incidentState s.rollback other := by
  rw [ClearState.onIncidentCleared]
  split
  · exact incidentState_cleared s.rollback incident other clearCertBytes
  next hsettled =>
    rw [if_neg]
    rintro ⟨rfl, hblocking⟩
    exact hsettled hblocking

lemma onIncidentCleared_app (clearCertBytes : Bytes) :
    (s.onIncidentCleared incident clearCertBytes).rollback.app = s.rollback.app := by
  rw [ClearState.onIncidentCleared]
  split <;> rfl

lemma broughtClear_received {payload : Bytes} (h : broughtClear cfg s (.clearEcho payload) = some (incident, echo)) :
    ∃ e, deserializeClearEcho payload = some e ∧ formedClearEcho e = true ∧ echoIncident e = incident ∧
      e.toWitnessEcho = echo := by
  obtain ⟨e, he, heq⟩ := Option.map_eq_some_iff.mp h
  obtain ⟨hparse, hformed⟩ := Option.filter_eq_some_iff.mp he
  obtain ⟨hincident, hecho⟩ := Prod.mk.inj heq
  exact ⟨e, hparse, hformed, hincident, hecho⟩

lemma handleClearEcho_formed {payload : Bytes} {e : ClearEcho} (hparse : deserializeClearEcho payload = some e)
    (hformed : formedClearEcho e = true) :
    s.handleClearEcho cfg payload =
      if cfg.enableRollback && !s.hushed (echoIncident e) &&
          verifiedEcho (s.view cfg) (incidentStatement (echoIncident e)) e.toWitnessEcho then
        s.collectClearEcho cfg (echoIncident e) e.toWitnessEcho
      else s := by
  rw [ClearState.handleClearEcho, hparse]
  dsimp only
  rw [hformed, Bool.not_true, Bool.false_or]
  cases cfg.enableRollback <;> cases s.hushed (echoIncident e) <;> simp

lemma handleClearEcho_unformed {payload : Bytes} (h : broughtClear cfg s (.clearEcho payload) = none) :
    s.handleClearEcho cfg payload = s := by
  rw [ClearState.handleClearEcho]
  split
  · rfl
  · cases hparse : deserializeClearEcho payload with
    | none => rfl
    | some e =>
      have hformed : formedClearEcho e = false := by
        by_contra hformed
        simp [broughtClear, hparse, Option.filter, hformed] at h
      simp [hformed]

lemma scheduleClearCertCandidate_kept (cert : ClearCert) :
    (s.scheduleClearCertCandidate cfg cert).rollback = s.rollback ∧
      (s.scheduleClearCertCandidate cfg cert).clearEchoCollector = s.clearEchoCollector := by
  rw [ClearState.scheduleClearCertCandidate]
  repeat' split
  all_goals exact ⟨rfl, rfl⟩

lemma add_stale {c : EchoCollector} {stmt : WitnessStatement} (h : (c.add stmt echo).2 = false) :
    (c.add stmt echo).1 = c := by
  rw [EchoCollector.add] at h ⊢
  split at h
  next hknown => rw [if_pos hknown]
  next => simp at h

lemma collectClearEcho_kept :
    (s.collectClearEcho cfg incident echo).rollback = s.rollback ∧
      (s.collectClearEcho cfg incident echo).clearEchoCollector =
        (s.clearEchoCollector.add (incidentStatement incident) echo).1 := by
  have hstale := @add_stale echo s.clearEchoCollector (incidentStatement incident)
  rw [ClearState.collectClearEcho]
  cases hadd : s.clearEchoCollector.add (incidentStatement incident) echo with
  | mk collector fresh =>
    rw [hadd] at hstale
    cases fresh with
    | false => exact ⟨rfl, (hstale rfl).symm⟩
    | true =>
      dsimp only
      split
      · exact scheduleClearCertCandidate_kept _
      · exact ⟨rfl, rfl⟩

lemma scheduleClearCertCandidate_free {cert : ClearCert} (henabled : cfg.enableRollback = true)
    (hechoes : cert.echoes ≠ []) (hunseen : clearKey (clearedIncident cert) ∉ s.clearCertSeen)
    (hnokey : clearKey (clearedIncident cert) ∉ s.clearCertCandidateKeys)
    (hactive : cfg.replicaId ∈ clearPropagationMembers cfg.toRollbackConfig s.rollback) :
    (s.scheduleClearCertCandidate cfg cert).clearCertCandidate = some cert ∧
      (s.scheduleClearCertCandidate cfg cert).clearCertCandidateTimer = true := by
  have hrank : ¬clearPropagationRank cfg.toRollbackConfig s.rollback < 0 := fun hneg =>
    (clearPropagationRank_neg cfg.toRollbackConfig s.rollback).mp hneg hactive
  rw [ClearState.scheduleClearCertCandidate, henabled, List.isEmpty_eq_false_iff.mpr hechoes, if_neg (by simp),
    if_neg (not_or.mpr ⟨hunseen, hnokey⟩), if_neg hrank]
  exact ⟨rfl, rfl⟩

lemma sendClearEcho_kept :
    (s.sendClearEcho cfg incident).rollback = s.rollback ∧
      (s.sendClearEcho cfg incident).clearCertCandidate = s.clearCertCandidate ∧
      (s.sendClearEcho cfg incident).clearCertCandidateTimer = s.clearCertCandidateTimer := by
  rw [ClearState.sendClearEcho]
  repeat' split
  all_goals exact ⟨rfl, rfl, rfl⟩

lemma sendClearEcho_collector :
    (s.sendClearEcho cfg incident).clearEchoCollector =
      match broughtClear cfg s (.sendClearEcho incident) with
      | none => s.clearEchoCollector
      | some (incident, echo) => (s.clearEchoCollector.add (incidentStatement incident) echo).1 := by
  rw [ClearState.sendClearEcho, broughtClear]
  cases hon : !cfg.enableRollback || !cfg.hasPrivateKey with
  | true => simp
  | false =>
    cases hhush : s.hushed incident with
    | true => simp
    | false =>
      by_cases hsent : clearKey incident ∈ s.clearEchoSent
      · simp [hsent]
      · simp only [Bool.or_self, Bool.false_eq_true, ↓reduceIte, hsent, decide_false]
        cases cfg.signBytes ((incidentStatement incident).signPayload cfg.replicaId) <;> rfl

lemma echo_step {ev : ClearEvent} (hbrought : broughtClear cfg s ev = some (incident, echo)) :
    (clearStep cfg s ev).rollback = s.rollback ∧ (clearStep cfg s ev).heard = heardWith s incident echo := by
  refine ⟨?_, by rw [clearStep, hbrought]⟩
  cases ev with
  | clearEcho payload =>
    obtain ⟨e, hparse, hformed, -, -⟩ := broughtClear_received hbrought
    change (s.handleClearEcho cfg payload).rollback = s.rollback
    rw [handleClearEcho_formed hparse hformed]
    split
    · exact collectClearEcho_kept.1
    · rfl
  | sendClearEcho own => exact sendClearEcho_kept.1
  | clearCert carrier packet => simp [broughtClear] at hbrought
  | candidateTimer => simp [broughtClear] at hbrought
  | collectedCerts certs => simp [broughtClear] at hbrought

lemma onIncidentCleared_collector (clearCertBytes : Bytes) :
    (s.onIncidentCleared incident clearCertBytes).clearEchoCollector = s.clearEchoCollector := by
  rw [ClearState.onIncidentCleared]
  split <;> rfl

lemma clearStep_collector (h : s.clearEchoCollector.Heard s.heard) (ev : ClearEvent) :
    (clearStep cfg s ev).clearEchoCollector.Heard (clearStep cfg s ev).heard := by
  cases ev with
  | clearEcho payload =>
    rw [clearStep, clearHandled]
    cases hbrought : broughtClear cfg s (.clearEcho payload) with
    | none => rwa [handleClearEcho_unformed hbrought]
    | some brought =>
      obtain ⟨incident, echo⟩ := brought
      obtain ⟨e, hparse, hformed, rfl, rfl⟩ := broughtClear_received hbrought
      rw [handleClearEcho_formed hparse hformed]
      dsimp only
      split
      · rw [collectClearEcho_kept.2]
        exact h.add
      · exact h.more _
  | sendClearEcho own =>
    rw [clearStep, clearHandled]
    dsimp only
    rw [sendClearEcho_collector]
    cases broughtClear cfg s (.sendClearEcho own) with
    | none => exact h
    | some brought => exact h.add
  | clearCert carrier packet =>
    change (s.handleClearCert cfg carrier packet).clearEchoCollector.Heard s.heard
    rw [ClearState.handleClearCert]
    split
    · exact h
    · split
      · exact h
      · rw [onIncidentCleared_collector]
        exact h
  | candidateTimer =>
    change (if s.clearCertCandidateTimer then s.candidateTimerFires cfg else s).clearEchoCollector.Heard s.heard
    split
    · rw [ClearState.candidateTimerFires]
      dsimp only
      split
      · exact h
      · split
        · exact h
        · rw [ClearState.broadcastClearCert]
          split
          · rw [onIncidentCleared_collector]
            exact h
          · exact h
    · exact h
  | collectedCerts certs => exact h

lemma fires_app : (s.candidateTimerFires cfg).rollback.app = s.rollback.app := by
  rw [ClearState.candidateTimerFires]
  dsimp only
  split
  · rfl
  · split
    · rfl
    · rw [ClearState.broadcastClearCert]
      split
      · exact onIncidentCleared_app _
      · rfl

lemma fires_blocking (h : incidentState (s.candidateTimerFires cfg).rollback incident = .blocking) :
    incidentState s.rollback incident = .blocking := by
  rw [ClearState.candidateTimerFires] at h
  dsimp only at h
  split at h
  · exact h
  · split at h
    · exact h
    · rw [ClearState.broadcastClearCert] at h
      split at h
      · rw [onIncidentCleared_state] at h
        split at h
        · simp at h
        · exact h
      · exact h

lemma fires_timer : (s.candidateTimerFires cfg).clearCertCandidateTimer = false := by
  rw [ClearState.candidateTimerFires]
  dsimp only
  split
  · rfl
  · split
    · rfl
    · rw [ClearState.broadcastClearCert, ClearState.onIncidentCleared]
      repeat' split
      all_goals rfl

end V2vBft.Rollback
