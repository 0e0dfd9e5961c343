import V2vBft.Rollback.Incidents
import V2vBft.App.WitnessFacts

/-! The CLEAR trailer of an executed recovery ORDER, which is validated against that ORDER's own vehicles. -/

namespace V2vBft.Rollback

open Wire App Bridge Scheduler Library.GuardedRun

variable {cfg : RollbackConfig} {ctx : WitnessContext} {stmt : WitnessStatement} {s : RollbackState} {dec : Bytes}

-- the first echo with a signature decides about a signer
def standsBehind (ctx : WitnessContext) (stmt : WitnessStatement) (echoes : List WitnessEcho) (signer : ℤ) : Bool :=
  decide (0 ≤ signer) &&
    (echoes.find? fun e => decide (e.signerId = signer) && decide (e.sig ≠ [])).any fun e =>
      ctx.keyMatches e.signerId e.pubKey && ctx.verifyBytes e.pubKey (stmt.signPayload e.signerId) e.sig

def backers (ctx : WitnessContext) (stmt : WitnessStatement) (echoes : List WitnessEcho) : Finset ℤ :=
  (echoes.map WitnessEcho.signerId).toFinset.filter fun signer => standsBehind ctx stmt echoes signer = true

def clearStatement (cert : ClearCert) : WitnessStatement :=
  ⟨cert.cancelledEpoch, .clear, formatBlockedBatchRef cert.cancelledEpoch cert.executingBatch⟩

def clearEchoes (cert : ClearCert) : List WitnessEcho :=
  (cert.echoes.filter fun e =>
    decide (e.cancelledEpoch = cert.cancelledEpoch) && decide (e.executingBatch = cert.executingBatch) &&
      decide (e.signature ≠ [])).map ClearEcho.toWitnessEcho

def clearBackers (ctx : WitnessContext) (cert : ClearCert) : Finset ℤ :=
  backers ctx (clearStatement cert) (clearEchoes cert)

def backedIn (cfg : RollbackConfig) (s : RollbackState) (vehicles : List ℤ) (cert : ClearCert) : Bool :=
  !cert.echoes.isEmpty &&
    decide (cfg.faults + 1 ≤ (((clearBackers (s.app.witnessContext cfg.toAppConfig) cert).filter fun signer =>
      signer ∈ vehicles).card : ℤ))

lemma standsBehind_cons_other {e : WitnessEcho} {echoes : List WitnessEcho} {signer : ℤ}
    (h : e.signerId ≠ signer ∨ e.sig = []) :
    standsBehind ctx stmt (e :: echoes) signer = standsBehind ctx stmt echoes signer := by
  have hskip : (decide (e.signerId = signer) && decide (e.sig ≠ [])) = false := by
    rcases h with h | h <;> simp [h]
  rw [standsBehind, List.find?_cons_of_neg (by simpa using hskip), standsBehind]

lemma standsBehind_cons_self {e : WitnessEcho} {echoes : List WitnessEcho} (hid : 0 ≤ e.signerId) (hsig : e.sig ≠ []) :
    standsBehind ctx stmt (e :: echoes) e.signerId =
      (ctx.keyMatches e.signerId e.pubKey && ctx.verifyBytes e.pubKey (stmt.signPayload e.signerId) e.sig) := by
  rw [standsBehind, List.find?_cons_of_pos (by simp [hsig]), decide_eq_true hid, Bool.true_and, Option.any_some]

lemma mem_backers {echoes : List WitnessEcho} {signer : ℤ} :
    signer ∈ backers ctx stmt echoes ↔ standsBehind ctx stmt echoes signer = true := by
  rw [backers, Finset.mem_filter, List.mem_toFinset, and_iff_right_iff_imp]
  intro h
  by_contra hnot
  have hnone : (echoes.find? fun e => decide (e.signerId = signer) && decide (e.sig ≠ [])) = none := by
    refine List.find?_eq_none.mpr fun e he hfound => hnot ?_
    exact of_decide_eq_true (Bool.and_eq_true_iff.mp hfound).1 ▸ List.mem_map_of_mem he
  rw [standsBehind, hnone, Option.any_none, Bool.and_false] at h
  exact absurd h (by simp)

def uncounted (ctx : WitnessContext) (stmt : WitnessStatement) (echoes : List WitnessEcho) (seen : List ℤ) : Finset ℤ :=
  (backers ctx stmt echoes).filter fun signer => signer ∈ ctx.committedOrderVehicleIds ∧ signer ∉ seen

lemma mem_uncounted {echoes : List WitnessEcho} {seen : List ℤ} {signer : ℤ} :
    signer ∈ uncounted ctx stmt echoes seen ↔
      standsBehind ctx stmt echoes signer = true ∧ signer ∈ ctx.committedOrderVehicleIds ∧ signer ∉ seen := by
  rw [uncounted, Finset.mem_filter, mem_backers]

lemma uncounted_skip {e : WitnessEcho} {echoes : List WitnessEcho} {seen : List ℤ}
    (h : e.signerId < 0 ∨ e.sig = [] ∨ e.signerId ∉ ctx.committedOrderVehicleIds ∨ e.signerId ∈ seen) :
    uncounted ctx stmt (e :: echoes) seen = uncounted ctx stmt echoes seen := by
  ext signer
  rw [mem_uncounted, mem_uncounted]
  by_cases hother : e.signerId ≠ signer ∨ e.sig = []
  · rw [standsBehind_cons_other hother]
  · obtain ⟨rfl, hsig⟩ := not_or.mp hother |>.imp not_not.mp id
    rcases h with h | h | h | h
    · simp [standsBehind, not_le.mpr h]
    · exact absurd h hsig
    · simp [h]
    · simp [h]

lemma uncounted_see {e : WitnessEcho} {echoes : List WitnessEcho} {seen : List ℤ} (hid : 0 ≤ e.signerId)
    (hsig : e.sig ≠ []) (hmem : e.signerId ∈ ctx.committedOrderVehicleIds) (hnew : e.signerId ∉ seen) :
    uncounted ctx stmt (e :: echoes) seen =
      if ctx.keyMatches e.signerId e.pubKey && ctx.verifyBytes e.pubKey (stmt.signPayload e.signerId) e.sig then
        insert e.signerId (uncounted ctx stmt echoes (e.signerId :: seen))
      else uncounted ctx stmt echoes (e.signerId :: seen) := by
  ext signer
  by_cases hsame : signer = e.signerId
  · subst hsame
    rw [mem_uncounted, standsBehind_cons_self hid hsig]
    split
    next hvalid => simp [hvalid, hmem, hnew]
    next hinvalid => simp [hinvalid, mem_uncounted]
  · have hrest : signer ∈ uncounted ctx stmt (e :: echoes) seen ↔
        signer ∈ uncounted ctx stmt echoes (e.signerId :: seen) := by
      rw [mem_uncounted, mem_uncounted, standsBehind_cons_other (Or.inl (Ne.symm hsame)), List.mem_cons, not_or,
        and_iff_right hsame]
    rw [hrest]
    split
    · rw [Finset.mem_insert, or_iff_right hsame]
    · rfl

lemma foldl_validateEcho (echoes : List WitnessEcho) (state : ValidateState) :
    (echoes.foldl (validateEcho ctx stmt) state).valid = state.valid + (uncounted ctx stmt echoes state.seen).card := by
  induction echoes generalizing state with
  | nil => simp [uncounted, backers]
  | cons e echoes ih =>
    rw [List.foldl_cons, ih, validateEcho]
    by_cases hbad : e.signerId < 0 ∨ e.sig = []
    · rw [if_pos hbad, uncounted_skip (hbad.imp_right Or.inl)]
    rw [if_neg hbad]
    obtain ⟨hid, hsig⟩ := not_or.mp hbad
    by_cases hmem : e.signerId ∈ ctx.committedOrderVehicleIds
    · rw [if_neg (not_not.mpr hmem)]
      by_cases hseen : e.signerId ∈ state.seen
      · rw [if_pos hseen, uncounted_skip (Or.inr (Or.inr (Or.inr hseen)))]
      · rw [if_neg hseen, uncounted_see (not_lt.mp hid) hsig hmem hseen]
        split
        next =>
          rw [Finset.card_insert_of_notMem fun h => (mem_uncounted.mp h).2.2 List.mem_cons_self]
          dsimp only
          omega
        next => rfl
    · rw [if_pos hmem, uncounted_skip (Or.inr (Or.inr (Or.inl hmem)))]

lemma validateWitnesses_eq (f : ℤ) (echoes : List WitnessEcho) :
    validateWitnesses ctx f stmt echoes = decide (f + 1 ≤ (((backers ctx stmt echoes).filter fun signer =>
      signer ∈ ctx.committedOrderVehicleIds).card : ℤ)) := by
  have hsame : uncounted ctx stmt echoes [] =
      (backers ctx stmt echoes).filter fun signer => signer ∈ ctx.committedOrderVehicleIds := by
    simp [uncounted]
  have hlength : (uncounted ctx stmt echoes []).card ≤ echoes.length := by
    calc (uncounted ctx stmt echoes []).card ≤ (echoes.map WitnessEcho.signerId).toFinset.card :=
          Finset.card_le_card ((Finset.filter_subset _ _).trans (Finset.filter_subset _ _))
      _ ≤ (echoes.map WitnessEcho.signerId).length := List.toFinset_card_le _
      _ = echoes.length := List.length_map _
  rw [validateWitnesses, ← hsame]
  split
  next hshort => exact (decide_eq_false (by omega)).symm
  next =>
    rw [foldl_validateEcho]
    simp

lemma validateClearCert_newView (vehicles : List ℤ) (cert : ClearCert) :
    (!cert.echoes.isEmpty && validateClearCert (newView cfg s vehicles) cert) = backedIn cfg s vehicles cert := by
  have hvalid : validateWitnesses (newView cfg s vehicles) cfg.faults (clearStatement cert) (clearEchoes cert) = _ :=
    validateWitnesses_eq cfg.faults (clearEchoes cert)
  exact congrArg (fun b => !cert.echoes.isEmpty && b) hvalid

lemma admitted_iff {completed : Bool} {order : OrderDecision} :
    admitted s completed = some (dec, order) ↔ ∃ rest, s.app.pendingOrders = dec :: rest ∧ isCancelDecision dec = false ∧
      admittedOrder { s.app with pendingOrders := rest } dec completed = some order := by
  rw [admitted]
  cases s.app.pendingOrders with
  | nil => simp
  | cons d rest =>
    dsimp only
    cases hcancel : isCancelDecision d with
    | true =>
      refine iff_of_false (by simp) ?_
      rintro ⟨_, hqueue, horder, -⟩
      obtain ⟨rfl, -⟩ := List.cons.inj hqueue
      exact absurd (hcancel.symm.trans horder) (by simp)
    | false =>
      rw [if_neg (by simp), Option.map_eq_some_iff]
      constructor
      · rintro ⟨o, ho, hpair⟩
        obtain ⟨rfl, rfl⟩ := Prod.mk.inj hpair
        exact ⟨rest, rfl, hcancel, ho⟩
      · rintro ⟨_, hqueue, -, ho⟩
        obtain ⟨rfl, rfl⟩ := List.cons.inj hqueue
        exact ⟨order, ho, rfl⟩

lemma incidentState_processOrder {completed : Bool} {order : OrderDecision}
    (hadmitted : admitted s completed = some (dec, order)) (clears : List (BlockedIncident × Bytes)) (sense : Sense)
    (incident : BlockedIncident) :
    incidentState (processOrder cfg s completed clears sense) incident =
      (clearedBy clears).foldl (advance incident) (incidentState s incident) := by
  rw [incidentState, processOrder_registry, hadmitted, stateIn_foldl_absorb, incidentState]

lemma mem_validClears {certs : List (ClearCert × Bytes)} {incident : BlockedIncident} :
    (∃ clearCertBytes, Evidence.clear incident clearCertBytes ∈ clearedBy (validClears ctx certs)) ↔
      ∃ c ∈ certs, clearedIncident c.1 = incident ∧ (!c.1.echoes.isEmpty && validateClearCert ctx c.1) = true := by
  simp only [clearedBy, validClears, List.map_map, List.mem_map, List.mem_filter, Function.comp_apply, Evidence.clear.injEq]
  constructor
  · rintro ⟨_, c, ⟨hc, hvalid⟩, hincident, -⟩
    exact ⟨c, hc, hincident, hvalid⟩
  · rintro ⟨c, hc, hincident, hvalid⟩
    exact ⟨c.2, c, ⟨hc, hvalid⟩, hincident, rfl⟩

lemma admittedOrder_read {u : AppState} {completed : Bool} {order : OrderDecision}
    (h : admittedOrder u dec completed = some order) : order = OrderDecision.read dec := by
  rw [admittedOrder] at h
  repeat' split at h
  all_goals first | exact (Option.some.inj h).symm | exact absurd h (by simp)

def Adopts (s s' : RollbackState) (certs : List (ClearCert × Bytes)) : Prop :=
  ∀ c ∈ certs, incidentState s (clearedIncident c.1) = .blocking → incidentState s' (clearedIncident c.1) = .cleared

lemma adopts_iff {completed : Bool} {sense : Sense} {order : OrderDecision} {certs : List (ClearCert × Bytes)}
    (hadmitted : admitted s completed = some (dec, order)) (hparse : parsedCerts (decisionClearCerts dec) = some certs) :
    ∃ s', processTrailedOrder cfg s completed sense = some s' ∧
      (Adopts s s' certs ↔ ∀ c ∈ certs, incidentState s (clearedIncident c.1) = .blocking →
        ∃ d ∈ certs, clearedIncident d.1 = clearedIncident c.1 ∧
          backedIn cfg s (OrderDecision.vehicles order) d.1 = true) := by
  refine ⟨processOrder cfg s completed (validClears (newView cfg s (OrderDecision.vehicles order)) certs) sense, ?_, ?_⟩
  · rw [processTrailedOrder, hadmitted]
    dsimp only
    rw [hparse, Option.map_some]
  · refine forall₂_congr fun c _ => imp_congr_right fun hblocking => ?_
    rw [incidentState_processOrder hadmitted, hblocking, foldl_advance_blocking, mem_validClears]
    simp only [validateClearCert_newView]

structure ComesUp (exec : ExecutorEnv) (view : ProposalView) (s : RollbackState) (completed : Bool) (dec : Bytes)
    (order : OrderDecision) : Prop where
  executed : orderDecision exec view.data = some dec
  admitted : admitted s completed = some (dec, order)

theorem clearTrailer_adopted_iff (env : BridgeEnv) (consensus : Pbft.ConsensusState) (request : Pbft.Request)
    (payload : Bytes) (view : ProposalView) (exec : ExecutorEnv) (cfg : RollbackConfig) (s : RollbackState)
    (completed : Bool) (sense : Sense) (dec : Bytes) (order : OrderDecision) (certs : List (ClearCert × Bytes))
    (haccepts : AcceptsProposal env consensus request payload view) (horder : view.isCancel = false)
    (hup : ComesUp exec view s completed dec order) (hparse : parsedCerts (proposalClearCerts view.data) = some certs) :
    ∃ s', processTrailedOrder cfg s completed sense = some s' ∧
      (Adopts s s' certs ↔ ∀ c ∈ certs, incidentState s (clearedIncident c.1) = .blocking →
        ∃ d ∈ certs, clearedIncident d.1 = clearedIncident c.1 ∧
          backedIn cfg s ((orderEntries view).map VehicleEntry.replicaId) d.1 = true) := by
  obtain ⟨hdistinct, hlength⟩ := haccepts.wellFormed horder
  have hback := readsBack_orderDecisionOf exec hdistinct hlength
  obtain rfl : orderDecisionOf exec view = dec := Option.some.inj ((orderDecision_eq hlength).symm.trans hup.executed)
  obtain ⟨_, _, _, hadmitted⟩ := admitted_iff.mp hup.admitted
  have hvehicles : OrderDecision.vehicles order = (orderEntries view).map VehicleEntry.replicaId := by
    rw [OrderDecision.vehicles, admittedOrder_read hadmitted, hback.vehicles]
  rw [← hvehicles]
  exact adopts_iff hup.admitted (hback.clearCerts ▸ hparse)

def eightRollbackCars : RollbackConfig := { fourRollbackCars with toAppConfig := eightCars }

def clearedOrder (cars : List ℕ) : Bytes :=
  listingPayload (cars.headD 0) cars ++ putU32 orderEvidenceMagic ++ putU16 1 ++ putU16 1 ++
    putU32 batchClearCert.length ++ batchClearCert

def clearedView (cars : List ℕ) : ProposalView := .initial (clearedOrder cars)

def recovering (cars : List ℕ) : RollbackState :=
  run (evidenceStep eightRollbackCars) .initial
    (afterOrder [blockedReceived, .rollback (.orderDecided (crashCancelBytes 0)) crashCancel_plain, .order false (stopped 7),
      .rollback (.orderDecided (orderDecisionOf plainExecutor (clearedView cars))) rfl])

def recoveryInput (cars : List ℕ) : VerifyInput where
  expected := 8
  faults := ⟨true, 1, false⟩
  certSnapshot := some (cars.map fun (i : ℕ) => CertEntry.mk i (i % 4) 1 0 0 0 0)
  consensus := primaryIs (cars.headD 0 + 1)

def recoveryEnv (cars : List ℕ) : BridgeEnv :=
  Replica.bridgeEnv eightCars ⟨(recovering cars).app, [1]⟩ (recoveryInput cars)

def clearedRequest (cars : List ℕ) : Pbft.Request :=
  { listingRequest (cars.headD 0) cars with data := .batch [clearedOrder cars] }

def parsedClear : ClearCert × Bytes := ((deserializeClearCert batchClearCert).getD ⟨0, 0, []⟩, batchClearCert)

def orderOf (cars : List ℕ) : OrderDecision := OrderDecision.read (orderDecisionOf plainExecutor (clearedView cars))

theorem clearTrailer_adopted_same_cars :
    ∃ s', processTrailedOrder eightRollbackCars (recovering [0, 1, 2, 3]) false (stopped 8) = some s' ∧
      Adopts (recovering [0, 1, 2, 3]) s' [parsedClear] := by
  obtain ⟨s', hs', hadopts⟩ := clearTrailer_adopted_iff (recoveryEnv [0, 1, 2, 3]) (primaryIs 1)
    (clearedRequest [0, 1, 2, 3]) (clearedOrder [0, 1, 2, 3]) (clearedView [0, 1, 2, 3]) plainExecutor eightRollbackCars
    (recovering [0, 1, 2, 3]) false (stopped 8) (orderDecisionOf plainExecutor (clearedView [0, 1, 2, 3]))
    (orderOf [0, 1, 2, 3]) [parsedClear] ⟨Or.inl rfl, rfl, by decide +kernel, by decide +kernel⟩ rfl
    ⟨by decide +kernel, by decide +kernel⟩ (by decide +kernel)
  exact ⟨s', hs', hadopts.mpr fun c hc _ => ⟨c, hc, rfl, by obtain rfl := List.mem_singleton.mp hc; decide +kernel⟩⟩

theorem clearTrailer_lost_new_cars :
    AcceptsProposal (recoveryEnv [2, 3, 4, 5]) (primaryIs 3) (clearedRequest [2, 3, 4, 5]) (clearedOrder [2, 3, 4, 5])
        (clearedView [2, 3, 4, 5]) ∧
      parsedCerts (proposalClearCerts (clearedView [2, 3, 4, 5]).data) = some [parsedClear] ∧
      validateClearCert ((recovering [2, 3, 4, 5]).app.witnessContext eightCars) parsedClear.1 = true ∧
      incidentState (recovering [2, 3, 4, 5]) (clearedIncident parsedClear.1) = .blocking ∧
      (processTrailedOrder eightRollbackCars (recovering [2, 3, 4, 5]) false (stopped 8)).map (fun s' =>
        incidentState s' (clearedIncident parsedClear.1)) = some .blocking :=
  ⟨⟨Or.inl rfl, rfl, by decide +kernel, by decide +kernel⟩, by decide +kernel, by decide +kernel, by decide +kernel,
    by decide +kernel⟩

end V2vBft.Rollback
