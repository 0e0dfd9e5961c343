import V2vBft.Rollback.OrderEvidence
import V2vBft.Rollback.WitnessExactness

namespace V2vBft.Rollback

open Wire App Arrival Library.GuardedRun

variable {cfg : RollbackConfig} {s : RollbackState} {incident : BlockedIncident}

def trailedCerts (s : RollbackState) (completed : Bool) : List ClearCert :=
  (admitted s completed).toList.flatMap fun taken => ((parsedCerts (decisionClearCerts taken.1)).getD []).map Prod.fst

def clearCerts (s : RollbackState) : EvidenceEvent → List ClearCert
  | .rollback _ _ => []
  | .order completed _ => trailedCerts s completed
  | .clearCert _ packet => ((unpackSignedPacket packet).bind fun view => deserializeClearCert view.content).toList
  | .clearCertFormed cert => [cert]

def clearSigners (cfg : RollbackConfig) (s : RollbackState) (cert : ClearCert) : Finset ℤ :=
  supporters (s.app.witnessContext cfg.toAppConfig) (clearStatement cert) (cert.echoes.map ClearEcho.toWitnessEcho)

inductive Moved (cfg : RollbackConfig) (s : RollbackState) (ev : EvidenceEvent) (incident : BlockedIncident) : Prop
  | stays (hsame : incidentState (evidenceStep cfg s ev) incident = incidentState s incident)
  | blocks (cert : CancelCert) (hbrought : cert ∈ broughtCerts ev)
      (hvalid : validateCancelCert (s.app.witnessContext cfg.toAppConfig) cert = true)
      (hcrash : cert.reason = cancelCrash) (hnames : parseBlockedBatchRef cert.reasonRef = some incident)
      (hbefore : incidentState s incident = .unknown)
      (hafter : incidentState (evidenceStep cfg s ev) incident = .blocking)
  | clears (cert : ClearCert) (hbrought : cert ∈ clearCerts s ev) (hnames : clearedIncident cert = incident)
      (hsigned : cfg.faults + 1 ≤ ((clearSigners cfg (evidenceStep cfg s ev) cert).card : ℤ))
      (hbefore : incidentState s incident = .blocking)
      (hafter : incidentState (evidenceStep cfg s ev) incident = .cleared)

def IncidentState.rank : IncidentState → ℕ
  | .unknown => 0
  | .blocking => 1
  | .cleared => 2

variable {ctx : WitnessContext} {stmt : WitnessStatement}

lemma supporters_mono {some all : List WitnessEcho} (h : some ⊆ all) :
    supporters ctx stmt some ⊆ supporters ctx stmt all := by
  intro signer hsigner
  obtain ⟨hmem, hany⟩ := Finset.mem_filter.mp hsigner
  obtain ⟨e, he, hgenuine⟩ := List.any_eq_true.mp hany
  exact Finset.mem_filter.mpr ⟨hmem, List.any_eq_true.mpr ⟨e, h he, hgenuine⟩⟩

lemma validateWitnesses_supporters {f : ℤ} {echoes : List WitnessEcho}
    (h : validateWitnesses ctx f stmt echoes = true) : f + 1 ≤ ((supporters ctx stmt echoes).card : ℤ) := by
  rw [validateWitnesses_eq, counted_eq (List.Subset.refl echoes), decide_eq_true_eq] at h
  have hle := Finset.card_filter_le (supporters ctx stmt echoes) fun signer =>
    ¬standsBehind ctx stmt echoes signer = false
  omega

lemma validateClearCert_signers {cert : ClearCert}
    (h : validateClearCert (s.app.witnessContext cfg.toAppConfig) cert = true) :
    cfg.faults + 1 ≤ ((clearSigners cfg s cert).card : ℤ) := by
  have hfiltered := validateWitnesses_supporters h
  have hsub : clearEchoes cert ⊆ cert.echoes.map ClearEcho.toWitnessEcho :=
    List.map_subset _ List.filter_sublist.subset
  have hmono : (supporters (s.app.witnessContext cfg.toAppConfig) (clearStatement cert) (clearEchoes cert)).card ≤
      (clearSigners cfg s cert).card := Finset.card_le_card (supporters_mono hsub)
  exact hfiltered.trans (by exact_mod_cast hmono)

lemma applyOrder_view (order : OrderDecision) (clears : List (BlockedIncident × Bytes)) (now : ℤ) :
    (applyOrder cfg s order clears now).app.witnessContext cfg.toAppConfig =
      newView cfg s (OrderDecision.vehicles order) := by
  rw [applyOrder_app, App.applyOrder]
  dsimp only
  split
  · rfl
  · cases ownBatch cfg.toAppConfig order with
    | none => rfl
    | some batch =>
      dsimp only
      rw [takeSlot]
      dsimp only
      split <;> rfl

lemma admitted_processOrder {completed : Bool} {dec : Bytes} {order : OrderDecision}
    (h : admitted s completed = some (dec, order)) (clears : List (BlockedIncident × Bytes)) (sense : Sense) :
    (processOrder cfg s completed clears sense).app.witnessContext cfg.toAppConfig =
      newView cfg s (OrderDecision.vehicles order) := by
  rw [admitted] at h
  rw [processOrder]
  cases hqueue : s.app.pendingOrders with
  | nil => simp [hqueue] at h
  | cons d rest =>
    simp only [hqueue] at h
    dsimp only
    split at h
    · simp at h
    next hcancel =>
      rw [if_neg hcancel]
      obtain ⟨o, htaken, heq⟩ := Option.map_eq_some_iff.mp h
      obtain ⟨rfl, rfl⟩ := Prod.mk.inj heq
      rw [htaken]
      exact applyOrder_view o clears sense.now

lemma blockedBy_certificate {cert : CancelCert} {e : Evidence} (h : e ∈ blockedBy ctx cert) :
    validateCancelCert ctx cert = true ∧ cert.reason = cancelCrash ∧
      ∃ i, parseBlockedBatchRef cert.reasonRef = some i ∧ e = .blocked i := by
  rw [blockedBy] at h
  split at h
  next hgate =>
    obtain ⟨hvalid, hcrash⟩ := Bool.and_eq_true_iff.mp hgate
    obtain ⟨i, hi, heq⟩ := Option.map_eq_some_iff.mp (Option.mem_toList.mp h)
    exact ⟨hvalid, of_decide_eq_true hcrash, i, hi, heq.symm⟩
  next => simp at h

lemma rollbackEvidence_brought {ev : RollbackEvent} {hplain : bringsClears ev = false} {e : Evidence}
    (h : e ∈ rollbackEvidence cfg s ev) :
    ∃ cert ∈ broughtCerts (.rollback ev hplain), e ∈ blockedBy (s.app.witnessContext cfg.toAppConfig) cert := by
  cases ev with
  | cancelCert senderId payload sense =>
    rw [rollbackEvidence] at h
    split at h
    · exact List.mem_flatMap.mp h
    · simp at h
  | cancelCertFormed cert payload sense => exact ⟨cert, List.mem_singleton_self cert, h⟩
  | clearancePoll formed cleared sense =>
    rw [rollbackEvidence] at h
    split at h
    · obtain ⟨c, hc, hmem⟩ := List.mem_flatMap.mp h
      exact ⟨c.1, List.mem_map_of_mem hc, hmem⟩
    · simp at h
  | _ => simp [rollbackEvidence] at h

lemma foldl_advance_onlyBlocked {es : List Evidence} (hes : ∀ e ∈ es, ∃ i, e = .blocked i) (state : IncidentState) :
    es.foldl (advance incident) state = state ∨
      state = .unknown ∧ es.foldl (advance incident) state = .blocking ∧ Evidence.blocked incident ∈ es := by
  induction es generalizing state with
  | nil => exact Or.inl rfl
  | cons e es ih =>
    obtain ⟨i, rfl⟩ := hes e List.mem_cons_self
    have htail := ih fun e he => hes e (List.mem_cons_of_mem _ he)
    rw [List.foldl_cons, advance]
    split
    next hnew =>
      obtain ⟨rfl, rfl⟩ := hnew
      obtain hstays | ⟨hunknown, -, -⟩ := htail .blocking
      · exact Or.inr ⟨rfl, hstays, List.mem_cons_self⟩
      · exact absurd hunknown (by simp)
    next =>
      obtain hstays | ⟨hunknown, hblocking, hmem⟩ := htail state
      · exact Or.inl hstays
      · exact Or.inr ⟨hunknown, hblocking, List.mem_cons_of_mem _ hmem⟩

lemma foldl_advance_onlyClear {es : List Evidence} (hes : ∀ e ∈ es, ∃ i bytes, e = .clear i bytes)
    (state : IncidentState) :
    es.foldl (advance incident) state = state ∨
      state = .blocking ∧ es.foldl (advance incident) state = .cleared ∧
        ∃ bytes, Evidence.clear incident bytes ∈ es := by
  induction es generalizing state with
  | nil => exact Or.inl rfl
  | cons e es ih =>
    obtain ⟨i, bytes, rfl⟩ := hes e List.mem_cons_self
    have htail := ih fun e he => hes e (List.mem_cons_of_mem _ he)
    rw [List.foldl_cons, advance]
    split
    next hblocking =>
      obtain ⟨rfl, rfl⟩ := hblocking
      exact Or.inr ⟨rfl, foldl_advance_cleared i es, bytes, List.mem_cons_self⟩
    next =>
      obtain hstays | ⟨hblocking, hcleared, later, hmem⟩ := htail state
      · exact Or.inl hstays
      · exact Or.inr ⟨hblocking, hcleared, later, List.mem_cons_of_mem _ hmem⟩

lemma clearedBy_onlyClear {clears : List (BlockedIncident × Bytes)} :
    ∀ e ∈ clearedBy clears, ∃ i bytes, e = Evidence.clear i bytes := by
  intro e he
  obtain ⟨clear, -, rfl⟩ := List.mem_map.mp he
  exact ⟨clear.1, clear.2, rfl⟩

lemma validClears_certificate {certs : List (ClearCert × Bytes)} {bytes : Bytes}
    (h : Evidence.clear incident bytes ∈ clearedBy (validClears ctx certs)) :
    ∃ c ∈ certs, clearedIncident c.1 = incident ∧ validateClearCert ctx c.1 = true := by
  obtain ⟨clear, hclear, heq⟩ := List.mem_map.mp h
  obtain ⟨c, hc, rfl⟩ := List.mem_map.mp hclear
  obtain ⟨hmem, hvalid⟩ := List.mem_filter.mp hc
  injection heq with hincident
  exact ⟨c, hmem, hincident, (Bool.and_eq_true_iff.mp hvalid).2⟩

lemma moved_none {ev : EvidenceEvent} (hevidence : evidence cfg s ev = []) : Moved cfg s ev incident := by
  have hstep := congrArg (fun registry => stateIn registry incident) (@evidenceStep_registry cfg s ev)
  rw [stateIn_foldl_absorb, hevidence] at hstep
  exact .stays hstep

lemma moved_order (completed : Bool) (sense : Sense) : Moved cfg s (.order completed sense) incident := by
  have hstep := congrArg (fun registry => stateIn registry incident) (@trailedOrder_registry cfg s completed sense)
  rw [stateIn_foldl_absorb, trailerEvidence] at hstep
  cases htaken : admitted s completed with
  | none => exact moved_none (by simp [evidence, trailerEvidence, htaken])
  | some taken =>
    obtain ⟨dec, order⟩ := taken
    cases hcerts : parsedCerts (decisionClearCerts dec) with
    | none => exact moved_none (by simp [evidence, trailerEvidence, htaken, hcerts])
    | some certs =>
      simp only [htaken, hcerts, Option.map_some, Option.getD_some] at hstep
      obtain hstays | ⟨hbefore, hafter, bytes, hmem⟩ :=
        @foldl_advance_onlyClear incident _ clearedBy_onlyClear (stateIn s.incidentRegistry incident)
      · exact .stays (hstep.trans hstays)
      · obtain ⟨c, hc, hnames, hvalid⟩ := validClears_certificate hmem
        have hbrought : c.1 ∈ clearCerts s (.order completed sense) := by
          rw [clearCerts, trailedCerts, htaken]
          simpa [hcerts] using ⟨c.2, hc⟩
        have hview : (evidenceStep cfg s (.order completed sense)).app.witnessContext cfg.toAppConfig =
            newView cfg s (OrderDecision.vehicles order) := by
          rw [evidenceStep, processTrailedOrder, htaken]
          simp only [hcerts, Option.map_some, Option.getD_some]
          exact admitted_processOrder htaken _ sense
        rw [← hview] at hvalid
        exact .clears c.1 hbrought hnames (validateClearCert_signers hvalid) hbefore (hstep.trans hafter)

lemma moved_clear {ev : EvidenceEvent} {cert : ClearCert} {bytes : Bytes} (hbrought : cert ∈ clearCerts s ev)
    (happ : (evidenceStep cfg s ev).app = s.app)
    (hvalid : validateClearCert (s.app.witnessContext cfg.toAppConfig) cert = true)
    (hevidence : evidence cfg s ev = [.clear (clearedIncident cert) bytes]) : Moved cfg s ev incident := by
  have hstep := congrArg (fun registry => stateIn registry incident) (@evidenceStep_registry cfg s ev)
  rw [stateIn_foldl_absorb, hevidence, List.foldl_cons, List.foldl_nil, advance] at hstep
  split at hstep
  next hnamed =>
    refine .clears cert hbrought hnamed.1 (validateClearCert_signers ?_) hnamed.2 hstep
    rw [happ]
    exact hvalid
  next => exact .stays hstep

lemma carriedClear_certificate {carrier : ℤ} {packet : Bytes} {c : ClearCert × Bytes}
    (h : carriedClear cfg s carrier packet = some c) :
    c.1 ∈ clearCerts s (.clearCert carrier packet) ∧
      validateClearCert (s.app.witnessContext cfg.toAppConfig) c.1 = true := by
  rw [carriedClear] at h
  obtain ⟨view, hview, hcarried⟩ := Option.bind_eq_some_iff.mp h
  split at hcarried
  · obtain ⟨cert, hcert, rfl⟩ := Option.map_eq_some_iff.mp hcarried
    obtain ⟨hparse, hgate⟩ := Option.filter_eq_some_iff.mp hcert
    refine ⟨?_, (Bool.and_eq_true_iff.mp hgate).2⟩
    rw [clearCerts, hview, Option.bind_some, hparse]
    exact List.mem_singleton_self cert
  · simp at hcarried

lemma evidenceStep_moved (cfg : RollbackConfig) (s : RollbackState) (ev : EvidenceEvent) (incident : BlockedIncident) :
    Moved cfg s ev incident := by
  cases ev with
  | rollback ev hplain =>
    have hstep := congrArg (fun registry => stateIn registry incident) (@rollbackStep_registry cfg s ev hplain)
    rw [stateIn_foldl_absorb] at hstep
    have honly : ∀ e ∈ rollbackEvidence cfg s ev, ∃ i, e = .blocked i := by
      intro e he
      obtain ⟨cert, -, hmem⟩ := @rollbackEvidence_brought cfg s ev hplain e he
      obtain ⟨-, -, i, -, heq⟩ := blockedBy_certificate hmem
      exact ⟨i, heq⟩
    have hfold := @foldl_advance_onlyBlocked incident _ honly (stateIn s.incidentRegistry incident)
    obtain hstays | ⟨hbefore, hafter, hblocked⟩ := hfold
    · exact .stays (hstep.trans hstays)
    · obtain ⟨cert, hbrought, hmem⟩ := @rollbackEvidence_brought cfg s ev hplain _ hblocked
      obtain ⟨hvalid, hcrash, i, hnames, heq⟩ := blockedBy_certificate hmem
      injection heq with hsame
      exact .blocks cert hbrought hvalid hcrash (hsame ▸ hnames) hbefore (hstep.trans hafter)
  | order completed sense => exact moved_order completed sense
  | clearCert carrier packet =>
    cases henable : cfg.enableRollback with
    | false => exact moved_none (by simp [evidence, henable])
    | true =>
      cases hcarried : carriedClear cfg s carrier packet with
      | none => exact moved_none (by simp [evidence, hcarried])
      | some c =>
        obtain ⟨hbrought, hvalid⟩ := carriedClear_certificate hcarried
        have hevidence : evidence cfg s (.clearCert carrier packet) = [.clear (clearedIncident c.1) c.2] := by
          simp [evidence, henable, hcarried]
        refine moved_clear hbrought ?_ hvalid hevidence
        simp [evidenceStep, handleClearCert, henable, hcarried, onIncidentCleared]
  | clearCertFormed cert =>
    cases hvalid : validateClearCert (s.app.witnessContext cfg.toAppConfig) cert with
    | false => exact moved_none (by simp [evidence, hvalid])
    | true =>
      have hevidence : evidence cfg s (.clearCertFormed cert) =
          [.clear (clearedIncident cert) (serializeClearCert cert)] := by simp [evidence, hvalid]
      refine moved_clear (List.mem_singleton_self cert) ?_ hvalid hevidence
      simp [evidenceStep, broadcastClearCert, hvalid, onIncidentCleared]

lemma Moved.rank_le {ev : EvidenceEvent} (h : Moved cfg s ev incident) :
    (incidentState s incident).rank ≤ (incidentState (evidenceStep cfg s ev) incident).rank := by
  cases h with
  | stays hsame => rw [hsame]
  | blocks cert _ _ _ _ hbefore hafter => simp [hbefore, hafter, IncidentState.rank]
  | clears cert _ _ _ hbefore hafter => simp [hbefore, hafter, IncidentState.rank]

theorem incident_lifecycle (cfg : RollbackConfig) (events later : List EvidenceEvent) (ev : EvidenceEvent)
    (incident : BlockedIncident) :
    let s := run (evidenceStep cfg) .initial events
    Moved cfg s ev incident ∧
      (incidentState s incident).rank ≤ (incidentState (run (evidenceStep cfg) s later) incident).rank := by
  intro s
  refine ⟨evidenceStep_moved cfg s ev incident, ?_⟩
  have hstep : ∀ t e, (incidentState s incident).rank ≤ (incidentState t incident).rank →
      (incidentState s incident).rank ≤ (incidentState (evidenceStep cfg t e) incident).rank :=
    fun t e h => h.trans (evidenceStep_moved cfg t e incident).rank_le
  exact run_invariant hstep later le_rfl

end V2vBft.Rollback
