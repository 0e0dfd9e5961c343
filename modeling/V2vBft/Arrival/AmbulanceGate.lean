import V2vBft.Arrival.FirstVariant

/-! The ambulance check of an announcement, and the two ways around it. -/

namespace V2vBft.Arrival

open Wire App Library.GuardedRun

variable {cfg : ArrivalConfig} {r : ArrivalRun} {ev : ArrivalEvent} {ann : ArrivalAnnouncement}

def verifiedAmbulance (cfg : ArrivalConfig) (ann : ArrivalAnnouncement) : Bool :=
  decide (ann.ambulanceCertBytes.length = vehicleCertSize) &&
    decide (verifyCert cfg ann.ambulanceCertBytes = ascii "ambulance") && ambulanceSignatureVerifies cfg ann

def carriesEmergencyCert (cfg : ArrivalConfig) (ann : ArrivalAnnouncement) : Bool :=
  decide (certIssuer ann.ambulanceCertBytes = ascii "Emergency_CA") && verifiedAmbulance cfg ann

-- no certificate bytes at all, or a certificate of the other authority
def slipsPastGate (cfg : ArrivalConfig) (ann : ArrivalAnnouncement) : Bool :=
  ann.isAmbulance && (decide (ann.ambulanceCertBytes = []) ||
    (decide (certIssuer ann.ambulanceCertBytes ≠ ascii "Emergency_CA") && verifiedAmbulance cfg ann))

lemma gatedIsAmbulance_iff (cfg : ArrivalConfig) (ann : ArrivalAnnouncement) :
    gatedIsAmbulance cfg ann = true ↔
      ann.isAmbulance = true ∧ (carriesEmergencyCert cfg ann = true ∨ slipsPastGate cfg ann = true) := by
  have heff : gatedIsAmbulance cfg ann = effectiveIsAmbulance cfg ann := by
    rw [gatedIsAmbulance]
    split
    next h => simp only [Bool.and_eq_true, Bool.not_eq_true'] at h; exact h.2.symm
    next => rfl
  have hempty : ann.ambulanceCertBytes = [] → ann.ambulanceCertBytes.length ≠ vehicleCertSize := by
    rintro h
    simp [h, vehicleCertSize]
  rw [heff, effectiveIsAmbulance, slipsPastGate, carriesEmergencyCert, verifiedAmbulance]
  cases hclaim : ann.isAmbulance with
  | false => simp
  | true =>
    by_cases hlen : ann.ambulanceCertBytes.length = vehicleCertSize
    · have hne : ann.ambulanceCertBytes ≠ [] := fun h => hempty h hlen
      by_cases hrole : verifyCert cfg ann.ambulanceCertBytes = ascii "ambulance"
      · by_cases hissuer : certIssuer ann.ambulanceCertBytes = ascii "Emergency_CA"
        · simp [hlen, hne, hrole, hissuer]
        · simp [hlen, hne, hrole, hissuer]
      · simp [hlen, hne, hrole]
    · simp [hlen]

lemma not_carries_of_slips (h : slipsPastGate cfg ann = true) : carriesEmergencyCert cfg ann = false := by
  simp only [slipsPastGate, Bool.and_eq_true, Bool.or_eq_true, decide_eq_true_eq] at h
  rcases h.2 with hempty | ⟨hissuer, -⟩
  · simp [carriesEmergencyCert, verifiedAmbulance, hempty, vehicleCertSize]
  · simp [carriesEmergencyCert, hissuer]

def Backed (cfg : ArrivalConfig) (trace : List ArrivalObservation) (e : ArrivalEcho) : Prop :=
  ∃ o ∈ trace, ∃ ann, o.announcement = some ann ∧ variantKey ann = e.variant ∧
    arrivalAnnouncementHash cfg ann = e.claimHash ∧ carriesEmergencyCert cfg ann = true

lemma Backed.cons {trace : List ArrivalObservation} {e : ArrivalEcho} (h : Backed cfg trace e)
    (o : ArrivalObservation) : Backed cfg (o :: trace) e := by
  obtain ⟨o', ho', h⟩ := h
  exact ⟨o', List.mem_cons_of_mem o ho', h⟩

structure AmbulanceGate (cfg : ArrivalConfig) (trace : List ArrivalObservation) : Prop where
  stored : ∀ o ∈ trace, ∀ ann vs, o.announcement = some ann → o.effects.stored = some vs → vs.isAmbulance = true →
    carriesEmergencyCert cfg ann = true
  echoed : ∀ e ∈ sentEchoes trace, e.isAmbulance = true → Backed cfg trace e
  cancelled : ∀ o ∈ trace, ∀ ann, o.announcement = some ann → o.effects.emergency ≠ none →
    carriesEmergencyCert cfg ann = true

-- the replica accepts no ambulance claim without certificate bytes, nor one certified by another authority
def NoGap (cfg : ArrivalConfig) (r : ArrivalRun) (ev : ArrivalEvent) : Prop :=
  ∀ ann fresh sign, heard cfg r.node ev = some ann → ev.witness = some (fresh, sign) →
    acceptsAnnouncement cfg r.node.arrival ann fresh = true → slipsPastGate cfg ann = false

lemma emergencyRollback_isAmbulance {app : AppState} {carId : Bytes} {isAmbulance : Bool}
    (h : emergencyRollback cfg app carId isAmbulance ≠ none) : isAmbulance = true := by
  by_contra hno
  rw [Bool.not_eq_true] at hno
  exact h (by simp [emergencyRollback, hno])

structure GateStep (cfg : ArrivalConfig) (s : ArrivalState) (ann : ArrivalAnnouncement)
    (fresh : ArrivalPerceptionSample) (out : ArrivalState × ArrivalEffects) : Prop where
  accepted : out.2.emergency ≠ none ∨ (∃ vs, out.2.stored = some vs ∧ vs.isAmbulance = true) →
    acceptsAnnouncement cfg s ann fresh = true ∧ gatedIsAmbulance cfg ann = true
  echoes : ∀ e, e ∈ out.2.echoes ∨ (∃ k, (k, e) ∈ out.1.cachedArrivalEchoes) → e.isAmbulance = true →
    (∃ k, (k, e) ∈ s.cachedArrivalEchoes) ∨
      acceptsAnnouncement cfg s ann fresh = true ∧ gatedIsAmbulance cfg ann = true ∧ e.variant = variantKey ann ∧
        e.claimHash = arrivalAnnouncementHash cfg ann

lemma EchoSent.ambulance {s : ArrivalState} {sign : Bytes → Option Bytes} {out : ArrivalState × ArrivalEffects}
    (h : EchoSent cfg s ann sign out) (e : ArrivalEcho)
    (he : e ∈ out.2.echoes ∨ ∃ k, (k, e) ∈ out.1.cachedArrivalEchoes) :
    (∃ k, (k, e) ∈ s.cachedArrivalEchoes) ∨ e.isAmbulance = ann.isAmbulance ∧ e.variant = variantKey ann ∧
      e.claimHash = arrivalAnnouncementHash cfg ann := by
  cases h with
  | cached echo hecho =>
    rcases he with he | he
    · obtain rfl := List.mem_singleton.mp he
      exact Or.inl ⟨_, mem_of_lookup hecho⟩
    · exact Or.inl he
  | silent => exact Or.inl (he.resolve_left (by simp [ArrivalEffects.none]))
  | rejected => exact Or.inl (he.resolve_left (by simp [ArrivalEffects.none]))
  | signed sample echo hsample hecho =>
    have hnew : echo.isAmbulance = ann.isAmbulance ∧ echo.variant = variantKey ann ∧
        echo.claimHash = arrivalAnnouncementHash cfg ann := by
      rw [hecho]
      exact ⟨rfl, rfl, rfl⟩
    rcases he with he | ⟨k, hk⟩
    · obtain rfl := List.mem_singleton.mp he
      exact Or.inr hnew
    · rcases List.mem_cons.mp hk with heq | hk
      · obtain ⟨-, rfl⟩ := Prod.mk.inj heq
        exact Or.inr hnew
      · exact Or.inl ⟨k, hk⟩

lemma considered_gate {app : AppState} {s : ArrivalState} {fresh : ArrivalPerceptionSample}
    {sign : Bytes → Option Bytes} {out : ArrivalState × ArrivalEffects}
    (h : Considered cfg app s ann fresh sign out) : GateStep cfg s ann fresh out := by
  have hcaches := (admitVariant_admitted cfg s ann).caches.1
  have hseen := perceiveArrival_echoes cfg (admitVariant cfg s ann).1 ann fresh
  cases h with
  | ignored =>
    refine ⟨by simp [ArrivalEffects.none], fun e he _ => Or.inl ?_⟩
    rw [hcaches] at he
    exact he.resolve_left (by simp [ArrivalEffects.none])
  | resent echo hadm hecho =>
    refine ⟨by simp [ArrivalEffects.none], fun e he _ => Or.inl ?_⟩
    rw [hcaches] at he
    rcases he with he | he
    · obtain rfl := List.mem_singleton.mp he
      exact ⟨_, mem_of_lookup hecho⟩
    · exact he
  | refused hadm hnew =>
    obtain ⟨hkept, hplain⟩ := refuseAnnouncement_echoes cfg
      (perceiveArrival cfg (admitVariant cfg s ann).1 ann fresh).1 ann (sampleFor cfg s ann fresh)
    refine ⟨?_, fun e he _ => Or.inl ?_⟩
    · rintro (hno | ⟨vs, hvs, hamb⟩)
      · exact absurd rfl hno
      · rw [hplain vs hvs] at hamb
        cases hamb
    · rw [hkept, hseen, hcaches] at he
      exact he.resolve_left (by simp [ArrivalEffects.none])
  | accepted haccept hadm =>
    obtain ⟨sent, hsent, hstate, hechoes, -⟩ := acceptAnnouncement_sent cfg app
      (perceiveArrival cfg (admitVariant cfg s ann).1 ann fresh).1 ann sign
    refine ⟨?_, fun e he hamb => ?_⟩
    · rintro (hem | ⟨vs, hvs, hamb⟩)
      · exact ⟨haccept, emergencyRollback_isAmbulance hem⟩
      · obtain rfl := Option.some.inj hvs
        exact ⟨haccept, hamb⟩
    · dsimp only at he
      rw [hstate, hechoes] at he
      rcases hsent.ambulance e he with ⟨k, hk⟩ | ⟨hflag, hvariant, hhash⟩
      · refine Or.inl ⟨k, ?_⟩
        rw [← hcaches, ← hseen]
        exact hk
      · have hgate : gatedIsAmbulance cfg ann = true := hflag.symm.trans hamb
        have hclaim : { ann with isAmbulance := gatedIsAmbulance cfg ann } = ann := by
          rw [hgate, ← ((gatedIsAmbulance_iff cfg ann).mp hgate).1]
        rw [hclaim] at hvariant hhash
        exact Or.inr ⟨haccept, hgate, hvariant, hhash⟩

structure GateInv (cfg : ArrivalConfig) (r : ArrivalRun) : Prop where
  gate : AmbulanceGate cfg r.trace
  cached : ∀ k e, (k, e) ∈ r.node.arrival.cachedArrivalEchoes → e.isAmbulance = true → Backed cfg r.trace e

lemma GateInv.quiet (h : GateInv cfg r) {n : ArrivalNode} {o : ArrivalObservation}
    (hechoes : ∀ e ∈ o.effects.echoes, e.isAmbulance = true → Backed cfg (o :: r.trace) e)
    (hstored : ∀ ann vs, o.announcement = some ann → o.effects.stored = some vs → vs.isAmbulance = true →
      carriesEmergencyCert cfg ann = true)
    (hcancelled : ∀ ann, o.announcement = some ann → o.effects.emergency ≠ none → carriesEmergencyCert cfg ann = true)
    (hcached : ∀ k e, (k, e) ∈ n.arrival.cachedArrivalEchoes → e.isAmbulance = true → Backed cfg (o :: r.trace) e) :
    GateInv cfg ⟨n, o :: r.trace⟩ where
  gate :=
    { stored := by
        intro o' ho' ann vs hann hvs hamb
        rcases List.mem_cons.mp ho' with rfl | ho'
        · exact hstored ann vs hann hvs hamb
        · exact h.gate.stored o' ho' ann vs hann hvs hamb
      echoed := by
        intro e he hamb
        rw [sentEchoes, List.flatMap_cons, List.mem_append] at he
        rcases he with he | he
        · exact hechoes e he hamb
        · exact (h.gate.echoed e he hamb).cons o
      cancelled := by
        intro o' ho' ann hann hem
        rcases List.mem_cons.mp ho' with rfl | ho'
        · exact hcancelled ann hann hem
        · exact h.gate.cancelled o' ho' ann hann hem }
  cached := hcached

lemma GateInv.step (h : GateInv cfg r) (hok : NoGap cfg r ev) : GateInv cfg (arrivalRunStep cfg r ev) := by
  cases hw : ev.witness with
  | none =>
    obtain ⟨hdeaf, hcaches, hechoes, -⟩ := arrivalStep_claimant cfg r.node hw
    refine h.quiet ?_ (by simp [hdeaf]) (by simp [hdeaf]) fun k e he hamb => ?_
    · simp [hechoes]
    · rcases hcaches with hsame | hreset
      · rw [hsame.echoes] at he
        exact (h.cached k e he hamb).cons _
      · rw [hreset] at he
        cases he
  | some w =>
    obtain ⟨fresh, sign⟩ := w
    have hstep := arrivalStep_witness cfg r.node hw
    cases hheard : heard cfg r.node ev with
    | none =>
      rw [hheard] at hstep
      refine h.quiet ?_ (by simp [hheard]) (by simp [hheard]) fun k e he hamb => ?_
      · simp [hstep, ArrivalEffects.none]
      · rw [hstep] at he
        exact (h.cached k e he hamb).cons _
    | some ann =>
      rw [hheard] at hstep
      have hgate := considered_gate (considerAnnouncement_considered cfg r.node.app r.node.arrival ann fresh sign)
      have hcarries : acceptsAnnouncement cfg r.node.arrival ann fresh = true → gatedIsAmbulance cfg ann = true →
          carriesEmergencyCert cfg ann = true := by
        intro haccept hamb
        rcases ((gatedIsAmbulance_iff cfg ann).mp hamb).2 with hcert | hslip
        · exact hcert
        · rw [hok ann fresh sign hheard hw haccept] at hslip
          cases hslip
      have hbacked : ∀ e, e ∈ (arrivalStep cfg r.node ev).2.echoes ∨
          (∃ k, (k, e) ∈ (arrivalStep cfg r.node ev).1.arrival.cachedArrivalEchoes) → e.isAmbulance = true →
          Backed cfg (arrivalRunStep cfg r ev).trace e := by
        intro e he hamb
        rw [hstep] at he
        rcases hgate.echoes e he hamb with ⟨k, hk⟩ | ⟨haccept, hflag, hvariant, hhash⟩
        · exact (h.cached k e hk hamb).cons _
        · exact ⟨_, List.mem_cons_self, ann, hheard, hvariant.symm, hhash.symm, hcarries haccept hflag⟩
      refine h.quiet (fun e he => hbacked e (Or.inl he)) ?_ ?_ fun k e he => hbacked e (Or.inr ⟨k, he⟩)
      · intro a vs ha hvs hamb
        obtain rfl := Option.some.inj (hheard.symm.trans ha)
        rw [hstep] at hvs
        obtain ⟨haccept, hflag⟩ := hgate.accepted (Or.inr ⟨vs, hvs, hamb⟩)
        exact hcarries haccept hflag
      · intro a ha hem
        obtain rfl := Option.some.inj (hheard.symm.trans ha)
        rw [hstep] at hem
        obtain ⟨haccept, hflag⟩ := hgate.accepted (Or.inl hem)
        exact hcarries haccept hflag

lemma GateInv.initial : GateInv cfg .initial :=
  ⟨⟨by simp [ArrivalRun.initial], by simp [ArrivalRun.initial, sentEchoes], by simp [ArrivalRun.initial]⟩,
    by simp [ArrivalRun.initial, ArrivalNode.initial, ArrivalState.initial]⟩

def StoredBare (cfg : ArrivalConfig) (r : ArrivalRun) : Prop :=
  ∃ o ∈ r.trace, ∃ ann vs, o.announcement = some ann ∧ o.effects.stored = some vs ∧ vs.isAmbulance = true ∧
    carriesEmergencyCert cfg ann = false

lemma StoredBare.step (h : StoredBare cfg r) (ev : ArrivalEvent) : StoredBare cfg (arrivalRunStep cfg r ev) := by
  obtain ⟨o, ho, h⟩ := h
  exact ⟨o, List.mem_cons_of_mem _ ho, h⟩

lemma StoredBare.of_gap (hno : ¬NoGap cfg r ev) : StoredBare cfg (arrivalRunStep cfg r ev) := by
  rw [NoGap] at hno
  push Not at hno
  obtain ⟨ann, fresh, sign, hheard, hw, haccept, hslip⟩ := hno
  rw [ne_eq, Bool.not_eq_false] at hslip
  have hstep := arrivalStep_witness cfg r.node hw
  rw [hheard] at hstep
  have hclaim : ann.isAmbulance = true := by
    rw [slipsPastGate, Bool.and_eq_true] at hslip
    exact hslip.1
  refine ⟨_, List.mem_cons_self, ann, vehicleStateOf ann ann.lane (gatedIsAmbulance cfg ann), hheard, ?_,
    (gatedIsAmbulance_iff cfg ann).mpr ⟨hclaim, Or.inr hslip⟩, not_carries_of_slips hslip⟩
  rw [hstep]
  exact considerAnnouncement_accepts haccept

theorem ambulance_gate_iff (cfg : ArrivalConfig) (events : List ArrivalEvent) :
    AmbulanceGate cfg (run (arrivalRunStep cfg) .initial events).trace ↔
      Guarded (arrivalRunStep cfg) (NoGap cfg) .initial events := by
  constructor
  · intro h
    refine guarded_of_not_bad (fun _ => True) (StoredBare cfg) (fun _ _ _ => trivial)
      (fun r e hr => hr.step e) (fun r e _ hno => .of_gap hno) trivial ?_
    rintro ⟨o, ho, ann, vs, hann, hvs, hamb, hbare⟩
    rw [h.stored o ho ann vs hann hvs hamb] at hbare
    cases hbare
  · intro h
    exact (Guarded.invariant (fun r e hr hok => hr.step hok) GateInv.initial h).gate

def fakeAmbulance : ArrivalAnnouncement := signedWith [11] { northCar "veh1" 0 .left with isAmbulance := true }

theorem bare_claim_echoed :
    fourWitnesses.enableAmbulanceCertGate = true ∧
    (run (arrivalRunStep fourWitnesses) .initial [announced fakeAmbulance]).trace.flatMap
        (fun o => o.effects.echoes.map ArrivalEcho.isAmbulance) = [true] ∧
    ¬AmbulanceGate fourWitnesses (run (arrivalRunStep fourWitnesses) .initial [announced fakeAmbulance]).trace := by
  refine ⟨rfl, by decide +kernel, fun h => ?_⟩
  obtain ⟨o, ho, hann, hvs⟩ :
      ∃ o ∈ (run (arrivalRunStep fourWitnesses) .initial [announced fakeAmbulance]).trace,
        o.announcement = some fakeAmbulance ∧
          o.effects.stored = some (vehicleStateOf fakeAmbulance (ascii "N") true) := by
    decide +kernel
  exact absurd (h.stored o ho _ _ hann hvs rfl) (by decide +kernel)

end V2vBft.Arrival
