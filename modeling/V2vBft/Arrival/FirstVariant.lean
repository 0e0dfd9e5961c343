import V2vBft.Arrival.WitnessFacts

/-! One claim variant for each witness, car and epoch: kept until a rollback forgets the first one. -/

namespace V2vBft.Arrival

open Wire App Library.GuardedRun

variable {cfg : ArrivalConfig} {n : ArrivalNode} {r : ArrivalRun} {ev : ArrivalEvent} {ann : ArrivalAnnouncement}

def firstHeard (cfg : ArrivalConfig) : List ArrivalObservation → Bytes → Option Bytes
  | [], _ => none
  | o :: older, variant =>
    (firstHeard cfg older variant).or
      (match o.announcement with
        | none => none
        | some ann => if variantKey ann = variant then some (arrivalAnnouncementHash cfg ann) else none)

lemma firstHeard_cons {o : ArrivalObservation} {older : List ArrivalObservation} {v h : Bytes}
    (hfirst : firstHeard cfg older v = some h) : firstHeard cfg (o :: older) v = some h := by
  rw [firstHeard, hfirst, Option.some_or]

lemma firstHeard_heard {o : ArrivalObservation} {older : List ArrivalObservation} (ho : o.announcement = some ann)
    (hfirst : ∀ h, firstHeard cfg older (variantKey ann) = some h → h = arrivalAnnouncementHash cfg ann) :
    firstHeard cfg (o :: older) (variantKey ann) = some (arrivalAnnouncementHash cfg ann) := by
  cases hold : firstHeard cfg older (variantKey ann) with
  | some h => rw [firstHeard_cons hold, hfirst h hold]
  | none => simp [firstHeard, hold, ho]

structure FirstsStep (cfg : ArrivalConfig) (n : ArrivalNode) (ev : ArrivalEvent) : Prop where
  keyed : Keyed (arrivalStep cfg n ev).1.arrival
  firsts : ∀ v h, (arrivalStep cfg n ev).1.arrival.firstArrivalClaimHashes.lookup v = some h →
    n.arrival.firstArrivalClaimHashes.lookup v = some h ∨
      ∃ ann, heard cfg n ev = some ann ∧ n.arrival.firstArrivalClaimHashes.lookup (variantKey ann) = none ∧
        v = variantKey ann ∧ h = arrivalAnnouncementHash cfg ann
  echoes : ∀ e ∈ (arrivalStep cfg n ev).2.echoes,
    (arrivalStep cfg n ev).1.arrival.firstArrivalClaimHashes.lookup e.variant = some e.claimHash
  perceived : ∀ ann, (arrivalStep cfg n ev).2.perceived = some ann →
    (arrivalStep cfg n ev).1.arrival.firstArrivalClaimHashes.lookup (variantKey ann) =
      some (arrivalAnnouncementHash cfg ann)
  looks : ∀ ann, heard cfg n ev = some ann →
    n.arrival.firstArrivalClaimHashes.lookup (variantKey ann) = none → (arrivalStep cfg n ev).2.perceived = some ann

lemma perceiveArrival_firsts (cfg : ArrivalConfig) (s : ArrivalState) (ann : ArrivalAnnouncement)
    (fresh : ArrivalPerceptionSample) :
    (perceiveArrival cfg s ann fresh).1.firstArrivalClaimHashes = s.firstArrivalClaimHashes ∧
      ∀ a, (perceiveArrival cfg s ann fresh).2 = some a → a = ann := by
  rw [perceiveArrival]
  split
  next => exact ⟨rfl, fun a ha => by cases ha⟩
  next => exact ⟨rfl, fun a ha => (Option.some.inj ha).symm⟩

lemma perceiveArrival_keyed {s : ArrivalState} (h : Keyed s) (fresh : ArrivalPerceptionSample)
    (hfirst : s.firstArrivalClaimHashes.lookup (variantKey ann) = some (arrivalAnnouncementHash cfg ann)) :
    Keyed (perceiveArrival cfg s ann fresh).1 := by
  rw [perceiveArrival]
  split
  next => exact h
  next => exact h.perceive fresh hfirst

lemma refuseAnnouncement_keyed {s : ArrivalState} (h : Keyed s) (sample : ArrivalPerceptionSample)
    (hfirst : (s.firstArrivalClaimHashes.lookup (variantKey ann)).isSome) :
    Keyed (refuseAnnouncement cfg s ann sample).1 ∧
      (refuseAnnouncement cfg s ann sample).1.firstArrivalClaimHashes = s.firstArrivalClaimHashes := by
  rw [refuseAnnouncement]
  dsimp only
  split
  next => exact ⟨(h.reject hfirst).store _ _, rfl⟩
  next => exact ⟨h.reject hfirst, rfl⟩

lemma acceptAnnouncement_sent (cfg : ArrivalConfig) (app : AppState) (s : ArrivalState) (ann : ArrivalAnnouncement)
    (sign : Bytes → Option Bytes) :
    ∃ r, EchoSent cfg (s.store (vehicleStateOf ann ann.lane (gatedIsAmbulance cfg ann)) (arrivalAnnouncementHash cfg ann))
        { ann with isAmbulance := gatedIsAmbulance cfg ann } sign r ∧
      (acceptAnnouncement cfg app s ann sign).1 = r.1 ∧ (acceptAnnouncement cfg app s ann sign).2.echoes = r.2.echoes ∧
      (acceptAnnouncement cfg app s ann sign).2.signed = r.2.signed :=
  ⟨_, sendArrivalEcho_sent .., rfl, rfl, rfl⟩

lemma considered_firsts {app : AppState} {s : ArrivalState} {fresh : ArrivalPerceptionSample}
    {sign : Bytes → Option Bytes} {out : ArrivalState × ArrivalEffects}
    (h : Considered cfg app s ann fresh sign out) (hkeyed : Keyed s) :
    Keyed out.1 ∧ out.1.firstArrivalClaimHashes = (admitVariant cfg s ann).1.firstArrivalClaimHashes ∧
      (∀ e ∈ out.2.echoes, out.1.firstArrivalClaimHashes.lookup e.variant = some e.claimHash) ∧
      ∀ a, out.2.perceived = some a → a = ann ∧ out.1.firstArrivalClaimHashes.lookup (variantKey ann) =
        some (arrivalAnnouncementHash cfg ann) := by
  have hadmitted := admitVariant_admitted cfg s ann
  have hkept := hadmitted.keyed hkeyed
  obtain ⟨hseenFirsts, hseen⟩ := perceiveArrival_firsts cfg (admitVariant cfg s ann).1 ann fresh
  cases h with
  | ignored => exact ⟨hkept, rfl, by simp [ArrivalEffects.none], by simp [ArrivalEffects.none]⟩
  | resent echo hadm hecho =>
    refine ⟨hkept, rfl, fun e he => ?_, by simp [ArrivalEffects.none]⟩
    obtain rfl := List.mem_singleton.mp he
    obtain ⟨hv, hh, -⟩ := hkeyed.echo hecho
    rw [hv, hh]
    exact hadmitted.first hadm
  | refused hadm =>
    have hfirst := hadmitted.first hadm
    have hsample := perceiveArrival_keyed hkept fresh hfirst
    obtain ⟨hrefused, hfirsts⟩ := refuseAnnouncement_keyed hsample (sampleFor cfg s ann fresh)
      (by rw [hseenFirsts, hfirst]; rfl)
    refine ⟨hrefused, hfirsts.trans hseenFirsts, by simp [ArrivalEffects.none], fun a ha => ⟨hseen a ha, ?_⟩⟩
    rw [hfirsts, hseenFirsts]
    exact hfirst
  | accepted _ hadm =>
    have hfirst := hadmitted.first hadm
    have hsample := (perceiveArrival_keyed hkept fresh hfirst).store
      (vehicleStateOf ann ann.lane (gatedIsAmbulance cfg ann)) (arrivalAnnouncementHash cfg ann)
    obtain ⟨sent, hsent, hstate, hechoes, -⟩ := acceptAnnouncement_sent cfg app
      (perceiveArrival cfg (admitVariant cfg s ann).1 ann fresh).1 ann sign
    have hfirsts : sent.1.firstArrivalClaimHashes = (admitVariant cfg s ann).1.firstArrivalClaimHashes :=
      hsent.firsts.trans hseenFirsts
    have hcar : variantKey { ann with isAmbulance := gatedIsAmbulance cfg ann } = variantKey ann := rfl
    dsimp only
    rw [hstate, hechoes]
    refine ⟨hsent.keyed hsample ?_, hfirsts, (hsent.aboutFirst hsample).echoes, fun a ha => ⟨hseen a ha, ?_⟩⟩
    · rw [hcar]
      change ((perceiveArrival cfg (admitVariant cfg s ann).1 ann fresh).1.firstArrivalClaimHashes.lookup
        (variantKey ann)).isSome
      rw [hseenFirsts, hfirst]
      rfl
    · rw [hfirsts]
      exact hfirst

lemma considered_looks {app : AppState} {s : ArrivalState} {fresh : ArrivalPerceptionSample}
    {sign : Bytes → Option Bytes} (hkeyed : Keyed s)
    (hnone : s.firstArrivalClaimHashes.lookup (variantKey ann) = none) :
    (considerAnnouncement cfg app s ann fresh sign).2.perceived = some ann := by
  obtain ⟨hecho, hsample, hrej⟩ := hkeyed.untouched cfg hnone
  rw [considerAnnouncement, admitVariant]
  simp only [hnone, hecho, hrej, Bool.not_true, Bool.false_eq_true, if_false, Option.isSome_none]
  rw [evaluateAnnouncement, perceiveArrival]
  simp only [hsample, Option.isSome_none, Bool.false_eq_true, if_false]
  split <;> rfl

lemma arrivalStep_firsts (cfg : ArrivalConfig) (ev : ArrivalEvent) (hkeyed : Keyed n.arrival) :
    FirstsStep cfg n ev := by
  cases hw : ev.witness with
  | none =>
    obtain ⟨hdeaf, hcaches, hechoes, hperceived⟩ := arrivalStep_claimant cfg n hw
    refine ⟨?_, fun v h hv => Or.inl ?_, ?_, ?_, ?_⟩
    · rcases hcaches with hsame | hreset
      · exact hsame.keyed hkeyed
      · rw [hreset]
        exact .initial
    · rcases hcaches with hsame | hreset
      · rwa [hsame.firsts] at hv
      · rw [hreset] at hv
        cases hv
    · rw [hechoes]
      simp
    · rw [hperceived]
      simp
    · rw [hdeaf]
      simp
  | some w =>
    obtain ⟨fresh, sign⟩ := w
    have hstep := arrivalStep_witness cfg n hw
    cases hheard : heard cfg n ev with
    | none =>
      rw [hheard] at hstep
      refine ⟨?_, fun v h hv => Or.inl ?_, ?_, ?_, ?_⟩
      · rw [hstep]
        exact hkeyed
      · rwa [hstep] at hv
      · simp [hstep, ArrivalEffects.none]
      · simp [hstep, ArrivalEffects.none]
      · rw [hheard]
        simp
    | some ann =>
      rw [hheard] at hstep
      obtain ⟨hkeyed', hfirsts, hechoes, hperceived⟩ :=
        considered_firsts (considerAnnouncement_considered cfg n.app n.arrival ann fresh sign) hkeyed
      refine ⟨?_, fun v h hv => ?_, ?_, ?_, ?_⟩
      · rw [hstep]
        exact hkeyed'
      · rw [hstep] at hv
        change List.lookup v (considerAnnouncement cfg n.app n.arrival ann fresh sign).1.firstArrivalClaimHashes =
          some h at hv
        rw [hfirsts] at hv
        rcases (admitVariant_admitted cfg n.arrival ann).firsts.adopted v h hv with hold | ⟨hnone, hk, hc⟩
        · exact Or.inl hold
        · exact Or.inr ⟨ann, hheard, hk ▸ hnone, hk, hc⟩
      · rw [hstep]
        exact hechoes
      · rw [hstep]
        intro a ha
        obtain ⟨rfl, hfirst⟩ := hperceived a ha
        exact hfirst
      · intro a ha hnone
        rw [hheard] at ha
        obtain rfl := Option.some.inj ha
        rw [hstep]
        exact considered_looks hkeyed hnone

def sentEchoes (trace : List ArrivalObservation) : List ArrivalEcho := trace.flatMap fun o => o.effects.echoes

structure OneVariant (cfg : ArrivalConfig) (trace : List ArrivalObservation) : Prop where
  echoes : ∀ e ∈ sentEchoes trace, ∀ e' ∈ sentEchoes trace, e.epoch = e'.epoch → e.targetCarId = e'.targetCarId →
    e.claimHash = e'.claimHash
  perceived : ∀ o ∈ trace, ∀ ann, o.effects.perceived = some ann →
    firstHeard cfg trace (variantKey ann) = some (arrivalAnnouncementHash cfg ann)

-- a claim that meets no record is not a second one: no rollback has dropped the record of another claim
def NotForgotten (cfg : ArrivalConfig) (r : ArrivalRun) (ev : ArrivalEvent) : Prop :=
  ∀ ann, heard cfg r.node ev = some ann →
    r.node.arrival.firstArrivalClaimHashes.lookup (variantKey ann) = none →
    ∀ h, firstHeard cfg r.trace (variantKey ann) = some h → h = arrivalAnnouncementHash cfg ann

structure VariantInv (cfg : ArrivalConfig) (r : ArrivalRun) : Prop where
  keyed : Keyed r.node.arrival
  firsts : ∀ v h, r.node.arrival.firstArrivalClaimHashes.lookup v = some h → firstHeard cfg r.trace v = some h
  echoes : ∀ o ∈ r.trace, ∀ e ∈ o.effects.echoes, firstHeard cfg r.trace e.variant = some e.claimHash
  perceived : ∀ o ∈ r.trace, ∀ ann, o.effects.perceived = some ann →
    firstHeard cfg r.trace (variantKey ann) = some (arrivalAnnouncementHash cfg ann)

lemma VariantInv.step (h : VariantInv cfg r) (hok : NotForgotten cfg r ev) :
    VariantInv cfg (arrivalRunStep cfg r ev) := by
  have hstep := arrivalStep_firsts cfg ev h.keyed
  have hfirsts : ∀ v c, (arrivalStep cfg r.node ev).1.arrival.firstArrivalClaimHashes.lookup v = some c →
      firstHeard cfg (arrivalRunStep cfg r ev).trace v = some c := by
    intro v c hc
    rcases hstep.firsts v c hc with hold | ⟨ann, hheard, hnone, rfl, rfl⟩
    · exact firstHeard_cons (h.firsts v c hold)
    · exact firstHeard_heard hheard (hok ann hheard hnone)
  refine ⟨hstep.keyed, hfirsts, fun o ho e he => ?_, fun o ho ann hann => ?_⟩
  · rcases List.mem_cons.mp ho with rfl | ho
    · exact hfirsts _ _ (hstep.echoes e he)
    · exact firstHeard_cons (h.echoes o ho e he)
  · rcases List.mem_cons.mp ho with rfl | ho
    · exact hfirsts _ _ (hstep.perceived ann hann)
    · exact firstHeard_cons (h.perceived o ho ann hann)

lemma VariantInv.initial : VariantInv cfg .initial :=
  ⟨.initial, by simp [ArrivalRun.initial, ArrivalNode.initial, ArrivalState.initial], by simp [ArrivalRun.initial],
    by simp [ArrivalRun.initial]⟩

lemma VariantInv.oneVariant (h : VariantInv cfg r) : OneVariant cfg r.trace where
  echoes := by
    intro e he e' he' hepoch hcar
    obtain ⟨o, ho, he⟩ := List.mem_flatMap.mp he
    obtain ⟨o', ho', he'⟩ := List.mem_flatMap.mp he'
    have hkey : e.variant = e'.variant := by rw [ArrivalEcho.variant, ArrivalEcho.variant, hepoch, hcar]
    have heq := (h.echoes o ho e he).symm.trans ((congrArg _ hkey).trans (h.echoes o' ho' e' he'))
    exact Option.some.inj heq
  perceived := h.perceived

def PerceivedSecond (cfg : ArrivalConfig) (r : ArrivalRun) : Prop :=
  ∃ o ∈ r.trace, ∃ ann h, o.effects.perceived = some ann ∧ firstHeard cfg r.trace (variantKey ann) = some h ∧
    h ≠ arrivalAnnouncementHash cfg ann

lemma PerceivedSecond.step (h : PerceivedSecond cfg r) (ev : ArrivalEvent) :
    PerceivedSecond cfg (arrivalRunStep cfg r ev) := by
  obtain ⟨o, ho, ann, c, hann, hfirst, hne⟩ := h
  exact ⟨o, List.mem_cons_of_mem _ ho, ann, c, hann, firstHeard_cons hfirst, hne⟩

lemma PerceivedSecond.of_forgotten (h : Keyed r.node.arrival) (hno : ¬NotForgotten cfg r ev) :
    PerceivedSecond cfg (arrivalRunStep cfg r ev) := by
  rw [NotForgotten] at hno
  push Not at hno
  obtain ⟨ann, hheard, hnone, c, hfirst, hne⟩ := hno
  exact ⟨_, List.mem_cons_self, ann, c, (arrivalStep_firsts cfg ev h).looks ann hheard hnone, firstHeard_cons hfirst, hne⟩

theorem one_variant_iff (cfg : ArrivalConfig) (events : List ArrivalEvent) :
    OneVariant cfg (run (arrivalRunStep cfg) .initial events).trace ↔
      Guarded (arrivalRunStep cfg) (NotForgotten cfg) .initial events := by
  constructor
  · intro h
    refine guarded_of_not_bad (fun r => Keyed r.node.arrival) (PerceivedSecond cfg) (fun r e hr => (arrivalStep_firsts cfg e hr).keyed) (fun r e hr => hr.step e)
      (fun r e hr hno => .of_forgotten hr hno) Keyed.initial ?_
    rintro ⟨o, ho, ann, c, hann, hfirst, hne⟩
    rw [h.perceived o ho ann hann] at hfirst
    exact hne (Option.some.inj hfirst).symm
  · intro h
    exact (Guarded.invariant (fun r e hr hok => hr.step hok) VariantInv.initial h).oneVariant

-- car 1 declares left, and once CANCEL 0 has cleared the caches it declares right for epoch 0 again
def twoClaims : List ArrivalEvent :=
  announced (signedWith [11] (northCar "veh1" 0 .left)) ::
    (cancelledWait.map .app ++ [announced (signedWith [11] (northCar "veh1" 0 .right))])

theorem second_variant_echoed :
    ¬OneVariant fourWitnesses (run (arrivalRunStep fourWitnesses) .initial twoClaims).trace := by
  intro h
  obtain ⟨e, he, e', he', hepoch, hcar, hne⟩ :
      ∃ e ∈ sentEchoes (run (arrivalRunStep fourWitnesses) .initial twoClaims).trace,
        ∃ e' ∈ sentEchoes (run (arrivalRunStep fourWitnesses) .initial twoClaims).trace,
          e.epoch = e'.epoch ∧ e.targetCarId = e'.targetCarId ∧ e.claimHash ≠ e'.claimHash := by
    decide +kernel
  exact hne (h.echoes e he e' he' hepoch hcar)

end V2vBft.Arrival
