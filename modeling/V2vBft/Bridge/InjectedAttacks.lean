import V2vBft.Bridge.OrderSoundness

/-! The attacks that a Byzantine proposer is made to inject into its ORDER, and the followers that turn them down. -/

namespace V2vBft.Bridge

open Wire Pbft

-- the entries as written over, and the replica id of the one changed
structure Injection where
  entries : List VehicleEntry
  target : Option ℤ
  deriving DecidableEq, Repr

def alterFirst (p : VehicleEntry → Bool) (alter : VehicleEntry → VehicleEntry) : List VehicleEntry → Injection
  | [] => ⟨[], none⟩
  | e :: entries =>
    if p e then ⟨alter e :: entries, some e.replicaId⟩
    else ⟨e :: (alterFirst p alter entries).entries, (alterFirst p alter entries).target⟩

def applyByzantineFakeAmbulance (entries : List VehicleEntry) : Injection :=
  alterFirst (fun e => decide (e.isAmbulance = 0)) (fun e => { e with isAmbulance := 1 }) entries

def applyByzantineUpgradeUnknownDirection (entries : List VehicleEntry) : Injection :=
  alterFirst (fun e => decide (e.cyberStatus = 1) && decide (e.direction = 3)) (fun e => { e with direction := 0 }) entries

def applyByzantineTamperDistanceRank (entries : List VehicleEntry) : Injection :=
  alterFirst (fun e => decide (e.cyberStatus = 1))
    (fun e => { e with positionInLane := if e.positionInLane = 255 then 254 else e.positionInLane + 1 }) entries

def applyByzantineTamperPhysicalLane (entries : List VehicleEntry) : Injection :=
  alterFirst (fun e => decide (e.cyberStatus = 1) && decide (e.physicalLaneIndex ≤ 1))
    (fun e =>
      { e with
        physicalLaneIndex := if e.physicalLaneIndex = 0 then 1 else 0
        lateralClaimCm := if e.physicalLaneIndex = 0 then 320 else 0 }) entries

def frontEastCar (entries : List VehicleEntry) : ℕ × ℕ :=
  entries.zipIdx.foldl (fun best x =>
    if x.1.lane = 2 ∧ x.1.cyberStatus = 1 ∧ x.1.positionInLane < best.2 then (x.2, x.1.positionInLane) else best)
    (entries.length, 255)

def applyByzantineTamperLane (entries : List VehicleEntry) : Injection :=
  match entries[(frontEastCar entries).1]? with
  | none => ⟨entries, none⟩
  | some e => ⟨entries.set (frontEastCar entries).1 { e with lane := 1, positionInLane := 0 }, some e.replicaId⟩

inductive InjectedAttack
  | fakeAmbulance
  | tamperLane
  | upgradeUnknownDirection
  | tamperDistanceRank
  | tamperPhysicalLane
  deriving DecidableEq, Repr

def InjectedAttack.apply : InjectedAttack → List VehicleEntry → Injection
  | .fakeAmbulance => applyByzantineFakeAmbulance
  | .tamperLane => applyByzantineTamperLane
  | .upgradeUnknownDirection => applyByzantineUpgradeUnknownDirection
  | .tamperDistanceRank => applyByzantineTamperDistanceRank
  | .tamperPhysicalLane => applyByzantineTamperPhysicalLane

structure Forged (e e' : VehicleEntry) : Prop where
  replicaId : e'.replicaId = e.replicaId
  status : e'.cyberStatus = e.cyberStatus ∧ e'.simTimeUs = e.simTimeUs
  differs : e'.lane ≠ e.lane ∨ e'.positionInLane ≠ e.positionInLane ∨ e'.direction ≠ e.direction ∨
    e'.isAmbulance ≠ e.isAmbulance ∨ e'.physicalLaneIndex ≠ e.physicalLaneIndex

structure Injected (entries : List VehicleEntry) (i : Injection) (e e' : VehicleEntry) : Prop where
  before : e ∈ entries
  after : e' ∈ i.entries
  target : i.target = some e.replicaId
  forged : Forged e e'

variable {env : BridgeEnv} {s s' : ConsensusState} {request : Request} {view : ProposalView} {certs : List CertEntry}
  {entries : List VehicleEntry} {target : ℤ} {attack : InjectedAttack}

lemma MatchesCert.forged {e e' : VehicleEntry} {ce : CertEntry} (h : Forged e e') (hbefore : MatchesCert e ce)
    (hafter : MatchesCert e' ce) : False := by
  rcases h.differs with hne | hne | hne | hne | hne
  · exact hne (hafter.lane.trans hbefore.lane.symm)
  · exact hne (hafter.positionInLane.trans hbefore.positionInLane.symm)
  · exact hne (hafter.direction.trans hbefore.direction.symm)
  · exact hne (hafter.isAmbulance.trans hbefore.isAmbulance.symm)
  · exact hne (hafter.physicalLaneIndex.trans hbefore.physicalLaneIndex.symm)

lemma alterFirst_injected {p : VehicleEntry → Bool} {alter : VehicleEntry → VehicleEntry}
    (htarget : (alterFirst p alter entries).target = some target) (hforges : ∀ e, p e = true → Forged e (alter e)) :
    ∃ e, p e = true ∧ Injected entries (alterFirst p alter entries) e (alter e) ∧ e.replicaId = target := by
  induction entries with
  | nil => exact absurd htarget (by simp [alterFirst])
  | cons first rest ih =>
    by_cases hp : p first = true
    · simp only [alterFirst, if_pos hp] at htarget ⊢
      exact ⟨first, hp, ⟨List.mem_cons_self, List.mem_cons_self, rfl, hforges first hp⟩, Option.some.inj htarget⟩
    · simp only [alterFirst, if_neg hp] at htarget ⊢
      obtain ⟨e, he, hinjected, hid⟩ := ih htarget
      exact ⟨e, he, ⟨List.mem_cons_of_mem _ hinjected.before, List.mem_cons_of_mem _ hinjected.after, hinjected.target,
        hinjected.forged⟩, hid⟩

lemma frontEastCar_lane {e : VehicleEntry} (h : entries[(frontEastCar entries).1]? = some e) :
    e.lane = 2 ∧ e.cyberStatus = 1 := by
  have hfold : ∀ (l : List (VehicleEntry × ℕ)) (best : ℕ × ℕ), (∀ x ∈ l, entries[x.2]? = some x.1) →
      (∀ e, entries[best.1]? = some e → e.lane = 2 ∧ e.cyberStatus = 1) →
      ∀ e, entries[(l.foldl (fun best x =>
        if x.1.lane = 2 ∧ x.1.cyberStatus = 1 ∧ x.1.positionInLane < best.2 then (x.2, x.1.positionInLane) else best)
        best).1]? = some e → e.lane = 2 ∧ e.cyberStatus = 1 := by
    intro l
    induction l with
    | nil => exact fun best _ hbest => hbest
    | cons x l ih =>
      intro best hindex hbest
      rw [List.foldl_cons]
      refine ih _ (fun y hy => hindex y (List.mem_cons_of_mem _ hy)) ?_
      split
      next hfront =>
        intro e he
        obtain rfl := Option.some.inj ((hindex x List.mem_cons_self).symm.trans he)
        exact ⟨hfront.1, hfront.2.1⟩
      next => exact hbest
  refine hfold entries.zipIdx (entries.length, 255) (fun x hx => ?_) (fun e he => ?_) e h
  · exact List.mem_zipIdx_iff_getElem?.mp hx
  · exact absurd he (by simp)

lemma InjectedAttack.injected (h : (attack.apply entries).target = some target) :
    ∃ e e', Injected entries (attack.apply entries) e e' ∧ e.replicaId = target ∧
      (attack = .fakeAmbulance → e'.isAmbulance ≠ 0) := by
  cases attack with
  | fakeAmbulance =>
    simp only [InjectedAttack.apply, applyByzantineFakeAmbulance] at h ⊢
    obtain ⟨e, -, hinjected, hid⟩ := alterFirst_injected h fun e hp =>
      ⟨rfl, ⟨rfl, rfl⟩, Or.inr (Or.inr (Or.inr (Or.inl (by simp [of_decide_eq_true hp]))))⟩
    exact ⟨e, _, hinjected, hid, fun _ => one_ne_zero⟩
  | tamperLane =>
    simp only [InjectedAttack.apply, applyByzantineTamperLane] at h ⊢
    split at h
    next => exact absurd h (by simp)
    next e he =>
      obtain ⟨hlane, -⟩ := frontEastCar_lane he
      have hlt := (List.getElem?_eq_some_iff.mp he).1
      exact ⟨e, _, ⟨List.mem_of_getElem? he, List.mem_set hlt _, rfl, rfl, ⟨rfl, rfl⟩, Or.inl (by simp [hlane])⟩,
        Option.some.inj h, fun hfake => absurd hfake (by simp)⟩
  | upgradeUnknownDirection =>
    simp only [InjectedAttack.apply, applyByzantineUpgradeUnknownDirection] at h ⊢
    obtain ⟨e, -, hinjected, hid⟩ := alterFirst_injected h fun e hp =>
      ⟨rfl, ⟨rfl, rfl⟩, Or.inr (Or.inr (Or.inl (by simp [of_decide_eq_true (Bool.and_eq_true_iff.mp hp).2])))⟩
    exact ⟨e, _, hinjected, hid, fun hfake => absurd hfake (by simp)⟩
  | tamperDistanceRank =>
    simp only [InjectedAttack.apply, applyByzantineTamperDistanceRank] at h ⊢
    obtain ⟨e, -, hinjected, hid⟩ := alterFirst_injected h fun e hp =>
      ⟨rfl, ⟨rfl, rfl⟩, Or.inr (Or.inl (by dsimp only; split <;> omega))⟩
    exact ⟨e, _, hinjected, hid, fun hfake => absurd hfake (by simp)⟩
  | tamperPhysicalLane =>
    simp only [InjectedAttack.apply, applyByzantineTamperPhysicalLane] at h ⊢
    obtain ⟨e, -, hinjected, hid⟩ := alterFirst_injected h fun e hp =>
      ⟨rfl, ⟨rfl, rfl⟩, Or.inr (Or.inr (Or.inr (Or.inr (by dsimp only; split <;> omega))))⟩
    exact ⟨e, _, hinjected, hid, fun hfake => absurd hfake (by simp)⟩

def canCheck (certs : List CertEntry) (entries : List VehicleEntry) (target : ℤ) : Bool :=
  certBacked certs target && entries.all fun e => decide (e.replicaId ≠ target) || !isQuiet e

def agreesWithCerts (certs : List CertEntry) (entries : List VehicleEntry) : Bool :=
  entries.all fun e => certs.all fun ce => decide (ce.replicaId ≠ e.replicaId) || fieldsMatchCert e ce

lemma agreesWithCerts_spec (h : agreesWithCerts certs entries = true) {e : VehicleEntry} (he : e ∈ entries) {ce : CertEntry}
    (hce : ce ∈ certs) (hid : ce.replicaId = e.replicaId) : MatchesCert e ce := by
  have hmatch := List.all_eq_true.mp (List.all_eq_true.mp h e he) ce hce
  simp only [hid, ne_eq, not_true_eq_false, decide_false, Bool.false_or, fieldsMatchCert, Bool.and_eq_true,
    decide_eq_true_eq] at hmatch
  obtain ⟨⟨⟨⟨⟨h₁, h₂⟩, h₃⟩, h₄⟩, h₅⟩, h₆⟩ := hmatch
  exact ⟨h₁, h₂, h₃, h₄, h₅, h₆⟩

lemma canCheck_spec (h : canCheck certs entries target = true) :
    (∃ ce ∈ certs, ce.replicaId = target) ∧ ∀ e ∈ entries, e.replicaId = target → isQuiet e = false := by
  obtain ⟨hbacked, hall⟩ := Bool.and_eq_true_iff.mp h
  refine ⟨List.mem_map.mp (of_decide_eq_true hbacked), fun e he hid => ?_⟩
  simpa [hid] using List.all_eq_true.mp hall e he

structure CarriesOrder (request : Request) (view : ProposalView) : Prop where
  type : request.type = .prePrepare ∨ request.type = .newTxns
  payload : ∃ payload rest, request.data = .batch (payload :: rest) ∧ unwrapRollbackIfPresent payload = some view
  order : view.isCancel = false

lemma CarriesOrder.rejected (h : CarriesOrder request view) (hno : ∀ s', ¬AcceptsOrder env s request view s') :
    (preVerify env s request).1 = false := by
  refine eq_false_of_ne_true fun haccepted => hno (preVerify env s request).2 ⟨h.type, h.payload, h.order, ?_⟩
  exact Prod.ext haccepted rfl

theorem injected_attack_rejected (env : BridgeEnv) (s : ConsensusState) (request : Request) (view : ProposalView)
    (certs : List CertEntry) (hcerts : env.certSnapshot = some certs) (entries : List VehicleEntry)
    (hagrees : agreesWithCerts certs entries = true) (attack : InjectedAttack) (target : ℤ)
    (htarget : (attack.apply entries).target = some target) (hcarries : CarriesOrder request view)
    (hentries : orderEntries view = (attack.apply entries).entries)
    (hcheck : attack = .fakeAmbulance ∨ canCheck certs entries target = true) : (preVerify env s request).1 = false := by
  obtain ⟨e, e', hinjected, rfl, hamb⟩ := InjectedAttack.injected htarget
  refine hcarries.rejected fun s' haccepts => ?_
  have hadm := haccepts.admitted
  have he' : e' ∈ orderEntries view := hentries ▸ hinjected.after
  obtain ⟨hsigned, ce, hce, hid⟩ : isSigned e' = true ∧ ∃ ce ∈ certs, ce.replicaId = e'.replicaId := by
    rcases hcheck with hfake | hcheck
    · exact hadm.ambulance hcerts he' (hamb hfake)
    · obtain ⟨hheld, hquiet⟩ := canCheck_spec hcheck
      refine ⟨(hadm.isSigned_iff he').mpr ?_, hinjected.forged.replicaId ▸ hheld⟩
      have hq := hquiet e hinjected.before rfl
      simpa only [isQuiet, hinjected.forged.status.1, hinjected.forged.status.2] using hq
  have hbefore := agreesWithCerts_spec hagrees hinjected.before hce (hid.trans hinjected.forged.replicaId)
  exact hbefore.forged hinjected.forged (hadm.matchesCert hcerts he' hsigned hce hid)

def listedCars : List VehicleEntry := [0, 1, 2, 3].map fun (i : ℕ) => VehicleEntry.mk i 7 0 (i % 4) 0 1 1 0 0

def attackedPayload (entries : List VehicleEntry) : Bytes :=
  (ProposeHdr.mk 1 0 5 entries.length).bytes ++ entries.flatMap VehicleEntry.bytes

def attackedRequest (entries : List VehicleEntry) : Request :=
  { listingRequest 0 [0, 1, 2, 3] with data := .batch [attackedPayload entries] }

theorem injected_attack_rejected_tamperLane :
    (preVerify eightCarEnv (primaryIs 1) (attackedRequest (applyByzantineTamperLane listedCars).entries)).1 = false :=
  injected_attack_rejected eightCarEnv (primaryIs 1) (attackedRequest (applyByzantineTamperLane listedCars).entries)
    (.initial (attackedPayload (applyByzantineTamperLane listedCars).entries)) _ rfl listedCars (by decide +kernel)
    .tamperLane 2 (by decide +kernel) ⟨Or.inl rfl, ⟨_, _, rfl, by decide +kernel⟩, rfl⟩ (by decide +kernel)
    (Or.inr (by decide +kernel))

example : (preVerify eightCarEnv (primaryIs 1) (attackedRequest listedCars)).1 = true := by decide +kernel

def suppressCerts (replicaId : ℤ) : ℕ → List VehicleEntry → List VehicleEntry × List ℤ
  | _, [] => ([], [])
  | 0, entries => (entries, [])
  | required + 1, e :: entries =>
    if e.replicaId = replicaId ∨ e.cyberStatus ≠ 1 ∨ e.simTimeUs = uint64Max then
      (e :: (suppressCerts replicaId (required + 1) entries).1, (suppressCerts replicaId (required + 1) entries).2)
    else
      ({ e with cyberStatus := 0, simTimeUs := uint64Max } :: (suppressCerts replicaId required entries).1,
        e.replicaId :: (suppressCerts replicaId required entries).2)

def suppressionFaults (toleratedFaults totalVehicles : ℤ) : ℤ :=
  if 0 ≤ toleratedFaults then toleratedFaults else (totalVehicles - 1).tdiv 3

def applyByzantineSuppressCerts (replicaId toleratedFaults totalVehicles : ℤ) (entries : List VehicleEntry) :
    List VehicleEntry × List ℤ :=
  suppressCerts replicaId (suppressionFaults toleratedFaults totalVehicles + 1).toNat entries

lemma suppressCerts_ids (replicaId : ℤ) (required : ℕ) (entries : List VehicleEntry) :
    (suppressCerts replicaId required entries).2.Sublist
      ((suppressCerts replicaId required entries).1.map VehicleEntry.replicaId) := by
  induction entries generalizing required with
  | nil => cases required <;> exact List.Sublist.refl _
  | cons e entries ih =>
    cases required with
    | zero => exact List.nil_sublist _
    | succ required =>
      simp only [suppressCerts]
      split
      · exact (ih (required + 1)).cons _
      · exact (ih required).cons_cons _

lemma suppressCerts_quiet (replicaId : ℤ) (required : ℕ) (entries : List VehicleEntry) :
    ∀ i ∈ (suppressCerts replicaId required entries).2,
      ∃ e ∈ (suppressCerts replicaId required entries).1, e.replicaId = i ∧ isQuiet e = true := by
  induction entries generalizing required with
  | nil => cases required <;> exact fun i hi => absurd hi List.not_mem_nil
  | cons e entries ih =>
    cases required with
    | zero => exact fun i hi => absurd hi List.not_mem_nil
    | succ required =>
      intro i hi
      simp only [suppressCerts] at hi ⊢
      split at hi
      next hskip =>
        obtain ⟨x, hx, hrest⟩ := ih (required + 1) i hi
        rw [if_pos hskip]
        exact ⟨x, List.mem_cons_of_mem _ hx, hrest⟩
      next htake =>
        rw [if_neg htake]
        rcases List.mem_cons.mp hi with rfl | hi
        · exact ⟨_, List.mem_cons_self, rfl, by simp [isQuiet]⟩
        · obtain ⟨x, hx, hrest⟩ := ih required i hi
          exact ⟨x, List.mem_cons_of_mem _ hx, hrest⟩

theorem suppressed_certs_rejected (env : BridgeEnv) (s : ConsensusState) (request : Request) (view : ProposalView)
    (certs : List CertEntry) (hcerts : env.certSnapshot = some certs) (entries : List VehicleEntry)
    (replicaId toleratedFaults totalVehicles : ℤ)
    (hlimit : (env.expected - 1) / 3 ≤ suppressionFaults toleratedFaults totalVehicles)
    (hfull : ((applyByzantineSuppressCerts replicaId toleratedFaults totalVehicles entries).2.length : ℤ) =
      suppressionFaults toleratedFaults totalVehicles + 1)
    (hheld : ∀ i ∈ (applyByzantineSuppressCerts replicaId toleratedFaults totalVehicles entries).2,
      certBacked certs i = true) (hcarries : CarriesOrder request view)
    (hentries : orderEntries view = (applyByzantineSuppressCerts replicaId toleratedFaults totalVehicles entries).1) :
    (preVerify env s request).1 = false := by
  refine hcarries.rejected fun s' haccepts => ?_
  have hadm := haccepts.admitted
  set suppressed := (applyByzantineSuppressCerts replicaId toleratedFaults totalVehicles entries).2 with hsuppressed
  have hnodup : suppressed.Nodup := by
    have hids := hadm.distinct
    rw [hentries] at hids
    exact hids.sublist (suppressCerts_ids _ _ _)
  have hsub : suppressed.toFinset ⊆ quietVehicles certs (orderEntries view) := by
    intro i hi
    have hmem := List.mem_toFinset.mp hi
    refine Finset.mem_inter.mpr ⟨List.mem_toFinset.mpr (of_decide_eq_true (hheld i hmem)), ?_⟩
    obtain ⟨e, he, hid, hquiet⟩ := suppressCerts_quiet _ _ _ i hmem
    rw [hentries]
    exact List.mem_toFinset.mpr (List.mem_map.mpr ⟨e, List.mem_filter.mpr ⟨he, hquiet⟩, hid⟩)
  have hcard := Finset.card_le_card hsub
  rw [List.toFinset_card_of_nodup hnodup] at hcard
  have hmany := @AdmittedOrder.quietVehicles_card env s view certs hadm
  have hfew := (hadm.certChecked hcerts).omitted
  omega

theorem suppressed_certs_rejected_listing :
    (preVerify eightCarEnv (primaryIs 1) (attackedRequest (applyByzantineSuppressCerts 0 2 8 listedCars).1)).1 = false :=
  suppressed_certs_rejected eightCarEnv (primaryIs 1)
    (attackedRequest (applyByzantineSuppressCerts 0 2 8 listedCars).1)
    (.initial (attackedPayload (applyByzantineSuppressCerts 0 2 8 listedCars).1)) _ rfl listedCars 0 2 8 (by decide)
    (by decide +kernel) (by decide +kernel) ⟨Or.inl rfl, ⟨_, _, rfl, by decide +kernel⟩, rfl⟩ (by decide +kernel)

end V2vBft.Bridge
