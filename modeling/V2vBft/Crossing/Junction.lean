import V2vBft.Crossing.Exclusion
import V2vBft.Engine.Agreement

/-! The junction as a whole: replicas that agree on an ORDER, Byzantine ones among them, and the cars that follow it. -/

namespace V2vBft.Crossing

open Wire App Pbft Bridge Scheduler Engine Library.GuardedRun

structure Junction where
  net : Network
  world : World

def Junction.initial (M : Engine.Membership) (primaryId : ℤ) (traci : Traci) : Junction :=
  ⟨.initial M primaryId, .initial traci⟩

inductive JunctionEvent
  | net (e : NetworkEvent)
  | world (e : WorldEvent)

def junctionStep (M : Engine.Membership) (fleet : Fleet) (j : Junction) : JunctionEvent → Junction
  | .net e => { j with net := networkStep M j.net e }
  | .world e => { j with world := worldStep fleet j.world e }

def handedOver (exec : ExecutorEnv) (seq : ℕ) (n : Network) : List Bytes :=
  n.executed.flatMap fun x =>
    if x.2.seq = seq then x.2.data.userRequests.filterMap fun payload => (executeData exec payload).decision else []

-- the network is authentic as for agreement, decisions come from its executions, and `cars` keep to their releases
def Junction.ok (M : Engine.Membership) (fleet : Fleet) (exec : ExecutorEnv) (seq : ℕ) (cars : List ℤ) (j : Junction) :
    JunctionEvent → Prop
  | .net e => authentic M j.net e ∧ agreementOk M j.net e
  | .world (.app i ev) =>
    (∀ d ∈ delivered (fleet.cfg i) (j.world.app i) ev, isCancelDecision d = true ∨ d ∈ handedOver exec seq j.net) ∧
      (∀ rid ∈ ev.cleared, hasCleared j.world.traci rid = true) ∧ inTime (fleet.cfg i) (j.world.app i) ev = true
  | .world (.traci traci) => ∀ rid ∈ cars,
    (hasEntered traci rid = true → hasEntered j.world.traci rid = true ∨ rid ∈ j.world.released) ∧
      (hasEntered j.world.traci rid = true → hasEntered traci rid = true) ∧
      (hasCleared j.world.traci rid = true → hasCleared traci rid = true)

instance instDecidableJunctionOk (M : Engine.Membership) (fleet : Fleet) (exec : ExecutorEnv) (seq : ℕ) (cars : List ℤ)
    (j : Junction) : ∀ ev, Decidable (j.ok M fleet exec seq cars ev)
  | .net e => inferInstanceAs (Decidable (authentic M j.net e ∧ agreementOk M j.net e))
  | .world (.app i ev) => inferInstanceAs (Decidable ((∀ d ∈ delivered (fleet.cfg i) (j.world.app i) ev,
      isCancelDecision d = true ∨ d ∈ handedOver exec seq j.net) ∧
      (∀ rid ∈ ev.cleared, hasCleared j.world.traci rid = true) ∧ inTime (fleet.cfg i) (j.world.app i) ev = true))
  | .world (.traci traci) => inferInstanceAs (Decidable (∀ rid ∈ cars,
      (hasEntered traci rid = true → hasEntered j.world.traci rid = true ∨ rid ∈ j.world.released) ∧
      (hasEntered j.world.traci rid = true → hasEntered traci rid = true) ∧
      (hasCleared j.world.traci rid = true → hasCleared traci rid = true)))

variable {M : Engine.Membership} {fleet : Fleet} {exec : ExecutorEnv} {seq : ℕ} {cars : List ℤ} {j : Junction} {dec : Bytes}

lemma mem_handedOver {n : Network} {d : Bytes} : d ∈ handedOver exec seq n ↔
    ∃ x ∈ n.executed, x.2.seq = seq ∧ ∃ payload ∈ x.2.data.userRequests, (executeData exec payload).decision = some d := by
  simp only [handedOver, List.mem_flatMap]
  refine exists_congr fun x => and_congr_right fun _ => ?_
  by_cases hseq : x.2.seq = seq
  · subst hseq
    simp
  · simp [hseq]

lemma handedOver_step {n : Network} (e : NetworkEvent) :
    ∀ d ∈ handedOver exec seq n, d ∈ handedOver exec seq (networkStep M n e) := by
  intro d hd
  obtain ⟨x, hx, hrest⟩ := mem_handedOver.mp hd
  exact mem_handedOver.mpr ⟨x, List.mem_append_right _ hx, hrest⟩

lemma handedOver_run (events : List JunctionEvent) :
    ∀ d ∈ handedOver exec seq j.net, d ∈ handedOver exec seq (run (junctionStep M fleet) j events).net := by
  induction events generalizing j with
  | nil => exact fun _ hd => hd
  | cons ev events ih =>
    cases ev with
    | net e => exact fun d hd => ih d (handedOver_step e d hd)
    | world e => exact fun d hd => @ih ⟨j.net, worldStep fleet j.world e⟩ d hd

lemma agreementInv_junction (j : Junction) (ev : JunctionEvent) (h : AgreementInv M j.net)
    (hok : j.ok M fleet exec seq cars ev) : AgreementInv M (junctionStep M fleet j ev).net := by
  cases ev with
  | net e => exact agreementInv_step h hok.1 hok.2
  | world e => exact h

lemma sameData {n : Network} (h : AgreementInv M n) {x y : ℤ × Engine.Execution} (hx : x ∈ n.executed) (hy : y ∈ n.executed)
    (hseq : x.2.seq = y.2.seq) : x.2.data = y.2.data := by
  obtain ⟨⟨r, hr, hrseq, hrhash, hrdata⟩, d, hd, hdseq, hdhash⟩ := h.executed x hx
  obtain ⟨⟨r', hr', hrseq', hrhash', hrdata'⟩, d', hd', hdseq', hdhash'⟩ := h.executed y hy
  have hhash : d.hash = d'.hash := h.agree d hd d' hd' (by rw [hdseq, hdseq', hseq])
  rw [← hrdata, ← hrdata']
  exact h.binds r hr r' hr' (by rw [hrseq, hrseq', hseq]) (by rw [hrhash, hrhash', ← hdhash, ← hdhash', hhash])

lemma worldInv_run {events : List JunctionEvent} (hcars : carsOf dec = cars)
    (hok : Guarded (junctionStep M fleet) (Junction.ok M fleet exec seq cars) j events)
    (honly : ∀ d ∈ handedOver exec seq (run (junctionStep M fleet) j events).net, d = dec)
    (h : j.world.Inv fleet dec) : (run (junctionStep M fleet) j events).world.Inv fleet dec := by
  induction events generalizing j with
  | nil => exact h
  | cons ev events ih =>
    obtain ⟨hev, hrest⟩ := hok
    refine ih hrest honly ?_
    cases ev with
    | net e => exact h
    | world e =>
      refine World.Inv.step j.world e h ?_
      cases e with
      | app i ev =>
        refine ⟨fun d hd => (hev.1 d hd).imp_right fun hover => honly d ?_, hev.2⟩
        exact @handedOver_run M fleet exec seq ⟨j.net, worldStep fleet j.world (.app i ev)⟩ events d hover
      | traci traci =>
        subst hcars
        exact hev

theorem consensus_crosses_safely (M : Engine.Membership) (primaryId : ℤ) (fleet : Fleet) (exec : ExecutorEnv) (seq : ℕ)
    (env : BridgeEnv) (s : ConsensusState) (request : Request) (payload : Bytes) (view : ProposalView)
    (haccepts : AcceptsProposal env s request payload view) (horder : view.isCancel = false)
    (traci : Traci) (hstart : ∀ e ∈ orderEntries view, hasEntered traci e.replicaId = false)
    (events : List JunctionEvent)
    (hok : Guarded (junctionStep M fleet)
      (Junction.ok M fleet exec seq ((orderEntries view).map VehicleEntry.replicaId)) (.initial M primaryId traci) events)
    (x : ℤ × Engine.Execution) (hx : x ∈ (run (junctionStep M fleet) (.initial M primaryId traci) events).net.executed)
    (hseq : x.2.seq = seq) (hdata : x.2.data = .batch [payload]) :
    CrossesSafely (orderEntries view) (run (junctionStep M fleet) (.initial M primaryId traci) events).world.traci := by
  have hdec := (haccepts.orderDecision horder exec).1
  have hs := accepted_scheduled haccepts horder hdec
  have hnet := hok.invariant agreementInv_junction (agreementInv_initial M primaryId)
  refine (worldInv_run hs.carsOf hok (fun d hd => ?_) (worldInv_start hs hstart)).crossesSafely hs
  obtain ⟨y, hy, hyseq, p, hp, hd⟩ := mem_handedOver.mp hd
  rw [← sameData hnet hx hy (hseq.trans hyseq.symm), hdata] at hp
  obtain rfl := List.mem_singleton.mp hp
  exact Option.some.inj (hd.symm.trans hdec)

def agreeThenCross : List JunctionEvent :=
  (twoReplicaEvents [0, 1, 2, 3] [0, 1, 2, 3]).map .net ++ (twoBatches fourCarOrder).map .world

theorem consensus_crosses_safely_fourCars :
    CrossesSafely (orderEntries (listingView 0 [0, 1, 2, 3]))
      (run (junctionStep eightMembers sameCars) (.initial eightMembers 1 (carsAt ["N", "N", "N", "N"]))
        agreeThenCross).world.traci := by
  have haccepts : AcceptsProposal eightCarEnv (primaryIs 1) (listingRequest 0 [0, 1, 2, 3])
      (listingPayload 0 [0, 1, 2, 3]) (listingView 0 [0, 1, 2, 3]) :=
    ⟨Or.inl rfl, rfl, by decide +kernel, by decide +kernel⟩
  exact consensus_crosses_safely eightMembers 1 sameCars plainExecutor 1 eightCarEnv (primaryIs 1)
    (listingRequest 0 [0, 1, 2, 3]) (listingPayload 0 [0, 1, 2, 3]) (listingView 0 [0, 1, 2, 3]) haccepts rfl
    (carsAt ["N", "N", "N", "N"]) (by decide +kernel) agreeThenCross (by decide +kernel)
    (2, ⟨1, 1, ascii "omnet-tx-3", .batch [listingPayload 0 [0, 1, 2, 3]]⟩) (by decide +kernel) rfl rfl

end V2vBft.Crossing
