import V2vBft.App.GossipFacts
import V2vBft.App.HaltInvariant

namespace V2vBft.App

open Wire Library.GuardedRun

variable {cfg : AppConfig} {g : GossipConfig} {s : Gossiping} {e : ℕ}

-- a frame does not bring an ORDER of a tombstoned epoch under another epoch's number
def frameNamesEpoch (s : Gossiping) : GossipEvent → Bool
  | .app (.decisionGossip _ inner _) =>
    (gossipParse inner).all fun gossip =>
      (orderEpoch gossip.2).all fun epoch => decide (epoch = gossip.1) || !s.app.isEpochTombstoned epoch
  | _ => true

structure LeavesAlone (fx : GossipEffects) (epoch : ℕ) : Prop where
  applied : ∀ order, fx.applied = some order → order.epoch ≠ epoch
  adopted : ∀ number orderBytes, fx.adopted = some (number, orderBytes) →
    number ≠ epoch ∧ orderEpoch orderBytes ≠ some epoch
  sent : ∀ frame ∈ fx.sent, frame.kind = .decision → frame.epoch ≠ epoch ∧ orderEpoch frame.bytes ≠ some epoch

def RepeatsOwnEpoch (s : Gossiping) : Prop :=
  s.gossipOrderBytes ≠ [] → orderEpoch s.gossipOrderBytes = some s.gossipEpoch

lemma RepeatsOwnEpoch.sent {ev : GossipEvent} {frame : GossipFrame} (h : RepeatsOwnEpoch s)
    (hframe : frame ∈ (gossipStep cfg g s ev).2.sent) (hkind : frame.kind = .decision) :
    orderEpoch frame.bytes = some frame.epoch ∧ s.app.isEpochTombstoned frame.epoch = false := by
  cases (gossipStep_spec cfg g s ev).source frame hframe with
  | order rest _ hqueue hepoch hlive => exact ⟨hepoch, hlive⟩
  | retry _ hepoch hbytes hne hlive =>
    rw [hbytes, hepoch]
    exact ⟨h hne, hepoch ▸ hlive⟩
  | cancelDecided _ _ _ dec rest hkind' => exact absurd (hkind.symm.trans hkind') (by simp)
  | cancelAdopted senderId inner recallable hkind' => exact absurd (hkind.symm.trans hkind') (by simp)
  | cancelRetry hkind' => exact absurd (hkind.symm.trans hkind') (by simp)

lemma RepeatsOwnEpoch.step (s : Gossiping) (ev : GossipEvent) (h : RepeatsOwnEpoch s) :
    RepeatsOwnEpoch (gossipNext cfg g s ev) := by
  intro hne
  rcases (gossipStep_spec cfg g s ev).kept.order with hnil | ⟨hepoch, hbytes⟩ | hsent
  · exact absurd hnil hne
  · rw [gossipNext, hepoch, hbytes]
    exact h (hbytes ▸ hne)
  · exact (h.sent hsent rfl).1

lemma gossipNext_tombstoned (s : Gossiping) (ev : GossipEvent) (h : s.app.isEpochTombstoned e = true) :
    (gossipNext cfg g s ev).app.isEpochTombstoned e = true := by
  cases ev with
  | gossipTimer =>
    rw [gossipNext, gossipStep, (gossipTimer_sent cfg g s).2.1]
    exact h
  | cancelGossipTimer =>
    rw [gossipNext, gossipStep, (cancelGossipTimer_sent cfg g s).2.1]
    exact h
  | app ev =>
    rw [gossipNext, gossipStep_app]
    cases appStep_epochs cfg s.app ev with
    | kept hsame _ => exact (hsame.isEpochTombstoned e).trans h
    | applied order _ hsame _ _ => exact (hsame.isEpochTombstoned e).trans h
    | cancelled dec _ hcancel _ => rw [hcancel.tombstoned, h, Bool.or_true]

lemma appliedOrder_live {ev : GossipEvent} {order : OrderDecision}
    (h : (gossipStep cfg g s ev).2.applied = some order) : s.app.isEpochTombstoned order.epoch = false := by
  cases ev with
  | gossipTimer => exact absurd h (by simp [gossipStep])
  | cancelGossipTimer => exact absurd h (by simp [gossipStep])
  | app ev =>
    cases appStep_epochs cfg s.app ev with
    | kept _ hnone => exact absurd (hnone.symm.trans h) (by simp)
    | cancelled _ _ _ hnone => exact absurd (hnone.symm.trans h) (by simp)
    | applied o hsrc _ happlied _ =>
      obtain rfl := Option.some.inj (happlied.symm.trans h)
      obtain ⟨_, _, _, _, _, -, -, -, horder⟩ := hsrc
      exact isEpochTombstoned_of_admitted horder

theorem tombstoned_order_idle (cfg : AppConfig) (g : GossipConfig) (before later : List GossipEvent)
    (ev : GossipEvent) (e : ℕ)
    (hok : Guarded (gossipNext cfg g) (fun s ev => frameNamesEpoch s ev = true) .initial (before ++ later ++ [ev]))
    (htomb : (run (gossipNext cfg g) .initial before).app.isEpochTombstoned e = true) :
    LeavesAlone (gossipStep cfg g (run (gossipNext cfg g) .initial (before ++ later)) ev).2 e := by
  obtain ⟨-, hlast⟩ := guarded_snoc hok
  have hown : RepeatsOwnEpoch (run (gossipNext cfg g) .initial (before ++ later)) :=
    run_invariant RepeatsOwnEpoch.step _ fun h => absurd rfl h
  have hlater : (run (gossipNext cfg g) .initial (before ++ later)).app.isEpochTombstoned e = true := by
    rw [run_append]
    exact run_invariant gossipNext_tombstoned later htomb
  set s := run (gossipNext cfg g) .initial (before ++ later)
  have hne : ∀ k, s.app.isEpochTombstoned k = false → k ≠ e := by
    rintro k hk rfl
    exact absurd (hlater.symm.trans hk) (by simp)
  refine ⟨fun order happlied => hne _ (appliedOrder_live happlied), ?_, fun frame hframe hkind => ?_⟩
  · intro number orderBytes hadopt
    cases ev with
    | gossipTimer => exact absurd hadopt (by simp [gossipStep])
    | cancelGossipTimer => exact absurd hadopt (by simp [gossipStep])
    | app ev =>
      cases ev with
      | decisionGossip senderId inner completed =>
        obtain ⟨hparse, hlive, -⟩ := adoptedOrder_some hadopt
        refine ⟨hne _ hlive, fun hepoch => ?_⟩
        simp only [frameNamesEpoch, hparse, Option.all_some, hepoch, Bool.or_eq_true, decide_eq_true_eq,
          Bool.not_eq_true'] at hlast
        rcases hlast with heq | hlive'
        · exact hne _ hlive heq.symm
        · exact hne _ hlive' rfl
      | _ => exact absurd hadopt (by simp [gossipStep, adoptedBy])
  · obtain ⟨hepoch, hlive⟩ := hown.sent hframe hkind
    exact ⟨hne _ hlive, fun hsame => hne _ hlive (Option.some.inj (hepoch.symm.trans hsame))⟩

def gossipOn : GossipConfig := ⟨true, 0, 0⟩

theorem tombstoned_order_idle_wait :
    LeavesAlone (gossipStep fourCars gossipOn (run (gossipNext fourCars gossipOn) .initial
      (cancelledWait.map .app ++ [.app (.orderDecided (orderDecisionBytes 0 [(2, 0)]))])) .gossipTimer).2 0 :=
  tombstoned_order_idle fourCars gossipOn (cancelledWait.map .app)
    [.app (.orderDecided (orderDecisionBytes 0 [(2, 0)]))] .gossipTimer 0 (by decide +kernel) (by decide +kernel)

def misnumbered (senderId : ℤ) : GossipEvent :=
  .app (.decisionGossip senderId (gossipSerialize 1 (orderDecisionBytes 0 [(2, 0)])) false)

-- frames for epoch 1 that carry an ORDER of the tombstoned epoch 0
theorem misnumbered_adopted :
    (run (gossipNext fourCars gossipOn) .initial (cancelledWait.map .app)).app.isEpochTombstoned 0 = true ∧
      (gossipStep fourCars gossipOn (run (gossipNext fourCars gossipOn) .initial
        (cancelledWait.map .app ++ [misnumbered 0])) (misnumbered 1)).2.adopted =
          some (1, orderDecisionBytes 0 [(2, 0)]) ∧
      orderEpoch (orderDecisionBytes 0 [(2, 0)]) = some 0 := by
  decide +kernel

end V2vBft.App
