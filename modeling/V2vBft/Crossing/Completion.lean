import V2vBft.Crossing.ActiveBatch

/-! Without CANCELs and crashes the vehicles of an ORDER never wait for each other in a circle. -/

namespace V2vBft.Crossing

open Wire App Arrival Pbft Bridge Scheduler Library.GuardedRun Library.BatchGate

variable {cfg : AppConfig} {s s' : AppState} {fleet : Fleet} {dec : Bytes} {w : World} {ev : AppEvent}
  {entries : List VehicleEntry} {order : OrderDecision} {released : Prop} {rid : ℤ}

def calm : AppEvent → Bool
  | .orderDecided _ => true
  | .decisionGossip _ _ _ => true
  | .processOrder _ _ _ => true
  | .clearancePoll formed _ _ => formed.isEmpty
  | .resumeTimer => true
  | .orderTimeout => true
  | _ => false

def World.calm (fleet : Fleet) (w : World) : WorldEvent → Prop
  | .app i ev => Crossing.calm ev = true ∧ ∀ d ∈ delivered (fleet.cfg i) (w.app i) ev, isCancelDecision d = false
  | .traci _ => True

instance instDecidableWorldCalm (fleet : Fleet) (w : World) : ∀ ev, Decidable (w.calm fleet ev)
  | .app i ev => inferInstanceAs (Decidable (Crossing.calm ev = true ∧
      ∀ d ∈ delivered (fleet.cfg i) (w.app i) ev, isCancelDecision d = false))
  | .traci _ => inferInstanceAs (Decidable True)

structure CalmInv (s : AppState) (released : Prop) : Prop where
  pending : ∀ d ∈ s.pendingOrders, isCancelDecision d = false
  active : s.cancelActive = false
  first : s.myBatchIndex = 0 → released
  polls : s.waiting = true → s.pollScheduled = true ∨ released

structure SameSlot (s s' : AppState) : Prop where
  active : s'.cancelActive = s.cancelActive
  index : s'.myBatchIndex = s.myBatchIndex
  behind : s'.precedingBatchCars = s.precedingBatchCars
  polls : s'.pollScheduled = s.pollScheduled

lemma calmInv_initial : CalmInv .initial released :=
  ⟨fun _ hd => absurd hd List.not_mem_nil, rfl, fun h => absurd h (by decide), fun h => absurd h (by decide)⟩

lemma CalmInv.same (h : CalmInv s released) (hs : SameSlot s s')
    (hpending : ∀ d ∈ s'.pendingOrders, isCancelDecision d = false) : CalmInv s' released := by
  have hwaiting : s'.waiting = s.waiting := by rw [AppState.waiting, AppState.waiting, hs.index, hs.behind]
  refine ⟨hpending, hs.active.trans h.active, fun hz => h.first (hs.index ▸ hz), fun hw => ?_⟩
  rw [hs.polls]
  exact h.polls (hwaiting ▸ hw)

lemma CalmInv.mono {released' : Prop} (h : CalmInv s released) (himp : released → released') : CalmInv s released' :=
  ⟨h.pending, h.active, fun hz => himp (h.first hz), fun hw => (h.polls hw).imp_right himp⟩

lemma handleDecisionGossip_slot (senderId : ℤ) (inner : Bytes) (completed : Bool) :
    SameSlot s (handleDecisionGossip cfg s senderId inner completed) := by
  unfold handleDecisionGossip recordOrderVote
  repeat' split
  all_goals exact ⟨rfl, rfl, rfl, rfl⟩

lemma CalmInv.applyOrder (h : CalmInv s released) (now : ℤ) :
    CalmInv (applyOrder cfg s order now).1 (released ∨ (applyOrder cfg s order now).2.released.isSome = true) := by
  have hnone : s.cancelPending = false ∧ s.cancelConsensusPending = false := by
    simpa [AppState.cancelActive] using h.active
  have hskip : s.skips order = false := by simp [AppState.skips, hnone.1]
  have ha := @applyOrder_applied s order cfg now hskip
  have hactive : (App.applyOrder cfg s order now).1.cancelActive = false := by
    rw [ha.active]
    simp [AppState.staysCancelled, hnone.1, hnone.2]
  have hpending : ∀ d ∈ (App.applyOrder cfg s order now).1.pendingOrders, isCancelDecision d = false := by
    rw [applyOrder_pending]
    exact h.pending
  cases hown : ownBatch cfg order with
  | none =>
    obtain ⟨-, hb, hc, -⟩ := ha.noSlot hown
    have hpoll : (App.applyOrder cfg s order now).1.pollScheduled = s.pollScheduled := by
      simp [App.applyOrder, hnone.1, hown]
    exact (h.same ⟨hactive.trans h.active.symm, hb, hc, hpoll⟩ hpending).mono Or.inl
  | some b =>
    obtain ⟨hrel, hb, hc, -⟩ := ha.slot b hown
    refine ⟨hpending, hactive, fun hz => Or.inr ?_, fun hw => Or.inl ?_⟩
    · rw [hrel, if_pos (hb.symm.trans hz)]
      rfl
    · obtain ⟨hpos, -⟩ := waiting_of_slot hb hc hw
      simp [App.applyOrder, hnone.1, hown, takeSlot, hpos.ne']

lemma releaseWaiting_polls (cleared : List ℤ) (now : ℤ) (hactive : s.cancelActive = false) (hwait : s.waiting = true) :
    (releaseWaiting cfg s cleared now).1.pollScheduled = true ∨
      (releaseWaiting cfg s cleared now).2.isSome = true := by
  unfold releaseWaiting
  rw [hwait, hactive]
  simp only [Bool.not_true, Bool.false_eq_true, if_false]
  split
  · exact Or.inr rfl
  · exact Or.inl rfl

lemma releaseWaiting_slot (cleared : List ℤ) (now : ℤ) :
    (releaseWaiting cfg s cleared now).1.cancelActive = s.cancelActive ∧
      (releaseWaiting cfg s cleared now).1.myBatchIndex = s.myBatchIndex ∧
      (releaseWaiting cfg s cleared now).1.precedingBatchCars = s.precedingBatchCars := by
  unfold releaseWaiting
  repeat' split
  all_goals exact ⟨rfl, rfl, rfl⟩

lemma CalmInv.poll (h : CalmInv s released) (cleared : List ℤ) (now : ℤ) :
    CalmInv (clearancePoll cfg s [] cleared now).1
      (released ∨ (clearancePoll cfg s [] cleared now).2.released.isSome = true) := by
  unfold clearancePoll
  split
  next =>
    simp only [perceiveCrashes, ite_self]
    obtain ⟨hactive, hindex, hbehind⟩ := @releaseWaiting_slot cfg { s with pollScheduled := false } cleared now
    refine ⟨?_, hactive.trans h.active, fun hz => Or.inl (h.first (hindex.symm.trans hz)), fun hw => ?_⟩
    · rw [releaseWaiting_pending]
      exact h.pending
    · have hwait : ({ s with pollScheduled := false } : AppState).waiting = true := by
        rwa [AppState.waiting, hindex, hbehind] at hw
      exact (@releaseWaiting_polls cfg { s with pollScheduled := false } cleared now h.active hwait).imp_right Or.inr
  next => exact h.mono Or.inl

lemma CalmInv.step (henable : cfg.enableRollback = true) (hresume : s.resumeScheduled = false)
    (h : CalmInv s released) (hcalm : calm ev = true) (hdelivered : ∀ d ∈ delivered cfg s ev, isCancelDecision d = false) :
    CalmInv (appStep cfg s ev).1 (released ∨ (appStep cfg s ev).2.released.isSome = true) := by
  have hpending : ∀ d ∈ (appStep cfg s ev).1.pendingOrders, isCancelDecision d = false :=
    fun d hd => (appStep_pending ev hd).elim (h.pending d) (hdelivered d)
  cases ev with
  | orderDecided d =>
    refine CalmInv.mono (h.same ?_ hpending) Or.inl
    exact ⟨rfl, rfl, rfl, rfl⟩
  | decisionGossip senderId inner completed =>
    exact (h.same (handleDecisionGossip_slot senderId inner completed) hpending).mono Or.inl
  | processOrder completed recallable now =>
    simp only [appStep, processOrder] at hpending ⊢
    cases hqueue : s.pendingOrders with
    | nil => exact h.mono Or.inl
    | cons d rest =>
      have hrest : CalmInv { s with pendingOrders := rest } released :=
        h.same ⟨rfl, rfl, rfl, rfl⟩ fun d' hd' => h.pending d' (hqueue ▸ List.mem_cons_of_mem d hd')
      have hd : isCancelDecision d = false := h.pending d (hqueue ▸ List.mem_cons_self)
      simp only [processDecision, hd, Bool.false_eq_true, if_false]
      cases admittedOrder { s with pendingOrders := rest } d completed with
      | none => exact hrest.mono Or.inl
      | some order => exact hrest.applyOrder now
  | clearancePoll formed cleared now =>
    obtain rfl : formed = [] := List.isEmpty_iff.mp hcalm
    exact h.poll cleared now
  | resumeTimer =>
    have hsame : appStep cfg s .resumeTimer = (s, .none) := by simp [appStep, resumeTimer, hresume]
    rw [hsame]
    exact h.mono Or.inl
  | orderTimeout =>
    have hsame : appStep cfg s .orderTimeout = (s, .none) := by simp [appStep, orderTimeout, henable]
    rw [hsame]
    exact h.mono Or.inl
  | cancelCert payload recallable => simp [calm] at hcalm
  | cancelCertFormed cert recallable => simp [calm] at hcalm
  | cancelCommitGossip senderId inner recallable => simp [calm] at hcalm
  | disableCrashComms => simp [calm] at hcalm

structure World.CalmInv (fleet : Fleet) (dec : Bytes) (w : World) : Prop where
  inv : w.Inv fleet dec
  car : ∀ i, Crossing.CalmInv (w.app i) (i ∈ w.released)

lemma World.CalmInv.step (w : World) (ev : WorldEvent) (h : w.CalmInv fleet dec)
    (hok : w.ok fleet dec ev ∧ w.calm fleet ev) : (worldStep fleet w ev).CalmInv fleet dec := by
  refine ⟨World.Inv.step w ev h.inv hok.1, fun j => ?_⟩
  cases ev with
  | traci traci => exact h.car j
  | app i ev =>
    have hreleased : j ∈ w.released ∨ (j = i ∧ (appStep (fleet.cfg i) (w.app i) ev).2.released.isSome = true) →
        j ∈ (worldStep fleet w (.app i ev)).released := by
      simp only [worldStep]
      split
      next => exact fun hj => hj.elim (List.mem_cons_of_mem i) (fun hji => hji.1 ▸ List.mem_cons_self)
      next hnone => exact fun hj => hj.elim id (fun hji => absurd hji.2 hnone)
    by_cases hj : j = i
    · subst hj
      have hstep := (h.car j).step (fleet.enableRollback j) (h.inv.car j).resume hok.2.1 hok.2.2
      have hmono := hstep.mono fun hr => hreleased (hr.imp_right fun hs => ⟨rfl, hs⟩)
      simpa only [worldStep, Function.update_self] using hmono
    · have hmono := (h.car j).mono fun hr => hreleased (Or.inl hr)
      simpa only [worldStep, Function.update_of_ne hj] using hmono

def gone (traci : Traci) (rid : ℤ) : Traci := traci.filter fun v => !decide (v.1 = myCarId rid)

lemma lookup_gone (traci : Traci) (rid : ℤ) (carId : Bytes) :
    (gone traci rid).lookup carId = if carId = myCarId rid then none else traci.lookup carId := by
  unfold gone
  induction traci with
  | nil => simp
  | cons v traci ih =>
    obtain ⟨name, v⟩ := v
    by_cases hname : name = myCarId rid
    · rw [List.filter_cons_of_neg (by simp [hname]), ih, List.lookup_cons]
      split
      next => rfl
      next hne => rw [beq_eq_false_iff_ne.mpr (hname ▸ hne)]
    · rw [List.filter_cons_of_pos (by simp [hname]), List.lookup_cons, List.lookup_cons, ih]
      by_cases hcar : carId = name
      · simp [hcar, hname]
      · rw [beq_eq_false_iff_ne.mpr hcar]

lemma hasCleared_gone (traci : Traci) (rid : ℤ) : hasCleared (gone traci rid) rid = true := by
  simp [hasCleared, vehicleHasClearedIntersectionTraCI, lookup_gone]

lemma gone_other (traci : Traci) {rid other : ℤ} (hne : other ≠ rid) :
    hasCleared (gone traci rid) other = hasCleared traci other ∧
      hasEntered (gone traci rid) other = hasEntered traci other := by
  have hname : myCarId other ≠ myCarId rid :=
    fun h => hne (decimalInt_injective (List.append_cancel_left h))
  simp only [hasCleared, hasEntered, vehicleHasClearedIntersectionTraCI, isInOrPastConflictBox, lookup_gone,
    if_neg hname, and_self]

lemma poll_releases {cleared : List ℤ} (now : ℤ) (hpoll : s.pollScheduled = true) (hwait : s.waiting = true)
    (hactive : s.cancelActive = false) (hall : ∀ v ∈ s.precedingBatchCars, v ∈ cleared) :
    appStep cfg s (.clearancePoll [] cleared now) =
      ({ s with pollScheduled := false }, ⟨[], none, some s.myBatchIndex⟩) := by
  have hscan : perceiveCrashes cfg { s with pollScheduled := false } [] = ({ s with pollScheduled := false }, []) := rfl
  have hwait' : ({ s with pollScheduled := false } : AppState).waiting = true := hwait
  have hactive' : ({ s with pollScheduled := false } : AppState).cancelActive = false := hactive
  have hgone : s.precedingBatchCars.all (fun v => decide (v ∈ cleared)) = true := by simpa using hall
  simp only [appStep, clearancePoll, hpoll, if_true, hscan, ite_self, releaseWaiting, hwait', hactive', hgone,
    Bool.not_true, Bool.false_eq_true, if_false, Bool.true_or]

def World.settled (fleet : Fleet) (dec : Bytes) (w : World) : Prop :=
  ∀ rid ∈ carsOf dec, ownBatch (fleet.cfg rid) (OrderDecision.read dec) = some (w.app rid).myBatchIndex

def World.inTime (fleet : Fleet) (dec : Bytes) (now : ℤ → ℤ) (w : World) : Prop :=
  ∀ rid ∈ carsOf dec, clearanceTimedOut (fleet.cfg rid) (w.app rid) (now rid) = false

instance instDecidableWorldSettled (fleet : Fleet) (dec : Bytes) (w : World) : Decidable (w.settled fleet dec) :=
  inferInstanceAs (Decidable (∀ rid ∈ carsOf dec, _))

instance instDecidableWorldInTime (fleet : Fleet) (dec : Bytes) (now : ℤ → ℤ) (w : World) :
    Decidable (w.inTime fleet dec now) :=
  inferInstanceAs (Decidable (∀ rid ∈ carsOf dec, _))

-- moves that only let cars go: SUMO's, and a poll of a car of the ORDER at its time
def moves (dec : Bytes) (now : ℤ → ℤ) : WorldEvent → Prop
  | .app rid ev => rid ∈ carsOf dec ∧ ∃ cleared, ev = .clearancePoll [] cleared (now rid)
  | .traci _ => True

def World.outstanding (dec : Bytes) (w : World) : ℕ :=
  (carsOf dec).countP (fun rid => !hasCleared w.traci rid) + (carsOf dec).countP (fun rid => decide (rid ∉ w.released))

lemma countP_lt {α : Type*} {l : List α} {p q : α → Bool} (h : ∀ a ∈ l, p a = true → q a = true) {a : α} (ha : a ∈ l)
    (hq : q a = true) (hp : p a = false) : l.countP p < l.countP q := by
  obtain ⟨front, back, rfl⟩ := List.append_of_mem ha
  have hfront := List.countP_mono_left (p := p) (q := q) fun x hx => h x (List.mem_append_left _ hx)
  have hback := List.countP_mono_left (p := p) (q := q) fun x hx =>
    h x (List.mem_append_right _ (List.mem_cons_of_mem a hx))
  simp only [List.countP_append, List.countP_cons, hq, hp, if_true, Bool.false_eq_true, if_false]
  omega

structure Advances (fleet : Fleet) (dec : Bytes) (now : ℤ → ℤ) (w : World) (ev : WorldEvent) : Prop where
  move : moves dec now ev
  ok : w.ok fleet dec ev
  calm : w.calm fleet ev
  settled : (worldStep fleet w ev).settled fleet dec
  inTime : (worldStep fleet w ev).inTime fleet dec now
  fewer : (worldStep fleet w ev).outstanding dec < w.outstanding dec

lemma advances_gone {now : ℤ → ℤ} (hsettled : w.settled fleet dec) (htime : w.inTime fleet dec now)
    (hcar : rid ∈ carsOf dec) (hreleased : rid ∈ w.released) (hopen : hasCleared w.traci rid = false) :
    Advances fleet dec now w (.traci (gone w.traci rid)) := by
  have hself := hasCleared_gone w.traci rid
  refine ⟨trivial, fun other _ => ?_, trivial, hsettled, htime, Nat.add_lt_add_right (countP_lt ?_ hcar ?_ ?_) _⟩
  · by_cases hother : other = rid
    · subst hother
      exact ⟨fun _ => Or.inr hreleased, fun _ => hasEntered_of_hasCleared hself, fun _ => hself⟩
    · obtain ⟨hcleared, hentered⟩ := gone_other w.traci hother
      exact ⟨fun h => Or.inl (hentered ▸ h), fun h => hentered ▸ h, fun h => hcleared ▸ h⟩
  · intro other _ hother
    by_cases heq : other = rid
    · subst heq
      simp [worldStep, hself] at hother
    · simpa only [worldStep, (gone_other w.traci heq).1] using hother
  · simp [hopen]
  · simp [worldStep, hself]

lemma advances_poll {now : ℤ → ℤ} (hsettled : w.settled fleet dec) (htime : w.inTime fleet dec now)
    (hcar : rid ∈ carsOf dec) (hheld : rid ∉ w.released) (hpoll : (w.app rid).pollScheduled = true)
    (hwait : (w.app rid).waiting = true) (hactive : (w.app rid).cancelActive = false)
    (hclear : ∀ v ∈ (w.app rid).precedingBatchCars, hasCleared w.traci v = true) :
    Advances fleet dec now w (.app rid (.clearancePoll [] (w.app rid).precedingBatchCars (now rid))) := by
  have hstep := @poll_releases (fleet.cfg rid) (w.app rid) (w.app rid).precedingBatchCars (now rid) hpoll hwait hactive
    fun _ hv => hv
  have hworld : worldStep fleet w (.app rid (.clearancePoll [] (w.app rid).precedingBatchCars (now rid))) =
      { w with
        app := Function.update w.app rid { w.app rid with pollScheduled := false }
        released := rid :: w.released } := by
    simp only [worldStep, hstep, Option.isSome_some, if_true]
  refine ⟨⟨hcar, _, rfl⟩, ⟨fun d hd => absurd hd List.not_mem_nil, hclear, ?_⟩,
    ⟨rfl, fun d hd => absurd hd List.not_mem_nil⟩, fun other hother => ?_, fun other hother => ?_, ?_⟩
  · simpa only [Crossing.inTime, Bool.not_eq_true'] using htime rid hcar
  · rw [hworld]
    by_cases heq : other = rid
    · subst heq
      simpa only [Function.update_self] using hsettled other hother
    · simpa only [Function.update_of_ne heq] using hsettled other hother
  · rw [hworld]
    by_cases heq : other = rid
    · subst heq
      simpa only [Function.update_self, clearanceTimedOut] using htime other hother
    · simpa only [Function.update_of_ne heq] using htime other hother
  · rw [hworld]
    refine Nat.add_lt_add_left (countP_lt (fun other _ hout => ?_) hcar ?_ ?_) _
    · simp only [List.mem_cons, not_or, decide_eq_true_eq] at hout ⊢
      exact hout.2
    · simpa using hheld
    · simp

lemma World.CalmInv.progress {now : ℤ → ℤ} (h : w.CalmInv fleet dec) (hs : Scheduled entries dec)
    (hsettled : w.settled fleet dec) (htime : w.inTime fleet dec now)
    (hopen : ∃ rid ∈ carsOf dec, hasCleared w.traci rid = false) : ∃ ev, Advances fleet dec now w ev := by
  by_cases hinside : ∃ rid ∈ carsOf dec, rid ∈ w.released ∧ hasCleared w.traci rid = false
  · obtain ⟨rid, hcar, hreleased, hin⟩ := hinside
    exact ⟨_, advances_gone hsettled htime hcar hreleased hin⟩
  · rcases activeBatch_cases dec w.traci with ⟨hnone, -⟩ | ⟨k, hk, -, ⟨u, hu, huopen⟩, hearlier⟩
    · obtain ⟨rid, hcar, hout⟩ := hopen
      exact absurd ((h.inv.seesBatches hs).finished.mp hnone rid hcar) (by simp [hout])
    · have hud := mem_batchesOf.mp hu
      have hcar := mem_carsOf_of_decision hud
      have hheld : u ∉ w.released := fun hr => hinside ⟨u, hcar, hr, huopen⟩
      have hown := hsettled u hcar
      have hslot : slotOf fleet dec u = some (w.app u).myBatchIndex.toNat := by rw [slotOf, hown]; rfl
      have hindex : (w.app u).myBatchIndex = k := by
        have heq := hs.decision_unique (hs.decision_of_slot hslot) hud
        have hnonneg := ownBatch_nonneg hown
        omega
      have hpos : 0 < k := Nat.pos_of_ne_zero fun hz => hheld ((h.car u).first (by rw [hindex, hz]; rfl))
      obtain ⟨-, hbehind⟩ := (h.inv.car u).slot (by rw [hindex]; exact_mod_cast hpos)
      have hmem : ∀ v, v ∈ (w.app u).precedingBatchCars ↔ ⟨v, k - 1⟩ ∈ (OrderDecision.read dec).decisions := by
        intro v
        rw [hbehind, hindex, OrderDecision.batch, List.mem_map]
        constructor
        · rintro ⟨⟨_, b⟩, hd, rfl⟩
          obtain ⟨hd, hb⟩ := List.mem_filter.mp hd
          have heq := signed32_eq (hs.batchIndex_lt hd) (by omega) (of_decide_eq_true hb)
          obtain rfl : b = k - 1 := by
            simp only at heq
            omega
          exact hd
        · intro hd
          have hsmall := hs.slot_lt hslot
          rw [hindex, Int.toNat_natCast] at hsmall
          have hsigned : signed32 (k - 1) = (k : ℤ) - 1 := by
            rw [signed32, if_pos (by omega)]
            omega
          exact ⟨_, List.mem_filter.mpr ⟨hd, decide_eq_true hsigned⟩, rfl⟩
      have hclear : ∀ v ∈ (w.app u).precedingBatchCars, hasCleared w.traci v = true := fun v hv =>
        hearlier (k - 1) (Nat.sub_one_lt hpos.ne') v (mem_batchesOf.mpr ((hmem v).mp hv))
      have hwait : (w.app u).waiting = true := by
        obtain ⟨d, hd, hb⟩ := hs.order.inhabited (k - 1) (by have := batchesOf_length dec; omega)
        have hv : d.replicaId ∈ (w.app u).precedingBatchCars := (hmem _).mpr (hb ▸ hd)
        rw [AppState.waiting, hindex, List.isEmpty_eq_false_iff.mpr (List.ne_nil_of_mem hv)]
        simpa using hpos
      have hpoll := ((h.car u).polls hwait).resolve_right hheld
      exact ⟨_, advances_poll hsettled htime hcar hheld hpoll hwait (h.car u).active hclear⟩

lemma World.CalmInv.completes {now : ℤ → ℤ} (hs : Scheduled entries dec) (n : ℕ) {w : World} (hn : w.outstanding dec ≤ n)
    (h : w.CalmInv fleet dec) (hsettled : w.settled fleet dec) (htime : w.inTime fleet dec now) :
    ∃ more, (∀ ev ∈ more, moves dec now ev) ∧
      Guarded (worldStep fleet) (fun w ev => w.ok fleet dec ev ∧ w.calm fleet ev) w more ∧
      ∀ rid ∈ carsOf dec, hasCleared (run (worldStep fleet) w more).traci rid = true := by
  induction n generalizing w with
  | zero =>
    refine ⟨[], fun _ hev => absurd hev List.not_mem_nil, trivial, fun rid hrid => ?_⟩
    have hzero : (carsOf dec).countP (fun rid => !hasCleared w.traci rid) = 0 := by
      rw [World.outstanding] at hn
      omega
    simpa using List.countP_eq_zero.mp hzero rid hrid
  | succ n ih =>
    by_cases hopen : ∃ rid ∈ carsOf dec, hasCleared w.traci rid = false
    · obtain ⟨ev, hadv⟩ := h.progress hs hsettled htime hopen
      obtain ⟨more, hmoves, hok, hend⟩ := ih (Nat.lt_succ_iff.mp (hadv.fewer.trans_le hn))
        (World.CalmInv.step w ev h ⟨hadv.ok, hadv.calm⟩) hadv.settled hadv.inTime
      exact ⟨ev :: more, List.forall_mem_cons.mpr ⟨hadv.move, hmoves⟩, ⟨⟨hadv.ok, hadv.calm⟩, hok⟩, hend⟩
    · refine ⟨[], fun _ hev => absurd hev List.not_mem_nil, trivial, fun rid hrid => ?_⟩
      by_contra hout
      exact hopen ⟨rid, hrid, eq_false_of_ne_true hout⟩

theorem crossing_completes (fleet : Fleet) (env : BridgeEnv) (s : ConsensusState) (request : Request)
    (payload : Bytes) (view : ProposalView) (exec : ExecutorEnv)
    (haccepts : AcceptsProposal env s request payload view) (horder : view.isCancel = false) (dec : Bytes)
    (hdec : (executeData exec payload).decision = some dec) (traci : Traci)
    (hstart : ∀ e ∈ orderEntries view, hasEntered traci e.replicaId = false) (events : List WorldEvent)
    (hok : Guarded (worldStep fleet) (fun w ev => w.ok fleet dec ev ∧ w.calm fleet ev) (.initial traci) events)
    (hsettled : (run (worldStep fleet) (.initial traci) events).settled fleet dec) (now : ℤ → ℤ)
    (htime : (run (worldStep fleet) (.initial traci) events).inTime fleet dec now) :
    ∃ more, (∀ ev ∈ more, moves dec now ev) ∧
      Guarded (worldStep fleet) (fun w ev => w.ok fleet dec ev ∧ w.calm fleet ev) (.initial traci) (events ++ more) ∧
      ∀ e ∈ orderEntries view,
        hasCleared (run (worldStep fleet) (.initial traci) (events ++ more)).traci e.replicaId = true := by
  have hs := accepted_scheduled haccepts horder hdec
  have hinit : (World.initial traci).CalmInv fleet dec := ⟨worldInv_start hs hstart, fun _ => calmInv_initial⟩
  obtain ⟨more, hmoves, hmore, hend⟩ :=
    (hok.invariant World.CalmInv.step hinit).completes hs _ le_rfl hsettled htime
  refine ⟨more, hmoves, guarded_append.mpr ⟨hok, hmore⟩, fun e he => ?_⟩
  rw [run_append]
  exact hend e.replicaId (by rw [hs.carsOf]; exact List.mem_map_of_mem he)

def fourSlots (dec : Bytes) : List WorldEvent :=
  ([0, 1, 2, 3].map fun i => .app i (.orderDecided dec)) ++ [0, 1, 2, 3].map fun i => .app i (.processOrder false true 5)

theorem crossing_completes_fourSlots :
    ∃ more, (∀ ev ∈ more, moves fourCarOrder (fun _ => 9) ev) ∧
      Guarded (worldStep sameCars) (fun w ev => w.ok sameCars fourCarOrder ev ∧ w.calm sameCars ev)
        (.initial (carsAt ["N", "N", "N", "N"])) (fourSlots fourCarOrder ++ more) ∧
      ∀ e ∈ orderEntries (listingView 0 [0, 1, 2, 3]),
        hasCleared (run (worldStep sameCars) (.initial (carsAt ["N", "N", "N", "N"]))
          (fourSlots fourCarOrder ++ more)).traci e.replicaId = true := by
  have haccepts : AcceptsProposal eightCarEnv (primaryIs 1) (listingRequest 0 [0, 1, 2, 3])
      (listingPayload 0 [0, 1, 2, 3]) (listingView 0 [0, 1, 2, 3]) :=
    ⟨Or.inl rfl, rfl, by decide +kernel, by decide +kernel⟩
  exact crossing_completes sameCars eightCarEnv (primaryIs 1) (listingRequest 0 [0, 1, 2, 3])
    (listingPayload 0 [0, 1, 2, 3]) (listingView 0 [0, 1, 2, 3]) plainExecutor haccepts rfl fourCarOrder
    (haccepts.orderDecision rfl plainExecutor).1 (carsAt ["N", "N", "N", "N"]) (by decide +kernel)
    (fourSlots fourCarOrder) (by decide +kernel) (by decide +kernel) (fun _ => 9) (by decide +kernel)

end V2vBft.Crossing
