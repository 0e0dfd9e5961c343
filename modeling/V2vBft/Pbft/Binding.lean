import V2vBft.Library.GuardedRun
import V2vBft.Pbft.ForcedViewFacts

/-! The members a request is bound to, over every sequence of calls of the registry. -/

namespace V2vBft.Pbft

open Wire Library.GuardedRun

variable {reg : Registry}

inductive RegistryCall
  | installPending (view : OmnetForcedView)
  | installForRequest (request : Request) (view : OmnetForcedView)
  | findForRequest (request : Request)

-- a refused install, and one whose Normalize throws, change nothing
def Registry.call (reg : Registry) : RegistryCall → Registry
  | .installPending view => (reg.installPending view).getD reg
  | .installForRequest request view => (reg.installForRequest request view).getD reg
  | .findForRequest request => (reg.findForRequest request).2

def Registry.binds (reg : Registry) (seq : ℕ) (hash : Bytes) (members : List ℤ) : Prop :=
  ∃ v ∈ reg.views, v.seq = seq ∧ v.requestHash = hash ∧ v.activeOmnetIds = members

def OmnetForcedView.memberSet (view : OmnetForcedView) : List ℤ :=
  (view.activeOmnetIds.insertionSort (· ≤ ·)).dedup

def Registry.honours (reg : Registry) (seq : ℕ) (hash : Bytes) (members : List ℤ) : RegistryCall → Prop
  | .installPending _ => True
  | .installForRequest request view =>
    request.seq = seq → request.hash = hash → view.memberSet ≠ members → reg.installForRequest request view = none
  | .findForRequest request =>
    request.seq = seq → request.hash = hash → ∃ v, (reg.findForRequest request).1 = some v ∧ v.activeOmnetIds = members

def BindingsKept (calls : List RegistryCall) : Prop :=
  ∀ pre mid call post, calls = pre ++ (mid ++ call :: post) → ∀ seq hash members,
    (run Registry.call .empty pre).binds seq hash members →
      (run Registry.call .empty (pre ++ mid)).honours seq hash members call

-- a request already bound takes a view of an epoch stored for it, or one with the members it is bound to
def Registry.admits (reg : Registry) : RegistryCall → Bool
  | .installForRequest request view =>
    view.normalize.isNone || (reg.views.any fun v => v.matches request && decide (v.epoch = view.epoch)) ||
      reg.views.all fun v => !v.matches request || decide (v.activeOmnetIds = view.memberSet)
  | _ => true

structure Coherent (reg : Registry) : Prop where
  hashed : ∀ v ∈ reg.views, v.requestHash ≠ []
  agree : ∀ v ∈ reg.views, ∀ w ∈ reg.views, v.seq = w.seq → v.requestHash = w.requestHash →
    v.activeOmnetIds = w.activeOmnetIds

lemma matches_iff (view : OmnetForcedView) (request : Request) :
    view.matches request = true ↔ view.seq = request.seq ∧ view.requestHash = request.hash := by
  simp [OmnetForcedView.matches]

lemma sameKey_iff (a b : OmnetForcedView) :
    a.sameKey b = true ↔ a.epoch = b.epoch ∧ a.seq = b.seq ∧ a.requestHash = b.requestHash := by
  simp [OmnetForcedView.sameKey, and_assoc]

lemma mem_putView {view v : OmnetForcedView} :
    v ∈ reg.putView view ↔ v = view ∨ (v ∈ reg.views ∧ v.sameKey view = false) := by
  rw [Registry.putView, List.mem_orderedInsert, List.mem_filter, Bool.not_eq_true']

lemma normalize_frame {view n : OmnetForcedView} (h : view.normalize = some n) :
    n.epoch = view.epoch ∧ n.activeOmnetIds = view.memberSet := by
  obtain ⟨quorum, _, rfl⟩ := Option.map_eq_some_iff.mp h
  exact ⟨rfl, rfl⟩

structure Installed (reg reg' : Registry) (request : Request) (view stored : OmnetForcedView) : Prop where
  hash : request.hash ≠ []
  views : reg'.views = reg.putView stored
  seq : stored.seq = request.seq
  requestHash : stored.requestHash = request.hash
  epoch : stored.epoch = view.epoch
  members : stored.activeOmnetIds = view.memberSet
  noConflict : Coherent reg → ∀ v ∈ reg.views, v.sameKey stored = true → v.activeOmnetIds = stored.activeOmnetIds

lemma installForRequest_installed {reg' : Registry} {request : Request} {view : OmnetForcedView}
    (h : reg.installForRequest request view = some reg') : ∃ stored, Installed reg reg' request view stored := by
  rw [Registry.installForRequest] at h
  split at h
  next => exact absurd h (by simp)
  next hhash =>
    split at h
    next => exact absurd h (by simp)
    next n hn =>
      obtain ⟨hepoch, hmembers⟩ := normalize_frame hn
      refine ⟨{ n with seq := request.seq, requestHash := request.hash }, ?_⟩
      dsimp only at h
      split at h
      next old hold =>
        split at h
        next => exact absurd h (by simp)
        next hsame =>
          obtain rfl := Option.some.inj h
          refine ⟨hhash, rfl, rfl, rfl, hepoch, hmembers, fun hcoh v hv hkey => ?_⟩
          obtain ⟨_, hseq, hreq⟩ := (sameKey_iff _ _).mp hkey
          have hkeyOld := List.find?_some hold
          obtain ⟨_, hseqOld, hreqOld⟩ := (sameKey_iff _ _).mp hkeyOld
          rw [hcoh.agree v hv old (List.mem_of_find?_eq_some hold) (hseq.trans hseqOld.symm) (hreq.trans hreqOld.symm)]
          exact not_not.mp hsame
      next hnone =>
        obtain rfl := Option.some.inj h
        refine ⟨hhash, rfl, rfl, rfl, hepoch, hmembers, fun _ v hv hkey => ?_⟩
        exact absurd hkey (List.find?_eq_none.mp hnone v hv)

lemma find?_of_binds {seq : ℕ} {hash : Bytes} {members : List ℤ} (hcoh : Coherent reg)
    (hbound : reg.binds seq hash members) {request : Request} (hseq : request.seq = seq) (hhash : request.hash = hash) :
    ∃ v, (reg.findForRequest request).1 = some v ∧ v.activeOmnetIds = members := by
  obtain ⟨v, hv, hvseq, hvhash, hmembers⟩ := hbound
  have hmatch : v.matches request = true := (matches_iff v request).mpr ⟨hvseq.trans hseq.symm, hvhash.trans hhash.symm⟩
  have hne : request.hash ≠ [] := by
    rw [hhash, ← hvhash]
    exact hcoh.hashed v hv
  cases hfound : reg.views.find? fun w => w.matches request with
  | none => exact absurd hmatch (List.find?_eq_none.mp hfound v hv)
  | some w =>
    refine ⟨w, by rw [Registry.findForRequest, if_neg hne, hfound], ?_⟩
    obtain ⟨hwseq, hwhash⟩ := (matches_iff w request).mp (by simpa using List.find?_some hfound)
    rw [hcoh.agree w (List.mem_of_find?_eq_some hfound) v hv (hwseq.trans (hseq.trans hvseq.symm))
      (hwhash.trans (hhash.trans hvhash.symm)), hmembers]

lemma installForRequest_refused {seq : ℕ} {hash : Bytes} {members : List ℤ} (hcoh : Coherent reg)
    (hbound : reg.binds seq hash members) {request : Request} {view : OmnetForcedView} (hseq : request.seq = seq)
    (hhash : request.hash = hash) (hok : reg.admits (.installForRequest request view) = true)
    (hother : view.memberSet ≠ members) : reg.installForRequest request view = none := by
  by_contra hsome
  obtain ⟨reg', hinstall⟩ := Option.ne_none_iff_exists'.mp hsome
  obtain ⟨stored, hstored⟩ := installForRequest_installed hinstall
  obtain ⟨v, hv, hvseq, hvhash, hmembers⟩ := hbound
  have hagree : ∀ w ∈ reg.views, w.matches request = true → w.activeOmnetIds = members := by
    intro w hw hmatch
    obtain ⟨hwseq, hwhash⟩ := (matches_iff w request).mp hmatch
    rw [hcoh.agree w hw v hv (hwseq.trans (hseq.trans hvseq.symm)) (hwhash.trans (hhash.trans hvhash.symm)), hmembers]
  have hnormal : view.normalize.isNone = false := by
    cases hn : view.normalize with
    | none =>
      rw [Registry.installForRequest, if_neg hstored.hash, hn] at hinstall
      cases hinstall
    | some n => rfl
  simp only [Registry.admits, hnormal, Bool.false_or, Bool.or_eq_true, List.any_eq_true, List.all_eq_true,
    Bool.and_eq_true, Bool.not_eq_true', decide_eq_true_eq] at hok
  rcases hok with ⟨w, hw, hmatch, hepoch⟩ | hall
  · obtain ⟨hwseq, hwhash⟩ := (matches_iff w request).mp hmatch
    have hkey : w.sameKey stored = true := (sameKey_iff w stored).mpr
      ⟨hepoch.trans hstored.epoch.symm, hwseq.trans hstored.seq.symm, hwhash.trans hstored.requestHash.symm⟩
    have hsame := hstored.noConflict hcoh w hw hkey
    rw [hagree w hw hmatch, hstored.members] at hsame
    exact hother hsame.symm
  · have hmatch : v.matches request = true :=
      (matches_iff v request).mpr ⟨hvseq.trans hseq.symm, hvhash.trans hhash.symm⟩
    rcases hall v hv with hno | hsame
    · exact absurd hmatch (by simp [hno])
    · exact hother (hsame.symm.trans hmembers)

structure Stores (reg reg' : Registry) (stored : OmnetForcedView) : Prop where
  views : reg'.views = reg.putView stored
  hash : stored.requestHash ≠ []
  agree : ∀ v ∈ reg.views, v.seq = stored.seq → v.requestHash = stored.requestHash →
    v.activeOmnetIds = stored.activeOmnetIds

lemma call_cases {call : RegistryCall} (hcoh : Coherent reg) (hok : reg.admits call = true) :
    (reg.call call).views = reg.views ∨ ∃ stored, Stores reg (reg.call call) stored := by
  cases call with
  | installPending view =>
    refine Or.inl ?_
    rw [Registry.call, Registry.installPending]
    cases view.normalize <;> rfl
  | findForRequest request =>
    by_cases hempty : request.hash = []
    · exact Or.inl (by rw [Registry.call, Registry.findForRequest, if_pos hempty])
    rcases findForRequest_snd reg request with hsame | ⟨copy, hcopy⟩
    · exact Or.inl (by rw [Registry.call, hsame])
    · refine Or.inr ⟨copy, by rw [Registry.call, hcopy.registry], by rwa [hcopy.hash], fun v hv hseq hhash => ?_⟩
      have hmatch : v.matches request = true :=
        (matches_iff v request).mpr ⟨hseq.trans hcopy.seq, hhash.trans hcopy.hash⟩
      exact absurd hmatch (List.find?_eq_none.mp hcopy.missing v hv)
  | installForRequest request view =>
    rw [Registry.call]
    cases hinstall : reg.installForRequest request view with
    | none => exact Or.inl rfl
    | some reg' =>
      obtain ⟨stored, hstored⟩ := installForRequest_installed hinstall
      refine Or.inr ⟨stored, hstored.views, by rw [hstored.requestHash]; exact hstored.hash, fun v hv hseq hhash => ?_⟩
      by_contra hother
      have hbound : reg.binds request.seq request.hash v.activeOmnetIds :=
        ⟨v, hv, hseq.trans hstored.seq, hhash.trans hstored.requestHash, rfl⟩
      have hnone := installForRequest_refused hcoh hbound rfl rfl hok (by
        rw [← hstored.members]
        exact fun heq => hother heq.symm)
      exact absurd (hinstall.symm.trans hnone) (by simp)

lemma Stores.coherent {reg' : Registry} {stored : OmnetForcedView} (h : Stores reg reg' stored) (hcoh : Coherent reg) :
    Coherent reg' where
  hashed := by
    intro v hv
    rw [h.views, mem_putView] at hv
    rcases hv with rfl | ⟨hv, _⟩
    · exact h.hash
    · exact hcoh.hashed v hv
  agree := by
    intro v hv w hw hseq hhash
    rw [h.views, mem_putView] at hv hw
    rcases hv with rfl | ⟨hv, _⟩ <;> rcases hw with rfl | ⟨hw, _⟩
    · rfl
    · exact (h.agree w hw hseq.symm hhash.symm).symm
    · exact h.agree v hv hseq hhash
    · exact hcoh.agree v hv w hw hseq hhash

lemma Stores.binds {reg' : Registry} {stored : OmnetForcedView} (h : Stores reg reg' stored) {seq : ℕ} {hash : Bytes}
    {members : List ℤ} (hbound : reg.binds seq hash members) : reg'.binds seq hash members := by
  obtain ⟨v, hv, hseq, hhash, hmembers⟩ := hbound
  cases hkey : v.sameKey stored with
  | false => exact ⟨v, h.views ▸ mem_putView.mpr (Or.inr ⟨hv, hkey⟩), hseq, hhash, hmembers⟩
  | true =>
    obtain ⟨_, hkseq, hkhash⟩ := (sameKey_iff v stored).mp hkey
    refine ⟨stored, h.views ▸ mem_putView.mpr (Or.inl rfl), hkseq.symm.trans hseq, hkhash.symm.trans hhash, ?_⟩
    rw [← h.agree v hv hkseq hkhash, hmembers]

lemma Coherent.call {call : RegistryCall} (hcoh : Coherent reg) (hok : reg.admits call = true) :
    Coherent (reg.call call) := by
  rcases call_cases hcoh hok with hsame | ⟨stored, hstored⟩
  · exact ⟨by rw [hsame]; exact hcoh.hashed, by rw [hsame]; exact hcoh.agree⟩
  · exact hstored.coherent hcoh

lemma binds_call {seq : ℕ} {hash : Bytes} {members : List ℤ} {call : RegistryCall} (hcoh : Coherent reg)
    (hok : reg.admits call = true) (hbound : reg.binds seq hash members) : (reg.call call).binds seq hash members := by
  rcases call_cases hcoh hok with hsame | ⟨stored, hstored⟩
  · rw [Registry.binds, hsame]
    exact hbound
  · exact hstored.binds hbound

lemma coherent_empty : Coherent .empty :=
  ⟨fun _ h => absurd h List.not_mem_nil, fun _ h => absurd h List.not_mem_nil⟩

abbrev Admitted (reg : Registry) (calls : List RegistryCall) : Prop :=
  Guarded Registry.call (fun reg call => reg.admits call = true) reg calls

lemma Coherent.run {calls : List RegistryCall} (hcoh : Coherent reg) (h : Admitted reg calls) :
    Coherent (run Registry.call reg calls) :=
  Guarded.invariant (fun _ _ hc hok => hc.call hok) hcoh h

lemma binds_run {calls : List RegistryCall} (hcoh : Coherent reg) (h : Admitted reg calls) {seq : ℕ} {hash : Bytes}
    {members : List ℤ} (hbound : reg.binds seq hash members) :
    (run Registry.call reg calls).binds seq hash members := by
  induction calls generalizing reg with
  | nil => exact hbound
  | cons call calls ih => exact ih (hcoh.call h.1) h.2 (binds_call hcoh h.1 hbound)

lemma honours_of_binds {seq : ℕ} {hash : Bytes} {members : List ℤ} (hcoh : Coherent reg)
    (hbound : reg.binds seq hash members) {call : RegistryCall} (hok : reg.admits call = true) :
    reg.honours seq hash members call := by
  cases call with
  | installPending view => trivial
  | installForRequest request view =>
    exact fun hseq hhash hother => installForRequest_refused hcoh hbound hseq hhash hok hother
  | findForRequest request => exact fun hseq hhash => find?_of_binds hcoh hbound hseq hhash

lemma admits_of_honours {call : RegistryCall}
    (h : ∀ seq hash members, reg.binds seq hash members → reg.honours seq hash members call) (hcoh : Coherent reg) :
    reg.admits call = true := by
  cases call with
  | installPending view => rfl
  | findForRequest request => rfl
  | installForRequest request view =>
    by_contra hno
    simp only [Registry.admits, Bool.not_eq_true, Bool.or_eq_false_iff, List.any_eq_false, List.all_eq_false,
      Bool.and_eq_true, decide_eq_true_eq, not_and, decide_eq_false_iff_not] at hno
    obtain ⟨⟨hnormal, hepoch⟩, v, hv, hmatch, hother⟩ := hno
    obtain ⟨hseq, hhash⟩ := (matches_iff v request).mp (by simpa using hmatch)
    have hnone := h request.seq request.hash v.activeOmnetIds ⟨v, hv, hseq, hhash, rfl⟩ rfl rfl (Ne.symm hother)
    obtain ⟨n, hn⟩ := Option.ne_none_iff_exists'.mp (Option.isNone_eq_false_iff.mp hnormal |> Option.isSome_iff_ne_none.mp)
    have hne : request.hash ≠ [] := hhash ▸ hcoh.hashed v hv
    have hfree : (reg.views.find? fun w => w.sameKey { n with seq := request.seq, requestHash := request.hash }) =
        none := by
      refine List.find?_eq_none.mpr fun w hw hkey => ?_
      obtain ⟨hwepoch, hwseq, hwhash⟩ := (sameKey_iff _ _).mp hkey
      exact hepoch w hw ((matches_iff w request).mpr ⟨hwseq, hwhash⟩) (hwepoch.trans (normalize_frame hn).1)
    rw [Registry.installForRequest, if_neg hne, hn] at hnone
    dsimp only at hnone
    rw [hfree] at hnone
    cases hnone

theorem bindingsKept_iff (calls : List RegistryCall) : BindingsKept calls ↔ Admitted .empty calls := by
  constructor
  · intro h
    induction calls using List.reverseRecOn with
    | nil => trivial
    | append_singleton calls call ih =>
      have hpre : Admitted .empty calls := ih fun pre mid call' post heq =>
        h pre mid call' (post ++ [call]) (by rw [heq]; simp)
      refine guarded_append.mpr ⟨hpre, admits_of_honours (fun seq hash members hbound => ?_) (coherent_empty.run hpre),
        trivial⟩
      simpa using h calls [] call [] rfl seq hash members hbound
  · rintro h pre mid call post rfl seq hash members hbound
    obtain ⟨hpre, hrest⟩ := guarded_append.mp h
    obtain ⟨hmid, hcall, _⟩ := guarded_append.mp hrest
    have hcoh := coherent_empty.run hpre
    rw [run_append]
    exact honours_of_binds (hcoh.run hmid) (binds_run hcoh hmid hbound) hcall

def firstPrePrepare : Request := ⟨.prePrepare, 1, 1, 1, [7], .batch [], false, false⟩

def viewOfEpoch (epoch : ℕ) (members : List ℤ) : OmnetForcedView := ⟨epoch, 0, [], 0, members, true, 1, 1⟩

theorem secondEpoch_replaces_members :
    ¬BindingsKept [.installForRequest firstPrePrepare (viewOfEpoch 1 [0, 1, 2, 3]),
      .installForRequest firstPrePrepare (viewOfEpoch 0 [4, 5, 6, 7]), .findForRequest firstPrePrepare] := by
  intro h
  obtain ⟨v, hfound, hmembers⟩ := h [.installForRequest firstPrePrepare (viewOfEpoch 1 [0, 1, 2, 3])]
    [.installForRequest firstPrePrepare (viewOfEpoch 0 [4, 5, 6, 7])] (.findForRequest firstPrePrepare) [] rfl 1 [7]
    [0, 1, 2, 3] ⟨⟨1, 1, [7], 0, [0, 1, 2, 3], true, 1, 3⟩, by decide +kernel, rfl, rfl, rfl⟩ rfl rfl
  have hother : ((run Registry.call .empty [.installForRequest firstPrePrepare (viewOfEpoch 1 [0, 1, 2, 3]),
      .installForRequest firstPrePrepare (viewOfEpoch 0 [4, 5, 6, 7])]).findForRequest firstPrePrepare).1 =
      some ⟨0, 1, [7], 0, [4, 5, 6, 7], true, 1, 3⟩ := by decide +kernel
  rw [← Option.some.inj (hother.symm.trans hfound)] at hmembers
  exact absurd hmembers (by decide)

end V2vBft.Pbft
