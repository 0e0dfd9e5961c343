import V2vBft.Pbft.ForcedView

namespace V2vBft.Pbft

open Wire

def OmnetForcedView.effectiveF (view : OmnetForcedView) : ℤ :=
  if view.fOverride then view.f
  else if 0 < view.activeOmnetIds.length then ((view.activeOmnetIds.length : ℤ) - 1) / 3 else 0

lemma bftQuorumSize_pos {n q : ℕ} {f : ℤ} (hn : 0 < n) (h : bftQuorumSize n f = some q) :
    0 ≤ f ∧ 3 * f + 1 ≤ n ∧ (q : ℤ) = ((n : ℤ) + f + 2) / 2 := by
  unfold bftQuorumSize at h
  rw [if_neg hn.ne'] at h
  split at h
  next => exact absurd h (by simp)
  next hf =>
    obtain rfl := Option.some.inj h
    omega

lemma bftQuorumSize_le {n q : ℕ} {f : ℤ} (hn : 0 < n) (h : bftQuorumSize n f = some q) : q ≤ n := by
  obtain ⟨hf, hn3, hq⟩ := bftQuorumSize_pos hn h
  omega

lemma normalize_spec {view n : OmnetForcedView} (hids : view.activeOmnetIds.Nodup)
    (h : view.normalize = some n) :
    n.activeOmnetIds.Perm view.activeOmnetIds ∧ n.primaryOmnet = view.primaryOmnet ∧ n.epoch = view.epoch ∧
      bftQuorumSize view.activeOmnetIds.length view.effectiveF = some n.quorum := by
  have hperm : ((view.activeOmnetIds.insertionSort (· ≤ ·)).dedup).Perm view.activeOmnetIds := by
    have hsort := List.perm_insertionSort (· ≤ ·) view.activeOmnetIds
    rw [(hsort.nodup_iff.mpr hids).dedup]
    exact hsort
  have hlen := hperm.length_eq
  unfold OmnetForcedView.normalize at h
  simp only [Option.map_eq_some_iff, hlen] at h
  obtain ⟨q, hq, rfl⟩ := h
  exact ⟨hperm, rfl, rfl, hq⟩

lemma installForRequest_latest {reg reg' : Registry} {request : Request} {view : OmnetForcedView}
    (h : reg.installForRequest request view = some reg') :
    ∃ n, view.normalize = some n ∧
      reg'.latest = some { n with seq := request.seq, requestHash := request.hash } := by
  unfold Registry.installForRequest at h
  split at h
  next => exact absurd h (by simp)
  next =>
    split at h
    next => exact absurd h (by simp)
    next n hn =>
      refine ⟨n, hn, ?_⟩
      dsimp only at h
      split at h
      next =>
        split at h
        next => exact absurd h (by simp)
        next =>
          obtain rfl := Option.some.inj h
          rfl
      next =>
        obtain rfl := Option.some.inj h
        rfl

lemma installPending_latest {reg reg' : Registry} {view : OmnetForcedView}
    (h : reg.installPending view = some reg') : ∃ n, view.normalize = some n ∧ reg'.latest = some n := by
  obtain ⟨n, hn, rfl⟩ := Option.map_eq_some_iff.mp h
  exact ⟨n, hn, rfl⟩

lemma find?_orderedInsert_of_not {l : List OmnetForcedView} {p : OmnetForcedView → Bool} {view : OmnetForcedView}
    (h : p view = false) : (l.orderedInsert (fun a b => a.epoch ≤ b.epoch) view).find? p = l.find? p := by
  induction l with
  | nil => simp [h]
  | cons v l ih =>
    rw [List.orderedInsert_cons]
    split
    next => rw [List.find?_cons, h]
    next => rw [List.find?_cons, List.find?_cons, ih]

lemma find?_orderedInsert_of_none {l : List OmnetForcedView} {p : OmnetForcedView → Bool} {view : OmnetForcedView}
    (h : p view = true) (hnone : l.find? p = none) :
    (l.orderedInsert (fun a b => a.epoch ≤ b.epoch) view).find? p = some view := by
  induction l with
  | nil => simp [h]
  | cons v l ih =>
    have hv : ¬p v = true := List.find?_eq_none.mp hnone v List.mem_cons_self
    have hl : l.find? p = none := by rwa [List.find?_cons_of_neg hv] at hnone
    rw [List.orderedInsert_cons]
    split
    next => rw [List.find?_cons, h]
    next => rw [List.find?_cons_of_neg hv, ih hl]

def OmnetForcedView.atSeq (pending : OmnetForcedView) (seq : ℕ) : OmnetForcedView :=
  if seq = 0 then pending else { pending with seq := seq }

def Registry.viewAt (reg : Registry) (seq : ℕ) (hash : Bytes) : Option OmnetForcedView :=
  if hash = [] then none
  else
    match reg.views.find? fun v => decide (v.seq = seq) && decide (v.requestHash = hash) with
    | some view => some view
    | none => (reg.pendingByHash.find? fun v => decide (v.requestHash = hash)).map fun v => v.atSeq seq

lemma findForRequest_fst (reg : Registry) (r : Request) : (reg.findForRequest r).1 = reg.viewAt r.seq r.hash := by
  have hmatch : (fun v : OmnetForcedView => v.matches r) =
      fun v => decide (v.seq = r.seq) && decide (v.requestHash = r.hash) := rfl
  rw [Registry.viewAt, ← hmatch]
  rw [Registry.findForRequest]
  split
  next => rfl
  next =>
    cases reg.views.find? fun v => v.matches r with
    | some view => rfl
    | none =>
      cases reg.pendingByHash.find? fun v => decide (v.requestHash = r.hash) with
      | none => rfl
      | some pending =>
        by_cases hseq : r.seq = 0
        · simp [OmnetForcedView.atSeq, hseq]
        · simp [OmnetForcedView.atSeq, hseq]

structure CopiesPending (reg : Registry) (r : Request) (copy : OmnetForcedView) : Prop where
  missing : (reg.views.find? fun v => v.matches r) = none
  pending : ∃ v, (reg.pendingByHash.find? fun v => decide (v.requestHash = r.hash)) = some v ∧ copy = v.atSeq r.seq
  seq : copy.seq = r.seq
  hash : copy.requestHash = r.hash
  registry : (reg.findForRequest r).2 = { reg with views := reg.putView copy, latest := some copy }

lemma findForRequest_snd (reg : Registry) (r : Request) :
    (reg.findForRequest r).2 = reg ∨ ∃ copy, CopiesPending reg r copy := by
  by_cases hhash : r.hash = []
  · exact Or.inl (by rw [Registry.findForRequest, if_pos hhash])
  cases hfound : reg.views.find? fun v => v.matches r with
  | some view => exact Or.inl (by simp only [Registry.findForRequest, hhash, hfound, if_false])
  | none =>
    cases hpending : reg.pendingByHash.find? fun v => decide (v.requestHash = r.hash) with
    | none => exact Or.inl (by simp only [Registry.findForRequest, hhash, hfound, hpending, if_false])
    | some pending =>
      by_cases hseq : r.seq = 0
      · exact Or.inl (by simp [Registry.findForRequest, hhash, hfound, hpending, hseq])
      · refine Or.inr ⟨{ pending with seq := r.seq }, hfound, ⟨pending, hpending, ?_⟩, rfl, ?_, ?_⟩
        · rw [OmnetForcedView.atSeq, if_neg hseq]
        · simpa using List.find?_some hpending
        · simp [Registry.findForRequest, hhash, hfound, hpending, hseq]

lemma CopiesPending.putView {reg : Registry} {r : Request} {copy : OmnetForcedView} (h : CopiesPending reg r copy) :
    reg.putView copy = reg.views.orderedInsert (fun a b => a.epoch ≤ b.epoch) copy := by
  have hkept : reg.views.filter (fun v => !v.sameKey copy) = reg.views := by
    rw [List.filter_eq_self]
    intro v hv
    have hno := List.find?_eq_none.mp h.missing v hv
    simp only [OmnetForcedView.matches, OmnetForcedView.sameKey, h.seq, h.hash, Bool.and_eq_true,
      decide_eq_true_eq] at hno ⊢
    rw [Bool.not_eq_true', Bool.and_assoc, Bool.and_eq_false_iff]
    right
    simpa using hno
  rw [Registry.putView, hkept]

theorem findForRequest_stable (reg : Registry) (r r' : Request) :
    ((reg.findForRequest r).2.findForRequest r').1 = (reg.findForRequest r').1 := by
  rcases findForRequest_snd reg r with hsame | ⟨copy, hcopy⟩
  · rw [hsame]
  · rw [findForRequest_fst, findForRequest_fst, hcopy.registry, Registry.viewAt, Registry.viewAt]
    dsimp only
    rw [hcopy.putView]
    by_cases hmatch : copy.matches r' = true
    · have hkey : r.seq = r'.seq ∧ r.hash = r'.hash := by
        simpa [OmnetForcedView.matches, hcopy.seq, hcopy.hash] using hmatch
      obtain ⟨pending, hpending, heq⟩ := hcopy.pending
      have hmissing := hcopy.missing
      simp only [OmnetForcedView.matches, hkey.1, hkey.2] at hmissing hpending heq
      rw [find?_orderedInsert_of_none hmatch hmissing, hmissing, hpending, Option.map_some, heq]
    · rw [find?_orderedInsert_of_not (by simpa [OmnetForcedView.matches] using hmatch)]

end V2vBft.Pbft
