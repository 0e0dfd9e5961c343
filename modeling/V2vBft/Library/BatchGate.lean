import Mathlib

/-! A shared area crossed in batches: a member may go once the whole batch before its own is out again. -/

namespace V2vBft.Library.BatchGate

variable {V : Type*} {slot : V → Option ℕ}

structure Gate (V : Type*) where
  released : Set V
  entered : Set V
  cleared : Set V

def Gate.closed : Gate V := ⟨∅, ∅, ∅⟩

inductive Step (slot : V → Option ℕ) (g : Gate V) : Gate V → Prop
  | release (v : V) (k : ℕ) (hslot : slot v = some k)
      (hbehind : ∀ j, k = j + 1 → ∀ u, slot u = some j → u ∈ g.cleared) :
      Step slot g { g with released := insert v g.released }
  | move (entered cleared : Set V) (hkeep : g.entered ⊆ entered) (hgo : entered ⊆ g.entered ∪ g.released)
      (hout : g.cleared ⊆ cleared) (hthrough : cleared ⊆ entered) :
      Step slot g ⟨g.released, entered, cleared⟩

def Reaches (slot : V → Option ℕ) : Gate V → Gate V → Prop := Relation.ReflTransGen (Step slot)

structure Orderly (slot : V → Option ℕ) (g : Gate V) : Prop where
  entered : g.entered ⊆ g.released
  cleared : g.cleared ⊆ g.entered
  behind : ∀ v ∈ g.released, ∃ k, slot v = some k ∧ ∀ j, k = j + 1 → ∀ u, slot u = some j → u ∈ g.cleared

lemma orderly_closed : Orderly slot .closed :=
  ⟨Set.empty_subset _, Set.empty_subset _, fun _ hv => absurd hv (Set.notMem_empty _)⟩

lemma Orderly.step {g g' : Gate V} (h : Orderly slot g) (hstep : Step slot g g') : Orderly slot g' := by
  cases hstep with
  | release v k hslot hbehind =>
    refine ⟨h.entered.trans (Set.subset_insert v _), h.cleared, fun u hu => ?_⟩
    rcases hu with rfl | hu
    · exact ⟨k, hslot, hbehind⟩
    · exact h.behind u hu
  | move entered cleared hkeep hgo hout hthrough =>
    refine ⟨hgo.trans (Set.union_subset h.entered subset_rfl), hthrough, fun u hu => ?_⟩
    obtain ⟨k, hslot, hbehind⟩ := h.behind u hu
    exact ⟨k, hslot, fun j hj w hw => hout (hbehind j hj w hw)⟩

theorem Orderly.reaches {g g' : Gate V} (h : Orderly slot g) (hreach : Reaches slot g g') : Orderly slot g' := by
  induction hreach with
  | refl => exact h
  | tail _ hstep ih => exact ih.step hstep

-- no batch but the first lacks a predecessor
def Gapless (slot : V → Option ℕ) : Prop := ∀ v k, slot v = some (k + 1) → ∃ u, slot u = some k

lemma Orderly.behind_of_slot {g : Gate V} (h : Orderly slot g) {v : V} {j : ℕ} (hv : v ∈ g.released)
    (hslot : slot v = some (j + 1)) : ∀ u, slot u = some j → u ∈ g.cleared := by
  obtain ⟨k, hk, hbehind⟩ := h.behind v hv
  exact hbehind j (Option.some.inj (hk.symm.trans hslot))

-- down from the batch before the released one: each cleared member was itself released
theorem Orderly.earlier_cleared {g : Gate V} (h : Orderly slot g) (hgap : Gapless slot) {u v : V} {j k : ℕ}
    (hv : v ∈ g.released) (hk : slot v = some k) (hu : slot u = some j) (hlt : j < k) : u ∈ g.cleared := by
  induction k generalizing v with
  | zero => exact absurd hlt (Nat.not_lt_zero j)
  | succ k ih =>
    have hclear := h.behind_of_slot hv hk
    rcases Nat.lt_succ_iff_lt_or_eq.mp hlt with hearlier | rfl
    · obtain ⟨w, hw⟩ := hgap v k hk
      exact ih (h.entered (h.cleared (hclear w hw))) hw hearlier
    · exact hclear u hu

theorem Orderly.inside_same_slot {g : Gate V} (h : Orderly slot g) (hgap : Gapless slot) {u v : V}
    (hu : u ∈ g.entered \ g.cleared) (hv : v ∈ g.entered \ g.cleared) : slot u = slot v := by
  obtain ⟨j, hj, -⟩ := h.behind u (h.entered hu.1)
  obtain ⟨k, hk, -⟩ := h.behind v (h.entered hv.1)
  rcases lt_trichotomy j k with hlt | rfl | hgt
  · exact absurd (h.earlier_cleared hgap (h.entered hv.1) hk hj hlt) hu.2
  · exact hj.trans hk.symm
  · exact absurd (h.earlier_cleared hgap (h.entered hu.1) hj hk hgt) hv.2

theorem Orderly.later_waiting {g : Gate V} (h : Orderly slot g) (hgap : Gapless slot) {u v : V} {j k : ℕ}
    (hu : slot u = some j) (hopen : u ∉ g.cleared) (hv : slot v = some k) (hlt : j < k) : v ∉ g.released :=
  fun hrel => hopen (h.earlier_cleared hgap hrel hv hu hlt)

end V2vBft.Library.BatchGate
