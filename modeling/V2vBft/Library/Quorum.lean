import Mathlib

namespace V2vBft.Library.Quorum

variable {α : Type*} [DecidableEq α]

def Overlap (A B : Finset α) (p q f : ℕ) : Prop :=
  ∀ P ⊆ A, ∀ Q ⊆ B, p ≤ P.card → q ≤ Q.card → f < (P ∩ Q).card

lemma overlap_of_lt {A B : Finset α} {p q f : ℕ} (h : (A ∪ B).card + f < p + q) : Overlap A B p q f := by
  intro P hP Q hQ hp hq
  have hunion : (P ∪ Q).card ≤ (A ∪ B).card := Finset.card_le_card (Finset.union_subset_union hP hQ)
  have hinter := Finset.card_union_add_card_inter P Q
  omega

-- the least overlap: exhaust what the electorates do not share before touching what they do
lemma exists_small_overlap {A B : Finset α} {p q : ℕ} (hp : p ≤ A.card) (hq : q ≤ B.card) :
    ∃ P ⊆ A, ∃ Q ⊆ B, P.card = p ∧ Q.card = q ∧ (P ∩ Q).card ≤ p + q - (A ∪ B).card := by
  obtain ⟨P, hPA, hPp, hPmin⟩ : ∃ P ⊆ A, P.card = p ∧ (P ∩ B = ∅ ∨ A \ B ⊆ P) := by
    rcases le_total p (A \ B).card with hle | hge
    · obtain ⟨P, hP, hcard⟩ := Finset.exists_subset_card_eq hle
      refine ⟨P, hP.trans Finset.sdiff_subset, hcard, Or.inl ?_⟩
      exact Finset.disjoint_iff_inter_eq_empty.mp (Finset.disjoint_of_subset_left hP Finset.sdiff_disjoint)
    · obtain ⟨P, hsub, hPA, hcard⟩ := Finset.exists_subsuperset_card_eq Finset.sdiff_subset hge hp
      exact ⟨P, hPA, hcard, Or.inr hsub⟩
  rcases le_total q (B \ P).card with hle | hge
  · obtain ⟨Q, hQ, hcard⟩ := Finset.exists_subset_card_eq hle
    refine ⟨P, hPA, Q, hQ.trans Finset.sdiff_subset, hPp, hcard, ?_⟩
    have hempty : P ∩ Q = ∅ :=
      Finset.disjoint_iff_inter_eq_empty.mp (Finset.disjoint_of_subset_right hQ Finset.disjoint_sdiff)
    simp [hempty]
  · obtain ⟨Q, hsub, hQB, hcard⟩ := Finset.exists_subsuperset_card_eq Finset.sdiff_subset hge hq
    refine ⟨P, hPA, Q, hQB, hPp, hcard, ?_⟩
    rcases hPmin with hempty | hPsub
    · have hPQ : P ∩ Q = ∅ := by
        rw [← Finset.subset_empty, ← hempty]
        exact Finset.inter_subset_inter_left hQB
      simp [hPQ]
    · have hcover : P ∪ Q = A ∪ B := by
        refine Finset.Subset.antisymm (Finset.union_subset_union hPA hQB) fun x hx => ?_
        by_cases hxP : x ∈ P
        · exact Finset.mem_union_left _ hxP
        · have hxB : x ∈ B := by
            by_contra hxB
            have hxA : x ∈ A := (Finset.mem_union.mp hx).resolve_right hxB
            exact hxP (hPsub (Finset.mem_sdiff.mpr ⟨hxA, hxB⟩))
          exact Finset.mem_union_right _ (hsub (Finset.mem_sdiff.mpr ⟨hxB, hxP⟩))
      have hinter := Finset.card_union_add_card_inter P Q
      rw [hcover] at hinter
      omega

theorem overlap_iff {A B : Finset α} {p q : ℕ} (hp : p ≤ A.card) (hq : q ≤ B.card) (f : ℕ) :
    Overlap A B p q f ↔ (A ∪ B).card + f < p + q := by
  refine ⟨fun h => ?_, overlap_of_lt⟩
  obtain ⟨P, hP, Q, hQ, hPp, hQq, hsmall⟩ := exists_small_overlap hp hq
  have hlt := h P hP Q hQ hPp.ge hQq.ge
  omega

theorem Overlap.exists_correct {A B faulty : Finset α} {p q f : ℕ} (h : Overlap A B p q f)
    (hf : (A ∩ faulty).card ≤ f) {P Q : Finset α} (hP : P ⊆ A) (hQ : Q ⊆ B) (hp : p ≤ P.card)
    (hq : q ≤ Q.card) : ∃ x, x ∈ P ∧ x ∈ Q ∧ x ∉ faulty := by
  by_contra hnone
  push Not at hnone
  have hsub : P ∩ Q ⊆ A ∩ faulty := by
    intro x hx
    obtain ⟨hxP, hxQ⟩ := Finset.mem_inter.mp hx
    exact Finset.mem_inter.mpr ⟨hP hxP, hnone x hxP hxQ⟩
  have hlt := h P hP Q hQ hp hq
  have hle := (Finset.card_le_card hsub).trans hf
  omega

theorem Overlap.agree {β : Type*} {A B faulty : Finset α} {p q f : ℕ} {vote : α → β → Prop} {a b : β}
    (h : Overlap A B p q f) (hf : (A ∩ faulty).card ≤ f)
    (hvote : ∀ x ∉ faulty, ∀ u v, vote x u → vote x v → u = v) {P Q : Finset α} (hP : P ⊆ A) (hQ : Q ⊆ B)
    (hp : p ≤ P.card) (hq : q ≤ Q.card) (ha : ∀ x ∈ P, x ∈ faulty ∨ vote x a)
    (hb : ∀ x ∈ Q, x ∈ faulty ∨ vote x b) : a = b := by
  obtain ⟨x, hxP, hxQ, hx⟩ := h.exists_correct hf hP hQ hp hq
  have hva := (ha x hxP).resolve_left hx
  have hvb := (hb x hxQ).resolve_left hx
  exact hvote x hx a b hva hvb

end V2vBft.Library.Quorum
