import Mathlib

/-! The place of an element in a list sorted by an injective key is the number of smaller keys. -/

namespace V2vBft.Library.SortedRank

variable {α β : Type*} [LinearOrder β] (key : α → β)

def sortByKey (l : List α) : List α := l.insertionSort fun a b => key a ≤ key b

def below (l : List α) (x : α) : ℕ := l.countP fun y => decide (key y < key x)

variable {key}

instance instTotalKey : Std.Total fun a b : α => key a ≤ key b := ⟨fun a b => le_total (key a) (key b)⟩

instance instTransKey : IsTrans α fun a b : α => key a ≤ key b := ⟨fun _ _ _ => le_trans⟩

lemma mem_sortByKey {l : List α} {x : α} : x ∈ sortByKey key l ↔ x ∈ l := List.mem_insertionSort _

lemma below_perm {l l' : List α} (h : l.Perm l') (x : α) : below key l x = below key l' x := h.countP_eq _

lemma idxOf_of_pairwise [BEq α] [LawfulBEq α] {l : List α} (h : l.Pairwise fun a b => key a < key b) {x : α} (hx : x ∈ l) :
    l.idxOf x = below key l x := by
  induction l with
  | nil => exact absurd hx List.not_mem_nil
  | cons a l ih =>
    obtain ⟨hhead, htail⟩ := List.pairwise_cons.mp h
    by_cases hax : a = x
    · subst hax
      have hnone : below key l a = 0 :=
        List.countP_eq_zero.mpr fun y hy => by simpa using (hhead y hy).le
      have hself : below key (a :: l) a = below key l a := List.countP_cons_of_neg (by simp)
      rw [List.idxOf_cons_self, hself, hnone]
    · have hmem : x ∈ l := (List.mem_cons.mp hx).resolve_left (Ne.symm hax)
      have hcount : below key (a :: l) x = below key l x + 1 :=
        List.countP_cons_of_pos (by simpa using hhead x hmem)
      rw [List.idxOf_cons_ne l hax, ih htail hmem, hcount]

lemma pairwise_sortByKey {l : List α} (hnodup : l.Nodup) (hinj : ∀ a ∈ l, ∀ b ∈ l, key a = key b → a = b) :
    (sortByKey key l).Pairwise fun a b => key a < key b := by
  have hsorted : (sortByKey key l).Pairwise fun a b => key a ≤ key b := List.pairwise_insertionSort _ l
  have hne : (sortByKey key l).Pairwise fun a b => a ≠ b := (List.perm_insertionSort _ l).nodup_iff.mpr hnodup
  refine (hsorted.and hne).imp_of_mem fun ha hb hab => lt_of_le_of_ne hab.1 fun heq => hab.2 ?_
  exact hinj _ (mem_sortByKey.mp ha) _ (mem_sortByKey.mp hb) heq

theorem idxOf_sortByKey [BEq α] [LawfulBEq α] {l : List α} (hnodup : l.Nodup)
    (hinj : ∀ a ∈ l, ∀ b ∈ l, key a = key b → a = b) {x : α} (hx : x ∈ l) : (sortByKey key l).idxOf x = below key l x := by
  rw [idxOf_of_pairwise (pairwise_sortByKey hnodup hinj) (mem_sortByKey.mpr hx)]
  exact below_perm (List.perm_insertionSort _ l) x

theorem map_below_perm [DecidableEq α] {l : List α} (hnodup : l.Nodup)
    (hinj : ∀ a ∈ l, ∀ b ∈ l, key a = key b → a = b) : (l.map (below key l)).Perm (List.range l.length) := by
  have hperm : (sortByKey key l).Perm l := List.perm_insertionSort _ l
  have hsorted : (sortByKey key l).Nodup := hperm.nodup_iff.mpr hnodup
  have hranks : (sortByKey key l).map (below key l) = List.range l.length := by
    refine List.ext_getElem (by simp [hperm.length_eq]) fun i hi _ => ?_
    have hi' : i < (sortByKey key l).length := by simpa using hi
    rw [List.getElem_map, List.getElem_range, ← below_perm hperm,
      ← idxOf_of_pairwise (pairwise_sortByKey hnodup hinj) (List.getElem_mem hi')]
    exact hsorted.idxOf_getElem i hi'
  exact (hperm.symm.map _).trans (List.Perm.of_eq hranks)

lemma below_lt_length {l : List α} {x : α} (hx : x ∈ l) : below key l x < l.length :=
  List.countP_lt_length_iff.mpr ⟨x, hx, by simp⟩

lemma below_mono {l : List α} {x y : α} (h : key x ≤ key y) : below key l x ≤ below key l y :=
  List.countP_mono_left fun _ _ hz => decide_eq_true ((of_decide_eq_true hz).trans_le h)

lemma below_lt_iff {l : List α} {x y : α} (hx : x ∈ l) : below key l x < below key l y ↔ key x < key y := by
  refine ⟨fun h => lt_of_not_ge fun hge => absurd (below_mono hge) (not_le.mpr h), fun h => ?_⟩
  obtain ⟨before, rest, rfl⟩ := List.append_of_mem hx
  have hbefore : below key before x ≤ below key before y := below_mono h.le
  have hrest : below key rest x ≤ below key rest y := below_mono h.le
  have hself : below key (x :: rest) x = below key rest x := List.countP_cons_of_neg (by simp)
  have hcount : below key (x :: rest) y = below key rest y + 1 := List.countP_cons_of_pos (by simpa using h)
  simp only [below] at hbefore hrest hself hcount ⊢
  rw [List.countP_append, List.countP_append]
  omega

theorem countP_eq_of_keys {γ κ : Type*} [DecidableEq κ] {l : List α} {l' : List γ} {f : α → κ} {g : γ → κ}
    {p : α → Bool} {q : γ → Bool} (hl : (l.map f).Nodup) (hl' : (l'.map g).Nodup)
    (h : ∀ k, (∃ x ∈ l, p x = true ∧ f x = k) ↔ ∃ y ∈ l', q y = true ∧ g y = k) : l.countP p = l'.countP q := by
  have hperm : ((l.filter p).map f).Perm ((l'.filter q).map g) := by
    refine (List.perm_ext_iff_of_nodup ?_ ?_).mpr fun k => ?_
    · exact hl.sublist (List.filter_sublist.map f)
    · exact hl'.sublist (List.filter_sublist.map g)
    · simpa only [List.mem_map, List.mem_filter, and_assoc] using h k
  have hlength := hperm.length_eq
  rwa [List.length_map, List.length_map, ← List.countP_eq_length_filter, ← List.countP_eq_length_filter] at hlength

lemma countP_split (l : List α) (p q : α → Bool) :
    l.countP p = l.countP (fun x => q x && p x) + l.countP (fun x => !q x && p x) := by
  induction l with
  | nil => rfl
  | cons x l ih =>
    simp only [List.countP_cons, ih]
    cases q x <;> simp <;> omega

end V2vBft.Library.SortedRank
