import Mathlib

/-! One timer for a list of deadlines: it stands at the earliest of them, and is set again as they come and go. -/

namespace V2vBft.Library.Alarm

variable {α : Type*} [LinearOrder α] {alarm : Option α} {deadlines : List α}

def AtEarliest (alarm : Option α) (deadlines : List α) : Prop :=
  match alarm with
  | none => deadlines = []
  | some t => t ∈ deadlines ∧ ∀ d ∈ deadlines, t ≤ d

def rearm (alarm : Option α) (deadlines : List α) : Option α :=
  match deadlines.min? with
  | none => alarm
  | some next =>
    match alarm with
    | none => some next
    | some t => if t ≤ next then some t else some next

lemma atEarliest_min? (deadlines : List α) : AtEarliest deadlines.min? deadlines := by
  cases h : deadlines.min? with
  | none => exact List.min?_eq_none_iff.mp h
  | some t => exact List.min?_eq_some_iff.mp h

lemma rearm_none (deadlines : List α) : rearm none deadlines = deadlines.min? := by
  unfold rearm
  cases deadlines.min? <;> rfl

theorem atEarliest_rearm_none (deadlines : List α) : AtEarliest (rearm none deadlines) deadlines := by
  rw [rearm_none]
  exact atEarliest_min? deadlines

theorem AtEarliest.append (h : AtEarliest alarm deadlines) (d : α) :
    AtEarliest (rearm alarm (deadlines ++ [d])) (deadlines ++ [d]) := by
  obtain ⟨next, hnext⟩ : ∃ next, (deadlines ++ [d]).min? = some next :=
    Option.ne_none_iff_exists'.mp fun hnone => by simp at hnone
  obtain ⟨hmem, hle⟩ := List.min?_eq_some_iff.mp hnext
  cases alarm with
  | none =>
    rw [rearm_none]
    exact atEarliest_min? _
  | some t =>
    obtain ⟨ht, hall⟩ := h
    simp only [rearm, hnext]
    split
    next hbefore => exact ⟨List.mem_append_left _ ht, fun x hx => hbefore.trans (hle x hx)⟩
    next => exact ⟨hmem, hle⟩

lemma AtEarliest.le {t : α} (h : AtEarliest (some t) deadlines) {d : α} (hd : d ∈ deadlines) : t ≤ d := h.2 d hd

lemma AtEarliest.eq_nil (h : AtEarliest (none : Option α) deadlines) : deadlines = [] := h

end V2vBft.Library.Alarm
