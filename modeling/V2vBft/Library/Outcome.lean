import Mathlib

/-! Programs that end with a value, with an exception, or by touching what lies outside their input. -/

namespace V2vBft.Library

inductive Outcome (α : Type*)
  | value (a : α)
  | thrown
  | outside
  deriving DecidableEq, Repr

namespace Outcome

variable {α β : Type*}

def bind : Outcome α → (α → Outcome β) → Outcome β
  | value a, f => f a
  | thrown, _ => thrown
  | outside, _ => outside

def ofOption : Option α → Outcome α
  | some a => value a
  | none => thrown

-- every exception is caught; what touches the outside is none
def caught (handler : α) : Outcome α → Outcome α
  | thrown => value handler
  | o => o

def copy (xs : List α) (off len : ℕ) : Outcome (List α) :=
  if off + len ≤ xs.length then value ((xs.drop off).take len) else outside

@[simp] lemma value_bind (a : α) (f : α → Outcome β) : (value a).bind f = f a := rfl

@[simp] lemma ofOption_some (a : α) : ofOption (some a) = value a := rfl

lemma bind_eq_value {o : Outcome α} {f : α → Outcome β} {b : β} :
    o.bind f = value b ↔ ∃ a, o = value a ∧ f a = value b := by
  cases o <;> simp [bind]

lemma ofOption_eq_value {o : Option α} {a : α} : ofOption o = value a ↔ o = some a := by
  cases o <;> simp [ofOption]

lemma copy_of_le {xs : List α} {off len : ℕ} (h : off + len ≤ xs.length) :
    copy xs off len = value ((xs.drop off).take len) := if_pos h

lemma copy_eq_value {xs ys : List α} {off len : ℕ} :
    copy xs off len = value ys ↔ off + len ≤ xs.length ∧ (xs.drop off).take len = ys := by
  rw [copy]
  split <;> simp_all

lemma ofOption_ne_outside (o : Option α) : ofOption o ≠ outside := by
  cases o <;> simp [ofOption]

lemma bind_ne_outside {o : Outcome α} {f : α → Outcome β} (ho : o ≠ outside) (hf : ∀ a, o = value a → f a ≠ outside) :
    o.bind f ≠ outside := by
  cases o with
  | value a => exact hf a rfl
  | thrown => simp [bind]
  | outside => exact absurd rfl ho

lemma caught_total {o : Outcome α} (h : o ≠ outside) (handler : α) : ∃ a, o.caught handler = value a := by
  cases o with
  | value a => exact ⟨a, rfl⟩
  | thrown => exact ⟨handler, rfl⟩
  | outside => exact absurd rfl h

lemma bind_total {o : Outcome α} {f : α → Outcome β} (ho : ∃ a, o = value a) (hf : ∀ a, o = value a → ∃ b, f a = value b) :
    ∃ b, o.bind f = value b := by
  obtain ⟨a, rfl⟩ := ho
  exact hf a rfl

lemma caught_eq_value {o : Outcome α} {a handler : α} (h : o.caught handler = value a) (hne : a ≠ handler) :
    o = value a := by
  cases o with
  | value b => exact h
  | thrown => exact absurd (value.inj h).symm hne
  | outside => cases h

end Outcome

end V2vBft.Library
