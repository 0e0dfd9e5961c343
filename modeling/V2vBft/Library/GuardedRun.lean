import Mathlib

/-! Runs of a deterministic step function whose every event meets a guard on the state before it. -/

namespace V2vBft.Library.GuardedRun

variable {σ ε : Type*} (step : σ → ε → σ) (ok : σ → ε → Prop)

def run (s : σ) (events : List ε) : σ := events.foldl step s

def Guarded : σ → List ε → Prop
  | _, [] => True
  | s, e :: events => ok s e ∧ Guarded (step s e) events

instance instDecidableGuarded [∀ s e, Decidable (ok s e)] : ∀ s events, Decidable (Guarded step ok s events)
  | _, [] => inferInstanceAs (Decidable True)
  | s, e :: events =>
    have := instDecidableGuarded (step s e) events
    inferInstanceAs (Decidable (ok s e ∧ Guarded step ok (step s e) events))

variable {step ok}

@[simp] lemma run_nil (s : σ) : run step s [] = s := rfl

@[simp] lemma run_cons (s : σ) (e : ε) (events : List ε) : run step s (e :: events) = run step (step s e) events := rfl

lemma run_append (s : σ) (first second : List ε) :
    run step s (first ++ second) = run step (run step s first) second := List.foldl_append

lemma guarded_append {s : σ} {first second : List ε} :
    Guarded step ok s (first ++ second) ↔ Guarded step ok s first ∧ Guarded step ok (run step s first) second := by
  induction first generalizing s with
  | nil => simp [Guarded]
  | cons e first ih => simp only [List.cons_append, Guarded, run_cons, ih, and_assoc]

lemma guarded_snoc {s : σ} {events : List ε} {e : ε} (h : Guarded step ok s (events ++ [e])) :
    Guarded step ok s events ∧ ok (run step s events) e := by
  obtain ⟨hpre, hlast⟩ := guarded_append.mp h
  exact ⟨hpre, hlast.1⟩

lemma guarded_of_forall {events : List ε} (h : ∀ e ∈ events, ∀ s, ok s e) (s : σ) : Guarded step ok s events := by
  induction events generalizing s with
  | nil => trivial
  | cons e events ih =>
    exact ⟨h e List.mem_cons_self s, ih (fun e' he' => h e' (List.mem_cons_of_mem e he')) (step s e)⟩

lemma Guarded.mono {ok' : σ → ε → Prop} (hok : ∀ s e, ok s e → ok' s e) {s : σ} {events : List ε}
    (h : Guarded step ok s events) : Guarded step ok' s events := by
  induction events generalizing s with
  | nil => trivial
  | cons e events ih => exact ⟨hok s e h.1, ih h.2⟩

theorem guarded_congr {ok' : σ → ε → Prop} {Inv : σ → Prop} (hiff : ∀ s e, Inv s → (ok s e ↔ ok' s e))
    (hstep : ∀ s e, Inv s → ok s e → Inv (step s e)) {s : σ} {events : List ε} (hinit : Inv s) :
    Guarded step ok s events ↔ Guarded step ok' s events := by
  induction events generalizing s with
  | nil => rfl
  | cons e events ih =>
    rw [Guarded, Guarded, ← hiff s e hinit]
    exact and_congr_right fun hok => ih (hstep s e hinit hok)

lemma Guarded.and {ok' : σ → ε → Prop} {s : σ} {events : List ε} (h : Guarded step ok s events)
    (h' : Guarded step ok' s events) : Guarded step (fun s e => ok s e ∧ ok' s e) s events := by
  induction events generalizing s with
  | nil => trivial
  | cons e events ih => exact ⟨⟨h.1, h'.1⟩, ih h.2 h'.2⟩

theorem forall_prefix_iff {P : σ → Prop} {s : σ} {events : List ε} :
    (∀ pre post, events = pre ++ post → P (run step s pre)) ↔
      P s ∧ Guarded step (fun s e => P (step s e)) s events := by
  induction events generalizing s with
  | nil =>
    refine ⟨fun h => ⟨h [] [] rfl, trivial⟩, fun h pre post hsplit => ?_⟩
    obtain ⟨rfl, -⟩ := List.append_eq_nil_iff.mp hsplit.symm
    exact h.1
  | cons e events ih =>
    rw [Guarded, ← ih]
    constructor
    · intro h
      exact ⟨h [] _ rfl, fun pre post hsplit => h (e :: pre) post (by rw [hsplit, List.cons_append])⟩
    · rintro ⟨hstart, hrest⟩ pre post hsplit
      cases pre with
      | nil => exact hstart
      | cons e' pre =>
        obtain ⟨rfl, htail⟩ := List.cons.inj hsplit
        exact hrest pre post htail

theorem forall_step_iff {s : σ} {events : List ε} :
    (∀ pre e post, events = pre ++ e :: post → ok (run step s pre) e) ↔ Guarded step ok s events := by
  induction events generalizing s with
  | nil => exact iff_of_true (fun pre e post hsplit => by simp at hsplit) trivial
  | cons e events ih =>
    rw [Guarded, ← ih]
    constructor
    · intro h
      exact ⟨h [] e events rfl, fun pre e' post hsplit => h (e :: pre) e' post (by rw [hsplit, List.cons_append])⟩
    · rintro ⟨hfirst, hrest⟩ pre e' post hsplit
      cases pre with
      | nil =>
        obtain ⟨rfl, -⟩ := List.cons.inj hsplit
        exact hfirst
      | cons e'' pre =>
        obtain ⟨rfl, htail⟩ := List.cons.inj hsplit
        exact hrest pre e' post htail

lemma run_invariant {Inv : σ → Prop} (hstep : ∀ s e, Inv s → Inv (step s e)) {s : σ} (events : List ε)
    (hinit : Inv s) : Inv (run step s events) := by
  induction events generalizing s with
  | nil => exact hinit
  | cons e events ih => exact ih (hstep s e hinit)

theorem Guarded.invariant {Inv : σ → Prop} (hstep : ∀ s e, Inv s → ok s e → Inv (step s e)) {s : σ}
    {events : List ε} (hinit : Inv s) (h : Guarded step ok s events) : Inv (run step s events) := by
  induction events generalizing s with
  | nil => exact hinit
  | cons e events ih => exact ih (hstep s e hinit h.1) h.2

def collect {α : Type*} (step : σ → ε → σ) (out : σ → ε → List α) : σ → List ε → List α
  | _, [] => []
  | s, e :: events => out s e ++ collect step out (step s e) events

theorem Guarded.forall_collect {α : Type*} {out : σ → ε → List α} {Inv : σ → Prop} {P : α → Prop}
    (hstep : ∀ s e, Inv s → ok s e → Inv (step s e)) (hout : ∀ s e, Inv s → ok s e → ∀ a ∈ out s e, P a) {s : σ}
    {events : List ε} (hinit : Inv s) (h : Guarded step ok s events) : ∀ a ∈ collect step out s events, P a := by
  induction events generalizing s with
  | nil => exact fun a ha => absurd ha List.not_mem_nil
  | cons e events ih =>
    intro a ha
    rcases List.mem_append.mp ha with hnow | hlater
    · exact hout s e hinit h.1 a hnow
    · exact ih (hstep s e hinit h.1) h.2 a hlater

theorem run_view {α β : Type*} {out : σ → ε → List α} (view : σ → β) {absorb : β → α → β}
    (hstep : ∀ s e, view (step s e) = (out s e).foldl absorb (view s)) (s : σ) (events : List ε) :
    view (run step s events) = (collect step out s events).foldl absorb (view s) := by
  induction events generalizing s with
  | nil => rfl
  | cons e events ih => rw [run_cons, ih, hstep, collect, List.foldl_append]

-- a defect that every unguarded step leaves behind, and no later step removes
theorem guarded_of_not_bad (Inv Bad : σ → Prop) (hstep : ∀ s e, Inv s → Inv (step s e))
    (hstay : ∀ s e, Bad s → Bad (step s e)) (hbreak : ∀ s e, Inv s → ¬ok s e → Bad (step s e)) {s : σ}
    {events : List ε} (hinit : Inv s) (h : ¬Bad (run step s events)) : Guarded step ok s events := by
  induction events generalizing s with
  | nil => trivial
  | cons e events ih =>
    refine ⟨?_, ih (hstep s e hinit) h⟩
    by_contra hno
    exact h (run_invariant hstay events (hbreak s e hinit hno))

end V2vBft.Library.GuardedRun
