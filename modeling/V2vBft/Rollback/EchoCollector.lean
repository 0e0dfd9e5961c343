import V2vBft.Rollback.WitnessExactness

namespace V2vBft.Rollback

open Wire App

variable {ctx : WitnessContext} {stmt : WitnessStatement} {echo : WitnessEcho}

-- the buckets of all statements, in the order of arrival; the signers of a key are those of its bucket
structure EchoCollector where
  entries : List (Bytes × WitnessEcho)
  deriving DecidableEq, Repr

def EchoCollector.empty : EchoCollector := ⟨[]⟩

def EchoCollector.bucket (c : EchoCollector) (key : Bytes) : List WitnessEcho :=
  (c.entries.filter fun entry => decide (entry.1 = key)).map Prod.snd

def EchoCollector.add (c : EchoCollector) (stmt : WitnessStatement) (echo : WitnessEcho) : EchoCollector × Bool :=
  if (c.bucket stmt.collectorKey).any fun e => decide (e.signerId = echo.signerId) then (c, false)
  else (⟨c.entries ++ [(stmt.collectorKey, echo)]⟩, true)

def echoesOf (stmt : WitnessStatement) (heard : List (WitnessStatement × WitnessEcho)) : List WitnessEcho :=
  (heard.filter fun h => decide (h.1 = stmt)).map Prod.snd

def EchoCollector.Heard (c : EchoCollector) (heard : List (WitnessStatement × WitnessEcho)) : Prop :=
  ∀ entry ∈ c.entries, ∃ stmt, (stmt, entry.2) ∈ heard ∧ stmt.collectorKey = entry.1

lemma separator_append_inj {sep : UInt8} {xs ys a b : Bytes} (hxs : sep ∉ xs) (hys : sep ∉ ys)
    (h : xs ++ sep :: a = ys ++ sep :: b) : xs = ys ∧ a = b := by
  have hrev := congrArg List.reverse h
  simp only [List.reverse_append, List.reverse_cons, List.append_assoc, List.singleton_append] at hrev
  obtain ⟨ha, hx⟩ := append_separator_inj (by simpa using hxs) (by simpa using hys) hrev
  exact ⟨List.reverse_injective hx, List.reverse_injective ha⟩

lemma WitnessKind.code_injective : Function.Injective WitnessKind.code := by
  intro k k' h
  cases k <;> cases k' <;> simp_all [WitnessKind.code]

lemma collectorKey_injective : Function.Injective WitnessStatement.collectorKey := by
  intro stmt stmt' h
  obtain ⟨epoch, kind, ref⟩ := stmt
  obtain ⟨epoch', kind', ref'⟩ := stmt'
  have hno : ∀ n, (58 : UInt8) ∉ decimalNat n := fun n => decimalNat_notMem (by decide)
  have hcolon : ∀ xs, ascii ":" ++ xs = 58 :: xs := fun _ => rfl
  simp only [WitnessStatement.collectorKey, List.append_assoc, hcolon] at h
  obtain ⟨hepoch, hrest⟩ := separator_append_inj (hno epoch) (hno epoch') h
  obtain ⟨hkind, href⟩ := separator_append_inj (hno _) (hno _) hrest
  rw [decimalNat_injective hepoch, WitnessKind.code_injective (decimalNat_injective hkind), href]

lemma mem_echoesOf {heard : List (WitnessStatement × WitnessEcho)} : echo ∈ echoesOf stmt heard ↔ (stmt, echo) ∈ heard := by
  simp [echoesOf]

lemma echoesOf_append (heard heard' : List (WitnessStatement × WitnessEcho)) :
    echoesOf stmt (heard ++ heard') = echoesOf stmt heard ++ echoesOf stmt heard' := by
  simp [echoesOf]

lemma EchoCollector.Heard.bucket {c : EchoCollector} {heard : List (WitnessStatement × WitnessEcho)} (h : c.Heard heard) :
    c.bucket stmt.collectorKey ⊆ echoesOf stmt heard := by
  intro e he
  obtain ⟨entry, hentry, rfl⟩ := List.mem_map.mp he
  obtain ⟨hmem, hkey⟩ := List.mem_filter.mp hentry
  obtain ⟨stmt', hheard, hkey'⟩ := h entry hmem
  rw [← collectorKey_injective (hkey'.trans (of_decide_eq_true hkey))]
  exact mem_echoesOf.mpr hheard

lemma EchoCollector.Heard.more {c : EchoCollector} {heard : List (WitnessStatement × WitnessEcho)} (h : c.Heard heard)
    (later : List (WitnessStatement × WitnessEcho)) : c.Heard (heard ++ later) := by
  intro entry hentry
  obtain ⟨s, hs, hkey⟩ := h entry hentry
  exact ⟨s, List.mem_append_left _ hs, hkey⟩

lemma EchoCollector.Heard.add {c : EchoCollector} {heard : List (WitnessStatement × WitnessEcho)} (h : c.Heard heard) :
    (c.add stmt echo).1.Heard (heard ++ [(stmt, echo)]) := by
  rw [EchoCollector.add]
  split
  · exact h.more _
  · intro entry hentry
    rcases List.mem_append.mp hentry with hentry | hnew
    · exact h.more _ entry hentry
    · rw [List.mem_singleton.mp hnew]
      exact ⟨stmt, List.mem_append_right _ (List.mem_singleton_self _), rfl⟩

-- the members that were heard, but whose place in the bucket is held by an echo that is not theirs
def hijacked (ctx : WitnessContext) (stmt : WitnessStatement) (heard bucket : List WitnessEcho) : Finset ℤ :=
  (supporters ctx stmt heard).filter fun signer => standsBehind ctx stmt bucket signer = false

lemma validateWitnesses_hijacked {f : ℤ} {heard bucket : List WitnessEcho} (h : bucket ⊆ heard) :
    validateWitnesses ctx f stmt bucket = true ↔
      f + 1 + (hijacked ctx stmt heard bucket).card ≤ ((supporters ctx stmt heard).card : ℤ) := by
  have hsplit := Finset.card_filter_add_card_filter_not (s := supporters ctx stmt heard)
    fun signer => standsBehind ctx stmt bucket signer = false
  rw [validateWitnesses_eq, counted_eq h, decide_eq_true_eq, hijacked]
  omega

end V2vBft.Rollback
