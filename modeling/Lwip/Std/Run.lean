import Mathlib.Init

/-! Runs of a labelled transition system. `Run step s es t` says that the system can go from `s`
to `t` through the events `es`, oldest first. An invariant of the steps holds of every state a
run reaches; a history invariant may also speak of the events so far. A law of the steps comes down
to a guard on them where the two agree under an invariant. A part of the state whose steps are its
own has runs of its own; so have two systems side by side, which interleave their steps. A system
that another one simulates step by step is simulated over whole runs. -/

namespace Lwip

universe u v u' v'

variable {σ : Type u} {ε : Type v} {τ : Type u'} {φ : Type v'}

inductive Run (step : σ → ε → σ → Prop) (s : σ) : List ε → σ → Prop where
  | nil : Run step s [] s
  | snoc {es : List ε} {e : ε} {t t' : σ} :
      Run step s es t → step t e t' → Run step s (es ++ [e]) t'

namespace Run

variable {step : σ → ε → σ → Prop} {s t : σ} {es : List ε}

theorem history_invariant (Inv : List ε → σ → Prop) (start : Inv [] s)
    (keep : ∀ es t e t', Inv es t → step t e t' → Inv (es ++ [e]) t') (h : Run step s es t) :
    Inv es t := by
  induction h with
  | nil => exact start
  | snoc _ hs ih => exact keep _ _ _ _ ih hs

theorem invariant (Inv : σ → Prop) (start : Inv s)
    (keep : ∀ t e t', Inv t → step t e t' → Inv t') (h : Run step s es t) : Inv t :=
  history_invariant (fun _ => Inv) start (fun _ t e t' ht => keep t e t' ht) h

theorem mono {step' : σ → ε → σ → Prop} (h : Run step s es t)
    (imp : ∀ t e t', step t e t' → step' t e t') : Run step' s es t := by
  induction h with
  | nil => exact .nil
  | snoc _ hs ih => exact ih.snoc (imp _ _ _ hs)

theorem single {e : ε} (h : step s e t) : Run step s [e] t := by
  rw [← List.nil_append [e]]
  exact .snoc .nil h

theorem trans {es' : List ε} {u : σ} (h : Run step s es t) (h' : Run step t es' u) :
    Run step s (es ++ es') u := by
  induction h' with
  | nil => rwa [List.append_nil]
  | snoc _ hs ih =>
    rw [← List.append_assoc]
    exact .snoc ih hs

/-- The run of a system that steps by a function. -/
theorem of_foldlM {f : σ → ε → Option σ} (h : es.foldlM f s = some t) :
    Run (fun s e t => f s e = some t) s es t := by
  induction es generalizing s with
  | nil =>
    cases h
    exact .nil
  | cons e es ih =>
    rw [List.foldlM_cons] at h
    obtain ⟨u, first, rest⟩ := Option.bind_eq_some_iff.mp h
    exact (Run.single first).trans (ih rest)

/-- Steps that agree wherever an invariant of theirs holds have the same runs. -/
theorem iff_of_invariant {step' : σ → ε → σ → Prop} (Inv : σ → Prop) (start : Inv s)
    (keep : ∀ t e t', Inv t → step' t e t' → Inv t')
    (same : ∀ t e t', Inv t → (step t e t' ↔ step' t e t')) :
    Run step s es t ↔ Run step' s es t := by
  refine ⟨fun h => ?_, fun h => ?_⟩
  · have both : Run step' s es t ∧ Inv t := by
      induction h with
      | nil => exact ⟨.nil, start⟩
      | snoc _ hs ih =>
        have hs' := (same _ _ _ ih.2).mp hs
        exact ⟨.snoc ih.1 hs', keep _ _ _ ih.2 hs'⟩
    exact both.1
  · induction h with
    | nil => exact .nil
    | snoc h hs ih => exact .snoc ih ((same _ _ _ (h.invariant Inv start keep)).mpr hs)

/-- A law holds of every step of a run exactly when a guard does, if the two agree wherever an
invariant holds and guarded steps keep it. -/
theorem law_iff_guard {law guard : σ → ε → σ → Prop} (Inv : σ → Prop) (start : Inv s)
    (keep : ∀ t e t', Inv t → step t e t' → guard t e t' → Inv t')
    (same : ∀ t e t', Inv t → step t e t' → (law t e t' ↔ guard t e t')) :
    Run (fun t e t' => step t e t' ∧ law t e t') s es t ↔
      Run (fun t e t' => step t e t' ∧ guard t e t') s es t := by
  apply iff_of_invariant Inv start
  · intro t e t' ht h
    exact keep t e t' ht h.1 h.2
  · intro t e t' ht
    exact and_congr_right (same t e t' ht)

/-- A part of the state runs by itself, through the events that the part sees. -/
theorem project {step' : τ → φ → τ → Prop} (part : σ → τ) (see : ε → Option φ)
    (keep : ∀ t e t', step t e t' → Run step' (part t) ([e].filterMap see) (part t'))
    (h : Run step s es t) : Run step' (part s) (es.filterMap see) (part t) := by
  induction h with
  | nil => exact .nil
  | snoc _ hs ih =>
    rw [List.filterMap_append]
    exact ih.trans (keep _ _ _ hs)

/-- Forward simulation: what the events let see is the same in a run of the other system. -/
theorem simulated {step : σ → ε → σ → Prop} {step' : τ → φ → τ → Prop} {s t : σ} {u : τ}
    {es : List ε} {ω : Type*} {see : ε → Option ω} {see' : φ → Option ω} (R : σ → τ → Prop)
    (keep : ∀ t e t' v, R t v → step t e t' → ∃ es' v', Run step' v es' v' ∧ R t' v' ∧
      es'.filterMap see' = [e].filterMap see)
    (start : R s u) (h : Run step s es t) :
    ∃ es' v, Run step' u es' v ∧ R t v ∧ es'.filterMap see' = es.filterMap see := by
  induction h with
  | nil => exact ⟨[], u, .nil, start, rfl⟩
  | snoc _ hs ih =>
    obtain ⟨es', v, run, hv, same⟩ := ih
    obtain ⟨more, v', next, hv', same'⟩ := keep _ _ _ _ hv hs
    refine ⟨es' ++ more, v', run.trans next, hv', ?_⟩
    rw [List.filterMap_append, List.filterMap_append, same, same']

end Run

/-- A system beside the log of its events. -/
def Logged (step : σ → ε → σ → Prop) (o : List ε × σ) (e : ε) (o' : List ε × σ) : Prop :=
  step o.2 e o'.2 ∧ o'.1 = o.1 ++ [e]

/-! ## Two systems side by side -/

inductive Beside (step₁ : σ → ε → σ → Prop) (step₂ : τ → φ → τ → Prop) :
    σ × τ → ε ⊕ φ → σ × τ → Prop where
  | left {s s' : σ} {t : τ} {e : ε} (h : step₁ s e s') : Beside step₁ step₂ (s, t) (.inl e) (s', t)
  | right {s : σ} {t t' : τ} {e : φ} (h : step₂ t e t') :
    Beside step₁ step₂ (s, t) (.inr e) (s, t')

namespace Run

variable {step₁ : σ → ε → σ → Prop} {step₂ : τ → φ → τ → Prop} {s t : σ × τ} {es : List (ε ⊕ φ)}

theorem left (h : Run (Beside step₁ step₂) s es t) :
    Run step₁ s.1 (es.filterMap Sum.getLeft?) t.1 := by
  refine h.project Prod.fst Sum.getLeft? fun _ _ _ hs => ?_
  cases hs with
  | left hs => exact .single hs
  | right _ => exact .nil

theorem right (h : Run (Beside step₁ step₂) s es t) :
    Run step₂ s.2 (es.filterMap Sum.getRight?) t.2 := by
  refine h.project Prod.snd Sum.getRight? fun _ _ _ hs => ?_
  cases hs with
  | left _ => exact .nil
  | right hs => exact .single hs

end Run

end Lwip
