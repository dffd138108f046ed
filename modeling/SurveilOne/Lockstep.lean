import SurveilOne.Runs

/-!
# Two systems on the same actions

Two partial step functions take the same actions, each from a state of its own.
`Alike` says that they look the same after every prefix of a run, where a system in
which some action is not enabled looks like nothing.

The rule is `alike_iff`: when a relation between the states lets a step of one be
matched by the other under a condition, and a step outside the condition shows, the
two look alike throughout a run exactly when each of its steps meets the condition.
-/

namespace Runs

variable {S T A V : Type}

/-- After every prefix of the run both have come to an end, or neither has and their
states look the same. -/
def Alike (step : S → A → Option S) (step' : T → A → Option T) (view : S → V) (view' : T → V)
    (s : S) (t : T) (as : List A) : Prop :=
  ∀ pre post, as = pre ++ post → (exec step s pre).map view = (exec step' t pre).map view'

variable {step : S → A → Option S} {step' : T → A → Option T} {view : S → V} {view' : T → V}

theorem Alike.here {s : S} {t : T} {as : List A} (h : Alike step step' view view' s t as) :
    view s = view' t :=
  Option.some.inj (h [] as rfl)

/-- The first action is not enabled in either, or it is in both and they go on alike. -/
theorem alike_cons_iff {s : S} {t : T} {a : A} {rest : List A} :
    Alike step step' view view' s t (a :: rest) ↔
      view s = view' t ∧ (step s a = none ∧ step' t a = none ∨
        ∃ s' t', step s a = some s' ∧ step' t a = some t' ∧
          Alike step step' view view' s' t' rest) := by
  constructor
  · intro h
    refine ⟨h.here, ?_⟩
    have hfirst := h [a] rest rfl
    rw [exec_cons, exec_cons] at hfirst
    cases hs : step s a with
    | none =>
      rw [hs] at hfirst
      cases ht : step' t a with
      | none => exact Or.inl ⟨rfl, rfl⟩
      | some t' =>
        rw [ht] at hfirst
        cases hfirst
    | some s' =>
      rw [hs] at hfirst
      cases ht : step' t a with
      | none =>
        rw [ht] at hfirst
        cases hfirst
      | some t' =>
        refine Or.inr ⟨s', t', rfl, rfl, fun pre post hsplit => ?_⟩
        have hrun := h (a :: pre) post (by rw [hsplit, List.cons_append])
        rw [exec_cons, exec_cons, hs, ht] at hrun
        exact hrun
  · rintro ⟨hview, hnext⟩ pre post hsplit
    cases pre with
    | nil => exact congrArg some hview
    | cons b pre =>
      obtain ⟨rfl, htail⟩ := List.cons.inj hsplit
      rw [exec_cons, exec_cons]
      rcases hnext with ⟨hs, ht⟩ | ⟨s', t', hs, ht, hrest⟩
      · rw [hs, ht]
        rfl
      · rw [hs, ht]
        exact hrest pre post htail

section Rule

variable {R : S → T → Prop} {C : S → A → S → Prop}

/-- The exact rule for two systems. -/
theorem alike_iff
    (sync : ∀ s t a s', R s t → step s a = some s' → C s a s' → ∃ t', step' t a = some t' ∧ R s' t')
    (stuck : ∀ s t a, R s t → step s a = none → step' t a = none)
    (safe : ∀ s t, R s t → view s = view' t)
    (sharp : ∀ s t a s' t', R s t → step s a = some s' → step' t a = some t' →
      view s' = view' t' → C s a s')
    {s : S} {t : T} (init : R s t) (as : List A) :
    Alike step step' view view' s t as ↔ AtEachStep step C s as := by
  induction as generalizing s t with
  | nil =>
    refine iff_of_true (fun pre post hsplit => ?_) trivial
    obtain ⟨rfl, rfl⟩ := List.append_eq_nil_iff.mp hsplit.symm
    exact congrArg some (safe s t init)
  | cons a rest ih =>
    rw [alike_cons_iff]
    constructor
    · rintro ⟨-, hnext⟩ s' hs
      rcases hnext with ⟨hnone, -⟩ | ⟨s₁, t', hs₁, ht, hrest⟩
      · rw [hs] at hnone
        cases hnone
      · obtain rfl := Option.some.inj (hs₁.symm.trans hs)
        have hc := sharp s t a s₁ t' init hs ht hrest.here
        obtain ⟨t₁, ht₁, hrel⟩ := sync s t a s₁ init hs hc
        obtain rfl := Option.some.inj (ht₁.symm.trans ht)
        exact ⟨hc, (ih hrel).mp hrest⟩
    · intro h
      refine ⟨safe s t init, ?_⟩
      cases hs : step s a with
      | none => exact Or.inl ⟨rfl, stuck s t a init hs⟩
      | some s' =>
        obtain ⟨hc, hrest⟩ := h s' hs
        obtain ⟨t', ht, hrel⟩ := sync s t a s' init hs hc
        exact Or.inr ⟨s', t', rfl, ht, (ih hrel).mpr hrest⟩

end Rule

end Runs
