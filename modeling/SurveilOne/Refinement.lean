import SurveilOne.Runs

/-!
# A system and what is seen of it

Of the actions of a run some are seen, as actions of a second system.  `Follows` says
that the second system can take what has been seen after every prefix of the run, and is
then in a state that is related to the state of the first.

The rule is `follows_iff`: when a step under a condition is matched by what is seen of
it, and a step outside the condition is not, a run follows the second system exactly
when each of its steps meets the condition.
-/

namespace Runs

variable {S A T B : Type}

/-- What is seen of a run, up to the first action that is not enabled. -/
def observed (step : S → A → Option S) (see : S → A → Option B) : S → List A → List B
  | _, [] => []
  | s, a :: rest =>
    match step s a with
    | none => []
    | some u => (see s a).toList ++ observed step see u rest

/-- After every prefix, what is seen of the run is a run of the second system from `t`,
and the states they end in are related. -/
def Follows (step : S → A → Option S) (step' : T → B → Option T) (see : S → A → Option B)
    (R : S → T → Prop) (s : S) (t : T) (as : List A) : Prop :=
  ∀ pre post u, as = pre ++ post → exec step s pre = some u →
    ∃ v, exec step' t (observed step see s pre) = some v ∧ R u v

variable {step : S → A → Option S} {step' : T → B → Option T} {see : S → A → Option B}
  {R : S → T → Prop} {s u : S} {t : T} {a : A} {rest : List A}

theorem observed_cons (h : step s a = some u) :
    observed step see s (a :: rest) = (see s a).toList ++ observed step see u rest := by
  rw [observed, h]

theorem Follows.here {as : List A} (h : Follows step step' see R s t as) : R s t := by
  obtain ⟨v, hrun, hrel⟩ := h [] as s rfl rfl
  cases hrun
  exact hrel

/-- The first step is matched by what is seen of it, and the rest follows from there. -/
theorem follows_cons_iff : Follows step step' see R s t (a :: rest) ↔
    R s t ∧ ∀ u, step s a = some u →
      ∃ v, exec step' t (see s a).toList = some v ∧ Follows step step' see R u v rest := by
  constructor
  · intro h
    refine ⟨h.here, fun u hu => ?_⟩
    have hfirst : exec step s [a] = some u := by
      rw [exec_cons, hu]
      rfl
    obtain ⟨v, hv, -⟩ := h [a] rest u rfl hfirst
    have hseen : observed step see s [a] = (see s a).toList := by
      rw [observed_cons hu]
      exact List.append_nil _
    rw [hseen] at hv
    refine ⟨v, hv, fun pre post w hsplit hrun => ?_⟩
    have hlonger : exec step s (a :: pre) = some w := by
      rw [exec_cons, hu]
      exact hrun
    obtain ⟨v', hv', hrel⟩ := h (a :: pre) post w (by rw [hsplit, List.cons_append]) hlonger
    rw [observed_cons hu, exec_append, hv] at hv'
    exact ⟨v', hv', hrel⟩
  · rintro ⟨hs, hnext⟩ pre post w hsplit hrun
    cases pre with
    | nil =>
      cases hrun
      exact ⟨t, rfl, hs⟩
    | cons b pre =>
      obtain ⟨rfl, htail⟩ := List.cons.inj hsplit
      obtain ⟨u, hu, hrun⟩ := Option.bind_eq_some_iff.mp hrun
      obtain ⟨v, hv, hrest⟩ := hnext u hu
      obtain ⟨v', hv', hrel⟩ := hrest pre post w htail hrun
      refine ⟨v', ?_, hrel⟩
      rw [observed_cons hu, exec_append, hv]
      exact hv'

section Rule

variable {I : S → Prop} {C : S → A → S → Prop}

/-- The exact rule for a refinement. -/
theorem follows_iff (keep : ∀ s a u, I s → C s a u → step s a = some u → I u)
    (sync : ∀ s t a u, I s → R s t → C s a u → step s a = some u →
      ∃ v, exec step' t (see s a).toList = some v ∧ R u v)
    (sharp : ∀ s t a u v, I s → R s t → step s a = some u →
      exec step' t (see s a).toList = some v → R u v → C s a u)
    (init : I s) (hrel : R s t) (as : List A) :
    Follows step step' see R s t as ↔ AtEachStep step C s as := by
  induction as generalizing s t with
  | nil =>
    refine iff_of_true (fun pre post u hsplit hrun => ?_) trivial
    obtain ⟨rfl, rfl⟩ := List.append_eq_nil_iff.mp hsplit.symm
    cases hrun
    exact ⟨t, rfl, hrel⟩
  | cons a rest ih =>
    rw [follows_cons_iff]
    constructor
    · rintro ⟨-, hnext⟩ u hu
      obtain ⟨v, hv, hrest⟩ := hnext u hu
      have hc := sharp s t a u v init hrel hu hv hrest.here
      exact ⟨hc, (ih (keep s a u init hc hu) hrest.here).mp hrest⟩
    · intro h
      refine ⟨hrel, fun u hu => ?_⟩
      obtain ⟨hc, hrest⟩ := h u hu
      obtain ⟨v, hv, hu'⟩ := sync s t a u init hrel hc hu
      exact ⟨v, hv, (ih (keep s a u init hc hu) hu').mpr hrest⟩

end Rule

end Runs
