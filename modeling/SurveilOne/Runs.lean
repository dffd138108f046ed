/-!
# Runs of a partial step function

A system is a step function `step : S → A → Option S`, where `none` says that
the action is not enabled.  A run is the list of actions taken, so a statement
about every list is a statement about every order of steps.

`Throughout` holds a property of every state a run passes through and
`AtEachStep` holds a property of every step it takes.  The rule the
developments use is `throughout_iff`: when a condition on steps keeps an
invariant, and every step that breaks the condition breaks the property at
once, the property holds throughout a run exactly when each of its steps meets
the condition.
-/

namespace Runs

variable {S A : Type}

/-- The state after the actions of a run, or `none` when one is not enabled. -/
def exec (step : S → A → Option S) : S → List A → Option S
  | s, [] => some s
  | s, a :: rest => (step s a).bind fun t => exec step t rest

/-- Every state the run passes through, the first included, satisfies `P`.  The
run stops at the first action that is not enabled. -/
def Throughout (step : S → A → Option S) (P : S → Prop) : S → List A → Prop
  | s, [] => P s
  | s, a :: rest => P s ∧ ∀ t, step s a = some t → Throughout step P t rest

/-- Every step of the run, given with the states before and after it,
satisfies `C`. -/
def AtEachStep (step : S → A → Option S) (C : S → A → S → Prop) : S → List A → Prop
  | _, [] => True
  | s, a :: rest => ∀ t, step s a = some t → C s a t ∧ AtEachStep step C t rest

/-- A state some run from `s` ends in. -/
def Reachable (step : S → A → Option S) (s t : S) : Prop := ∃ as, exec step s as = some t

variable {step : S → A → Option S}

theorem exec_cons (s : S) (a : A) (rest : List A) :
    exec step s (a :: rest) = (step s a).bind fun t => exec step t rest := rfl

theorem Throughout.here {P : S → Prop} {s : S} {as : List A} (h : Throughout step P s as) : P s := by
  cases as with
  | nil => exact h
  | cons a rest => exact h.1

/-- `Throughout` speaks of exactly the states that prefixes of the run end in. -/
theorem throughout_iff_exec {P : S → Prop} {s : S} {as : List A} :
    Throughout step P s as ↔
      ∀ pre post t, as = pre ++ post → exec step s pre = some t → P t := by
  induction as generalizing s with
  | nil =>
    constructor
    · intro h pre post t hsplit hrun
      obtain ⟨rfl, rfl⟩ := List.append_eq_nil_iff.mp hsplit.symm
      cases hrun
      exact h
    · intro h
      exact h [] [] s rfl rfl
  | cons a rest ih =>
    constructor
    · rintro ⟨hs, hrest⟩ pre post t hsplit hrun
      cases pre with
      | nil => cases hrun; exact hs
      | cons b pre =>
        obtain ⟨rfl, htail⟩ := List.cons.inj hsplit
        obtain ⟨u, hu, hrun⟩ := Option.bind_eq_some_iff.mp hrun
        exact ih.mp (hrest u hu) pre post t htail hrun
    · intro h
      refine ⟨h [] (a :: rest) s rfl rfl, fun u hu => ih.mpr ?_⟩
      intro pre post t hsplit hrun
      refine h (a :: pre) post t (by rw [hsplit, List.cons_append]) ?_
      rw [exec_cons, hu]
      exact hrun

theorem exec_append (s : S) (as bs : List A) :
    exec step s (as ++ bs) = (exec step s as).bind fun t => exec step t bs := by
  induction as generalizing s with
  | nil => rfl
  | cons a rest ih =>
    rw [List.cons_append, exec_cons, exec_cons]
    cases step s a with
    | none => rfl
    | some t => exact ih t

theorem Reachable.refl (s : S) : Reachable step s s := ⟨[], rfl⟩

theorem Reachable.snoc {s t u : S} {a : A} (h : Reachable step s t) (hstep : step t a = some u) :
    Reachable step s u := by
  obtain ⟨as, has⟩ := h
  refine ⟨as ++ [a], ?_⟩
  rw [exec_append, has, Option.bind_some, exec_cons, hstep]
  rfl

theorem Reachable.cons {s t u : S} {a : A} (h : Reachable step t u) (hstep : step s a = some t) :
    Reachable step s u := by
  obtain ⟨as, has⟩ := h
  exact ⟨a :: as, by rw [exec_cons, hstep, Option.bind_some, has]⟩

theorem Reachable.trans {s t u : S} (h : Reachable step s t) (h' : Reachable step t u) :
    Reachable step s u := by
  obtain ⟨as, has⟩ := h
  obtain ⟨bs, hbs⟩ := h'
  exact ⟨as ++ bs, by rw [exec_append, has, Option.bind_some, hbs]⟩

/-- A property of the states holds in every reachable state once it holds
throughout every run. -/
theorem Reachable.of_throughout {P : S → Prop} {s t : S}
    (h : ∀ as, Throughout step P s as) (hr : Reachable step s t) : P t := by
  obtain ⟨as, has⟩ := hr
  exact throughout_iff_exec.mp (h as) as [] t (List.append_nil as).symm has

theorem Throughout.mono {P Q : S → Prop} (h : ∀ s, P s → Q s) {s : S} {as : List A}
    (hp : Throughout step P s as) : Throughout step Q s as := by
  induction as generalizing s with
  | nil => exact h s hp
  | cons a rest ih => exact ⟨h s hp.1, fun t ht => ih (hp.2 t ht)⟩

theorem AtEachStep.of_forall {C : S → A → S → Prop} (h : ∀ s a t, C s a t) (s : S) (as : List A) :
    AtEachStep step C s as := by
  induction as generalizing s with
  | nil => trivial
  | cons a rest ih => exact fun t _ => ⟨h s a t, ih t⟩

theorem AtEachStep.mono {C D : S → A → S → Prop} (h : ∀ s a t, C s a t → D s a t)
    {s : S} {as : List A} (hc : AtEachStep step C s as) : AtEachStep step D s as := by
  induction as generalizing s with
  | nil => trivial
  | cons a rest ih => exact fun t ht => ⟨h s a t (hc t ht).1, ih (hc t ht).2⟩

theorem atEachStep_and {C D : S → A → S → Prop} {s : S} {as : List A} :
    AtEachStep step (fun s a t => C s a t ∧ D s a t) s as ↔
      AtEachStep step C s as ∧ AtEachStep step D s as := by
  induction as generalizing s with
  | nil => exact ⟨fun _ => ⟨trivial, trivial⟩, fun _ => trivial⟩
  | cons a rest ih =>
    constructor
    · intro h
      exact ⟨fun t ht => ⟨(h t ht).1.1, (ih.mp (h t ht).2).1⟩,
        fun t ht => ⟨(h t ht).1.2, (ih.mp (h t ht).2).2⟩⟩
    · rintro ⟨hc, hd⟩ t ht
      exact ⟨⟨(hc t ht).1, (hd t ht).1⟩, ih.mpr ⟨(hc t ht).2, (hd t ht).2⟩⟩

section Rules

variable {I P : S → Prop} {C Q : S → A → S → Prop}

/-- An invariant that conditioned steps keep holds throughout a run of
conditioned steps. -/
theorem throughout_of_inv (keep : ∀ s a t, I s → C s a t → step s a = some t → I t)
    (safe : ∀ s, I s → P s) {s : S} {as : List A} (init : I s)
    (hc : AtEachStep step C s as) : Throughout step P s as := by
  induction as generalizing s with
  | nil => exact safe s init
  | cons a rest ih =>
    refine ⟨safe s init, fun t ht => ?_⟩
    obtain ⟨hstep, hrest⟩ := hc t ht
    exact ih (keep s a t init hstep ht) hrest

/-- The same for a property of steps. -/
theorem atEachStep_of_inv (keep : ∀ s a t, I s → C s a t → step s a = some t → I t)
    (safe : ∀ s a t, I s → C s a t → step s a = some t → Q s a t) {s : S} {as : List A}
    (init : I s) (hc : AtEachStep step C s as) : AtEachStep step Q s as := by
  induction as generalizing s with
  | nil => trivial
  | cons a rest ih =>
    intro t ht
    obtain ⟨hstep, hrest⟩ := hc t ht
    exact ⟨safe s a t init hstep ht, ih (keep s a t init hstep ht) hrest⟩

/-- Two properties of steps that agree wherever an invariant holds. -/
theorem atEachStep_iff (keep : ∀ s a t, I s → step s a = some t → I t)
    (exact : ∀ s a t, I s → step s a = some t → (Q s a t ↔ C s a t)) {s : S} (init : I s)
    (as : List A) : AtEachStep step Q s as ↔ AtEachStep step C s as := by
  induction as generalizing s with
  | nil => exact Iff.rfl
  | cons a rest ih =>
    exact forall₂_congr fun t ht => and_congr (exact s a t init ht) (ih (keep s a t init ht))

/-- An invariant that every step keeps holds throughout every run. -/
theorem throughout_of_step (keep : ∀ s a t, I s → step s a = some t → I t)
    (safe : ∀ s, I s → P s) {s : S} (init : I s) (as : List A) : Throughout step P s as := by
  induction as generalizing s with
  | nil => exact safe s init
  | cons a rest ih => exact ⟨safe s init, fun t ht => ih (keep s a t init ht)⟩

/-- An invariant that every step keeps is there in every state reached. -/
theorem Reachable.keeps {s t : S} (h : Reachable step s t)
    (keep : ∀ s a t, I s → step s a = some t → I t) (init : I s) : I t :=
  of_throughout (throughout_of_step keep (fun _ hs => hs) init) h

/-- The exact rule.  A step outside the condition breaks the property in the
state it ends in, so the property holds throughout a run if and only if every
step meets the condition. -/
theorem throughout_iff (keep : ∀ s a t, I s → C s a t → step s a = some t → I t)
    (safe : ∀ s, I s → P s) (sharp : ∀ s a t, I s → step s a = some t → P t → C s a t)
    {s : S} (init : I s) (as : List A) :
    Throughout step P s as ↔ AtEachStep step C s as := by
  refine ⟨fun h => ?_, throughout_of_inv keep safe init⟩
  induction as generalizing s with
  | nil => trivial
  | cons a rest ih =>
    intro t ht
    have hstep : C s a t := sharp s a t init ht (h.2 t ht).here
    exact ⟨hstep, ih (keep s a t init hstep ht) (h.2 t ht)⟩

end Rules

end Runs
