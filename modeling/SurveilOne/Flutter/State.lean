import SurveilOne.Dart.Value

/-!
# State objects and their asynchronous handlers

A `Frame` is a `State` object: its fields and whether it is still mounted.  A
`Handler` is the code of a method between two suspensions.  It reads and
assigns fields, calls `setState` and may throw, and what it assigned before it
threw stays assigned.

`setState` on a disposed `State` throws, and the frame counts those calls.  A
handler is `Timely` when it makes none on a mounted frame, and every way of
composing handlers keeps that.
-/

namespace Flutter

open Dart

structure Frame (σ : Type) where
  fields : σ
  mounted : Bool := true
  /-- The number of `setState` calls made after the `State` was disposed. -/
  lateSetStates : Nat := 0

def Handler (σ α : Type) : Type := Frame σ → Except Thrown α × Frame σ

namespace Handler

variable {σ α β : Type}

def run (h : Handler σ α) (fr : Frame σ) : Except Thrown α × Frame σ := h fr

instance : Monad (Handler σ) where
  pure a := fun fr => (.ok a, fr)
  bind x f := fun fr =>
    match x fr with
    | (.ok a, fr') => f a fr'
    | (.error e, fr') => (.error e, fr')

def throw (e : Thrown) : Handler σ α := fun fr => (.error e, fr)

/-- The result of code that touches no field. -/
def lift (x : Except Thrown α) : Handler σ α := fun fr => (x, fr)

/-- `try … catch (e) …`. -/
def tryCatch (body : Handler σ α) (onError : Thrown → Handler σ α) : Handler σ α := fun fr =>
  match body fr with
  | (.ok a, fr') => (.ok a, fr')
  | (.error e, fr') => onError e fr'

/-- `try … finally …`. -/
def tryFinally (body : Handler σ α) (final : Handler σ Unit) : Handler σ α := fun fr =>
  match body fr with
  | (r, fr') =>
    match final fr' with
    | (.ok _, fr'') => (r, fr'')
    | (.error e, fr'') => (.error e, fr'')

/-- The getter `mounted`. -/
def mounted : Handler σ Bool := fun fr => (.ok fr.mounted, fr)

def getFields : Handler σ σ := fun fr => (.ok fr.fields, fr)

/-- Assignments made outside `setState`. -/
def assign (f : σ → σ) : Handler σ Unit := fun fr => (.ok (), { fr with fields := f fr.fields })

/-- `setState` with a callback that may throw after some of its assignments. -/
def setStateThrowing (callback : σ → Except Thrown Unit × σ) : Handler σ Unit := fun fr =>
  if fr.mounted then
    ((callback fr.fields).1, { fr with fields := (callback fr.fields).2 })
  else (.error .setStateAfterDispose, { fr with lateSetStates := fr.lateSetStates + 1 })

def setState (f : σ → σ) : Handler σ Unit := setStateThrowing fun s => (.ok (), f s)

/-- `if (mounted) …`, and also the rest of a method after
`if (!mounted) return;`. -/
def whenMounted (h : Handler σ Unit) : Handler σ Unit := fun fr =>
  if fr.mounted then h fr else (.ok (), fr)

/-! ## Running -/

@[simp] theorem run_pure (a : α) (fr : Frame σ) : (pure a : Handler σ α).run fr = (.ok a, fr) := rfl

theorem run_bind (x : Handler σ α) (f : α → Handler σ β) (fr : Frame σ) :
    (x >>= f).run fr =
      match x.run fr with
      | (.ok a, fr') => (f a).run fr'
      | (.error e, fr') => (.error e, fr') := rfl

theorem run_bind_ok {x : Handler σ α} {f : α → Handler σ β} {fr fr' : Frame σ} {a : α}
    (h : x.run fr = (.ok a, fr')) : (x >>= f).run fr = (f a).run fr' := by
  rw [run_bind, h]

theorem run_bind_error {x : Handler σ α} {f : α → Handler σ β} {fr fr' : Frame σ} {e : Thrown}
    (h : x.run fr = (.error e, fr')) : (x >>= f).run fr = (.error e, fr') := by
  rw [run_bind, h]

theorem result_bind_ok {x : Handler σ α} {f : α → Handler σ β} {fr : Frame σ} {b : β}
    (h : ((x >>= f).run fr).1 = .ok b) :
    ∃ a fr', x.run fr = (.ok a, fr') ∧ ((f a).run fr').1 = .ok b := by
  cases hr : x.run fr with
  | mk r fr' =>
    cases r with
    | ok a => exact ⟨a, fr', rfl, by rw [← run_bind_ok hr]; exact h⟩
    | error e =>
      rw [run_bind_error hr] at h
      cases h

@[simp] theorem run_throw (e : Thrown) (fr : Frame σ) :
    (throw e : Handler σ α).run fr = (.error e, fr) := rfl

@[simp] theorem run_lift (x : Except Thrown α) (fr : Frame σ) :
    (lift x : Handler σ α).run fr = (x, fr) := rfl

theorem run_tryCatch (body : Handler σ α) (onError : Thrown → Handler σ α) (fr : Frame σ) :
    (tryCatch body onError).run fr =
      match body.run fr with
      | (.ok a, fr') => (.ok a, fr')
      | (.error e, fr') => (onError e).run fr' := rfl

theorem run_tryCatch_ok {body : Handler σ α} {onError : Thrown → Handler σ α} {fr fr' : Frame σ}
    {a : α} (h : body.run fr = (.ok a, fr')) : (tryCatch body onError).run fr = (.ok a, fr') := by
  rw [run_tryCatch, h]

theorem run_tryCatch_error {body : Handler σ α} {onError : Thrown → Handler σ α}
    {fr fr' : Frame σ} {e : Thrown} (h : body.run fr = (.error e, fr')) :
    (tryCatch body onError).run fr = (onError e).run fr' := by
  rw [run_tryCatch, h]

theorem run_tryFinally (body : Handler σ α) (final : Handler σ Unit) (fr : Frame σ) :
    (tryFinally body final).run fr =
      match body.run fr with
      | (r, fr') =>
        match final.run fr' with
        | (.ok _, fr'') => (r, fr'')
        | (.error e, fr'') => (.error e, fr'') := rfl

theorem run_tryFinally_ok {body : Handler σ α} {final : Handler σ Unit} {fr fr' fr'' : Frame σ}
    {r : Except Thrown α} (h : body.run fr = (r, fr')) (hf : final.run fr' = (.ok (), fr'')) :
    (tryFinally body final).run fr = (r, fr'') := by
  rw [run_tryFinally, h]
  simp only [hf]

theorem result_tryCatch_ok {body : Handler σ α} {onError : Thrown → Handler σ α} {fr : Frame σ}
    {a : α} (h : ((tryCatch body onError).run fr).1 = .ok a) :
    (body.run fr).1 = .ok a ∨
      ∃ e fr', body.run fr = (.error e, fr') ∧ ((onError e).run fr').1 = .ok a := by
  cases hr : body.run fr with
  | mk r fr' =>
    cases r with
    | ok b =>
      rw [run_tryCatch_ok hr] at h
      exact Or.inl h
    | error e =>
      rw [run_tryCatch_error hr] at h
      exact Or.inr ⟨e, fr', rfl, h⟩

theorem result_tryFinally_ok {body : Handler σ α} {final : Handler σ Unit} {fr : Frame σ} {a : α}
    (h : ((tryFinally body final).run fr).1 = .ok a) : (body.run fr).1 = .ok a := by
  rw [run_tryFinally] at h
  split at h
  rename_i r fr' hr
  rw [hr]
  split at h
  · exact h
  · cases h

@[simp] theorem run_mounted (fr : Frame σ) :
    (mounted : Handler σ Bool).run fr = (.ok fr.mounted, fr) := rfl

@[simp] theorem run_getFields (fr : Frame σ) :
    (getFields : Handler σ σ).run fr = (.ok fr.fields, fr) := rfl

@[simp] theorem run_assign (f : σ → σ) (fr : Frame σ) :
    (assign f).run fr = (.ok (), { fr with fields := f fr.fields }) := rfl

theorem run_setStateThrowing {fr : Frame σ} (h : fr.mounted = true)
    (callback : σ → Except Thrown Unit × σ) :
    (setStateThrowing callback).run fr =
      ((callback fr.fields).1, { fr with fields := (callback fr.fields).2 }) := by
  show (if fr.mounted then _ else _) = _
  rw [if_pos h]

theorem run_setState {fr : Frame σ} (h : fr.mounted = true) (f : σ → σ) :
    (setState f).run fr = (.ok (), { fr with fields := f fr.fields }) :=
  run_setStateThrowing h fun s => (.ok (), f s)

theorem run_setStateThrowing_late {fr : Frame σ} (h : fr.mounted = false)
    (callback : σ → Except Thrown Unit × σ) :
    (setStateThrowing callback).run fr =
      (.error .setStateAfterDispose, { fr with lateSetStates := fr.lateSetStates + 1 }) := by
  show (if fr.mounted then _ else _) = _
  rw [h, if_neg Bool.false_ne_true]

theorem run_setState_late {fr : Frame σ} (h : fr.mounted = false) (f : σ → σ) :
    (setState f).run fr =
      (.error .setStateAfterDispose, { fr with lateSetStates := fr.lateSetStates + 1 }) :=
  run_setStateThrowing_late h fun s => (.ok (), f s)

theorem run_whenMounted {fr : Frame σ} (hm : fr.mounted = true) (h : Handler σ Unit) :
    (whenMounted h).run fr = h.run fr := by
  show (if fr.mounted then _ else _) = _
  rw [if_pos hm]
  rfl

theorem run_whenMounted_late {fr : Frame σ} (hm : fr.mounted = false) (h : Handler σ Unit) :
    (whenMounted h).run fr = (.ok (), fr) := by
  show (if fr.mounted then _ else _) = _
  rw [hm, if_neg Bool.false_ne_true]

/-! ## Timely handlers -/

/-- The handler neither mounts nor disposes the `State`, takes back no late
call, and makes none on a mounted frame. -/
structure Timely (h : Handler σ α) : Prop where
  mounted : ∀ fr : Frame σ, (h.run fr).2.mounted = fr.mounted
  rising : ∀ fr : Frame σ, fr.lateSetStates ≤ (h.run fr).2.lateSetStates
  inTime : ∀ fr : Frame σ, fr.mounted = true → (h.run fr).2.lateSetStates = fr.lateSetStates

theorem Timely.of_same {h : Handler σ α} (hm : ∀ fr : Frame σ, (h.run fr).2.mounted = fr.mounted)
    (hl : ∀ fr : Frame σ, (h.run fr).2.lateSetStates = fr.lateSetStates) : Timely h :=
  ⟨hm, fun fr => (hl fr).ge, fun fr _ => hl fr⟩

theorem Timely.pure (a : α) : Timely (Pure.pure a : Handler σ α) :=
  .of_same (fun _ => rfl) fun _ => rfl

theorem Timely.throw (e : Thrown) : Timely (throw e : Handler σ α) :=
  .of_same (fun _ => rfl) fun _ => rfl

theorem Timely.lift (x : Except Thrown α) : Timely (lift x : Handler σ α) :=
  .of_same (fun _ => rfl) fun _ => rfl

theorem Timely.isMounted : Timely (Handler.mounted : Handler σ Bool) :=
  .of_same (fun _ => rfl) fun _ => rfl

theorem Timely.getFields : Timely (getFields : Handler σ σ) :=
  .of_same (fun _ => rfl) fun _ => rfl

theorem Timely.assign (f : σ → σ) : Timely (assign f) := .of_same (fun _ => rfl) fun _ => rfl

theorem Timely.setStateThrowing (callback : σ → Except Thrown Unit × σ) :
    Timely (setStateThrowing callback) := by
  have key : ∀ fr : Frame σ,
      ((Handler.setStateThrowing callback).run fr).2.mounted = fr.mounted ∧
        fr.lateSetStates ≤ ((Handler.setStateThrowing callback).run fr).2.lateSetStates ∧
        (fr.mounted = true →
          ((Handler.setStateThrowing callback).run fr).2.lateSetStates = fr.lateSetStates) := by
    intro fr
    cases hm : fr.mounted with
    | true => rw [run_setStateThrowing hm]; exact ⟨hm, Nat.le_refl _, fun _ => rfl⟩
    | false =>
      rw [run_setStateThrowing_late hm]
      exact ⟨hm, Nat.le_succ _, fun h => absurd h Bool.false_ne_true⟩
  exact ⟨fun fr => (key fr).1, fun fr => (key fr).2.1, fun fr => (key fr).2.2⟩

theorem Timely.setState (f : σ → σ) : Timely (setState f) :=
  Timely.setStateThrowing fun s => (.ok (), f s)

/-- Running `g` in the frame a timely handler leaves behind. -/
theorem Timely.after {x : Handler σ α} {g : Handler σ β} (hx : Timely x) (hg : Timely g)
    (fr : Frame σ) :
    (g.run (x.run fr).2).2.mounted = fr.mounted ∧
      fr.lateSetStates ≤ (g.run (x.run fr).2).2.lateSetStates ∧
      (fr.mounted = true → (g.run (x.run fr).2).2.lateSetStates = fr.lateSetStates) :=
  ⟨(hg.mounted _).trans (hx.mounted fr), Nat.le_trans (hx.rising fr) (hg.rising _),
    fun hm => (hg.inTime _ ((hx.mounted fr).trans hm)).trans (hx.inTime fr hm)⟩

theorem Timely.bind {x : Handler σ α} {f : α → Handler σ β} (hx : Timely x)
    (hf : ∀ a, Timely (f a)) : Timely (x >>= f) := by
  have key : ∀ fr : Frame σ, ((x >>= f).run fr).2 = (x.run fr).2 ∨
      ∃ a, ((x >>= f).run fr).2 = ((f a).run (x.run fr).2).2 := by
    intro fr
    cases hr : x.run fr with
    | mk r fr' =>
      cases r with
      | error e => rw [run_bind_error hr]; exact Or.inl rfl
      | ok a => rw [run_bind_ok hr]; exact Or.inr ⟨a, rfl⟩
  refine ⟨fun fr => ?_, fun fr => ?_, fun fr hm => ?_⟩ <;> rcases key fr with h | ⟨a, h⟩ <;> rw [h]
  · exact hx.mounted fr
  · exact (hx.after (hf a) fr).1
  · exact hx.rising fr
  · exact (hx.after (hf a) fr).2.1
  · exact hx.inTime fr hm
  · exact (hx.after (hf a) fr).2.2 hm

theorem Timely.tryCatch {body : Handler σ α} {onError : Thrown → Handler σ α}
    (hb : Timely body) (he : ∀ e, Timely (onError e)) : Timely (tryCatch body onError) := by
  have key : ∀ fr : Frame σ, ((Handler.tryCatch body onError).run fr).2 = (body.run fr).2 ∨
      ∃ e, ((Handler.tryCatch body onError).run fr).2 = ((onError e).run (body.run fr).2).2 := by
    intro fr
    cases hr : body.run fr with
    | mk r fr' =>
      cases r with
      | ok a => rw [run_tryCatch_ok hr]; exact Or.inl rfl
      | error e => rw [run_tryCatch_error hr]; exact Or.inr ⟨e, rfl⟩
  refine ⟨fun fr => ?_, fun fr => ?_, fun fr hm => ?_⟩ <;> rcases key fr with h | ⟨e, h⟩ <;> rw [h]
  · exact hb.mounted fr
  · exact (hb.after (he e) fr).1
  · exact hb.rising fr
  · exact (hb.after (he e) fr).2.1
  · exact hb.inTime fr hm
  · exact (hb.after (he e) fr).2.2 hm

theorem tryFinally_frame (body : Handler σ α) (final : Handler σ Unit) (fr : Frame σ) :
    ((tryFinally body final).run fr).2 = (final.run (body.run fr).2).2 := by
  rw [run_tryFinally]
  obtain ⟨r, fr'⟩ := body.run fr
  cases hf' : final.run fr' with
  | mk r' fr'' => cases r' <;> simp only [hf']

theorem Timely.tryFinally {body : Handler σ α} {final : Handler σ Unit}
    (hb : Timely body) (hf : Timely final) : Timely (tryFinally body final) := by
  refine ⟨fun fr => ?_, fun fr => ?_, fun fr hm => ?_⟩ <;> rw [tryFinally_frame body final fr]
  · exact (hb.after hf fr).1
  · exact (hb.after hf fr).2.1
  · exact (hb.after hf fr).2.2 hm

theorem Timely.whenMounted {h : Handler σ Unit} (ht : Timely h) : Timely (whenMounted h) := by
  have key : ∀ fr : Frame σ, ((Handler.whenMounted h).run fr).2 = (h.run fr).2 ∨
      ((Handler.whenMounted h).run fr).2 = fr := by
    intro fr
    cases hm : fr.mounted with
    | true => exact Or.inl (by rw [run_whenMounted hm])
    | false => exact Or.inr (by rw [run_whenMounted_late hm])
  refine ⟨fun fr => ?_, fun fr => ?_, fun fr hm => ?_⟩ <;> rcases key fr with h | h <;> rw [h]
  · exact ht.mounted fr
  · exact ht.rising fr
  · exact ht.inTime fr hm

/-! ## Handlers that are silent

`Silent`: on a disposed `State` the handler does not call `setState`. -/

def Silent (h : Handler σ α) : Prop :=
  ∀ fr : Frame σ, fr.mounted = false → (h.run fr).2.lateSetStates = fr.lateSetStates

theorem Silent.pure (a : α) : Silent (Pure.pure a : Handler σ α) := fun _ _ => rfl

theorem Silent.lift (x : Except Thrown α) : Silent (lift x : Handler σ α) := fun _ _ => rfl

theorem Silent.assign (f : σ → σ) : Silent (assign f) := fun _ _ => rfl

theorem Silent.getFields : Silent (getFields : Handler σ σ) := fun _ _ => rfl

theorem Silent.whenMounted (h : Handler σ Unit) : Silent (whenMounted h) := by
  intro fr hm
  rw [run_whenMounted_late hm]

theorem Silent.bind {x : Handler σ α} {f : α → Handler σ β} (ht : Timely x) (hx : Silent x)
    (hf : ∀ a, Silent (f a)) : Silent (x >>= f) := by
  intro fr hm
  have h := hx fr hm
  have hmount := ht.mounted fr
  cases hr : x.run fr with
  | mk r fr' =>
    rw [hr] at h hmount
    cases r with
    | error e => rw [run_bind_error hr]; exact h
    | ok a => rw [run_bind_ok hr]; exact (hf a fr' (hmount.trans hm)).trans h

theorem Silent.tryCatch {body : Handler σ α} {onError : Thrown → Handler σ α} (ht : Timely body)
    (hb : Silent body) (he : ∀ e, Silent (onError e)) : Silent (tryCatch body onError) := by
  intro fr hm
  have h := hb fr hm
  have hmount := ht.mounted fr
  cases hr : body.run fr with
  | mk r fr' =>
    rw [hr] at h hmount
    cases r with
    | ok a => rw [run_tryCatch_ok hr]; exact h
    | error e => rw [run_tryCatch_error hr]; exact (he e fr' (hmount.trans hm)).trans h

theorem Silent.tryFinally {body : Handler σ α} {final : Handler σ Unit} (ht : Timely body)
    (hb : Silent body) (hf : Silent final) : Silent (tryFinally body final) := by
  intro fr hm
  rw [tryFinally_frame, hf _ ((ht.mounted fr).trans hm), hb fr hm]

/-! ## Handlers that are late

`Late` is the opposite: on a disposed `State` the handler is certain to call
`setState`. -/

def Late (h : Handler σ α) : Prop :=
  ∀ fr : Frame σ, fr.mounted = false → fr.lateSetStates < (h.run fr).2.lateSetStates

theorem Late.setStateThrowing (callback : σ → Except Thrown Unit × σ) :
    Late (setStateThrowing callback) := by
  intro fr hm
  rw [run_setStateThrowing_late hm]
  exact Nat.lt_succ_self _

theorem Late.setState (f : σ → σ) : Late (setState f) :=
  Late.setStateThrowing fun s => (.ok (), f s)

theorem Late.bind_left {x : Handler σ α} {f : α → Handler σ β} (hx : Late x)
    (hf : ∀ a, Timely (f a)) : Late (x >>= f) := by
  intro fr hm
  have h := hx fr hm
  cases hr : x.run fr with
  | mk r fr' =>
    rw [hr] at h
    cases r with
    | error e => rw [run_bind_error hr]; exact h
    | ok a => rw [run_bind_ok hr]; exact Nat.lt_of_lt_of_le h ((hf a).rising fr')

theorem Late.bind_right {x : Handler σ α} {f : α → Handler σ β} (hx : Timely x)
    (hok : ∀ fr : Frame σ, ∃ a fr', x.run fr = (.ok a, fr')) (hf : ∀ a, Late (f a)) :
    Late (x >>= f) := by
  intro fr hm
  obtain ⟨a, fr', hr⟩ := hok fr
  have hmount := hx.mounted fr
  have hrise := hx.rising fr
  rw [hr] at hmount hrise
  rw [run_bind_ok hr]
  exact Nat.lt_of_le_of_lt hrise (hf a fr' (hmount.trans hm))

theorem Late.tryCatch_left {body : Handler σ α} {onError : Thrown → Handler σ α} (hb : Late body)
    (he : ∀ e, Timely (onError e)) : Late (tryCatch body onError) := by
  intro fr hm
  have h := hb fr hm
  cases hr : body.run fr with
  | mk r fr' =>
    rw [hr] at h
    cases r with
    | ok a => rw [run_tryCatch_ok hr]; exact h
    | error e => rw [run_tryCatch_error hr]; exact Nat.lt_of_lt_of_le h ((he e).rising fr')

/-- The usual shape after an `await` in a `try`: the result is used in the body
or its exception is caught, and both ways call `setState`. -/
theorem Late.tryCatch_lift {r : Except Thrown α} {f : α → Handler σ β}
    {onError : Thrown → Handler σ β} (hf : ∀ a, Late (f a)) (he : ∀ e, Late (onError e))
    (ht : ∀ e, Timely (onError e)) : Late (tryCatch (lift r >>= f) onError) := by
  intro fr hm
  cases r with
  | ok a => exact Late.tryCatch_left (hf a) ht fr hm
  | error e => exact he e fr hm

/-- A body that may end quietly in an exception, for which `catch` then calls
`setState`. -/
theorem Late.tryCatch_either {body : Handler σ α} {onError : Thrown → Handler σ α}
    (hb : ∀ fr : Frame σ, fr.mounted = false →
      fr.lateSetStates < (body.run fr).2.lateSetStates ∨ ∃ e, body.run fr = (.error e, fr))
    (he : ∀ e, Late (onError e)) (ht : ∀ e, Timely (onError e)) : Late (tryCatch body onError) := by
  intro fr hm
  rcases hb fr hm with h | ⟨e, hr⟩
  · cases hr : body.run fr with
    | mk r fr' =>
      rw [hr] at h
      cases r with
      | ok a => rw [run_tryCatch_ok hr]; exact h
      | error e => rw [run_tryCatch_error hr]; exact Nat.lt_of_lt_of_le h ((ht e).rising fr')
  · rw [run_tryCatch_error hr]
    exact he e fr hm

theorem Late.tryFinally_left {body : Handler σ α} {final : Handler σ Unit} (hb : Late body)
    (hf : Timely final) : Late (tryFinally body final) := by
  intro fr hm
  rw [tryFinally_frame]
  exact Nat.lt_of_lt_of_le (hb fr hm) (hf.rising _)

end Handler

end Flutter
