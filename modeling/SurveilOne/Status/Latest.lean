import SurveilOne.Status.Effects

/-!
# Whose answer a status page shows

Fetches overlap: a selection, a pull to refresh, Retry and the list of products
each start one while others are in flight, and every answer writes the same
fields.  `ShowsSelected` says that what the page shows was answered to a request
for the selected product, and to the latest request once all are answered.

The pages compare an answer neither with the selection nor with the other
requests, so this depends on the order of the answers.  `FreshAnswer` is the
condition on an answer under which it does hold.
-/

namespace SurveilOne

open Dart Flutter

/-- Operation `i` is the latest `getProductStatus` request. -/
def IsLatest (ops : List StatusOp) (i : Nat) : Prop :=
  (∃ code chained, ops[i]? = some (.status code chained)) ∧
    ∀ j, i < j → ∀ code chained, ops[j]? ≠ some (.status code chained)

/-- The rows and the flag on the page are those of the answer to request `i`. -/
def ShowsAnswer (f : StatusFile) (s : StatusLive) (i : Nat) : Prop :=
  ∃ r statuses flag color, (i, StatusAnswer.status r) ∈ s.answered ∧
    f.outcome r = .shown statuses flag color ∧ s.frame.fields.statuses = statuses ∧
    s.frame.fields.productStatusFlag = some flag

/-- While the page is up, not loading and without an error, it shows an answer
for the selected product, and the answer to the latest request once no request
is outstanding. -/
def ShowsSelected (f : StatusFile) (s : StatusLive) : Prop :=
  s.frame.mounted = true → s.frame.fields.loading = false → s.frame.fields.error = none →
    (∃ i chained, s.started[i]? = some (.status s.frame.fields.selectedCode chained) ∧
      ShowsAnswer f s i) ∧
    (NoRequest s → ∀ i, IsLatest s.started i → ShowsAnswer f s i)

/-- An answer with rows that comes while no error is recorded was requested for
the selected product, and does not come after the answer to a later request: it
answers the latest request, or that one is still outstanding. -/
def FreshAnswer (f : StatusFile) (s : StatusLive) (e : StatusEvent) (_ : StatusLive) : Prop :=
  ∀ i r, e = .answer i (.status r) → f.Accepts r → s.frame.mounted = true →
    s.frame.fields.error = none →
    (∃ chained, s.started[i]? = some (.status s.frame.fields.selectedCode chained)) ∧
      (IsLatest s.started i ∨ ∃ j ∈ s.outstanding, IsLatest s.started j)

theorem IsLatest.unique {ops : List StatusOp} {i j : Nat} (hi : IsLatest ops i)
    (hj : IsLatest ops j) : i = j := by
  obtain ⟨⟨ci, xi, hci⟩, hli⟩ := hi
  obtain ⟨⟨cj, xj, hcj⟩, hlj⟩ := hj
  rcases Nat.lt_trichotomy i j with h | h | h
  · exact absurd hcj (hli j h cj xj)
  · exact h
  · exact absurd hci (hlj i h ci xi)

theorem IsLatest.append {ops more : List StatusOp} {i : Nat} (h : IsLatest ops i)
    (hmore : ∀ o ∈ more, o.isRequest = false) : IsLatest (ops ++ more) i := by
  obtain ⟨⟨code, chained, hop⟩, hlast⟩ := h
  refine ⟨⟨code, chained, ?_⟩, ?_⟩
  · rw [List.getElem?_append_left (List.getElem?_eq_some_iff.mp hop).1]
    exact hop
  · intro j hij c x hj
    rcases Nat.lt_or_ge j ops.length with hlt | hge
    · rw [List.getElem?_append_left hlt] at hj
      exact hlast j hij c x hj
    · rw [List.getElem?_append_right hge] at hj
      have := hmore _ (List.mem_of_getElem? hj)
      simp [StatusOp.isRequest] at this

/-- A request that was the latest, or was followed by one still outstanding,
remains so when none is sent and no other latest request is answered. -/
theorem latest_after {ops more : List StatusOp} {i : Nat} {before after : List Nat}
    (h : IsLatest ops i ∨ ∃ j ∈ before, IsLatest ops j) (hmore : ∀ o ∈ more, o.isRequest = false)
    (hkeep : ∀ j ∈ before, IsLatest ops j → j = i ∨ j ∈ after) :
    IsLatest (ops ++ more) i ∨ ∃ j ∈ after, IsLatest (ops ++ more) j := by
  rcases h with hi | ⟨j, hj, hlatest⟩
  · exact Or.inl (hi.append hmore)
  · rcases hkeep j hj hlatest with rfl | hafter
    · exact Or.inl (hlatest.append hmore)
    · exact Or.inr ⟨j, hafter, hlatest.append hmore⟩

/-- The invariant: the answer shown is for the selection, and it answers the
latest request unless that one is outstanding. -/
def ShowsFresh (f : StatusFile) (s : StatusLive) : Prop :=
  s.frame.mounted = true → s.frame.fields.loading = false → s.frame.fields.error = none →
    ∃ i chained, s.started[i]? = some (.status s.frame.fields.selectedCode chained) ∧
      ShowsAnswer f s i ∧ (IsLatest s.started i ∨ ∃ j ∈ s.outstanding, IsLatest s.started j)

theorem ShowsFresh.showsSelected {f : StatusFile} {s : StatusLive} (h : ShowsFresh f s) :
    ShowsSelected f s := by
  intro hm hl he
  obtain ⟨i, chained, hop, hshow, hlatest⟩ := h hm hl he
  refine ⟨⟨i, chained, hop, hshow⟩, fun hno k hk => ?_⟩
  rcases hlatest with hi | ⟨j, hj, hjl⟩
  · rw [← hi.unique hk]
    exact hshow
  · obtain ⟨code, x, hjop⟩ := hjl.1
    have := hno j hj _ hjop
    simp [StatusOp.isRequest] at this

theorem showsFresh_opened (f : StatusFile) (pc : Text) : ShowsFresh f (f.page pc).opened := by
  intro _ hl
  cases f <;> cases hl

theorem ShowsFresh.move {f : StatusFile} {s t : StatusLive} {e : StatusEvent}
    (h : ShowsFresh f s) (hm : s.frame.mounted = true) (hc : FreshAnswer f s e t)
    (hmove : StatusMove f s e t) : ShowsFresh f t := by
  cases hmove with
  | fetch e base fields chained hbase =>
    -- A fetch leaves the page loading.
    intro _ hl
    cases hl
  | toggle =>
    intro _ hl he
    obtain ⟨i, chained, hop, ⟨r, sts, flag, color, hans, hout, hsts, hflag⟩, hlatest⟩ := h hm hl he
    exact ⟨i, chained, Live.settle_getElem? hop, ⟨r, sts, flag, color, hans, hout, hsts, hflag⟩,
      latest_after hlatest (by simp) fun j hj _ => Or.inr (Live.mem_settle_of_mem hj)⟩
  | noProducts i r codes message hop hf =>
    intro _ _ he
    cases he
  | status i r code chained hi hop =>
    cases hout : f.outcome r with
    | failed message =>
      intro _ _ he
      cases he
    | shown sts flag color =>
      intro _ _ he
      obtain ⟨⟨x, hsel⟩, hlatest⟩ := hc i r rfl (StatusFile.accepts_of_shown hout) hm he
      have hops : ∀ o ∈ (StatusEffect.shown sts flag color).ops s.frame.fields,
          o.isRequest = false := by
        simp [StatusEffect.ops, StatusOp.isRequest]
      refine ⟨i, x, Live.settle_getElem? hsel, ⟨r, sts, flag, color, ?_, hout, rfl, rfl⟩, ?_⟩
      · exact List.mem_append_right _ (List.mem_singleton.mpr rfl)
      · refine latest_after hlatest hops fun j hj _ => ?_
        by_cases hji : j = i
        · exact Or.inl hji
        · exact Or.inr (Live.mem_settle_close hj hji)
  | asset i loaded op ops hop hreq hops =>
    intro _ hl he
    obtain ⟨k, chained, hk, ⟨r, sts, flag, color, hans, hout, hsts, hflag⟩, hlatest⟩ := h hm hl he
    refine ⟨k, chained, Live.settle_getElem? hk,
      ⟨r, sts, flag, color, List.mem_append_left _ hans, hout, hsts, hflag⟩, ?_⟩
    refine latest_after hlatest hops fun j hj hjl => Or.inr ?_
    obtain ⟨c, x, hjop⟩ := hjl.1
    exact Live.mem_settle_close hj (StatusOp.index_ne hop hreq hjop rfl)
  | dispose =>
    intro hd
    cases hd

/-- In every run whose answers are fresh, the page shows the selected product
throughout. -/
theorem StatusFile.showsSelected_throughout (f : StatusFile) (productCode : Text)
    (es : List StatusEvent)
    (h : Runs.AtEachStep (f.page productCode).step (FreshAnswer f) (f.page productCode).opened es) :
    Runs.Throughout (f.page productCode).step (ShowsSelected f) (f.page productCode).opened es := by
  refine Runs.throughout_of_inv (I := ShowsFresh f) ?_ (fun s hs => hs.showsSelected)
    (showsFresh_opened f productCode) h
  intro s e t hs hc hstep hmt
  have hm := PageCode.mounted_before (f.page_timely productCode) hstep hmt
  exact hs.move hm hc (StatusFile.move_of_step hm hstep) hmt

/-! ## Two runs -/

/-- The second product is selected while the answer for the first one is out,
and the answer for the second comes. -/
def selectionRun : List StatusEvent :=
  [.answer 0 (productsAnswer ["IND_SUR", "OUT_SUR"]), .tap (.select "OUT_SUR".toList),
    .answer 2 (statusAnswer 2)]

/-- The page of `product_status_page.dart` shows the selected product
throughout the first of these runs. -/
theorem StatusFile.selectionRun_showsSelected :
    Runs.Throughout (productStatusPage "IND_SUR".toList).step (ShowsSelected .productStatus)
      (productStatusPage "IND_SUR".toList).opened selectionRun := by
  refine StatusFile.showsSelected_throughout .productStatus "IND_SUR".toList selectionRun ?_
  intro t ht
  cases ht
  refine ⟨fun i r he => (by cases he), fun t ht => ?_⟩
  cases ht
  refine ⟨fun i r he => (by cases he), fun t ht => ?_⟩
  cases ht
  refine ⟨fun i r he _ _ _ => ?_, trivial⟩
  cases he
  refine ⟨⟨false, rfl⟩, Or.inl ⟨⟨_, false, rfl⟩, fun j hj code chained hop => ?_⟩⟩
  -- Request 2 is the last operation started.
  have hlt := (List.getElem?_eq_some_iff.mp hop).1
  exact absurd hlt (Nat.not_lt.mpr hj)

/-- Then the answer for the first product comes. -/
def lateAnswerRun : List StatusEvent := selectionRun ++ [.answer 1 (statusAnswer 0)]

theorem StatusFile.not_showsSelected (f : StatusFile) :
    ¬ ∀ productCode es, Runs.Throughout (f.page productCode).step (ShowsSelected f)
      (f.page productCode).opened es := by
  intro h
  have hfinal := fun t => Runs.throughout_iff_exec.mp (h "IND_SUR".toList lateAnswerRun)
    lateAnswerRun [] t (List.append_nil _).symm
  have hanswered : ∀ {i r}, (i, StatusAnswer.status r) ∈
      [(0, productsAnswer ["IND_SUR", "OUT_SUR"]), (2, statusAnswer 2), (1, statusAnswer 0)] →
      (i = 2 ∧ StatusAnswer.status r = statusAnswer 2) ∨ i = 1 := by
    intro i r hi
    simp only [List.mem_cons, Prod.mk.injEq, List.not_mem_nil, or_false] at hi
    rcases hi with ⟨-, hi⟩ | ⟨hi, hr⟩ | ⟨hi, -⟩
    · cases hi
    · exact Or.inl ⟨hi, hr⟩
    · exact Or.inr hi
  cases f with
  | productStatus =>
    obtain ⟨⟨i, chained, hop, r, sts, flag, color, hans, hout, -, hflag⟩, -⟩ :=
      hfinal _ rfl rfl rfl rfl
    rcases hanswered hans with ⟨rfl, hr⟩ | rfl
    · -- The answer to request 2 shows flag 2, and the page has flag 0.
      cases hr
      cases hout
      cases hflag
    · cases hop
  | myProducts =>
    obtain ⟨⟨i, chained, hop, r, sts, flag, color, hans, hout, -, hflag⟩, -⟩ :=
      hfinal _ rfl rfl rfl rfl
    rcases hanswered hans with ⟨rfl, hr⟩ | rfl
    · cases hr
      cases hout
      cases hflag
    · cases hop

/-- In neither file does the page always show the selected product: the late
answer for the product the user left overwrites it. -/
theorem StatusFile.lateAnswer_overwrites :
    (¬ ∀ productCode es, Runs.Throughout (productStatusPage productCode).step
      (ShowsSelected .productStatus) (productStatusPage productCode).opened es) ∧
    ¬ ∀ productCode es, Runs.Throughout (myProductsPage productCode).step
      (ShowsSelected .myProducts) (myProductsPage productCode).opened es :=
  ⟨StatusFile.not_showsSelected .productStatus, StatusFile.not_showsSelected .myProducts⟩

end SurveilOne
