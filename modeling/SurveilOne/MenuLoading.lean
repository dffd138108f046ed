import SurveilOne.Lifecycle

/-!
# What the menu page shows

The menu can be pulled down only while it is not loading, so its requests never
overlap.  It shows the products of the last answer that listed any, and one snack bar
for each request that threw.
-/

namespace SurveilOne

open Dart Flutter Flutter.Handler

namespace MenuPage

/-- The products the last answer listed.  A request that threw lists none. -/
def lastListed (answers : List (Nat × Except Thrown HttpOutcome)) : List Text :=
  (answers.filterMap fun a => match a.2 with
    | .ok o => some (GraphQLService.getProducts o)
    | .error _ => none).getLastD []

def failures (answers : List (Nat × Except Thrown HttpOutcome)) : List SnackBar :=
  answers.filterMap fun a => match a.2 with
    | .ok _ => none
    | .error e => some ⟨"Failed to load products: ".toList, e⟩

/-- While the page is mounted it has one request out when it is loading and none
otherwise, and it shows what was last listed and what failed. -/
structure ShowsLast (s : Live MenuFields MenuOp (Except Thrown HttpOutcome)) : Prop where
  loading : s.outstanding.length = if s.frame.fields.isLoading then 1 else 0
  codes : s.frame.fields.licensedProductCodes = lastListed s.answered
  snackBars : s.frame.fields.snackBars = failures s.answered

section Mounted

variable {fr : Frame MenuFields} (hm : fr.mounted = true)

include hm

theorem run_loadLicensedProducts :
    loadLicensedProducts.run fr =
      (.ok [.products], { fr with fields := { fr.fields with isLoading := true } }) := by
  rw [loadLicensedProducts, run_bind_ok (run_setState hm _)]
  rfl

theorem run_loadDone_error (e : Thrown) :
    (loadDone (.error e)).run fr = (.ok [], { fr with
      fields := { fr.fields with
        snackBars := fr.fields.snackBars ++ [⟨"Failed to load products: ".toList, e⟩]
        isLoading := false } }) := by
  have hbody : (receiveProducts (.error e)).run fr = (.ok (), { fr with
      fields := { fr.fields with
        snackBars := fr.fields.snackBars ++ [⟨"Failed to load products: ".toList, e⟩] } }) := by
    rw [receiveProducts, run_tryCatch_error (run_bind_error (run_lift _ fr)), run_whenMounted hm]
    rfl
  have hfinal : (whenMounted (setState fun s : MenuFields => { s with isLoading := false })).run
      { fr with fields := { fr.fields with
        snackBars := fr.fields.snackBars ++ [⟨"Failed to load products: ".toList, e⟩] } } =
      (.ok (), { fr with fields := { fr.fields with
        snackBars := fr.fields.snackBars ++ [⟨"Failed to load products: ".toList, e⟩]
        isLoading := false } }) := by
    rw [run_whenMounted (by exact hm), run_setState (by exact hm)]
  rw [loadDone, run_bind_ok (run_tryFinally_ok hbody hfinal)]
  rfl

end Mounted

section Steps

variable {s t : Live MenuFields MenuOp (Except Thrown HttpOutcome)}

theorem ShowsLast.refresh (h : ShowsLast s) (hm : s.frame.mounted = true)
    (hidle : s.frame.fields.isLoading = false) :
    ShowsLast (s.settle (loadLicensedProducts.run s.frame)) := by
  rw [run_loadLicensedProducts hm]
  refine ⟨?_, h.codes, h.snackBars⟩
  have hnone := h.loading
  rw [hidle] at hnone
  rw [Live.settle_ok_outstanding, List.length_append, hnone]
  rfl

theorem ShowsLast.outstanding_le_one (h : ShowsLast s) : s.outstanding.length ≤ 1 := by
  rw [h.loading]
  split <;> omega

theorem lastListed_ok (answers : List (Nat × Except Thrown HttpOutcome)) (i : Nat)
    (o : HttpOutcome) :
    lastListed (answers ++ [(i, .ok o)]) = GraphQLService.getProducts o := by
  rw [lastListed, List.filterMap_append]
  exact List.getLastD_concat ..

theorem lastListed_error (answers : List (Nat × Except Thrown HttpOutcome)) (i : Nat) (e : Thrown) :
    lastListed (answers ++ [(i, .error e)]) = lastListed answers := by
  rw [lastListed, List.filterMap_append]
  exact congrArg (List.getLastD · []) (List.append_nil _)

theorem ShowsLast.answer (h : ShowsLast s) (hm : s.frame.mounted = true) {i : Nat}
    (hi : i ∈ s.outstanding) (r : Except Thrown HttpOutcome) :
    ShowsLast ((s.close i r).settle ((loadDone (r.map GraphQLService.getProducts)).run s.frame)) := by
  have hnone : ((s.close i r).outstanding ++ []).length = 0 := by
    rw [Live.close_outstanding_eq_nil h.outstanding_le_one hi r]
    rfl
  cases r with
  | ok o =>
    show ShowsLast ((s.close i (.ok o)).settle
      ((loadDone (.ok (GraphQLService.getProducts o))).run s.frame))
    rw [run_loadDone_ok hm]
    refine ⟨hnone, (lastListed_ok s.answered i o).symm, ?_⟩
    show s.frame.fields.snackBars = failures (s.answered ++ [(i, .ok o)])
    rw [failures, List.filterMap_append, h.snackBars]
    exact (List.append_nil _).symm
  | error e =>
    show ShowsLast ((s.close i (.error e)).settle ((loadDone (.error e)).run s.frame))
    rw [run_loadDone_error hm]
    refine ⟨hnone, h.codes.trans (lastListed_error s.answered i e).symm, ?_⟩
    show s.frame.fields.snackBars ++ _ = failures (s.answered ++ [(i, .error e)])
    rw [failures, List.filterMap_append, h.snackBars]
    rfl

theorem showsLast_step {e : Event (Except Thrown HttpOutcome) MenuTap}
    (hs : s.frame.mounted = true → ShowsLast s) (h : menuPage.step s e = some t)
    (ht : t.frame.mounted = true) : ShowsLast t := by
  have hm := PageCode.mounted_before page_timely h ht
  cases e with
  | tap tap =>
    obtain ⟨-, hdl, hhdl, rfl⟩ := PageCode.step_tap h
    cases tap
    rw [menuPage] at hhdl
    simp only at hhdl
    split at hhdl
    · cases hhdl
    · cases hhdl
      exact (hs hm).refresh hm (by simpa using ‹¬ s.frame.fields.isLoading = true›)
  | answer i r =>
    obtain ⟨hi, op, hdl, -, hhdl, rfl⟩ := PageCode.step_answer h
    cases op
    cases hhdl
    exact (hs hm).answer hm hi r
  | dispose =>
    obtain ⟨-, rfl⟩ := PageCode.step_dispose h
    cases ht

end Steps

theorem showsLast_opened : ShowsLast menuPage.opened := ⟨rfl, rfl, rfl⟩

/-- In every run the mounted menu has one request out while it is loading and none
otherwise, and it shows the products that were last listed and every failure. -/
theorem showsLast_throughout (es : List (Event (Except Thrown HttpOutcome) MenuTap)) :
    Runs.Throughout menuPage.step (fun s => s.frame.mounted = true → ShowsLast s) menuPage.opened es :=
  Runs.throughout_of_step (I := fun s => s.frame.mounted = true → ShowsLast s)
    (fun _ _ _ => showsLast_step) (fun _ h => h) (fun _ => showsLast_opened) es

end MenuPage

end SurveilOne
