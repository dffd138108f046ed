import SurveilOne.App.Mounted
import Mathlib.Data.List.Count
import Mathlib.Data.List.Perm.Basic

/-!
# Login pages and their requests

The button of a login page is disabled while the page is loading, and it is loading
while its request is out.  So a login page never has two requests, unlike a sign-up
page, and one that is idle has none.

`LoginStep` is all that one action can do to the login pages.  A login page is sent
from, answered or edited by itself, and a new one is as it was written.
-/

namespace SurveilOne

open Dart Flutter

/-- What a tap does to the loading indicator. -/
theorem loginPage_tap_isLoading {K : Casing} {t : LoginTap} {f : LoginFields} {h : LoginHandler}
    (ht : (loginPage K).onTap t f = some h) :
    (t = .signIn → f.isLoading = false) ∧
      (h.run { fields := f }).2.fields.isLoading = (f.isLoading || decide (t = .signIn)) := by
  cases t with
  | signIn =>
    rw [loginPage] at ht
    simp only at ht
    split at ht
    · cases ht
    · cases ht
      rw [LoginPage.run_signIn rfl K]
      exact ⟨fun _ => by simpa using ‹¬ f.isLoading = true›, by simp⟩
  | _ =>
    cases ht
    refine ⟨fun he => ?_, (Bool.or_false _).symm⟩
    cases he

theorem Page.initial_of_opens {K : Casing} {p q : Page} {t : Tap} {c : NavCall}
    (h : p.onTap K t = some c) (hq : c.opened = some q) {f : LoginFields}
    (hf : q.login? = some f) : f = LoginPage.initial := by
  obtain ⟨-, rfl⟩ := (onTap_opens h hq).login f hf
  obtain rfl := Option.some.inj hq
  exact (Option.some.inj hf).symm

theorem Page.login?_of_signUp? {p : Page} {f : SignUpFields} (h : p.signUp? = some f) :
    p.login? = none := by
  cases p <;> cases h
  rfl

namespace App

/-- The number of unanswered requests of the login page under a key. -/
def waiting (s : App) (k : Nat) : Nat := s.signIns.countP (·.page = k)

/-- A mounted login page is loading while its one request is out, and idle while it
has none. -/
def LoadingTold (s : App) : Prop :=
  ∀ r ∈ s.nav.mountedRoutes, ∀ f, r.page.login? = some f →
    s.waiting r.key = if f.isLoading then 1 else 0

/-! ## What a step does to the login pages -/

inductive LoginStep (K : Casing) (s : App) (a : Action) (t : App) : Prop where
  | other
      (hnav : Navigator.Evolves Page.login? (fun p => ∀ f, p.login? = some f → f = LoginPage.initial)
        s.nav t.nav)
      (hsent : t.signIns = s.signIns)
  | edited {r : Route Page} {f f' : LoginFields} (hr : s.top? = some r)
      (hf : r.page.login? = some f) (hload : f'.isLoading = f.isLoading)
      (hnav : t.nav = s.nav.update r.key fun _ => .loginPage f') (hsent : t.signIns = s.signIns)
  | sent {r : Route Page} {f f' : LoginFields} (hr : s.top? = some r)
      (hf : r.page.login? = some f) (hidle : f.isLoading = false) (hload : f'.isLoading = true)
      (hnav : t.nav = s.nav.update r.key fun _ => .loginPage f')
      (hsent : t.signIns = s.signIns ++ [⟨r.key, LoginPage.requestOf K f⟩])
  | late {i : Nat} {flight : Flight SignInRequest} (hflight : s.signIns[i]? = some flight)
      (hgone : s.loginAt flight.page = none) (hnav : t.nav = s.nav)
      (hsent : t.signIns = s.signIns.eraseIdx i)
  | answered {i : Nat} {flight : Flight SignInRequest} {r : Route Page} {f f' : LoginFields}
      (hflight : s.signIns[i]? = some flight) (hr : r ∈ s.nav.mountedRoutes)
      (hkey : r.key = flight.page) (hf : r.page.login? = some f) (hidle : f'.isLoading = false)
      (hnav : t.nav = (s.nav.update flight.page fun _ => .loginPage f') ∨
        ∃ account, t.nav =
          (s.nav.update flight.page fun _ => .loginPage f').pushReplacement (.alertsPage account))
      (hsent : t.signIns = s.signIns.eraseIdx i)

section Steps

variable {K : Casing} {s t : App}

theorem top?_mounted {r : Route Page} (h : s.top? = some r) : r ∈ s.nav.mountedRoutes :=
  List.mem_append_left _ (top?_mem h)

theorem signedInFields_isLoading (s : App) (f : LoginFields) (account : Account) :
    (s.signedInFields f account).isLoading = false := by
  rw [signedInFields]
  split <;> rfl

theorem step_login_loginStep {tap : LoginTap} (h : step K s (.login tap) = some t) :
    LoginStep K s (.login tap) t := by
  obtain ⟨r, hr, h⟩ := Option.bind_eq_some_iff.mp h
  obtain ⟨f, hf, h⟩ := Option.bind_eq_some_iff.mp h
  obtain ⟨hdl, hhdl, rfl⟩ := Option.map_eq_some_iff.mp h
  obtain ⟨hidle, hload⟩ := loginPage_tap_isLoading hhdl
  obtain ⟨f', hrun, -⟩ := loginPage_tap hhdl
  rw [hrun] at hload ⊢
  by_cases hsign : tap = .signIn
  · subst hsign
    exact .sent hr hf (hidle rfl) (hload.trans (Bool.or_true _)) rfl rfl
  · refine .edited hr hf (hload.trans ?_) rfl ?_
    · rw [decide_eq_false hsign, Bool.or_false]
    · rw [if_neg hsign]
      exact List.append_nil _

theorem step_loginStep {a : Action} (hs : s.nav.WellKeyed) (h : step K s a = some t) :
    LoginStep K s a t := by
  cases a with
  | tap tap =>
    obtain ⟨r, c, hr, hc, rfl⟩ := step_tap h
    exact .other (c.run_evolves s.nav fun q hq f hf => Page.initial_of_opens hc hq hf) rfl
  | login tap => exact step_login_loginStep h
  | signUp tap =>
    obtain ⟨r, f, f', hr, hf, rfl⟩ := step_signUp h
    exact .other (evolves_update hs (List.mem_append_left _ (top?_mem hr))
      (Page.login?_of_signUp? hf).symm) rfl
  | back =>
    obtain ⟨-, rfl⟩ := step_back h
    exact .other (.pop s.nav) rfl
  | signInAnswer i o =>
    obtain ⟨flight, hflight, rfl⟩ := step_signInAnswer h
    cases hat : s.loginAt flight.page with
    | none => exact .late hflight hat (signInDone_disposed hat flight.req _) rfl
    | some f =>
      obtain ⟨r, hr, hkey, hf⟩ := loginAt_mem hat
      cases hgrant : flight.req.grant (.ok (GraphQLService.signin o)) with
      | none =>
        obtain ⟨message, hnav⟩ := signInDone_refused hat hgrant
        have hidle : (f.refused message).isLoading = false := rfl
        exact .answered hflight hr hkey hf hidle (Or.inl hnav) rfl
      | some account =>
        exact .answered hflight hr hkey hf (s.signedInFields_isLoading f account)
          (Or.inr ⟨account, signInDone_granted hat hgrant⟩) rfl
  | signUpAnswer i o =>
    obtain ⟨flight, -, rfl⟩ := step_signUpAnswer h
    refine .other ?_ rfl
    show Navigator.Evolves _ _ s.nav (s.signUpDone flight.page (GraphQLService.signup o))
    rcases s.signUpDone_cases flight.page (GraphQLService.signup o) with
      ⟨-, hnav⟩ | ⟨f, f', hat, -, hnav⟩ | ⟨f, f', hat, -, hnav⟩
    · rw [hnav]
      exact .refl s.nav
    · obtain ⟨r, hr, hkey, hf⟩ := signUpAt_mem hat
      rw [hnav, ← hkey]
      exact (evolves_update hs hr (Page.login?_of_signUp? hf).symm).after (.pop _)
    · obtain ⟨r, hr, hkey, hf⟩ := signUpAt_mem hat
      rw [hnav, ← hkey]
      exact evolves_update hs hr (Page.login?_of_signUp? hf).symm
  | transitionEnd k =>
    rw [step_transitionEnd h]
    exact .other (.endTransition s.nav k) rfl

/-! ## One request while it is loading -/

structure LoadingInv (s : App) : Prop where
  keyed : s.nav.WellKeyed
  fresh : ∀ flight ∈ s.signIns, flight.page < s.nav.nextKey
  told : s.LoadingTold

/-- An answer takes one request of its page and none of another. -/
theorem waiting_eraseIdx {i : Nat} {flight : Flight SignInRequest}
    (hflight : s.signIns[i]? = some flight) (hsent : t.signIns = s.signIns.eraseIdx i) (k : Nat) :
    s.waiting k = t.waiting k + if flight.page = k then 1 else 0 := by
  obtain ⟨hi, rfl⟩ := List.getElem?_eq_some_iff.mp hflight
  have hperm := List.getElem_cons_eraseIdx_perm hi
  rw [waiting, waiting, hsent, ← hperm.countP_eq, List.countP_cons]
  simp only [decide_eq_true_eq]

/-- The routes change, and a login page that comes is idle. -/
theorem LoadingTold.evolves {New : Page → Prop} (hs : s.LoadingTold)
    (hfresh : ∀ flight ∈ s.signIns, flight.page < s.nav.nextKey)
    (hnav : Navigator.Evolves Page.login? New s.nav t.nav)
    (hnew : ∀ p f, New p → p.login? = some f → f.isLoading = false)
    (hsent : t.signIns = s.signIns) : t.LoadingTold := by
  intro r hr f hf
  rw [waiting, hsent]
  rcases hnav.route r hr with ⟨r', hr', hkey, hsame⟩ | ⟨hkey, hpage⟩
  · rw [← hkey]
    exact hs r' hr' f (hsame.trans hf)
  · rw [hnew r.page f hpage hf]
    refine List.countP_eq_zero.mpr fun flight hmem => ?_
    have hlt := hfresh flight hmem
    have hne : flight.page ≠ r.key := by omega
    simpa using hne

/-- A login page is rewritten as its requests change. -/
theorem LoadingTold.written (hs : s.LoadingTold) {k : Nat} {f' : LoginFields}
    (hnav : t.nav = s.nav.update k fun _ => .loginPage f')
    (hrest : ∀ j, j ≠ k → t.waiting j = s.waiting j)
    (hown : t.waiting k = if f'.isLoading then 1 else 0) : t.LoadingTold := by
  intro r hr g hg
  rw [hnav, Navigator.update_mountedRoutes] at hr
  obtain ⟨r₀, hr₀, rfl⟩ := List.mem_map.mp hr
  rw [Route.update_key]
  rw [Route.update] at hg
  split at hg
  · rename_i hkey
    obtain rfl := Option.some.inj hg
    rw [hkey]
    exact hown
  · rename_i hkey
    rw [hrest _ hkey]
    exact hs r₀ hr₀ g hg

theorem LoginStep.told {a : Action} (hs : s.LoadingInv) (h : LoginStep K s a t) :
    t.LoadingTold := by
  cases h with
  | other hnav hsent =>
    exact hs.told.evolves hs.fresh hnav (fun p f hp hf => by rw [hp f hf]; rfl) hsent
  | @edited r f f' hr hf hload hnav hsent =>
    refine hs.told.written hnav (fun j _ => by rw [waiting, hsent, waiting]) ?_
    rw [waiting, hsent, hload]
    exact hs.told r (top?_mounted hr) f hf
  | @sent r f f' hr hf hidle hload hnav hsent =>
    have hnone := hs.told r (top?_mounted hr) f hf
    rw [hidle] at hnone
    refine hs.told.written hnav (fun j hj => ?_) ?_
    · rw [waiting, hsent, List.countP_append, waiting]
      simp [hj.symm]
    · rw [waiting, hsent, List.countP_append, hload, if_pos rfl]
      show s.waiting r.key + _ = 1
      rw [hnone]
      simp
  | @late i flight hflight hgone hnav hsent =>
    intro r hr f hf
    rw [hnav] at hr
    have hne : flight.page ≠ r.key := fun hkey => by
      rw [hkey, loginAt_eq hs.keyed hr, hf] at hgone
      cases hgone
    have hwait := waiting_eraseIdx hflight hsent r.key
    rw [if_neg hne] at hwait
    exact hwait.symm.trans (hs.told r hr f hf)
  | @answered i flight r f f' hflight hr hkey hf hidle hnav hsent =>
    have hwait := waiting_eraseIdx hflight hsent
    have hzero : t.waiting flight.page = 0 := by
      have hmine := hwait flight.page
      have htold := hs.told r hr f hf
      rw [if_pos rfl] at hmine
      rw [hkey] at htold
      split at htold <;> omega
    have hwritten : ({ t with nav := s.nav.update flight.page fun _ => .loginPage f' } :
        App).LoadingTold := by
      refine hs.told.written rfl (fun j hj => ?_) ?_
      · have hother := hwait j
        rw [if_neg hj.symm] at hother
        exact hother.symm
      · rw [hidle]
        exact hzero
    rcases hnav with hnav | ⟨account, hnav⟩
    · exact fun r hr => hwritten r (hnav ▸ hr)
    · have hevolves : Navigator.Evolves Page.login? (fun p => p.login? = none)
          (s.nav.update flight.page fun _ => .loginPage f') t.nav := by
        rw [hnav]
        exact .pushReplacement _ rfl
      refine hwritten.evolves (fun fl hmem => ?_) hevolves (fun p g hp hg => ?_) rfl
      · exact hs.fresh fl (List.mem_of_mem_eraseIdx (hsent ▸ hmem))
      · rw [hp] at hg
        cases hg

theorem LoginStep.nextKey_le {a : Action} (h : LoginStep K s a t) : s.nav.nextKey ≤ t.nav.nextKey := by
  cases h with
  | other hnav hsent => exact hnav.nextKey
  | edited hr hf hload hnav hsent => rw [hnav]; exact Nat.le_refl _
  | sent hr hf hidle hload hnav hsent => rw [hnav]; exact Nat.le_refl _
  | late hflight hgone hnav hsent => rw [hnav]
  | @answered i flight r f f' hflight hr hkey hf hidle hnav hsent =>
    rcases hnav with hnav | ⟨account, hnav⟩
    · rw [hnav]
      exact Nat.le_refl _
    · have hevolves : Navigator.Evolves Page.login? (fun _ => True)
          (s.nav.update flight.page fun _ => .loginPage f') t.nav := by
        rw [hnav]
        exact .pushReplacement _ trivial
      exact hevolves.nextKey

theorem loadingInv_step {a : Action} (hs : s.LoadingInv) (h : step K s a = some t) :
    t.LoadingInv := by
  have hlogin := step_loginStep hs.keyed h
  refine ⟨step_wellKeyed hs.keyed h, fun flight hmem => ?_, hlogin.told hs⟩
  refine Nat.lt_of_lt_of_le ?_ hlogin.nextKey_le
  cases hlogin with
  | other hnav hsent => exact hs.fresh flight (hsent ▸ hmem)
  | edited hr hf hload hnav hsent => exact hs.fresh flight (hsent ▸ hmem)
  | @sent r f f' hr hf hidle hload hnav hsent =>
    rw [hsent] at hmem
    rcases List.mem_append.mp hmem with hold | hnew
    · exact hs.fresh flight hold
    · rw [List.mem_singleton.mp hnew]
      exact hs.keyed.fresh r (top?_mounted hr)
  | late hflight hgone hnav hsent =>
    exact hs.fresh flight (List.mem_of_mem_eraseIdx (hsent ▸ hmem))
  | answered hflight hr hkey hf hidle hnav hsent =>
    exact hs.fresh flight (List.mem_of_mem_eraseIdx (hsent ▸ hmem))

/-- Only the topmost page sends. -/
theorem waiting_step {a : Action} (hs : s.nav.WellKeyed) (h : step K s a = some t) {k : Nat}
    (hk : ∀ r, s.top? = some r → r.key ≠ k) : t.waiting k ≤ s.waiting k := by
  cases step_loginStep hs h with
  | other hnav hsent => rw [waiting, hsent, waiting]
  | edited hr hf hload hnav hsent => rw [waiting, hsent, waiting]
  | @sent r f f' hr hf hidle hload hnav hsent =>
    rw [waiting, hsent, List.countP_append, waiting]
    simp [hk r hr]
  | late hflight hgone hnav hsent =>
    rw [waiting_eraseIdx hflight hsent k]
    exact Nat.le_add_right _ _
  | answered hflight hr hkey hf hidle hnav hsent =>
    rw [waiting_eraseIdx hflight hsent k]
    exact Nat.le_add_right _ _

end Steps

theorem initial_loadingInv : initial.LoadingInv where
  keyed := Navigator.home_wellKeyed _
  fresh _ hmem := nomatch hmem
  told r hr f hf := by
    obtain rfl := List.mem_singleton.mp hr
    obtain rfl := Option.some.inj hf
    rfl

/-- In every run each mounted login page has one unanswered sign-in while it is
loading and none while it is idle. -/
theorem loadingTold_throughout (K : Casing) (as : List Action) :
    Runs.Throughout (step K) LoadingTold initial as :=
  Runs.throughout_of_step (I := LoadingInv) (fun _ a _ => loadingInv_step (K := K) (a := a))
    (fun _ hs => hs.told) initial_loadingInv as

end App

end SurveilOne
