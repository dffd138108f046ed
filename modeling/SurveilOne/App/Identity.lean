import SurveilOne.App.Run

/-!
# Whose account a session page carries

Every session page is to carry the user name, password and site of one answered
sign-in together with the party id of its answer.  Pages hand their account on
as it is.  Only the links of the login page put an account together, out of the
form as it is now and the party id of the last answer, and only the navigation
bar of a footer screen opens a session page with such an account.
-/

namespace SurveilOne

open Dart Flutter

/-- One answered request was sent with the user name, password and site of the
account, and its answer has no error code and the party id of the account. -/
def Granted (answers : List (SignInRequest × Fields)) (account : Account) : Prop :=
  ∃ req data, (req, data) ∈ answers ∧
    account.username = req.username ∧ account.password = req.password ∧
    account.siteName = req.siteName ∧ Fields.get data "error_code" = .null ∧
    LoginPage.extractPartyId data = .ok account.partyId

theorem Granted.append {answers : List (SignInRequest × Fields)} {account : Account}
    (h : Granted answers account) (more : List (SignInRequest × Fields)) :
    Granted (answers ++ more) account := by
  obtain ⟨req, data, hmem, hrest⟩ := h
  exact ⟨req, data, List.mem_append_left more hmem, hrest⟩

theorem Granted.of_grant {answers : List (SignInRequest × Fields)} {req : SignInRequest}
    {data : Option Fields} {account : Account} (h : req.grant (.ok data) = some account) :
    Granted (answers ++ data.toList.map (req, ·)) account := by
  obtain ⟨fields, hdata, hnull, haccount⟩ := SignInRequest.grant_eq_some h
  obtain rfl := Except.ok.inj hdata
  obtain ⟨husername, hpassword, hsite, hparty⟩ := LoginPage.accountOf_ok haccount
  exact ⟨req, fields, List.mem_append_right _ List.mem_cons_self, husername, hpassword, hsite,
    hnull, hparty⟩

namespace App

/-- Every session page on the stack carries an account that was granted. -/
def Sound (s : App) : Prop :=
  s.nav.All fun p => ∀ account, p.session? = some account → Granted s.answers account

/-- An icon on the bar of a footer screen is tapped only where the account of the
screen was granted. -/
def NavFromGranted (s : App) (a : Action) (_ : App) : Prop :=
  ∀ icon r account, a = .tap (.nav icon) → s.top? = some r → r.page.footer? = some account →
    Granted s.answers account

/-- A footer link of a login page that remembers a party id is tapped only while
the form still holds the identity this party id was granted to. -/
def LinkFromGranted (K : Casing) (s : App) (a : Action) (_ : App) : Prop :=
  ∀ link r f, a = .tap (.footer link) → s.top? = some r → r.page.login? = some f →
    0 < f.latestPartyId → Granted s.answers (LoginPage.routeArguments K f).account

section Steps

variable {K : Casing} {s t : App}

theorem step_grants {i : Nat} {o : HttpOutcome} (h : step K s (.signInAnswer i o) = some t)
    {flight : Flight SignInRequest} (hflight : s.signIns[i]? = some flight) {account : Account}
    (hgrant : flight.req.grant (.ok (GraphQLService.signin o)) = some account) :
    Granted t.answers account := by
  obtain ⟨flight', hflight', rfl⟩ := step_signInAnswer h
  obtain rfl := Option.some.inj (hflight'.symm.trans hflight)
  exact .of_grant hgrant

theorem step_granted {a : Action} (h : step K s a = some t) {account : Account}
    (hg : Granted s.answers account) : Granted t.answers account := by
  cases a with
  | tap tap => obtain ⟨r, c, -, -, rfl⟩ := step_tap h; exact hg
  | login tap => obtain ⟨r, f, f', -, -, -, rfl⟩ := step_login h; exact hg
  | signUp tap => obtain ⟨r, f, f', -, -, rfl⟩ := step_signUp h; exact hg
  | back => obtain ⟨-, rfl⟩ := step_back h; exact hg
  | signInAnswer i o => obtain ⟨flight, -, rfl⟩ := step_signInAnswer h; exact hg.append _
  | signUpAnswer i o => obtain ⟨flight, -, rfl⟩ := step_signUpAnswer h; exact hg
  | transitionEnd k => rw [step_transitionEnd h]; exact hg

/-- A property of pages that forms have, granted alerts pages have, and taps hand
on, holds of every page on the stack after a step. -/
theorem step_all {a : Action} {Q : Page → Prop} (h : step K s a = some t) (hs : s.nav.All Q)
    (hlogin : ∀ f, Q (.loginPage f)) (hsignUp : ∀ f, Q (.signUpPage f))
    (hgranted : ∀ account, Granted t.answers account → Q (.alertsPage account))
    (htap : ∀ tap r c q, a = .tap tap → s.top? = some r → r.page.onTap K tap = some c →
      c.opened = some q → Q r.page → Q q) : t.nav.All Q := by
  have hform : ∀ k f, (s.nav.update k fun _ => .loginPage f).All Q :=
    fun k f => hs.update fun _ _ _ _ => hlogin f
  have hform' : ∀ k f, (s.nav.update k fun _ => .signUpPage f).All Q :=
    fun k f => hs.update fun _ _ _ _ => hsignUp f
  have hnav := step_navStep h
  generalize t.nav = n at hnav ⊢
  cases hnav with
  | same => exact hs
  | tapped ha hr hc =>
    exact NavCall.run_all hs fun q hq => htap _ _ _ q ha hr hc hq (hs _ (top?_mem hr))
  | loginForm hr hf hsame => exact hform _ _
  | granted ha hflight hr hkey hf hgrant =>
    subst ha
    exact (hform _ _).pushReplacement (hgranted _ (step_grants h hflight hgrant))
  | signUpForm k f => exact hform' k f
  | signedUp k f => exact (hform' k f).pop
  | back => exact hs.pop
  | transitionEnd k => exact hs

theorem sound_step {a : Action} (hs : s.Sound) (hc : NavFromGranted s a t)
    (h : step K s a = some t) : t.Sound := by
  refine step_all h (hs.mono fun p hp account ha => step_granted h (hp account ha))
    (fun _ _ ha => nomatch ha) (fun _ _ ha => nomatch ha)
    (fun account hg a ha => Option.some.inj ha ▸ hg) ?_
  rintro tap r c q rfl hr htap hq hp account ha
  rcases (Page.onTap_opens htap hq).session account ha with hsession | ⟨hfooter, -, icon, rfl⟩
  · exact hp account hsession
  · exact step_granted h (hc icon r account rfl hr hfooter)

/-- The page an icon has opened is on the stack. -/
theorem Sound.navFromGranted {a : Action} (h : step K s a = some t) (ht : t.Sound) :
    NavFromGranted s a t := by
  rintro icon r account rfl hr hfooter
  obtain ⟨r', c, hr', htap, rfl⟩ := step_tap h
  obtain rfl := Option.some.inj (hr'.symm.trans hr)
  obtain ⟨q, hq, hsession⟩ := Page.onTap_nav_footer hfooter htap
  obtain ⟨r, hmem, rfl⟩ := NavCall.opened_mem (routes_ne_nil hr') hq
  exact ht r hmem account hsession

/-- The account of a footer screen with a bar was granted as well. -/
def FootersSound (s : App) : Prop :=
  s.nav.All fun p => (∀ account, p.session? = some account → Granted s.answers account) ∧
    ∀ account, p.footer? = some account → 0 < account.partyId → Granted s.answers account

theorem FootersSound.navFromGranted {a : Action} (hs : s.FootersSound)
    (h : step K s a = some t) : NavFromGranted s a t := by
  rintro icon r account rfl hr hfooter
  obtain ⟨r', c, hr', htap, -⟩ := step_tap h
  obtain rfl := Option.some.inj (hr'.symm.trans hr)
  obtain ⟨q, hq, hsession⟩ := Page.onTap_nav_footer hfooter htap
  rcases (Page.onTap_opens htap hq).session account hsession with hsame | ⟨-, hparty, -⟩
  · exact (hs r' (top?_mem hr)).1 account hsame
  · exact (hs r' (top?_mem hr)).2 account hfooter hparty

theorem footersSound_step {a : Action} (hs : s.FootersSound) (hc : LinkFromGranted K s a t)
    (h : step K s a = some t) : t.FootersSound := by
  have hnav := hs.navFromGranted h
  refine step_all h (hs.mono fun p hp => ⟨fun account ha => step_granted h (hp.1 account ha),
      fun account ha hparty => step_granted h (hp.2 account ha hparty)⟩)
    (fun _ => ⟨fun _ ha => (nomatch ha), fun _ ha => (nomatch ha)⟩)
    (fun _ => ⟨fun _ ha => (nomatch ha), fun _ ha => (nomatch ha)⟩)
    (fun account hg => ⟨fun a ha => Option.some.inj ha ▸ hg, fun _ ha => (nomatch ha)⟩) ?_
  rintro tap r c q rfl hr htap hq ⟨hsession, -⟩
  have hopens := Page.onTap_opens htap hq
  refine ⟨fun account ha => ?_, fun account ha hparty => ?_⟩
  · rcases hopens.session account ha with hsame | ⟨hfooter, -, icon, rfl⟩
    · exact hsession account hsame
    · exact step_granted h (hnav icon r account rfl hr hfooter)
  · rcases hopens.footer account ha with hsame | ⟨f, link, hf, rfl, rfl⟩
    · exact hsession account hsame
    · exact step_granted h (hc link r f rfl hr hf hparty)

end Steps

theorem initial_sound : initial.Sound := .home fun _ ha => nomatch ha

theorem initial_footersSound : initial.FootersSound :=
  .home ⟨fun _ ha => (nomatch ha), fun _ ha => (nomatch ha)⟩

/-- In a run every session page carries a granted account exactly when no icon is
tapped on a footer screen whose account was not. -/
theorem sound_throughout (K : Casing) (as : List Action) :
    Runs.Throughout (step K) Sound initial as ↔
      Runs.AtEachStep (step K) NavFromGranted initial as :=
  Runs.throughout_iff (I := Sound) (fun _ a _ => sound_step (K := K) (a := a)) (fun _ hs => hs)
    (fun _ a _ _ h ht => ht.navFromGranted (K := K) (a := a) h) initial_sound as

/-- So it does as long as no footer link is tapped on a login page whose form has
been edited since its sign-in. -/
theorem sound_of_linkFromGranted (K : Casing) (as : List Action)
    (h : Runs.AtEachStep (step K) (LinkFromGranted K) initial as) :
    Runs.Throughout (step K) Sound initial as :=
  (sound_throughout K as).mpr <| Runs.atEachStep_of_inv (I := FootersSound)
    (fun _ a _ => footersSound_step (K := K) (a := a))
    (fun _ a _ hs _ h => hs.navFromGranted (K := K) (a := a) h) initial_footersSound h

/-- After a sign-in behind the privacy screen the form is edited, and the screen is
opened again: its bar leads to alerts of another user with the old party id. -/
theorem edited_form_mixes :
    ¬ ∀ (K : Casing) (as : List Action), Runs.Throughout (step K) Sound initial as := by
  intro h
  have hsound := Runs.throughout_iff_exec.mp (h .ascii
    [.login (.editUsername "ann".toList), .login .signIn, .tap (.footer .privacy),
      .signInAnswer 0 (.response 200 [] (some (.map [("data".toList,
        .map [("signin".toList, .map [("party_id".toList, .int 7)])])]))),
      .back, .login (.editUsername "bob".toList), .tap (.footer .privacy), .tap (.nav .alerts)])
    _ [] _ (List.append_nil _).symm rfl
  obtain ⟨req, data, hmem, husername, -⟩ := hsound _ List.mem_cons_self _ rfl
  obtain ⟨rfl, -⟩ := Prod.mk.inj (List.mem_singleton.mp hmem)
  cases husername

end App

end SurveilOne
