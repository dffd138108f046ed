import SurveilOne.Flutter.Navigator
import SurveilOne.Login
import SurveilOne.Menu
import SurveilOne.SignUp

/-!
# The pages of the app and where their controls lead

A `Page` is what a route shows, with the arguments it was built with and, for
the two forms, their fields.  `Page.onTap` gives for each page the call to the
navigator that a control makes.  The controls that make none, and the arrow of a
default app bar, which does what the system's back button does, are not taps.

`my_products_page.dart` is imported nowhere and has no route.
-/

namespace SurveilOne

open Dart Flutter

inductive Page where
  | loginPage (s : LoginFields)
  | signUpPage (s : SignUpFields)
  | privacyScreen (account : Account) (showNavBar : Bool)
  | legalScreen (account : Account) (showNavBar : Bool)
  | acknowledgementsScreen (account : Account) (showNavBar : Bool)
  | alertsPage (account : Account)
  | pushNotificationsPage (account : Account)
  | menuPage (account : Account)
  | accountPage (account : Account)
  | productStatusPage (productCode : Text) (account : Account)
  | personalInfoPage (fullName email : Text)
  | securityPrivacyPage
  | messageDetailPage (siteName : Text)
  | fullscreenImage
  | filterMenu
  | licensePage

/-- The icons of `TopRightNavBar`. -/
inductive NavIcon where
  | alerts
  | push
  | menu
  deriving DecidableEq

inductive FooterLink where
  | privacy
  | legal
  | acknowledgements
  deriving DecidableEq

inductive Tap where
  | nav (icon : NavIcon)
  | footer (link : FooterLink)
  | signUpLink
  | accountTile
  | productTile (code : Text)
  | personalInformation
  | securityPrivacy
  | signOut
  | filter
  | alert
  | image
  | licenses
  /-- A control of the page itself that pops its route. -/
  | close

/-- A call to the navigator. -/
inductive NavCall where
  | push (p : Page)
  | pushReplacement (p : Page)
  | pushAndRemoveUntil (p : Page)
  | pop

def NavCall.run (n : Navigator Page) : NavCall → Navigator Page
  | .push p => n.push p
  | .pushReplacement p => n.pushReplacement p
  | .pushAndRemoveUntil p => n.pushAndRemoveUntil p
  | .pop => n.pop

/-- The page a call opens. -/
def NavCall.opened : NavCall → Option Page
  | .push p => some p
  | .pushReplacement p => some p
  | .pushAndRemoveUntil p => some p
  | .pop => none

section NavCall

variable {n : Navigator Page} {c : NavCall}

theorem NavCall.run_all {Q : Page → Prop} (hn : n.All Q) (hq : ∀ q, c.opened = some q → Q q) :
    (c.run n).All Q := by
  cases c with
  | push p => exact hn.push (hq p rfl)
  | pushReplacement p => exact hn.pushReplacement (hq p rfl)
  | pushAndRemoveUntil p => exact .pushAndRemoveUntil (hq p rfl)
  | pop => exact hn.pop

theorem NavCall.opened_mem {q : Page} (hn : n.routes ≠ []) (hq : c.opened = some q) :
    ∃ r ∈ (c.run n).routes, r.page = q := by
  cases c with
  | push p =>
    cases hq
    exact ⟨_, List.mem_cons_self, rfl⟩
  | pushReplacement p =>
    obtain rfl : p = q := Option.some.inj hq
    refine ⟨⟨n.nextKey, p⟩, ?_, rfl⟩
    rw [run, Navigator.pushReplacement_routes p hn]
    exact List.mem_cons_self
  | pushAndRemoveUntil p =>
    cases hq
    exact ⟨_, List.mem_cons_self, rfl⟩
  | pop => cases hq

theorem NavCall.run_stable {I : Navigator Page → Prop} (hI : Navigator.Stable I) (hn : I n)
    (c : NavCall) : I (c.run n) := by
  cases c with
  | push p => exact hI.push n p hn
  | pushReplacement p => exact hI.pushReplacement n p hn
  | pushAndRemoveUntil p => exact hI.pushAndRemoveUntil n p hn
  | pop => exact hI.pop n hn

end NavCall

/-! ## Named routes -/

/-- The map given to `pushNamed`. -/
structure RouteArguments where
  username : Text
  password : Text
  siteName : Text
  partyId : Int
  fullName : Option Text
  email : Option Text
  showNavBar : Bool

def RouteArguments.account (args : RouteArguments) : Account :=
  { partyId := args.partyId, username := args.username, password := args.password
    siteName := args.siteName, fullName := args.fullName.getD args.username
    email := args.email.getD [] }

/-- The three branches of `onGenerateRoute` with a link to them.  `showNavBar` is
not passed on, so it has its default. -/
def onGenerateRoute (args : RouteArguments) : FooterLink → Page
  | .privacy => .privacyScreen args.account true
  | .legal => .legalScreen args.account true
  | .acknowledgements => .acknowledgementsScreen args.account true

/-! ## The pages -/

section Pages

variable (K : Casing)

/-- The arguments the three links at the bottom of the login page send. -/
def LoginPage.routeArguments (s : LoginFields) : RouteArguments :=
  { username := (requestOf K s).username, password := (requestOf K s).password
    siteName := (requestOf K s).siteName, partyId := s.latestPartyId
    fullName := some s.latestFullName, email := some s.latestEmail, showNavBar := false }

def LoginPage.onLink (s : LoginFields) : Tap → Option NavCall
  | .signUpLink => some (.push (.signUpPage SignUpPage.initial))
  | .footer link => some (.push (onGenerateRoute (routeArguments K s) link))
  | _ => none

/-- The navigation bar of `PrivacyScreen`, `LegalScreen` and
`AcknowledgementsScreen`. -/
def footerNavBar (account : Account) (showNavBar : Bool) (icon : NavIcon) : Option NavCall :=
  if showNavBar && decide (0 < account.partyId) then
    match icon with
    | .alerts => some (.pushReplacement (.alertsPage account))
    | .push => some (.push (.pushNotificationsPage account))
    | .menu => some (.pushReplacement (.menuPage account))
  else none

def PrivacyScreen.onTap (account : Account) (showNavBar : Bool) : Tap → Option NavCall
  | .nav icon => footerNavBar account showNavBar icon
  | _ => none

def LegalScreen.onTap (account : Account) (showNavBar : Bool) : Tap → Option NavCall
  | .nav icon => footerNavBar account showNavBar icon
  | _ => none

def AcknowledgementsScreen.onTap (account : Account) (showNavBar : Bool) : Tap → Option NavCall
  | .nav icon => footerNavBar account showNavBar icon
  | .licenses => some (.push .licensePage)
  | _ => none

/-- The alerts icon sorts the list. -/
def AlertsPage.onTap (account : Account) : Tap → Option NavCall
  | .nav .push => some (.push (.pushNotificationsPage account))
  | .nav .menu => some (.push (.menuPage account))
  | .filter => some (.push .filterMenu)
  | .alert => some (.push (.messageDetailPage account.siteName))
  | _ => none

def PushNotificationsPage.onTap (account : Account) : Tap → Option NavCall
  | .nav .alerts => some (.pushReplacement (.alertsPage account))
  | .nav .menu => some (.pushReplacement (.menuPage account))
  | .alert => some (.push (.messageDetailPage account.siteName))
  | _ => none

/-- `_navigateTo` on each control. -/
def MenuPage.onTap (account : Account) : Tap → Option NavCall
  | .nav .alerts => some (.push (.alertsPage account))
  | .nav .push => some (.push (.pushNotificationsPage account))
  | .accountTile => some (.push (.accountPage account))
  | .productTile code =>
    (productMeta.lookup code).map fun _ => .push (.productStatusPage code account)
  | .footer .privacy => some (.push (.privacyScreen account true))
  | .footer .legal => some (.push (.legalScreen account true))
  | .footer .acknowledgements => some (.push (.acknowledgementsScreen account true))
  | _ => none

def AccountPage.onTap (account : Account) : Tap → Option NavCall
  | .close => some .pop
  | .personalInformation => some (.push (.personalInfoPage account.fullName account.email))
  | .securityPrivacy => some (.push .securityPrivacyPage)
  | .signOut => some (.pushAndRemoveUntil (.loginPage LoginPage.initial))
  | _ => none

def ProductStatusPage.onTap (account : Account) : Tap → Option NavCall
  | .nav .alerts => some (.pushReplacement (.alertsPage account))
  | .nav .menu => some (.pushReplacement (.menuPage account))
  | .nav .push => some (.push (.pushNotificationsPage account))
  | _ => none

/-- Only `onBack` of the callbacks it is given is used. -/
def MessageDetailPage.onTap : Tap → Option NavCall
  | .close => some .pop
  | .image => some (.push .fullscreenImage)
  | _ => none

def Page.onTap : Page → Tap → Option NavCall
  | .loginPage s => LoginPage.onLink K s
  | .privacyScreen account showNavBar => PrivacyScreen.onTap account showNavBar
  | .legalScreen account showNavBar => LegalScreen.onTap account showNavBar
  | .acknowledgementsScreen account showNavBar => AcknowledgementsScreen.onTap account showNavBar
  | .alertsPage account => AlertsPage.onTap account
  | .pushNotificationsPage account => PushNotificationsPage.onTap account
  | .menuPage account => MenuPage.onTap account
  | .accountPage account => AccountPage.onTap account
  | .productStatusPage _ account => ProductStatusPage.onTap account
  | .messageDetailPage _ => MessageDetailPage.onTap
  | .fullscreenImage => fun t => match t with
    | .close => some .pop
    | _ => none
  | .filterMenu => fun t => match t with
    | .close => some .pop
    | _ => none
  | .signUpPage _ => fun _ => none
  | .personalInfoPage _ _ => fun _ => none
  | .securityPrivacyPage => fun _ => none
  | .licensePage => fun _ => none

end Pages

/-! ## Kinds of pages -/

/-- The account of a page of a session. -/
def Page.session? : Page → Option Account
  | .alertsPage account => some account
  | .pushNotificationsPage account => some account
  | .menuPage account => some account
  | .accountPage account => some account
  | .productStatusPage _ account => some account
  | _ => none

/-- The account of a privacy, legal or acknowledgements screen. -/
def Page.footer? : Page → Option Account
  | .privacyScreen account _ => some account
  | .legalScreen account _ => some account
  | .acknowledgementsScreen account _ => some account
  | _ => none

/-- The fields of a login page. -/
def Page.login? : Page → Option LoginFields
  | .loginPage s => some s
  | _ => none

/-- The fields of a sign-up page. -/
def Page.signUp? : Page → Option SignUpFields
  | .signUpPage s => some s
  | _ => none

/-- A page that is opened takes its account from the page the control is on.  A
session page is opened by a session page or from the bar of a footer screen, a
footer screen by a session page or by a link of a login page, and a login page by
signing out, which clears the stack. -/
structure Page.Opens (K : Casing) (p : Page) (t : Tap) (c : NavCall) (q : Page) : Prop where
  session : ∀ account, q.session? = some account →
    p.session? = some account ∨
      p.footer? = some account ∧ 0 < account.partyId ∧ ∃ icon, t = .nav icon
  footer : ∀ account, q.footer? = some account →
    p.session? = some account ∨ ∃ s link, p.login? = some s ∧ t = .footer link ∧
      account = (LoginPage.routeArguments K s).account
  login : ∀ s, q.login? = some s →
    p.session? ≠ none ∧ c = .pushAndRemoveUntil (.loginPage LoginPage.initial)

theorem footerNavBar_eq_some {account : Account} {showNavBar : Bool} {icon : NavIcon} {c : NavCall}
    (h : footerNavBar account showNavBar icon = some c) :
    0 < account.partyId ∧ ∃ q, c.opened = some q ∧
      q.session? = some account ∧ q.footer? = none ∧ q.login? = none := by
  unfold footerNavBar at h
  split at h
  · rename_i hshow
    have hparty : 0 < account.partyId := of_decide_eq_true (Bool.and_eq_true_iff.mp hshow).2
    cases icon <;> cases h <;> exact ⟨hparty, _, rfl, rfl, rfl, rfl⟩
  · cases h

namespace Page

variable {K : Casing} {p q : Page} {t : Tap} {c : NavCall}

theorem Opens.of_footerNavBar {account : Account} {showNavBar : Bool} {icon : NavIcon}
    (hp : p.footer? = some account) (h : footerNavBar account showNavBar icon = some c)
    (hq : c.opened = some q) : Opens K p (.nav icon) c q := by
  obtain ⟨hparty, q', hq', hsession, hfooter, hlogin⟩ := footerNavBar_eq_some h
  obtain rfl := Option.some.inj (hq'.symm.trans hq)
  refine ⟨fun a ha => Or.inr ?_, fun a ha => ?_, fun s hs => ?_⟩
  · obtain rfl := Option.some.inj (hsession.symm.trans ha)
    exact ⟨hp, hparty, icon, rfl⟩
  · rw [hfooter] at ha
    cases ha
  · rw [hlogin] at hs
    cases hs

theorem Opens.of_none (hsession : q.session? = none) (hfooter : q.footer? = none)
    (hlogin : q.login? = none) : Opens K p t c q where
  session a ha := by rw [hsession] at ha; cases ha
  footer a ha := by rw [hfooter] at ha; cases ha
  login s hs := by rw [hlogin] at hs; cases hs

/-- The page opened from a session page is of the same session, unless it is the
login page after signing out. -/
theorem Opens.of_session {account : Account} (hp : p.session? = some account)
    (hsession : q.session? = none ∨ q.session? = some account)
    (hfooter : q.footer? = none ∨ q.footer? = some account) (hlogin : q.login? = none) :
    Opens K p t c q where
  session a ha := by
    rcases hsession with h | h
    · rw [h] at ha
      cases ha
    · exact Or.inl (hp.trans (h.symm.trans ha))
  footer a ha := by
    rcases hfooter with h | h
    · rw [h] at ha
      cases ha
    · exact Or.inl (hp.trans (h.symm.trans ha))
  login s hs := by rw [hlogin] at hs; cases hs

end Page

/-! ## What each page opens -/

section Opens

open Page

variable {K : Casing} {account : Account} {showNavBar : Bool} {q : Page} {t : Tap} {c : NavCall}

theorem LoginPage.onLink_opens {s : LoginFields} (h : onLink K s t = some c)
    (hq : c.opened = some q) : Opens K (.loginPage s) t c q := by
  cases t with
  | signUpLink =>
    cases h
    cases hq
    exact .of_none rfl rfl rfl
  | footer link =>
    cases h
    cases hq
    cases link <;>
      exact ⟨fun a ha => (nomatch ha),
        fun a ha => Or.inr ⟨s, _, rfl, rfl, (Option.some.inj ha).symm⟩, fun _ hs => (nomatch hs)⟩
  | _ => cases h

theorem PrivacyScreen.onTap_opens (h : onTap account showNavBar t = some c)
    (hq : c.opened = some q) : Opens K (.privacyScreen account showNavBar) t c q := by
  cases t with
  | nav icon => exact .of_footerNavBar rfl h hq
  | _ => cases h

theorem LegalScreen.onTap_opens (h : onTap account showNavBar t = some c)
    (hq : c.opened = some q) : Opens K (.legalScreen account showNavBar) t c q := by
  cases t with
  | nav icon => exact .of_footerNavBar rfl h hq
  | _ => cases h

theorem AcknowledgementsScreen.onTap_opens (h : onTap account showNavBar t = some c)
    (hq : c.opened = some q) : Opens K (.acknowledgementsScreen account showNavBar) t c q := by
  cases t with
  | nav icon => exact .of_footerNavBar rfl h hq
  | licenses =>
    cases h
    cases hq
    exact .of_none rfl rfl rfl
  | _ => cases h

theorem AlertsPage.onTap_opens (h : onTap account t = some c) (hq : c.opened = some q) :
    Opens K (.alertsPage account) t c q := by
  cases t with
  | nav icon =>
    cases icon <;> cases h <;> cases hq <;> exact .of_session rfl (Or.inr rfl) (Or.inl rfl) rfl
  | filter =>
    cases h
    cases hq
    exact .of_none rfl rfl rfl
  | alert =>
    cases h
    cases hq
    exact .of_none rfl rfl rfl
  | _ => cases h

theorem PushNotificationsPage.onTap_opens (h : onTap account t = some c) (hq : c.opened = some q) :
    Opens K (.pushNotificationsPage account) t c q := by
  cases t with
  | nav icon =>
    cases icon <;> cases h <;> cases hq <;> exact .of_session rfl (Or.inr rfl) (Or.inl rfl) rfl
  | alert =>
    cases h
    cases hq
    exact .of_none rfl rfl rfl
  | _ => cases h

theorem MenuPage.onTap_opens (h : onTap account t = some c) (hq : c.opened = some q) :
    Opens K (.menuPage account) t c q := by
  cases t with
  | nav icon =>
    cases icon <;> cases h <;> cases hq <;> exact .of_session rfl (Or.inr rfl) (Or.inl rfl) rfl
  | accountTile =>
    cases h
    cases hq
    exact .of_session rfl (Or.inr rfl) (Or.inl rfl) rfl
  | productTile code =>
    obtain ⟨entry, -, rfl⟩ := Option.map_eq_some_iff.mp h
    cases hq
    exact .of_session rfl (Or.inr rfl) (Or.inl rfl) rfl
  | footer link =>
    cases link <;> cases h <;> cases hq <;> exact .of_session rfl (Or.inl rfl) (Or.inr rfl) rfl
  | _ => cases h

theorem AccountPage.onTap_opens (h : onTap account t = some c) (hq : c.opened = some q) :
    Opens K (.accountPage account) t c q := by
  cases t with
  | close =>
    cases h
    cases hq
  | signOut =>
    cases h
    cases hq
    exact ⟨fun a ha => (nomatch ha), fun a ha => (nomatch ha),
      fun s hs => ⟨Option.some_ne_none account, rfl⟩⟩
  | personalInformation =>
    cases h
    cases hq
    exact .of_none rfl rfl rfl
  | securityPrivacy =>
    cases h
    cases hq
    exact .of_none rfl rfl rfl
  | _ => cases h

theorem ProductStatusPage.onTap_opens {code : Text} (h : onTap account t = some c)
    (hq : c.opened = some q) : Opens K (.productStatusPage code account) t c q := by
  cases t with
  | nav icon =>
    cases icon <;> cases h <;> cases hq <;> exact .of_session rfl (Or.inr rfl) (Or.inl rfl) rfl
  | _ => cases h

theorem MessageDetailPage.onTap_opens {siteName : Text} (h : onTap t = some c)
    (hq : c.opened = some q) : Opens K (.messageDetailPage siteName) t c q := by
  cases t with
  | close =>
    cases h
    cases hq
  | image =>
    cases h
    cases hq
    exact .of_none rfl rfl rfl
  | _ => cases h

end Opens

namespace Page

variable {K : Casing} {p q : Page} {t : Tap} {c : NavCall}

theorem onTap_opens (h : p.onTap K t = some c) (hq : c.opened = some q) : Opens K p t c q := by
  cases p with
  | loginPage s => exact LoginPage.onLink_opens h hq
  | privacyScreen account showNavBar => exact PrivacyScreen.onTap_opens h hq
  | legalScreen account showNavBar => exact LegalScreen.onTap_opens h hq
  | acknowledgementsScreen account showNavBar => exact AcknowledgementsScreen.onTap_opens h hq
  | alertsPage account => exact AlertsPage.onTap_opens h hq
  | pushNotificationsPage account => exact PushNotificationsPage.onTap_opens h hq
  | menuPage account => exact MenuPage.onTap_opens h hq
  | accountPage account => exact AccountPage.onTap_opens h hq
  | productStatusPage code account => exact ProductStatusPage.onTap_opens h hq
  | messageDetailPage siteName => exact MessageDetailPage.onTap_opens h hq
  | fullscreenImage => cases t <;> cases h; cases hq
  | filterMenu => cases t <;> cases h; cases hq
  | _ => cases h

/-- An icon on the bar of a footer screen opens a session page with the account
of the screen. -/
theorem onTap_nav_footer {account : Account} {icon : NavIcon} (hp : p.footer? = some account)
    (h : p.onTap K (.nav icon) = some c) :
    ∃ q, c.opened = some q ∧ q.session? = some account := by
  have hbar : ∃ showNavBar, footerNavBar account showNavBar icon = some c := by
    cases p <;> cases hp <;> exact ⟨_, h⟩
  obtain ⟨showNavBar, hbar⟩ := hbar
  obtain ⟨-, q, hq, hsession, -⟩ := footerNavBar_eq_some hbar
  exact ⟨q, hq, hsession⟩

end Page

end SurveilOne
