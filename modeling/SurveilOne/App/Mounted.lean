import SurveilOne.App.Host
import SurveilOne.App.Identity

/-!
# Screens and routes

The screens of a `Host` are kept by the keys of the routes.  Here is that they follow
the stack: a mounted route shows the screen of its own page, and a screen whose route
is gone has been disposed.  So a page is disposed when its route is, and at no other
time, which is what the runs of a single page take for granted.
-/

namespace SurveilOne

open Dart Flutter

namespace Page

/-- The page has a screen. -/
def hasScreen : Page → Bool
  | .alertsPage _ => true
  | .pushNotificationsPage _ => true
  | .menuPage _ => true
  | .productStatusPage _ _ => true
  | .messageDetailPage _ => true
  | _ => false

/-- The page without what a form holds. -/
def view : Page → Option Page
  | .loginPage _ => none
  | .signUpPage _ => none
  | p => some p

theorem eq_of_view {p q : Page} (h : p.view = q.view) :
    p = q ∨ p.hasScreen = false ∧ q.hasScreen = false := by
  cases p <;> cases q <;> cases h <;> first | exact Or.inl rfl | exact Or.inr ⟨rfl, rfl⟩

theorem view_login {p : Page} {f : LoginFields} (h : p.login? = some f) (f' : LoginFields) :
    (Page.loginPage f').view = p.view := by
  cases p <;> cases h
  rfl

theorem view_signUp {p : Page} {f : SignUpFields} (h : p.signUp? = some f) (f' : SignUpFields) :
    (Page.signUpPage f').view = p.view := by
  cases p <;> cases h
  rfl

/-- Only the tile of an alert opens a detail page. -/
theorem onTap_detail {K : Casing} {p : Page} {t : Tap} {c : NavCall} {siteName : Text}
    (h : p.onTap K t = some c) (hq : c.opened = some (.messageDetailPage siteName)) :
    t = .alert := by
  have hbar : ∀ {account showNavBar icon}, footerNavBar account showNavBar icon = some c → False := by
    intro account showNavBar icon hbar
    obtain ⟨-, q, hq', hsession, -⟩ := footerNavBar_eq_some hbar
    obtain rfl := Option.some.inj (hq'.symm.trans hq)
    cases hsession
  cases t with
  | alert => rfl
  | nav icon =>
    cases p with
    | privacyScreen account showNavBar => exact (hbar h).elim
    | legalScreen account showNavBar => exact (hbar h).elim
    | acknowledgementsScreen account showNavBar => exact (hbar h).elim
    | _ => cases icon <;> cases h <;> cases hq
  | footer link => cases p <;> cases link <;> cases h <;> cases hq
  | productTile code =>
    cases p with
    | menuPage account =>
      obtain ⟨entry, -, rfl⟩ := Option.map_eq_some_iff.mp h
      cases hq
    | _ => cases h
  | _ => cases p <;> cases h <;> cases hq

end Page

theorem Screen.page_hasScreen (c : Screen) : c.page.hasScreen = true := by
  cases c with
  | alerts file account live => cases file <;> rfl
  | _ => rfl

/-- What a mounted page has for a screen. -/
def Screen.Fits (p : Page) : Option Screen → Prop
  | none => p.hasScreen = false
  | some c => c.page = p ∧ c.mounted = true

namespace Screen

theorem Fits.of_view {p q : Page} {c : Option Screen} (hv : p.view = q.view) (h : Fits p c) :
    Fits q c := by
  rcases Page.eq_of_view hv with rfl | ⟨hp, hq⟩
  · exact h
  · cases c with
    | none => exact hq
    | some c =>
      obtain ⟨rfl, -⟩ := h
      rw [page_hasScreen] at hp
      cases hp

theorem opened_fits (clock : Clock) {detail : Option (AlertSource × Nat)} {p : Page}
    (hp : ∀ siteName, p = .messageDetailPage siteName → detail ≠ none) :
    Fits p (opened clock detail p) := by
  cases p with
  | messageDetailPage siteName =>
    obtain ⟨d, rfl⟩ := Option.ne_none_iff_exists'.mp (hp siteName rfl)
    exact ⟨rfl, rfl⟩
  | menuPage account => exact ⟨rfl, PageCode.opened_mounted MenuPage.page_timely⟩
  | _ => first | rfl | exact ⟨rfl, rfl⟩

theorem disposed_mounted (c : Screen) : c.disposed.mounted = false := by
  cases c <;> rfl

end Screen

/-! ## What a step of the app does to the routes -/

theorem NavCall.run_evolves {V : Type} {view : Page → V} {New : Page → Prop} (c : NavCall)
    (n : Navigator Page) (h : ∀ q, c.opened = some q → New q) :
    Navigator.Evolves view New n (c.run n) := by
  cases c with
  | push p => exact .push n (h p rfl)
  | pushReplacement p => exact .pushReplacement n (h p rfl)
  | pushAndRemoveUntil p => exact .pushAndRemoveUntil n (h p rfl)
  | pop => exact .pop n

namespace App

variable {K : Casing} {s t : App}

/-- A form that is rebuilt is the only page under its key. -/
theorem evolves_update {V : Type} {view : Page → V} {New : Page → Prop} (hs : s.nav.WellKeyed)
    {r : Route Page} {p : Page} (hr : r ∈ s.nav.mountedRoutes) (hp : view p = view r.page) :
    Navigator.Evolves view New s.nav (s.nav.update r.key fun _ => p) := by
  refine .update fun r' hr' hkey => ?_
  have hsame : some r' = some r := by
    rw [← hs.find?_eq hr', hkey, hs.find?_eq hr]
  rw [Option.some.inj hsame]
  exact hp

theorem signUpAt_mem {k : Nat} {f : SignUpFields} (h : s.signUpAt k = some f) :
    ∃ r ∈ s.nav.mountedRoutes, r.key = k ∧ r.page.signUp? = some f := by
  obtain ⟨r, hr, hf⟩ := Option.bind_eq_some_iff.mp h
  obtain ⟨hmem, hkey⟩ := Navigator.mem_of_find? hr
  exact ⟨r, hmem, hkey, hf⟩

/-- What is new on the stack was opened by a tap or by an answer that granted an
account. -/
theorem step_evolves {a : Action} {New : Page → Prop} (hs : s.nav.WellKeyed)
    (h : step K s a = some t)
    (hgranted : ∀ account, Granted t.answers account → New (.alertsPage account))
    (htap : ∀ tap r c q, a = .tap tap → s.top? = some r → r.page.onTap K tap = some c →
      c.opened = some q → New q) : Navigator.Evolves Page.view New s.nav t.nav := by
  cases a with
  | tap tap =>
    obtain ⟨r, c, hr, hc, rfl⟩ := step_tap h
    exact c.run_evolves s.nav fun q hq => htap tap r c q rfl hr hc hq
  | login tap =>
    obtain ⟨r, f, f', hr, hf, -, rfl⟩ := step_login h
    exact evolves_update hs (List.mem_append_left _ (top?_mem hr)) (Page.view_login hf f')
  | signUp tap =>
    obtain ⟨r, f, f', hr, hf, rfl⟩ := step_signUp h
    exact evolves_update hs (List.mem_append_left _ (top?_mem hr)) (Page.view_signUp hf f')
  | back =>
    obtain ⟨-, rfl⟩ := step_back h
    exact .pop s.nav
  | signInAnswer i o =>
    obtain ⟨flight, hflight, rfl⟩ := step_signInAnswer h
    show Navigator.Evolves _ _ s.nav (s.signInDone flight.page flight.req (GraphQLService.signin o))
    rcases s.signInDone_cases flight.page flight.req (GraphQLService.signin o) with
      ⟨-, hnav⟩ | ⟨f, f', hat, -, -, hnav⟩ | ⟨f, f', account, hat, hgrant, hnav⟩
    · rw [hnav]
      exact .refl s.nav
    · obtain ⟨r, hr, hkey, hf⟩ := loginAt_mem hat
      rw [hnav, ← hkey]
      exact evolves_update hs hr (Page.view_login hf f')
    · obtain ⟨r, hr, hkey, hf⟩ := loginAt_mem hat
      rw [hnav, ← hkey]
      exact (evolves_update hs hr (Page.view_login hf f')).after
        (.pushReplacement _ (hgranted account (step_grants h hflight hgrant)))
  | signUpAnswer i o =>
    obtain ⟨flight, -, rfl⟩ := step_signUpAnswer h
    show Navigator.Evolves _ _ s.nav (s.signUpDone flight.page (GraphQLService.signup o))
    rcases s.signUpDone_cases flight.page (GraphQLService.signup o) with
      ⟨-, hnav⟩ | ⟨f, f', hat, -, hnav⟩ | ⟨f, f', hat, -, hnav⟩
    · rw [hnav]
      exact .refl s.nav
    · obtain ⟨r, hr, hkey, hf⟩ := signUpAt_mem hat
      rw [hnav, ← hkey]
      exact (evolves_update hs hr (Page.view_signUp hf f')).after (.pop _)
    · obtain ⟨r, hr, hkey, hf⟩ := signUpAt_mem hat
      rw [hnav, ← hkey]
      exact evolves_update hs hr (Page.view_signUp hf f')
  | transitionEnd k =>
    rw [step_transitionEnd h]
    exact .endTransition s.nav k

/-- A detail page comes from the tile of an alert only. -/
theorem step_evolves_detail {a : Action} (hs : s.nav.WellKeyed) (h : step K s a = some t) :
    Navigator.Evolves Page.view
      (fun p => ∀ siteName, p = .messageDetailPage siteName → a = .tap .alert) s.nav t.nav := by
  refine step_evolves hs h (fun _ _ _ hp => nomatch hp) ?_
  rintro tap r c q rfl - hc hq siteName rfl
  rw [Page.onTap_detail hc hq]

end App

/-! ## Screens follow the stack -/

namespace Host

variable {P : Platform} {s t : Host}

structure Synced (P : Platform) (s : Host) : Prop where
  app : Runs.Reachable (App.step P.casing) App.initial s.app
  wellKeyed : s.app.nav.WellKeyed
  tracks : Navigator.Tracks Screen.Fits (fun c => c.mounted = true) s.app.nav s.screens

theorem initial_synced (P : Platform) : initial.Synced P where
  app := .refl _
  wellKeyed := Navigator.home_wellKeyed _
  tracks :=
    { mounted := fun r hr => by
        obtain rfl := List.mem_singleton.mp hr
        rfl
      gone := fun _ _ _ hc => nomatch hc }

theorem Synced.moved {now : DateTime} {detail : Option (AlertSource × Nat)} {b : Action} {app : App}
    (hs : s.Synced P) (h : App.step P.casing s.app b = some app)
    (hb : b = .tap .alert → detail ≠ none) : (s.moved (P.clock now) detail app).Synced P where
  app := hs.app.snoc h
  wellKeyed := App.step_wellKeyed hs.wellKeyed h
  tracks :=
    hs.tracks.mount hs.wellKeyed (App.step_wellKeyed hs.wellKeyed h)
      (App.step_evolves_detail hs.wellKeyed h) (fun _ _ _ => Screen.Fits.of_view)
      (fun _ hp => Screen.opened_fits _ fun siteName hsite => hb (hp siteName hsite))
      fun c => by simp [c.disposed_mounted]

theorem Moves.synced (hs : s.Synced P) (h : Moves P s t) : t.Synced P := by
  cases h with
  | app h hb => exact hs.moved h fun hb' => absurd hb' hb
  | detail hr hc htile h => exact hs.moved h fun _ => Option.some_ne_none _
  | screen hc h =>
    refine ⟨hs.app, hs.wellKeyed, hs.tracks.replace hc (fun p hp => ?_) fun hm => ?_⟩
    · exact ⟨h.page_eq.trans hp.1, h.mounted_eq.trans hp.2⟩
    · exact h.mounted_eq.symm.trans hm

theorem synced_throughout (P : Platform) (as : List (DateTime × HostAction)) :
    Runs.Throughout (step P) (Synced P) initial as :=
  Runs.throughout_of_step (I := Synced P)
    (fun _ _ _ hs h => step_of_moves (fun _ _ hs h => Moves.synced hs h) hs h) (fun _ hs => hs)
    (initial_synced P) as

/-- In every run the app is in a state that the navigation alone leads to, every
mounted route has the screen its page asks for, and a screen is mounted exactly as
long as its route. -/
theorem screens_follow_routes (P : Platform) (as : List (DateTime × HostAction)) :
    Runs.Throughout (step P) (fun s =>
      Runs.Reachable (App.step P.casing) App.initial s.app ∧
      (∀ r ∈ s.app.nav.mountedRoutes, Screen.Fits r.page (s.screens r.key)) ∧
      ∀ k c, s.screens k = some c →
        (c.mounted = true ↔ ∃ r ∈ s.app.nav.mountedRoutes, r.key = k)) initial as :=
  (synced_throughout P as).mono fun _ hs =>
    ⟨hs.app, hs.tracks.mounted, fun _ _ hc => hs.tracks.alive_iff (fun _ _ hfits => hfits.2) hc⟩

end Host

/-! ## Screens run the code of their pages -/

/-- A run of the page alone, at whatever instants, leads from the opened page to the
screen. -/
def Screen.Reached (P : Platform) : Screen → Prop
  | alerts file account live => ∃ now, Runs.Reachable
      (fun s (e : DateTime × AlertsEvent) => (file.page (P.clock e.1) account.siteName).step s e.2)
      (file.page (P.clock now) account.siteName).opened live
  | menu _ live => Runs.Reachable menuPage.step menuPage.opened live
  | productStatus productCode _ live =>
    Runs.Reachable (productStatusPage productCode).step (productStatusPage productCode).opened live
  | messageDetail _ _ live => ∃ index, Runs.Reachable
      (fun s (e : List AlertRow × DetailEvent) => (messageDetailPage e.1 0).step s e.2)
      (messageDetailPage [] index).opened live

namespace Screen

variable {P : Platform} {rows : AlertSource → List AlertRow} {c c' : Screen}

theorem opened_reached {now : DateTime} {detail : Option (AlertSource × Nat)} {p : Page}
    (h : opened (P.clock now) detail p = some c) : c.Reached P := by
  cases p with
  | alertsPage account => cases h; exact ⟨now, .refl _⟩
  | pushNotificationsPage account => cases h; exact ⟨now, .refl _⟩
  | menuPage account => cases h; exact .refl _
  | productStatusPage productCode account => cases h; exact .refl _
  | messageDetailPage siteName =>
    obtain ⟨d, -, rfl⟩ := Option.map_eq_some_iff.mp h
    exact ⟨d.2, .refl _⟩
  | _ => cases h

theorem Reached.becomes (hc : c.Reached P) (h : Becomes P rows c c') : c'.Reached P := by
  cases h with
  | alerts he h =>
    obtain ⟨now, hc⟩ := hc
    exact ⟨now, hc.snoc (a := (_, _)) h⟩
  | menu he h => exact Runs.Reachable.snoc hc h
  | productStatus he h => exact Runs.Reachable.snoc hc h
  | messageDetail he h =>
    obtain ⟨index, hc⟩ := hc
    exact ⟨index, hc.snoc (a := (_, _)) h⟩

theorem Reached.disposed (hc : c.Reached P) (hm : c.mounted = true) : c.disposed.Reached P := by
  cases c with
  | alerts file account live =>
    obtain ⟨now, hc⟩ := hc
    exact ⟨now, hc.snoc (a := (now, .dispose)) (if_pos hm)⟩
  | menu account live => exact Runs.Reachable.snoc hc (a := .dispose) (if_pos hm)
  | productStatus productCode account live =>
    exact Runs.Reachable.snoc hc (a := .dispose) (if_pos hm)
  | messageDetail siteName source live =>
    obtain ⟨index, hc⟩ := hc
    exact ⟨index, hc.snoc (a := ([], .dispose)) (if_pos hm)⟩

end Screen

namespace Host

variable {P : Platform} {s t : Host}

structure Running (P : Platform) (s : Host) : Prop extends Synced P s where
  reached : ∀ k c, s.screens k = some c → c.Reached P

theorem Running.moved {now : DateTime} {detail : Option (AlertSource × Nat)} {b : Action}
    {app : App} (hs : s.Running P) (h : App.step P.casing s.app b = some app)
    (hb : b = .tap .alert → detail ≠ none) : (s.moved (P.clock now) detail app).Running P := by
  refine ⟨hs.toSynced.moved h hb, fun k c hc => ?_⟩
  rcases Navigator.mount_cases hc with hold | ⟨r, -, -, hopened⟩ | ⟨r, c', hr, hc', rfl⟩
  · exact hs.reached k c hold
  · exact Screen.opened_reached hopened
  · obtain ⟨hmem, rfl⟩ := Navigator.mem_of_find? hr
    have hfits : Screen.Fits r.page (some c') := hc' ▸ hs.tracks.mounted r hmem
    exact (hs.reached r.key c' hc').disposed hfits.2

theorem Moves.running (hs : s.Running P) (h : Moves P s t) : t.Running P := by
  refine ⟨h.synced hs.toSynced, ?_⟩
  cases h with
  | app h hb => exact (hs.moved h fun hb' => absurd hb' hb).reached
  | detail hr hc htile h => exact (hs.moved h fun _ => Option.some_ne_none _).reached
  | screen hc h => exact forall_setScreen hs.reached ((hs.reached _ _ hc).becomes h)

theorem initial_running (P : Platform) : initial.Running P :=
  ⟨initial_synced P, fun _ _ hc => nomatch hc⟩

theorem running_step {a : DateTime × HostAction} (hs : s.Running P) (h : step P s a = some t) :
    t.Running P :=
  step_of_moves (fun _ _ hs h => Moves.running hs h) hs h

/-- Inside the app every alerts, push notifications, menu, status and detail page, open or
closed, is in a state that its own runs lead to.  What holds of every run of one of these
pages holds of it there. -/
theorem screens_reached (P : Platform) (as : List (DateTime × HostAction)) :
    Runs.Throughout (step P) (fun s => ∀ k c, s.screens k = some c → c.Reached P) initial as :=
  Runs.throughout_of_step (I := Running P) (fun _ _ _ => running_step) (fun _ hs => hs.reached)
    (initial_running P) as

end Host

end SurveilOne
