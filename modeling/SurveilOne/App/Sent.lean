import SurveilOne.App.Mounted

/-!
# Whose data is asked for

Every screen is opened for an account and makes its requests with the site and the
party id of it.  `App.sound_throughout` speaks of the accounts on the stack.  Here it
is carried over to the screens, closed ones included, and to all requests they have
made.
-/

namespace SurveilOne

open Dart Flutter

/-- A request for the data of an account that was granted. -/
def ServiceCall.Authorised (answers : List (SignInRequest × Fields)) : ServiceCall → Prop
  | getAlerts siteName _ _ _ => ∃ account, Granted answers account ∧ account.siteName = siteName
  | getProducts siteName partyId =>
    ∃ account, Granted answers account ∧ account.siteName = siteName ∧ account.partyId = partyId
  | getProductStatus siteName partyId _ =>
    ∃ account, Granted answers account ∧ account.siteName = siteName ∧ account.partyId = partyId
  | _ => False

namespace Screen

variable {answers : List (SignInRequest × Fields)} {c : Screen} {account : Account}

def account? : Screen → Option Account
  | alerts _ account _ => some account
  | menu account _ => some account
  | productStatus _ account _ => some account
  | messageDetail _ _ _ => none

theorem page_session? (c : Screen) : c.page.session? = c.account? := by
  cases c with
  | alerts file account live => cases file <;> rfl
  | _ => rfl

/-- The account of a screen was granted, and with it all the screen asks for. -/
def Sound (answers : List (SignInRequest × Fields)) (c : Screen) : Prop :=
  (∀ account, c.account? = some account → Granted answers account) ∧
    ∀ call ∈ c.calls, call.Authorised answers

theorem sound_iff :
    c.Sound answers ↔ ∀ account, c.account? = some account → Granted answers account := by
  refine ⟨fun h => h.1, fun h => ⟨h, fun call hcall => ?_⟩⟩
  cases c with
  | alerts file account live =>
    obtain ⟨op, -, hop⟩ := List.mem_filterMap.mp hcall
    cases op <;> cases hop
    exact ⟨account, h account rfl, rfl⟩
  | menu account live =>
    obtain ⟨op, -, rfl⟩ := List.mem_map.mp hcall
    cases op
    exact ⟨account, h account rfl, rfl, rfl⟩
  | productStatus productCode account live =>
    obtain ⟨op, -, hop⟩ := List.mem_filterMap.mp hcall
    cases op <;> cases hop <;> exact ⟨account, h account rfl, rfl, rfl⟩
  | messageDetail siteName source live => cases hcall

theorem opened_account? {clock : Clock} {detail : Option (AlertSource × Nat)} {p : Page}
    (h : opened clock detail p = some c) : c.account? = p.session? := by
  cases p with
  | messageDetailPage siteName =>
    obtain ⟨d, -, rfl⟩ := Option.map_eq_some_iff.mp h
    rfl
  | _ => cases h <;> rfl

theorem disposed_account? (c : Screen) : c.disposed.account? = c.account? := by
  cases c <;> rfl

end Screen

/-- The page an icon of a footer screen opens has a screen. -/
theorem Page.onTap_nav_hasScreen {K : Casing} {p q : Page} {c : NavCall} {account : Account}
    {icon : NavIcon} (hp : p.footer? = some account) (h : p.onTap K (.nav icon) = some c)
    (hq : c.opened = some q) : q.hasScreen = true := by
  have hbar : ∃ showNavBar, footerNavBar account showNavBar icon = some c := by
    cases p <;> cases hp <;> exact ⟨_, h⟩
  obtain ⟨showNavBar, hbar⟩ := hbar
  unfold footerNavBar at hbar
  split at hbar
  · cases icon <;> cases hbar <;> cases hq <;> rfl
  · cases hbar

namespace Host

variable {P : Platform} {s t : Host}

/-- Every screen that was ever opened is sound. -/
def Sound (s : Host) : Prop := ∀ k c, s.screens k = some c → c.Sound s.app.answers

/-- An icon of a footer screen is tapped only where its account was granted. -/
def NavFromGranted (s : Host) (a : DateTime × HostAction) (t : Host) : Prop :=
  ∀ b, a.2 = .app b → App.NavFromGranted s.app b t.app

/-- What every step keeps. -/
structure AccountsGranted (P : Platform) (s : Host) : Prop extends Synced P s where
  pages : s.app.Sound
  screens : s.Sound

theorem AccountsGranted.moved {b : Action} {app : App} (hs : s.AccountsGranted P)
    (h : App.step P.casing s.app b = some app) (hc : App.NavFromGranted s.app b app)
    {now : DateTime} {detail : Option (AlertSource × Nat)} (hb : b = .tap .alert → detail ≠ none) :
    (s.moved (P.clock now) detail app).AccountsGranted P := by
  refine ⟨hs.toSynced.moved h hb, App.sound_step hs.pages hc h, fun k c hcs => ?_⟩
  refine Screen.sound_iff.mpr fun account ha => ?_
  have hnew : Navigator.Evolves Page.view
      (fun p => ∀ account, p.session? = some account → Granted app.answers account)
      s.app.nav app.nav := by
    refine App.step_evolves hs.wellKeyed h
      (fun account hg a ha => Option.some.inj ha ▸ hg) ?_
    rintro tap r c q rfl hr htap hq account ha
    rcases (Page.onTap_opens htap hq).session account ha with hsame | ⟨hfooter, -, icon, rfl⟩
    · exact App.step_granted h (hs.pages r (App.top?_mem hr) account hsame)
    · exact App.step_granted h (hc icon r account rfl hr hfooter)
  rcases Navigator.mount_cases hcs with hold | ⟨r, hn, hm, hopened⟩ | ⟨r, c', -, hc', rfl⟩
  · exact App.step_granted h ((hs.screens k c hold).1 account ha)
  · exact hnew.new_of_find? hn hm account ((Screen.opened_account? hopened).symm.trans ha)
  · rw [Screen.disposed_account?] at ha
    exact App.step_granted h ((hs.screens k c' hc').1 account ha)

theorem AccountsGranted.setScreen {k : Nat} {c c' : Screen} (hs : s.AccountsGranted P)
    (hc : s.screens k = some c) (h : c.Becomes P s.rows c') :
    (s.setScreen k c').AccountsGranted P := by
  refine ⟨(Moves.screen hc h).synced hs.toSynced, hs.pages, forall_setScreen hs.screens ?_⟩
  refine Screen.sound_iff.mpr fun account ha => (hs.screens k c hc).1 account ?_
  rwa [← Screen.page_session?, ← h.page_eq, Screen.page_session?]

theorem accountsGranted_step {a : DateTime × HostAction} (hs : s.AccountsGranted P)
    (hc : NavFromGranted s a t) (h : step P s a = some t) : t.AccountsGranted P := by
  obtain ⟨now, a⟩ := a
  cases a with
  | app b =>
    obtain ⟨app, happ, hb, rfl⟩ := step_app h
    exact hs.moved happ (hc b rfl) fun hb' => absurd hb' hb
  | alertTile i =>
    obtain ⟨r, c, detail, app, -, -, -, happ, rfl⟩ := step_alertTile h
    exact hs.moved happ (fun icon _ _ hicon => nomatch hicon) fun _ => Option.some_ne_none detail
  | screen tap =>
    obtain ⟨r, c, c', -, hcs, hc', ht⟩ := step_screen h
    have hset := hs.setScreen hcs (Screen.becomes_of_onTap hc')
    rcases ht with rfl | ⟨app, happ, rfl⟩
    · exact hset
    · exact hset.moved happ (fun icon _ _ hicon => nomatch hicon) fun hb => nomatch hb
  | answer k answer =>
    obtain ⟨c, c', hcs, hc', rfl⟩ := step_answer h
    exact hs.setScreen hcs (Screen.becomes_of_onAnswer hc')

/-- The page an icon has opened has a screen, which is opened for the account. -/
theorem Sound.navFromGranted {a : DateTime × HostAction} (hs : s.Synced P)
    (h : step P s a = some t) (ht : t.Sound) : NavFromGranted s a t := by
  rintro b hab icon r account rfl hr hfooter
  obtain ⟨now, a⟩ := a
  obtain rfl : a = .app (.tap (.nav icon)) := hab
  have hsynced : t.Synced P := step_of_moves (fun _ _ hs h => Moves.synced hs h) hs h
  obtain ⟨app, happ, -, rfl⟩ := step_app h
  obtain ⟨r', c, hr', htap, rfl⟩ := App.step_tap happ
  obtain rfl := Option.some.inj (hr'.symm.trans hr)
  obtain ⟨q, hq, hsession⟩ := Page.onTap_nav_footer hfooter htap
  obtain ⟨new, hmem, rfl⟩ := NavCall.opened_mem (App.routes_ne_nil hr') hq
  have hfits := hsynced.tracks.mounted new (List.mem_append_left _ hmem)
  cases hscreen : (s.moved (P.clock now) none { s.app with nav := c.run s.app.nav }).screens new.key with
  | none =>
    rw [hscreen] at hfits
    exact absurd (Page.onTap_nav_hasScreen hfooter htap hq) (by simp [show _ = false from hfits])
  | some screen =>
    rw [hscreen] at hfits
    refine (ht new.key screen hscreen).1 account ?_
    rw [← Screen.page_session?, hfits.1, hsession]

theorem initial_accountsGranted (P : Platform) : initial.AccountsGranted P :=
  ⟨initial_synced P, App.initial_sound, fun _ _ hc => nomatch hc⟩

/-- In a run of the whole app every alerts, push notifications, menu, status and detail
page that was ever opened was opened for a granted account and has asked only for data
of granted accounts, exactly when no icon is tapped on a footer screen whose account was
not granted. -/
theorem screens_sound_throughout (P : Platform) (as : List (DateTime × HostAction)) :
    Runs.Throughout (step P) Sound initial as ↔
      Runs.AtEachStep (step P) NavFromGranted initial as :=
  Runs.throughout_iff (P := Sound) (C := NavFromGranted) (I := AccountsGranted P)
    (fun _ _ _ hs hc h => accountsGranted_step hs hc h) (fun _ hs => hs.screens)
    (fun _ _ _ hs h ht => ht.navFromGranted hs.toSynced h) (initial_accountsGranted P) as

end Host

end SurveilOne
