import SurveilOne.App.Details
import SurveilOne.App.Loading
import SurveilOne.App.Sent
import SurveilOne.MenuLoading
import SurveilOne.Status.Requested

/-!
# Where the products asked for come from

A status page is opened by the tile of a product, which is there because an answer to
the menu listed the product, and from there on it asks for what its own answers list.
So every request for a status has an answer behind it that listed the product to the
same account.  The page with the answer may be closed by then.
-/

namespace SurveilOne

open Dart Flutter

namespace Screen

/-- An answer to the screen listed the product to the account. -/
def ListedTo (account : Account) (code : Text) : Screen → Prop
  | menu account' live => account' = account ∧
      ∃ i o, (i, Except.ok o) ∈ live.answered ∧ code ∈ GraphQLService.getProducts o
  | productStatus _ account' live => account' = account ∧ ProductStatusPage.Listed live code
  | _ => False

variable {P : Platform} {rows : AlertSource → List AlertRow} {account : Account} {code : Text}
  {c c' : Screen}

theorem ListedTo.becomes (hc : c.ListedTo account code) (h : Becomes P rows c c') :
    c'.ListedTo account code := by
  cases h with
  | alerts he h => exact hc
  | menu he h =>
    obtain ⟨rfl, i, o, hmem, hcode⟩ := hc
    exact ⟨rfl, i, o, PageCode.step_answered h hmem, hcode⟩
  | productStatus he h =>
    obtain ⟨rfl, i, o, hmem, hcode⟩ := hc
    exact ⟨rfl, i, o, PageCode.step_answered h hmem, hcode⟩
  | messageDetail he h => exact hc

theorem ListedTo.disposed (hc : c.ListedTo account code) : c.disposed.ListedTo account code := by
  cases c <;> exact hc

end Screen

/-! ## The tile of a product -/

namespace MenuPage

theorem mem_of_tile {codes : List Text} {code title icon : Text}
    (h : .product code title icon ∈ buildProductTiles codes) : code ∈ codes := by
  rw [buildProductTiles] at h
  split at h
  · cases List.mem_singleton.mp h
  · obtain ⟨code', hcode', hentry⟩ := List.mem_filterMap.mp h
    obtain ⟨entry, -, htile⟩ := Option.map_eq_some_iff.mp hentry
    cases htile
    exact hcode'

theorem listed_of_mem_lastListed {answers : List (Nat × Except Thrown HttpOutcome)} {code : Text}
    (h : code ∈ lastListed answers) :
    ∃ i o, (i, .ok o) ∈ answers ∧ code ∈ GraphQLService.getProducts o := by
  have hlast : ∀ lists : List (List Text), code ∈ lists.getLastD [] → ∃ codes ∈ lists, code ∈ codes := by
    intro lists hcode
    cases hl : lists.getLast? with
    | none =>
      rw [List.getLastD_eq_getLast?, hl] at hcode
      cases hcode
    | some codes =>
      rw [List.getLastD_eq_getLast?, hl] at hcode
      exact ⟨codes, List.mem_of_getLast? hl, hcode⟩
  obtain ⟨codes, hmem, hcode⟩ := hlast _ h
  obtain ⟨⟨i, r⟩, hr, hcodes⟩ := List.mem_filterMap.mp hmem
  cases r with
  | ok o =>
    cases hcodes
    exact ⟨i, o, hr, hcode⟩
  | error e => cases hcodes

end MenuPage

theorem Screen.mem_of_menuShows {s : MenuFields} {code : Text}
    (h : Screen.menuShows s (.productTile code) = true) : code ∈ s.licensedProductCodes := by
  rw [Screen.menuShows] at h
  obtain ⟨tile, htile, hcode⟩ := List.any_eq_true.mp (Bool.and_eq_true_iff.mp h).2
  cases tile with
  | note text => cases hcode
  | product code' title icon =>
    obtain rfl : code' = code := of_decide_eq_true hcode
    exact MenuPage.mem_of_tile htile

/-- Only the tile of a product opens a status page, and it is on the menu. -/
theorem Page.onTap_productStatus {K : Casing} {p : Page} {t : Tap} {c : NavCall} {code : Text}
    {account : Account} (h : p.onTap K t = some c)
    (hq : c.opened = some (.productStatusPage code account)) :
    p = .menuPage account ∧ t = .productTile code := by
  have hbar : ∀ {account' showNavBar icon}, footerNavBar account' showNavBar icon = some c → False := by
    intro account' showNavBar icon hbar
    unfold footerNavBar at hbar
    split at hbar
    · cases icon <;> cases hbar <;> cases hq
    · cases hbar
  cases t with
  | nav icon =>
    cases p with
    | privacyScreen account' showNavBar => exact (hbar h).elim
    | legalScreen account' showNavBar => exact (hbar h).elim
    | acknowledgementsScreen account' showNavBar => exact (hbar h).elim
    | _ => cases icon <;> cases h <;> cases hq
  | footer link => cases p <;> cases link <;> cases h <;> cases hq
  | productTile code' =>
    cases p with
    | menuPage account' =>
      obtain ⟨entry, -, rfl⟩ := Option.map_eq_some_iff.mp h
      cases hq
      exact ⟨rfl, rfl⟩
    | _ => cases h
  | _ => cases p <;> cases h <;> cases hq

/-! ## Runs of the app -/

namespace Host

variable {P : Platform} {s t : Host}

/-- An answer that some screen of the account has had listed the product. -/
def Licensed (s : Host) (account : Account) (code : Text) : Prop :=
  ∃ k c, s.screens k = some c ∧ c.ListedTo account code

/-- Every status page was opened for a product the account has. -/
structure OpenedLicensed (P : Platform) (s : Host) : Prop extends Paged P s where
  opened : ∀ k code account live, s.screens k = some (.productStatus code account live) →
    s.Licensed account code

theorem Licensed.moved {b : Action} {app : App} {account : Account} {code : Text}
    (h : s.Licensed account code) (hs : s.Paged P) (happ : App.step P.casing s.app b = some app)
    (clock : Clock) (detail : Option (AlertSource × Nat)) :
    (s.moved clock detail app).Licensed account code := by
  obtain ⟨k, c, hc, hlisted⟩ := h
  rcases (App.step_evolves_detail hs.wellKeyed happ).mount_given (hs.given k c hc) hc with hm | hm
  · exact ⟨k, c, hm, hlisted⟩
  · exact ⟨k, c.disposed, hm, hlisted.disposed⟩

theorem Licensed.setScreen {k : Nat} {c c' : Screen} {account : Account} {code : Text}
    (h : s.Licensed account code) (hc : s.screens k = some c) (hstep : c.Becomes P s.rows c') :
    (s.setScreen k c').Licensed account code := by
  obtain ⟨j, d, hd, hlisted⟩ := h
  by_cases hj : j = k
  · subst hj
    obtain rfl := Option.some.inj (hc.symm.trans hd)
    exact ⟨j, c', Function.update_self .., hlisted.becomes hstep⟩
  · exact ⟨j, d, (Function.update_of_ne hj _ _).trans hd, hlisted⟩

/-- A product whose tile is on the topmost menu was listed to the account of it. -/
theorem Running.licensed_of_offers (hs : s.Running P) {r : Route Page} {account : Account}
    {code : Text} (hr : s.app.top? = some r) (hpage : r.page = .menuPage account)
    (hoffers : s.offers P (.tap (.productTile code)) = true) : s.Licensed account code := by
  have hfits := hs.tracks.mounted r (App.top?_mounted hr)
  rw [hpage] at hfits
  cases hc : s.screens r.key with
  | none =>
    rw [hc] at hfits
    cases hfits
  | some c =>
    rw [hc] at hfits
    obtain ⟨hcpage, hm⟩ := hfits
    obtain ⟨live, rfl⟩ : ∃ live, c = .menu account live := by
      cases c with
      | menu account' live => cases hcpage; exact ⟨live, rfl⟩
      | alerts file account' live => cases file <;> cases hcpage
      | _ => cases hcpage
    have htop : s.topScreen? = some (r.key, .menu account live) := by
      rw [topScreen?, hr, Option.bind_some, hc]
      rfl
    rw [offers, htop] at hoffers
    have hcode := Screen.mem_of_menuShows hoffers
    have hshows := Runs.Reachable.of_throughout MenuPage.showsLast_throughout (hs.reached r.key _ hc) hm
    rw [hshows.codes] at hcode
    exact ⟨r.key, _, hc, rfl, MenuPage.listed_of_mem_lastListed hcode⟩

theorem OpenedLicensed.moved {now : DateTime} {detail : Option (AlertSource × Nat)} {b : Action}
    {app : App} (hs : s.OpenedLicensed P) (h : App.step P.casing s.app b = some app)
    (hb : b = .tap .alert → detail ≠ none)
    (hdetail : ∀ d, detail = some d → s.Steady d.1 ∧ d.2 < (s.rows d.1).length)
    (hoffers : ∀ code, b = .tap (.productTile code) → s.offers P b = true) :
    (s.moved (P.clock now) detail app).OpenedLicensed P := by
  refine ⟨hs.toPaged.moved h hb hdetail, fun k code account live hc => ?_⟩
  suffices hlisted : s.Licensed account code from hlisted.moved hs.toPaged h _ _
  have hnew : Navigator.Evolves Page.view
      (fun p => ∀ code account, p = .productStatusPage code account → s.Licensed account code)
      s.app.nav app.nav := by
    refine App.step_evolves hs.wellKeyed h (fun _ _ _ _ hp => nomatch hp) ?_
    rintro tap r c q rfl hr htap hq code account rfl
    obtain ⟨hpage, rfl⟩ := Page.onTap_productStatus htap hq
    exact hs.toRunning.licensed_of_offers hr hpage (hoffers code rfl)
  rcases Navigator.mount_cases hc with hold | ⟨r, hn, hm, hopened⟩ | ⟨r, c', -, hc', hdisposed⟩
  · exact hs.opened k code account live hold
  · refine hnew.new_of_find? hn hm code account ?_
    cases hpage : r.page with
    | productStatusPage code' account' =>
      rw [hpage] at hopened
      cases hopened
      rfl
    | messageDetailPage siteName =>
      rw [hpage] at hopened
      obtain ⟨d, -, hd⟩ := Option.map_eq_some_iff.mp hopened
      cases hd
    | _ => rw [hpage] at hopened; cases hopened
  · cases c' with
    | productStatus code' account' live' =>
      cases hdisposed
      exact hs.opened k code account live' hc'
    | _ => cases hdisposed

theorem OpenedLicensed.setScreen {k : Nat} {c c' : Screen} (hs : s.OpenedLicensed P)
    (hc : s.screens k = some c) (h : c.Becomes P s.rows c') :
    (s.setScreen k c').OpenedLicensed P := by
  refine ⟨(Moves.screen hc h).paged hs.toPaged, fun j code account live hlive => ?_⟩
  suffices hlisted : s.Licensed account code from hlisted.setScreen hc h
  refine forall_setScreen (k := k) (c := c') (s := s)
    (Q := fun _ d => ∀ live, d = .productStatus code account live → s.Licensed account code)
    (fun j d hd live hlive => hs.opened j code account live (hlive ▸ hd)) ?_ j _ hlive live rfl
  rintro live rfl
  cases h with
  | productStatus he hstep => exact hs.opened k code account _ hc

theorem openedLicensed_step {a : DateTime × HostAction} (hs : s.OpenedLicensed P)
    (h : step P s a = some t) : t.OpenedLicensed P := by
  obtain ⟨now, a⟩ := a
  cases a with
  | app b =>
    have hoffers := step_app_offers h
    obtain ⟨app, happ, hb, rfl⟩ := step_app h
    exact hs.moved happ (fun hb' => absurd hb' hb) (fun _ hd => nomatch hd) fun _ _ => hoffers
  | alertTile i =>
    obtain ⟨r, c, detail, app, -, hc, htile, happ, rfl⟩ := step_alertTile h
    refine hs.moved happ (fun _ => Option.some_ne_none _) (fun d hd => ?_) fun _ hb => nomatch hb
    cases hd
    exact hs.toRunning.tile_inRange hc htile
  | screen tap =>
    obtain ⟨r, c, c', -, hc, hc', ht⟩ := step_screen h
    have hset := hs.setScreen hc (Screen.becomes_of_onTap hc')
    rcases ht with rfl | ⟨app, happ, rfl⟩
    · exact hset
    · exact hset.moved happ (fun hb => nomatch hb) (fun _ hd => nomatch hd) fun _ hb => nomatch hb
  | answer k answer =>
    obtain ⟨c, c', hc, hc', rfl⟩ := step_answer h
    exact hs.setScreen hc (Screen.becomes_of_onAnswer hc')

theorem initial_openedLicensed (P : Platform) : initial.OpenedLicensed P :=
  ⟨initial_paged P, fun _ _ _ _ hc => nomatch hc⟩

/-- Behind a request for the status of a product is an answer that listed it to the
same account. -/
def AsksLicensed (s : Host) : Prop :=
  ∀ k c siteName partyId code, s.screens k = some c →
    ServiceCall.getProductStatus siteName partyId code ∈ c.calls →
      ∃ account, c.account? = some account ∧ account.siteName = siteName ∧
        account.partyId = partyId ∧ s.Licensed account code

theorem OpenedLicensed.asksLicensed (hs : s.OpenedLicensed P) : s.AsksLicensed := by
  intro k c siteName partyId code hc hcall
  cases c with
  | alerts file account live =>
    obtain ⟨op, -, hop⟩ := List.mem_filterMap.mp hcall
    cases op <;> cases hop
  | menu account live =>
    obtain ⟨op, -, hop⟩ := List.mem_map.mp hcall
    cases op
    cases hop
  | productStatus productCode account live =>
    obtain ⟨op, hmem, hop⟩ := List.mem_filterMap.mp hcall
    cases op with
    | status code' chained =>
      cases hop
      refine ⟨account, rfl, rfl, rfl, ?_⟩
      have hasks := ProductStatusPage.asksKnown_of_reachable (hs.reached k _ hc)
      rcases hasks.asked code chained hmem with rfl | hlisted
      · exact hs.opened k code account live hc
      · exact ⟨k, _, hc, rfl, hlisted⟩
    | _ => cases hop
  | messageDetail siteName' source live => cases hcall

/-- In every run of the whole app, every request any page ever made for the status of
a product has an answer behind it that listed the product to the same account. -/
theorem asksLicensed_throughout (P : Platform) (as : List (DateTime × HostAction)) :
    Runs.Throughout (step P) AsksLicensed initial as :=
  Runs.throughout_of_step (I := OpenedLicensed P) (fun _ _ _ => openedLicensed_step)
    (fun _ hs => hs.asksLicensed) (initial_openedLicensed P) as

end Host

end SurveilOne
