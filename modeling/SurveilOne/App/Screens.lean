import SurveilOne.Alerts.Sorted
import SurveilOne.App.Pages
import SurveilOne.MessageDetail
import SurveilOne.Requests

/-!
# The pages of the app as they run

A `Screen` is a page that does more than navigate, with its `State`: the pages of
alerts, of the menu and of a product's status, and the detail page.  `Page` and
`Screen` meet in `Screen.page`, and `Screen.opened` is the screen a page starts as.

`Screen.Becomes` is a step a screen takes by itself, and `Screen.Reached` holds of a
screen that runs of its page alone lead to.
-/

namespace SurveilOne

open Dart Flutter

/-- What the app is given from outside. -/
structure Platform where
  casing : Casing
  uri : UriSyntax
  parse : Text → Option DateTime

def Platform.clock (P : Platform) (now : DateTime) : Clock := { parse := P.parse, now := now }

/-- The list a detail page was given: the one of the alerts page under a key, which
that page goes on sorting, or one that no page touches any more. -/
inductive AlertSource where
  | page (key : Nat)
  | copy (rows : List AlertRow)

abbrev MenuLive := Live MenuFields MenuOp (Except Thrown HttpOutcome)

abbrev MenuEvent := Event (Except Thrown HttpOutcome) MenuTap

inductive Screen where
  | alerts (file : AlertsFile) (account : Account) (live : AlertsLive)
  | menu (account : Account) (live : MenuLive)
  | productStatus (productCode : Text) (account : Account) (live : StatusLive)
  | messageDetail (siteName : Text) (source : AlertSource) (live : DetailLive)

/-- A tap that the page itself answers. -/
inductive ScreenTap where
  | alerts (t : AlertsTap)
  | menu (t : MenuTap)
  | productStatus (t : StatusTap)
  | messageDetail (t : DetailTap)

inductive ScreenAnswer where
  | alerts (i : Nat) (a : AlertsAnswer)
  | menu (i : Nat) (r : Except Thrown HttpOutcome)
  | productStatus (i : Nat) (a : StatusAnswer)

/-- The menu under the filter icon is a route of its own. -/
def ScreenTap.opens : ScreenTap → Option Tap
  | .alerts .filterIcon => some .filter
  | _ => none

def AlertsFile.onPage : AlertsFile → Account → Page
  | alerts, account => .alertsPage account
  | pushNotifications, account => .pushNotificationsPage account

/-- The alerts page asks for up to fifty alerts, the push page for as many as there
are by default. -/
def AlertsFile.call (f : AlertsFile) (account : Account) : ServiceCall :=
  .getAlerts account.siteName "2025-07-01T00:00:00Z".toList "2026-08-25T23:59:59Z".toList
    (match f with
    | alerts => 50
    | pushNotifications => 10)

def AlertsOp.call? (f : AlertsFile) (account : Account) : AlertsOp → Option ServiceCall
  | alerts => some (f.call account)
  | filter => none

def MenuOp.call (account : Account) : MenuOp → ServiceCall
  | products => .getProducts account.siteName account.partyId

def StatusOp.call? (account : Account) : StatusOp → Option ServiceCall
  | products => some (.getProducts account.siteName account.partyId)
  | status productCode _ => some (.getProductStatus account.siteName account.partyId productCode)
  | asset _ _ => none
  | amberAsset _ _ => none

namespace Screen

def page : Screen → Page
  | alerts file account _ => file.onPage account
  | menu account _ => .menuPage account
  | productStatus productCode account _ => .productStatusPage productCode account
  | messageDetail siteName _ _ => .messageDetailPage siteName

def mounted : Screen → Bool
  | alerts _ _ live => live.frame.mounted
  | menu _ live => live.frame.mounted
  | productStatus _ _ live => live.frame.mounted
  | messageDetail _ _ live => live.frame.mounted

/-- Every request of the service the screen has made. -/
def calls : Screen → List ServiceCall
  | alerts file account live => live.started.filterMap (·.call? file account)
  | menu account live => live.started.map (·.call account)
  | productStatus _ account live => live.started.filterMap (·.call? account)
  | messageDetail _ _ _ => []

/-- The screen of a page that has just been opened.  A detail page is given a list
and an index. -/
def opened (clock : Clock) (detail : Option (AlertSource × Nat)) : Page → Option Screen
  | .alertsPage account =>
    some (alerts .alerts account (alertsPage clock account.siteName).opened)
  | .pushNotificationsPage account =>
    some (alerts .pushNotifications account (pushNotificationsPage clock account.siteName).opened)
  | .menuPage account => some (menu account menuPage.opened)
  | .productStatusPage productCode account =>
    some (productStatus productCode account (productStatusPage productCode).opened)
  | .messageDetailPage siteName =>
    detail.map fun d => messageDetail siteName d.1 (messageDetailPage [] d.2).opened
  | _ => none

def disposed : Screen → Screen
  | alerts file account live => alerts file account live.disposed
  | menu account live => menu account live.disposed
  | productStatus productCode account live => productStatus productCode account live.disposed
  | messageDetail siteName source live => messageDetail siteName source live.disposed

/-- A tap on the screen.  `rows` are the lists detail pages look at. -/
def onTap (clock : Clock) (rows : AlertSource → List AlertRow) : Screen → ScreenTap → Option Screen
  | alerts file account live, .alerts t =>
    ((file.page clock account.siteName).step live (.tap t)).map (alerts file account)
  | menu account live, .menu t => (menuPage.step live (.tap t)).map (menu account)
  | productStatus productCode account live, .productStatus t =>
    ((productStatusPage productCode).step live (.tap t)).map (productStatus productCode account)
  | messageDetail siteName source live, .messageDetail t =>
    ((messageDetailPage (rows source) 0).step live (.tap t)).map (messageDetail siteName source)
  | _, _ => none

def onAnswer (clock : Clock) : Screen → ScreenAnswer → Option Screen
  | alerts file account live, .alerts i a =>
    ((file.page clock account.siteName).step live (.answer i a)).map (alerts file account)
  | menu account live, .menu i r => (menuPage.step live (.answer i r)).map (menu account)
  | productStatus productCode account live, .productStatus i a =>
    ((productStatusPage productCode).step live (.answer i a)).map (productStatus productCode account)
  | _, _ => none

/-- The list and the index the `i`-th tile of the alerts opens a detail page with.
`key` is the key of the page. -/
def tile (key i : Nat) : Screen → Option (AlertSource × Nat)
  | alerts .alerts _ live =>
    if live.frame.fields.isLoading = false ∧ i < live.frame.fields.alerts.length then
      some (.page key, i)
    else none
  | alerts .pushNotifications _ live =>
    if live.frame.fields.isLoading = false ∧ i < live.frame.fields.alerts.length then
      some (.copy live.frame.fields.alerts, i)
    else none
  | _ => none

/-- The account tile and the tile of a product, which are there once the menu has
loaded. -/
def menuShows (s : MenuFields) : Tap → Bool
  | .accountTile => !s.isLoading
  | .productTile code =>
    !s.isLoading && (MenuPage.buildProductTiles s.licensedProductCodes).any fun tile =>
      match tile with
      | .product code' _ _ => code' = code
      | .note _ => false
  | _ => true

/-- The control is on the screen.  The tiles of alerts and the filter icon are
handled apart, for they do more than navigate. -/
def offers (P : Platform) (rows : AlertSource → List AlertRow) (screen : Option Screen) (t : Tap) :
    Bool :=
  match t, screen with
  | .alert, _ => false
  | .filter, _ => false
  | .image, some (messageDetail siteName source live) =>
    ((rows source)[live.frame.fields]?).any fun row =>
      MessageDetailPage.showsPicture P.uri siteName row.fields
  | t, some (menu _ live) => menuShows live.frame.fields t
  | _, _ => true

/-! ## Steps of a screen -/

/-- A step of the page of a screen that does not dispose it. -/
inductive Becomes (P : Platform) (rows : AlertSource → List AlertRow) : Screen → Screen → Prop where
  | alerts {file : AlertsFile} {account : Account} {live live' : AlertsLive} {now : DateTime}
      {e : AlertsEvent} (he : e ≠ .dispose)
      (h : (file.page (P.clock now) account.siteName).step live e = some live') :
      Becomes P rows (alerts file account live) (alerts file account live')
  | menu {account : Account} {live live' : MenuLive} {e : MenuEvent} (he : e ≠ .dispose)
      (h : menuPage.step live e = some live') :
      Becomes P rows (menu account live) (menu account live')
  | productStatus {productCode : Text} {account : Account} {live live' : StatusLive}
      {e : StatusEvent} (he : e ≠ .dispose)
      (h : (productStatusPage productCode).step live e = some live') :
      Becomes P rows (productStatus productCode account live)
        (productStatus productCode account live')
  | messageDetail {siteName : Text} {source : AlertSource} {live live' : DetailLive}
      {e : DetailEvent} (he : e ≠ .dispose)
      (h : (messageDetailPage (rows source) 0).step live e = some live') :
      Becomes P rows (messageDetail siteName source live) (messageDetail siteName source live')

section Becomes

variable {P : Platform} {rows : AlertSource → List AlertRow} {now : DateTime} {c c' : Screen}

theorem becomes_of_onTap {t : ScreenTap} (h : c.onTap (P.clock now) rows t = some c') :
    Becomes P rows c c' := by
  cases c with
  | alerts file account live =>
    cases t with
    | alerts t =>
      obtain ⟨live', hstep, rfl⟩ := Option.map_eq_some_iff.mp h
      exact .alerts (Event.tap_ne_dispose t) hstep
    | _ => cases h
  | menu account live =>
    cases t with
    | menu t =>
      obtain ⟨live', hstep, rfl⟩ := Option.map_eq_some_iff.mp h
      exact .menu (Event.tap_ne_dispose t) hstep
    | _ => cases h
  | productStatus productCode account live =>
    cases t with
    | productStatus t =>
      obtain ⟨live', hstep, rfl⟩ := Option.map_eq_some_iff.mp h
      exact .productStatus (Event.tap_ne_dispose t) hstep
    | _ => cases h
  | messageDetail siteName source live =>
    cases t with
    | messageDetail t =>
      obtain ⟨live', hstep, rfl⟩ := Option.map_eq_some_iff.mp h
      exact .messageDetail (Event.tap_ne_dispose t) hstep
    | _ => cases h

theorem becomes_of_onAnswer {a : ScreenAnswer} (h : c.onAnswer (P.clock now) a = some c') :
    Becomes P rows c c' := by
  cases c with
  | alerts file account live =>
    cases a with
    | alerts i a =>
      obtain ⟨live', hstep, rfl⟩ := Option.map_eq_some_iff.mp h
      exact .alerts (Event.answer_ne_dispose i _) hstep
    | _ => cases h
  | menu account live =>
    cases a with
    | menu i r =>
      obtain ⟨live', hstep, rfl⟩ := Option.map_eq_some_iff.mp h
      exact .menu (Event.answer_ne_dispose i _) hstep
    | _ => cases h
  | productStatus productCode account live =>
    cases a with
    | productStatus i a =>
      obtain ⟨live', hstep, rfl⟩ := Option.map_eq_some_iff.mp h
      exact .productStatus (Event.answer_ne_dispose i _) hstep
    | _ => cases h
  | messageDetail siteName source live => cases a <;> cases h

theorem Becomes.page_eq (h : Becomes P rows c c') : c'.page = c.page := by
  cases h <;> rfl

theorem Becomes.mounted_eq (h : Becomes P rows c c') : c'.mounted = c.mounted := by
  cases h with
  | alerts he h => exact PageCode.step_mounted (AlertsFile.page_timely _ _ _) he h
  | menu he h => exact PageCode.step_mounted MenuPage.page_timely he h
  | productStatus he h =>
    exact PageCode.step_mounted (StatusFile.productStatus.page_timely _) he h
  | messageDetail he h => exact PageCode.step_mounted (MessageDetailPage.page_timely _ 0) he h

end Becomes

end Screen

end SurveilOne
