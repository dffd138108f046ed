import SurveilOne.App.Mounted

/-!
# Answers to pages that were left

Which answers a page may still be given after it was disposed is a matter of each
page (`setState_after_dispose`).  When a page is disposed is a matter of the stack.
Here the two are put together for the pages that have a screen, in runs of the whole
app.
-/

namespace SurveilOne

open Dart Flutter

def AlertsFile.Quiet : AlertsFile → AlertsOp → AlertsAnswer → Prop
  | alerts => AlertsPage.Quiet
  | pushNotifications => fun _ _ => True

theorem AlertsFile.page_quietIff (f : AlertsFile) (clock : Clock) (siteName : Text) :
    (f.page clock siteName).QuietIff f.Quiet := by
  cases f with
  | alerts => exact AlertsPage.page_quietIff clock siteName
  | pushNotifications => exact PushNotificationsPage.page_quietIff clock siteName

namespace Screen

/-- Never a `setState` on the disposed `State`. -/
def InTime : Screen → Prop
  | alerts _ _ live => live.InTime
  | menu _ live => live.InTime
  | productStatus _ _ live => live.InTime
  | messageDetail _ _ live => live.InTime

/-- The continuation of the answer calls `setState` nowhere once the page has been
disposed. -/
def Quiet : Screen → ScreenAnswer → Prop
  | alerts file _ live, .alerts i a => ∀ op, live.started[i]? = some op → file.Quiet op a
  | productStatus _ _ live, .productStatus i a => ∀ op, live.started[i]? = some op → op.Quiet a
  | _, _ => True

variable {clock : Clock} {rows : AlertSource → List AlertRow} {c c' : Screen}

theorem opened_inTime {detail : Option (AlertSource × Nat)} {p : Page}
    (h : opened clock detail p = some c) : c.InTime := by
  cases p with
  | alertsPage account =>
    cases h
    exact PageCode.opened_inTime (AlertsPage.page_timely clock account.siteName)
  | pushNotificationsPage account =>
    cases h
    exact PageCode.opened_inTime (PushNotificationsPage.page_timely clock account.siteName)
  | menuPage account =>
    cases h
    exact PageCode.opened_inTime MenuPage.page_timely
  | productStatusPage productCode account =>
    cases h
    exact PageCode.opened_inTime (StatusFile.productStatus.page_timely productCode)
  | messageDetailPage siteName =>
    obtain ⟨d, -, rfl⟩ := Option.map_eq_some_iff.mp h
    exact PageCode.opened_inTime (MessageDetailPage.page_timely [] d.2)
  | _ => cases h

theorem InTime.disposed (h : c.InTime) : c.disposed.InTime := by
  cases c <;> exact h

theorem InTime.onTap {t : ScreenTap} (hc : c.InTime) (h : c.onTap clock rows t = some c') :
    c'.InTime := by
  cases c with
  | alerts file account live =>
    cases t with
    | alerts t =>
      obtain ⟨live', hstep, rfl⟩ := Option.map_eq_some_iff.mp h
      exact (PageCode.inTime_step_iff (file.page_timely _ _) (file.page_quietIff _ _) hc hstep).mpr
        fun _ _ _ he => nomatch he
    | _ => cases h
  | menu account live =>
    cases t with
    | menu t =>
      obtain ⟨live', hstep, rfl⟩ := Option.map_eq_some_iff.mp h
      exact (PageCode.inTime_step_iff MenuPage.page_timely MenuPage.page_quietIff hc hstep).mpr
        fun _ _ _ he => nomatch he
    | _ => cases h
  | productStatus productCode account live =>
    cases t with
    | productStatus t =>
      obtain ⟨live', hstep, rfl⟩ := Option.map_eq_some_iff.mp h
      exact (PageCode.inTime_step_iff (StatusFile.productStatus.page_timely _)
        (StatusFile.productStatus.page_quietIff _) hc hstep).mpr fun _ _ _ he => nomatch he
    | _ => cases h
  | messageDetail siteName source live =>
    cases t with
    | messageDetail t =>
      obtain ⟨live', hstep, rfl⟩ := Option.map_eq_some_iff.mp h
      obtain ⟨hm, hdl, hhdl, rfl⟩ := PageCode.step_tap hstep
      show Live.InTime _
      rw [Live.InTime, Live.settle_frame,
        ((MessageDetailPage.page_timely _ 0).onTap t _ hdl hhdl).inTime live.frame hm]
      exact hc
    | _ => cases h

/-- An answer keeps the screen in time exactly when the screen is mounted or the
answer is quiet. -/
theorem InTime.onAnswer_iff {a : ScreenAnswer} (hc : c.InTime) (h : c.onAnswer clock a = some c') :
    c'.InTime ↔ (c.mounted = false → c.Quiet a) := by
  cases c with
  | alerts file account live =>
    cases a with
    | alerts i a =>
      obtain ⟨live', hstep, rfl⟩ := Option.map_eq_some_iff.mp h
      refine (PageCode.inTime_step_iff (file.page_timely _ _) (file.page_quietIff _ _) hc hstep).trans
        ⟨fun hq hm op hop => hq i a op rfl hop hm, fun hq j b op he hop hm => ?_⟩
      cases he
      exact hq hm op hop
    | _ => cases h
  | menu account live =>
    cases a with
    | menu i r =>
      obtain ⟨live', hstep, rfl⟩ := Option.map_eq_some_iff.mp h
      exact (PageCode.inTime_step_iff MenuPage.page_timely MenuPage.page_quietIff hc hstep).trans
        (iff_of_true (fun _ _ _ _ _ _ => trivial) fun _ => trivial)
    | _ => cases h
  | productStatus productCode account live =>
    cases a with
    | productStatus i a =>
      obtain ⟨live', hstep, rfl⟩ := Option.map_eq_some_iff.mp h
      refine (PageCode.inTime_step_iff (StatusFile.productStatus.page_timely _)
        (StatusFile.productStatus.page_quietIff _) hc hstep).trans
        ⟨fun hq hm op hop => hq i a op rfl hop hm, fun hq j b op he hop hm => ?_⟩
      cases he
      exact hq hm op hop
    | _ => cases h
  | messageDetail siteName source live => cases a <;> cases h

end Screen

namespace Host

variable {P : Platform} {s t : Host}

def InTime (s : Host) : Prop := ∀ k c, s.screens k = some c → c.InTime

/-- An answer reaches a page while its route is mounted, or it is a quiet one. -/
def AnsweredInTime (s : Host) (a : DateTime × HostAction) (_ : Host) : Prop :=
  ∀ k answer c, a.2 = .answer k answer → s.screens k = some c →
    (¬ ∃ r ∈ s.app.nav.mountedRoutes, r.key = k) → c.Quiet answer

theorem InTime.moved (hs : s.InTime) (clock : Clock) (detail : Option (AlertSource × Nat))
    (app : App) : (s.moved clock detail app).InTime := by
  intro k c hc
  rcases Navigator.mount_cases hc with hold | ⟨r, -, -, hopened⟩ | ⟨r, c', -, hc', rfl⟩
  · exact hs k c hold
  · exact Screen.opened_inTime hopened
  · exact (hs k c' hc').disposed

theorem inTime_step_iff {a : DateTime × HostAction} (hr : s.Running P) (hs : s.InTime)
    (h : step P s a = some t) : t.InTime ↔ AnsweredInTime s a t := by
  obtain ⟨now, a⟩ := a
  cases a with
  | app b =>
    obtain ⟨app, -, -, rfl⟩ := step_app h
    exact iff_of_true (hs.moved _ _ _) fun _ _ _ ha => nomatch ha
  | alertTile i =>
    obtain ⟨r, c, detail, app, -, -, -, -, rfl⟩ := step_alertTile h
    exact iff_of_true (hs.moved _ _ _) fun _ _ _ ha => nomatch ha
  | screen tap =>
    obtain ⟨r, c, c', -, hc, hc', ht⟩ := step_screen h
    have hset : (s.setScreen r.key c').InTime := forall_setScreen hs ((hs _ c hc).onTap hc')
    refine iff_of_true ?_ fun _ _ _ ha => nomatch ha
    rcases ht with rfl | ⟨app, -, rfl⟩
    · exact hset
    · exact hset.moved _ _ _
  | answer k answer =>
    obtain ⟨c, c', hc, hc', rfl⟩ := step_answer h
    have hiff := (hs k c hc).onAnswer_iff hc'
    have halive := hr.tracks.alive_iff (fun _ _ hfits => hfits.2) hc
    constructor
    · intro ht j answer' d ha hd hgone
      cases ha
      obtain rfl := Option.some.inj (hc.symm.trans hd)
      have hin : c'.InTime := ht k c' (Function.update_self ..)
      exact hiff.mp hin (by simpa using mt halive.mp hgone)
    · intro hq
      refine forall_setScreen hs (hiff.mpr fun hm => hq k answer c rfl hc fun hmounted => ?_)
      rw [halive.mpr hmounted] at hm
      cases hm

/-- In a run of the whole app no alerts, push notifications, menu, status or detail page
calls `setState` after it was disposed exactly when every answer to one of them whose
route is gone is a quiet one. -/
theorem inTime_throughout (P : Platform) (as : List (DateTime × HostAction)) :
    Runs.Throughout (step P) InTime initial as ↔
      Runs.AtEachStep (step P) AnsweredInTime initial as :=
  Runs.throughout_iff (P := InTime) (C := AnsweredInTime) (I := fun s => s.Running P ∧ s.InTime)
    (fun _ _ _ hs hc h => ⟨running_step hs.1 h, (inTime_step_iff hs.1 hs.2 h).mpr hc⟩)
    (fun _ hs => hs.2) (fun _ _ _ hs h ht => (inTime_step_iff hs.1 hs.2 h).mp ht)
    ⟨initial_running P, fun _ _ hc => nomatch hc⟩ as

end Host

end SurveilOne
