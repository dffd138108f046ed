import SurveilOne.Alerts.Rows
import SurveilOne.Login
import SurveilOne.Menu
import SurveilOne.Status.Effects

/-!
# Continuations after a page was disposed

An answer comes whether or not the page that waits for it is still there.  For
each page `Quiet` says which answers may then be handled without calling
`setState`: all of them on the push and menu pages, which look at `mounted`
first, the loading of assets on the status pages, a successful sign-in on the
login page, and no response to the fetch of the alerts page.
-/

namespace SurveilOne

open Dart Flutter Flutter.Handler

namespace AlertsPage

/-- The request itself threw, or the filter menu was closed without a choice. -/
def Quiet : AlertsOp → AlertsAnswer → Prop
  | .alerts, .alerts (.error _) => True
  | .filter, .filter none => True
  | _, _ => False

theorem page_timely (clock : Clock) (siteName : Text) : (alertsPage clock siteName).Timely where
  initState := .pure _
  onTap t s h ht := by
    cases t with
    | filterIcon => cases ht; exact .pure _
    | alertsIcon => cases ht; exact sortAlerts_timely _
  resume op a h hr := by
    cases op with
    | alerts =>
      cases a with
      | alerts r => cases hr; exact fetchAlertsDone_timely clock siteName _
      | filter selected => cases hr
    | filter =>
      cases a with
      | alerts r => cases hr
      | filter selected =>
        cases selected with
        | none => cases hr; exact .pure _
        | some order => cases hr; exact sortAlerts_timely order

theorem page_quietIff (clock : Clock) (siteName : Text) :
    (alertsPage clock siteName).QuietIff Quiet where
  late op a h fr hr hm := by
    cases op with
    | alerts =>
      cases a with
      | alerts r =>
        cases hr
        cases r with
        | ok o => exact PageCode.late_iff_false (fetchAlertsDone_late clock siteName _) hm id
        | error e => exact iff_of_true rfl trivial
      | filter selected => cases hr
    | filter =>
      cases a with
      | alerts r => cases hr
      | filter selected =>
        cases selected with
        | none => cases hr; exact iff_of_true rfl trivial
        | some order => cases hr; exact PageCode.late_iff_false (sortAlerts_late order) hm id

end AlertsPage

namespace PushNotificationsPage

theorem page_timely (clock : Clock) (siteName : Text) :
    (pushNotificationsPage clock siteName).Timely where
  initState := .pure _
  onTap _ _ _ ht := by cases ht
  resume op a h hr := by
    cases op <;> cases a <;> cases hr
    exact loadNotificationsDone_timely clock siteName _

theorem page_quietIff (clock : Clock) (siteName : Text) :
    (pushNotificationsPage clock siteName).QuietIff fun _ _ => True where
  late op a h fr hr hm := by
    cases op <;> cases a <;> cases hr
    exact PageCode.silent_iff_true (loadNotificationsDone_silent clock siteName _) hm trivial

end PushNotificationsPage

namespace MenuPage

theorem page_timely : menuPage.Timely where
  initState := loadLicensedProducts_timely
  onTap t s h ht := by
    cases t
    rw [menuPage] at ht
    simp only at ht
    split at ht
    · cases ht
    · cases ht
      exact loadLicensedProducts_timely
  resume op a h hr := by
    cases op
    cases hr
    exact loadDone_timely _

theorem page_quietIff : menuPage.QuietIff fun _ _ => True where
  late op a h fr hr hm := by
    cases op
    cases hr
    exact PageCode.silent_iff_true (loadDone_silent _) hm trivial

end MenuPage

namespace LoginPage

/-- The answer grants an account. -/
def Quiet : LoginOp → LoginAnswer → Prop
  | .signin req, a => req.grant (a.result.map GraphQLService.signin) ≠ none

theorem page_timely (K : Casing) : (loginPage K).Timely where
  initState := .pure _
  onTap t s h ht := by
    cases t with
    | signIn =>
      rw [loginPage] at ht
      simp only at ht
      split at ht
      · cases ht
      · cases ht
        exact signIn_timely K
    | _ => cases ht; exact .bind (.assign _) fun _ => .pure _
  resume op a h hr := by
    cases op
    cases hr
    exact .bind (signInDone_timely _ _ _) fun _ => .pure _

section Answered

variable (navigation : Except Thrown Unit)

theorem receive_granted_silent {req : SignInRequest} {data : Fields} {account : Account}
    (hnull : Fields.get data "error_code" = .null) (h : accountOf req data = .ok account) :
    (receive navigation req (some data)).Silent := by
  rw [receive, if_pos (Json.isNull_iff.mpr hnull), h]
  refine .bind (.lift _) (.lift _) fun _ => .bind (.assign _) (.assign _) fun _ =>
    .bind .isMounted (fun _ _ => rfl) fun m => ?_
  cases m with
  | true => exact .bind (.lift _) (.lift _) fun _ => .pure _
  | false => exact .pure _

/-- A granted account is put away, and then `mounted` is looked at. -/
theorem signInDone_silent {req : SignInRequest} {r : Except Thrown (Option Fields)}
    {account : Account} (h : req.grant r = some account) : (signInDone navigation req r).Silent := by
  obtain ⟨data, rfl, hnull, haccount⟩ := SignInRequest.grant_eq_some h
  have hbody : (tryCatch (lift (.ok (some data)) >>= fun data => receive navigation req data)
      fun _ => setError "Sign-in failed: $e").Silent := by
    intro fr hm
    have hrun : (lift (.ok (some data)) >>= fun data => receive navigation req data).run fr =
        (receive navigation req (some data)).run fr := run_bind_ok (run_lift _ fr)
    have hsilent := receive_granted_silent navigation hnull haccount fr hm
    have hok : ∃ x fr', (receive navigation req (some data)).run fr = (.ok x, fr') := by
      rw [receive, if_pos (Json.isNull_iff.mpr hnull), haccount, run_bind_ok (run_lift _ fr),
        run_bind_ok (run_assign _ fr), run_bind_ok (run_mounted _)]
      simp only [hm]
      exact ⟨_, _, rfl⟩
    obtain ⟨x, fr', hx⟩ := hok
    rw [run_tryCatch_ok (hrun.trans hx)]
    rw [hx] at hsilent
    exact hsilent
  exact .tryFinally
    (.tryCatch (.bind (.lift _) fun data => receive_timely navigation req data)
      fun _ => setError_timely _)
    hbody (.whenMounted _)

/-- Every other answer leaves a message, mounted or not. -/
theorem signInDone_late {req : SignInRequest} {r : Except Thrown (Option Fields)}
    (h : req.grant r = none) : (signInDone navigation req r).Late := by
  refine .tryFinally_left (.tryCatch_either (fun fr hm => ?_) (fun _ => setError_late _)
    fun _ => setError_timely _) (.whenMounted (.setState _))
  obtain ⟨message, hmessage⟩ := SignInRequest.exists_refusal h navigation
  rcases run_receive_refused h hmessage fr with ⟨herror, -⟩ | ⟨text, -, hset⟩
  · exact Or.inr herror
  · rw [hset]
    exact Or.inl (setError_late _ fr hm)

end Answered

theorem page_quietIff (K : Casing) : (loginPage K).QuietIff Quiet where
  late op a h fr hr hm := by
    cases op with
    | signin req =>
      cases hr
      cases hgrant : req.grant (a.result.map GraphQLService.signin) with
      | none =>
        exact PageCode.late_iff_false
          (.bind_left (signInDone_late _ hgrant) fun _ => .pure _) hm fun hq => hq hgrant
      | some account =>
        refine PageCode.silent_iff_true (.bind (signInDone_timely _ _ _) (signInDone_silent _ hgrant)
          fun _ => .pure _) hm ?_
        rw [Quiet, hgrant]
        exact Option.some_ne_none account

end LoginPage

/-! ## The status pages -/

theorem ProductStatusPage.productsDone_late (pc : Text) (r : Except Thrown (List Text)) :
    (ProductStatusPage.productsDone pc r).Late := by
  cases r <;> exact .bind_right (.assign _) (fun fr => ⟨_, _, rfl⟩) fun _ => fetchStatus_late false

theorem ProductStatusPage.statusDone_late (c : Bool) (r : Except Thrown (Option Fields)) :
    (ProductStatusPage.statusDone c r).Late :=
  .tryCatch_lift (fun _ => .bind_left (.setState _) fun _ => .bind .getFields fun _ => .pure _)
    (fun _ => setStateOnly_late _) fun _ => setStateOnly_timely _

theorem MyProductsPage.productsDone_late (pc : Text) (r : Except Thrown (List Text)) :
    (MyProductsPage.productsDone pc r).Late :=
  .tryCatch_lift (fun _ => .bind_left (.setState _) fun _ => fetchStatus_timely true)
    (fun _ => setStateOnly_late _) fun _ => setStateOnly_timely _

theorem MyProductsPage.fetchStatusDone_late (r : Except Thrown (Option Fields)) :
    (MyProductsPage.fetchStatusDone r).Late := by
  refine .tryCatch_either (fun fr hm => ?_) (fun _ => setStateOnly_late _)
    fun _ => setStateOnly_timely _
  cases r with
  | error e => exact Or.inr ⟨e, run_bind_error (run_lift _ fr)⟩
  | ok resp =>
    rw [run_bind_ok (run_lift _ fr)]
    cases resp with
    | none => exact Or.inl (setStateOnly_late _ fr hm)
    | some resp =>
      rw [receive]
      cases decodeStatuses resp with
      | error e => exact Or.inr ⟨e, run_bind_error (run_lift _ fr)⟩
      | ok statuses =>
        rw [run_bind_ok (run_lift _ fr)]
        exact Or.inl (Late.bind_left (.setState _)
          (fun _ => .bind .getFields fun _ => .pure _) fr hm)

theorem MyProductsPage.statusDone_late (pc : Text) (c : Bool) (r : Except Thrown (Option Fields)) :
    (MyProductsPage.statusDone pc c r).Late := by
  cases c with
  | true => exact .tryCatch_left (fetchStatusDone_late r) fun _ => setStateOnly_timely _
  | false => exact fetchStatusDone_late r

/-- Loading an asset. -/
def StatusOp.Quiet (op : StatusOp) (_ : StatusAnswer) : Prop := op.isRequest = false

theorem assetDone_silent (loaded : Bool) (color : StatusColor) : (assetDone loaded color).Silent := by
  cases loaded with
  | true => exact .pure _
  | false => exact .bind .getFields .getFields fun _ => .pure _

theorem statusPage_quietIff {pc : Text} {productsDone : Except Thrown (List Text) → StatusHandler}
    {statusDone : Bool → Except Thrown (Option Fields) → StatusHandler}
    (hp : ∀ r, (productsDone r).Late) (hs : ∀ c r, (statusDone c r).Late) :
    (statusPage pc productsDone statusDone).QuietIff StatusOp.Quiet where
  late op a h fr hr hm := by
    cases op with
    | products =>
      cases a <;> cases hr
      exact PageCode.late_iff_false (hp _) hm Bool.noConfusion
    | status code chained =>
      cases a <;> cases hr
      exact PageCode.late_iff_false (hs _ _) hm Bool.noConfusion
    | asset code color =>
      cases a <;> cases hr
      exact PageCode.silent_iff_true (assetDone_silent _ color) hm rfl
    | amberAsset code color =>
      cases a <;> cases hr
      exact PageCode.silent_iff_true (.pure _) hm rfl

theorem StatusFile.page_quietIff (f : StatusFile) (pc : Text) :
    (f.page pc).QuietIff StatusOp.Quiet := by
  cases f with
  | productStatus =>
    exact statusPage_quietIff (ProductStatusPage.productsDone_late pc)
      ProductStatusPage.statusDone_late
  | myProducts =>
    exact statusPage_quietIff (MyProductsPage.productsDone_late pc)
      (MyProductsPage.statusDone_late pc)

/-! ## All pages -/

/-- No run of the page has a `setState` after it was disposed. -/
def NeverLate {σ Op Answer Tap : Type} (code : PageCode σ Op Answer Tap) : Prop :=
  ∀ es, Runs.Throughout code.step Live.InTime code.opened es

/-- A run of the page has no `setState` after it was disposed exactly when the
answers after that are quiet ones. -/
def LateExactly {σ Op Answer Tap : Type} (code : PageCode σ Op Answer Tap)
    (Quiet : Op → Answer → Prop) : Prop :=
  ∀ es, Runs.Throughout code.step Live.InTime code.opened es ↔
    Runs.AtEachStep code.step (PageCode.AnsweredInTime Quiet) code.opened es

/-- The push and menu pages never call `setState` after they were disposed.  The
other pages do exactly when an answer that is not quiet comes after that. -/
theorem setState_after_dispose (clock : Clock) (siteName : Text) (K : Casing) :
    NeverLate (pushNotificationsPage clock siteName) ∧ NeverLate menuPage ∧
      LateExactly (alertsPage clock siteName) AlertsPage.Quiet ∧
      LateExactly (loginPage K) LoginPage.Quiet ∧
      ∀ (f : StatusFile) (productCode : Text), LateExactly (f.page productCode) StatusOp.Quiet :=
  ⟨PageCode.inTime_of_quiet (PushNotificationsPage.page_timely clock siteName)
      (PushNotificationsPage.page_quietIff clock siteName) fun _ _ => trivial,
    PageCode.inTime_of_quiet MenuPage.page_timely MenuPage.page_quietIff fun _ _ => trivial,
    PageCode.inTime_iff (AlertsPage.page_timely clock siteName)
      (AlertsPage.page_quietIff clock siteName),
    PageCode.inTime_iff (LoginPage.page_timely K) (LoginPage.page_quietIff K),
    fun f productCode => PageCode.inTime_iff (f.page_timely productCode)
      (f.page_quietIff productCode)⟩

/-- The alerts page is left while its fetch is out, and the fetch then fails. -/
theorem alertsPage_late :
    ¬ ∀ (clock : Clock) (siteName : Text), NeverLate (alertsPage clock siteName) := by
  intro h
  have hlate := Runs.throughout_iff_exec.mp
    (h ⟨fun _ => none, ⟨0⟩⟩ [] [.dispose, .answer 0 (.alerts (.ok (.threw .timeoutException)))])
    _ [] _ (List.append_nil _).symm rfl
  cases hlate

end SurveilOne
