import SurveilOne.Alerts.Rows

/-!
# How the fetch of the alerts ends

Once the fetch has ended on a mounted page, its spinner should be off and it
should have one row for each alert, or none after a failure.  Reading the
elements and their dates is left to the callback of `setState`, so one element
that is no object, or one date out of range, makes the callback throw and leaves
the spinner on.
-/

namespace SurveilOne

open Dart Flutter Flutter.Handler

/-! ## Building the rows -/

section Rows

variable {row : Json → Except Thrown AlertRow}

theorem rowsUntil_ok {alerts : List Json} (h : ∀ e ∈ alerts, ∃ r, row e = .ok r) :
    (rowsUntil row alerts).1 = .ok () ∧
      List.Forall₂ (fun e r => row e = .ok r) alerts (rowsUntil row alerts).2 := by
  induction alerts with
  | nil => exact ⟨rfl, .nil⟩
  | cons e rest ih =>
    obtain ⟨r, hr⟩ := h e (List.mem_cons_self ..)
    obtain ⟨hok, hrows⟩ := ih fun e he => h e (List.mem_cons_of_mem _ he)
    rw [rowsUntil, hr]
    exact ⟨hok, .cons hr hrows⟩

theorem rowsUntil_error {alerts : List Json} {e : Json} (he : e ∈ alerts)
    (h : ¬ ∃ r, row e = .ok r) : ∃ x, (rowsUntil row alerts).1 = .error x := by
  induction alerts with
  | nil => cases he
  | cons e' rest ih =>
    rw [rowsUntil]
    cases hrow : row e' with
    | error x => exact ⟨x, rfl⟩
    | ok r =>
      rcases List.mem_cons.mp he with rfl | he
      · exact absurd ⟨r, hrow⟩ h
      · exact ih he

theorem buildRow_ok_iff (clock : Clock) (siteName : Text)
    (parseDate : Json → Except Thrown (Option DateTime)) (rawImage : Fields → Option Text)
    (e : Json) :
    (∃ r, buildRow clock siteName parseDate rawImage e = .ok r) ↔
      ∃ alert, e = .map alert ∧
        ∃ d, parseDate (Fields.firstOf alert ["created_at", "createdAt"]) = .ok d := by
  simp only [buildRow_eq_ok_iff]
  constructor
  · rintro ⟨r, alert, d, he, hd, -⟩
    exact ⟨alert, he, d, hd⟩
  · rintro ⟨alert, he, d, hd⟩
    exact ⟨_, alert, d, he, hd, rfl⟩

end Rows

/-! ## The dates that can be read -/

/-- The instants `DateTime` can hold, in milliseconds. -/
def DateInRange (ms : Int) : Prop := -8640000000000000 ≤ ms ∧ ms ≤ 8640000000000000

theorem fromMilliseconds_ok_iff (ms : Int) :
    (∃ d, DateTime.fromMillisecondsSinceEpoch ms = .ok d) ↔ DateInRange ms := by
  unfold DateTime.fromMillisecondsSinceEpoch DateInRange
  by_cases h : -8640000000000000 ≤ ms ∧ ms ≤ 8640000000000000
  · rw [if_pos h]
    exact ⟨fun _ => h, fun _ => ⟨_, rfl⟩⟩
  · rw [if_neg h]
    exact ⟨fun ⟨_, hd⟩ => (by cases hd), fun hd => absurd hd h⟩

theorem some_fromMilliseconds_ok_iff (ms : Int) :
    (∃ d, (do
      let d ← DateTime.fromMillisecondsSinceEpoch ms
      .ok (some d) : Except Thrown (Option DateTime)) = .ok d) ↔ DateInRange ms := by
  rw [← fromMilliseconds_ok_iff]
  cases DateTime.fromMillisecondsSinceEpoch ms with
  | ok d => exact ⟨fun _ => ⟨d, rfl⟩, fun _ => ⟨some d, rfl⟩⟩
  | error x => exact ⟨fun ⟨_, hd⟩ => (by cases hd), fun ⟨_, hd⟩ => (by cases hd)⟩

/-- An int in seconds or milliseconds, as the alerts page takes it. -/
def AlertsPage.DateReadable (v : Json) : Prop :=
  ∀ i, v = .int i → DateInRange (if i > 1000000000000 then i else toInt64 (i * 1000))

theorem AlertsPage.dateReadable_int {i : Int} : DateReadable (.int i) ↔
    DateInRange (if i > 1000000000000 then i else toInt64 (i * 1000)) := by
  simp only [DateReadable, Json.int.injEq, forall_eq']

theorem AlertsPage.parseDate_ok_iff (clock : Clock) (v : Json) :
    (∃ d, parseDate clock v = .ok d) ↔ DateReadable v := by
  cases v with
  | int i =>
    rw [parseDate, some_fromMilliseconds_ok_iff, dateReadable_int]
  | string s => exact ⟨fun _ i hi => (by cases hi), fun _ => ⟨_, rfl⟩⟩
  | _ => exact ⟨fun _ i hi => (by cases hi), fun _ => ⟨none, rfl⟩⟩

/-- The push page reads no int below 10⁹ and leaves the range only above it. -/
def PushNotificationsPage.DateReadable (v : Json) : Prop :=
  ∀ i, v = .int i → i ≤ 8640000000000000

theorem PushNotificationsPage.dateReadable_int {i : Int} :
    DateReadable (.int i) ↔ i ≤ 8640000000000000 := by
  simp only [DateReadable, Json.int.injEq, forall_eq']

theorem PushNotificationsPage.parseDate_ok_iff (clock : Clock) (v : Json) :
    (∃ d, parseDate clock v = .ok d) ↔ DateReadable v := by
  cases v with
  | int i =>
    rw [parseDate, dateReadable_int]
    by_cases hms : i > 1000000000000
    · rw [if_pos hms, some_fromMilliseconds_ok_iff, DateInRange]
      omega
    · rw [if_neg hms]
      by_cases hs : i > 1000000000
      · rw [if_pos hs, some_fromMilliseconds_ok_iff, DateInRange,
          toInt64_eq_self (by omega) (by omega)]
        omega
      · rw [if_neg hs]
        exact ⟨fun _ => by omega, fun _ => ⟨none, rfl⟩⟩
  | string s => exact ⟨fun _ i hi => (by cases hi), fun _ => ⟨_, rfl⟩⟩
  | _ => exact ⟨fun _ i hi => (by cases hi), fun _ => ⟨none, rfl⟩⟩

/-! ## The two pages -/

abbrev AlertsLive := Live AlertsFields AlertsOp AlertsAnswer

abbrev AlertsEvent := Event AlertsAnswer AlertsTap

inductive AlertsFile where
  | alerts
  | pushNotifications
  deriving DecidableEq, Repr

namespace AlertsFile

def page : AlertsFile → Clock → Text → PageCode AlertsFields AlertsOp AlertsAnswer AlertsTap
  | alerts => alertsPage
  | pushNotifications => pushNotificationsPage

def row : AlertsFile → Clock → Text → Json → Except Thrown AlertRow
  | alerts => AlertsPage.row
  | pushNotifications => PushNotificationsPage.row

def DateReadable : AlertsFile → Json → Prop
  | alerts => AlertsPage.DateReadable
  | pushNotifications => PushNotificationsPage.DateReadable

/-- The element is an object and its date can be read. -/
def Readable (f : AlertsFile) (e : Json) : Prop :=
  ∃ alert, e = .map alert ∧ f.DateReadable (Fields.firstOf alert ["created_at", "createdAt"])

theorem row_ok_iff (f : AlertsFile) (clock : Clock) (siteName : Text) (e : Json) :
    (∃ r, f.row clock siteName e = .ok r) ↔ f.Readable e := by
  cases f with
  | alerts =>
    refine (buildRow_ok_iff clock siteName _ _ e).trans (exists_congr fun alert => ?_)
    exact and_congr_right fun _ => AlertsPage.parseDate_ok_iff clock _
  | pushNotifications =>
    refine (buildRow_ok_iff clock siteName _ _ e).trans (exists_congr fun alert => ?_)
    exact and_congr_right fun _ => PushNotificationsPage.parseDate_ok_iff clock _

/-- The spinner is off, and there is one row for each alert in their order, or
no row when `getAlerts` reported a failure. -/
def Settled (f : AlertsFile) (clock : Clock) (siteName : Text) (o : HttpOutcome)
    (s : AlertsFields) : Prop :=
  s.isLoading = false ∧
    match GraphQLService.getAlerts o with
    | none => s.alerts = []
    | some l => List.Forall₂ (fun e r => f.row clock siteName e = .ok r) l s.alerts

end AlertsFile

/-- The fields until the fetch is answered. -/
def AlertsFields.empty : AlertsFields := { alerts := [], isLoading := true }

theorem AlertsFile.rowsUntil_ok (f : AlertsFile) (clock : Clock) (siteName : Text) {l : List Json}
    (h : ∀ e ∈ l, f.Readable e) :
    ∃ rows, rowsUntil (f.row clock siteName) l = (.ok (), rows) ∧
      List.Forall₂ (fun e r => f.row clock siteName e = .ok r) l rows := by
  obtain ⟨hok, hrows⟩ := SurveilOne.rowsUntil_ok
    fun e he => (f.row_ok_iff clock siteName e).mpr (h e he)
  exact ⟨_, Prod.ext hok rfl, hrows⟩

theorem AlertsFile.rowsUntil_error (f : AlertsFile) (clock : Clock) (siteName : Text)
    {l : List Json} (h : ¬ ∀ e ∈ l, f.Readable e) :
    ∃ x rows, rowsUntil (f.row clock siteName) l = (.error x, rows) := by
  obtain ⟨e, he, hread⟩ : ∃ e ∈ l, ¬ f.Readable e := by simpa using h
  obtain ⟨x, hx⟩ := SurveilOne.rowsUntil_error he
    fun hr => hread ((f.row_ok_iff clock siteName e).mp hr)
  exact ⟨x, _, Prod.ext hx rfl⟩

theorem AlertsFile.settled_some {f : AlertsFile} {clock : Clock} {siteName : Text}
    {o : HttpOutcome} {l : List Json} (h : GraphQLService.getAlerts o = some l) (s : AlertsFields) :
    f.Settled clock siteName o s ↔ s.isLoading = false ∧
      List.Forall₂ (fun e r => f.row clock siteName e = .ok r) l s.alerts := by
  rw [Settled, h]

theorem AlertsFile.settled_none {f : AlertsFile} {clock : Clock} {siteName : Text}
    {o : HttpOutcome} (h : GraphQLService.getAlerts o = none) (s : AlertsFields) :
    f.Settled clock siteName o s ↔ s.isLoading = false ∧ s.alerts = [] := by
  rw [Settled, h]

section Mounted

variable {fr : Frame AlertsFields} (hm : fr.mounted = true)

include hm

theorem AlertsPage.run_receive (clock : Clock) (siteName : Text) (l : List Json) :
    (receive clock siteName l).run fr =
      match rowsUntil (row clock siteName) l with
      | (.ok _, rows) => (.ok (), { fr with fields := { alerts := rows, isLoading := false } })
      | (.error e, rows) => (.error e, { fr with fields := { fr.fields with alerts := rows } }) := by
  rw [receive, run_setStateThrowing hm]
  rcases rowsUntil (row clock siteName) l with ⟨r, rows⟩
  cases r <;> rfl

theorem PushNotificationsPage.run_receive (clock : Clock) (siteName : Text)
    (result : Option (List Json)) :
    (receive clock siteName result).run fr =
      match rowsUntil (row clock siteName) (result.getD []) with
      | (.ok _, rows) => (.ok (), { fr with fields := { alerts := rows, isLoading := false } })
      | (.error e, _) => (.error e, fr) := by
  rw [receive, run_setStateThrowing hm]
  rcases rowsUntil (row clock siteName) (result.getD []) with ⟨r, rows⟩
  cases r <;> rfl

variable (hf : fr.fields = .empty)

include hf

theorem AlertsPage.answered_iff (clock : Clock) (siteName : Text) (o : HttpOutcome) :
    AlertsFile.alerts.Settled clock siteName o
        ((fetchAlertsDone clock siteName (.ok (GraphQLService.getAlerts o))).run fr).2.fields ↔
      ∀ l, GraphQLService.getAlerts o = some l → ∀ e ∈ l, AlertsFile.alerts.Readable e := by
  rw [fetchAlertsDone, run_bind_ok (run_lift _ fr)]
  cases ho : GraphQLService.getAlerts o with
  | none =>
    rw [AlertsFile.settled_none ho, run_bind_ok (run_setState hm _), hf]
    exact ⟨fun _ l h => (by cases h), fun _ => ⟨rfl, rfl⟩⟩
  | some l =>
    rw [AlertsFile.settled_some ho]
    simp only [Option.some.injEq, forall_eq']
    cases l with
    | nil =>
      rw [run_bind_ok (run_setState hm _), hf]
      exact ⟨fun _ e he => (by cases he), fun _ => ⟨rfl, .nil⟩⟩
    | cons first rest =>
      have hrun := run_receive hm clock siteName (first :: rest)
      by_cases h : ∀ e ∈ first :: rest, AlertsFile.alerts.Readable e
      · obtain ⟨rows, hrows, hall⟩ := AlertsFile.alerts.rowsUntil_ok clock siteName h
        simp only [AlertsFile.row] at hrows
        rw [hrows] at hrun
        rw [run_bind_ok hrun]
        exact ⟨fun _ => h, fun _ => ⟨rfl, hall⟩⟩
      · obtain ⟨x, rows, hrows⟩ := AlertsFile.alerts.rowsUntil_error clock siteName h
        simp only [AlertsFile.row] at hrows
        rw [hrows] at hrun
        -- The spinner stays on.
        rw [run_bind_error hrun, hf]
        exact ⟨fun hs => (by cases hs.1), fun hs => absurd hs h⟩

theorem PushNotificationsPage.answered_iff (clock : Clock) (siteName : Text) (o : HttpOutcome) :
    AlertsFile.pushNotifications.Settled clock siteName o
        ((loadNotificationsDone clock siteName
          (.ok (GraphQLService.getAlerts o))).run fr).2.fields ↔
      ∀ l, GraphQLService.getAlerts o = some l →
        ∀ e ∈ l, AlertsFile.pushNotifications.Readable e := by
  have hrun := run_receive hm clock siteName (GraphQLService.getAlerts o)
  rw [← run_whenMounted hm] at hrun
  rw [loadNotificationsDone, run_bind_ok (run_lift _ fr)]
  cases ho : GraphQLService.getAlerts o with
  | none =>
    rw [ho] at hrun
    rw [AlertsFile.settled_none ho, run_bind_ok hrun]
    exact ⟨fun _ l h => (by cases h), fun _ => ⟨rfl, rfl⟩⟩
  | some l =>
    rw [ho, Option.getD_some] at hrun
    rw [AlertsFile.settled_some ho]
    simp only [Option.some.injEq, forall_eq']
    by_cases h : ∀ e ∈ l, AlertsFile.pushNotifications.Readable e
    · obtain ⟨rows, hrows, hall⟩ := AlertsFile.pushNotifications.rowsUntil_ok clock siteName h
      simp only [AlertsFile.row] at hrows
      rw [hrows] at hrun
      rw [run_bind_ok hrun]
      exact ⟨fun _ => h, fun _ => ⟨rfl, hall⟩⟩
    · obtain ⟨x, rows, hrows⟩ := AlertsFile.pushNotifications.rowsUntil_error clock siteName h
      simp only [AlertsFile.row] at hrows
      rw [hrows] at hrun
      rw [run_bind_error hrun, hf]
      exact ⟨fun hs => (by cases hs.1), fun hs => absurd hs h⟩

end Mounted

/-! ## Runs of the pages -/

/-- Until the fetch is answered the page has nothing, whatever is tapped. -/
structure Waiting (s : AlertsLive) : Prop where
  first : s.started[0]? = some .alerts
  rest : ∀ i op, 0 < i → s.started[i]? = some op → op = .filter
  fields : 0 ∈ s.outstanding → s.frame.fields = .empty

theorem Waiting.settle {s : AlertsLive} (h : Waiting s)
    {r : Except Thrown (List AlertsOp) × Frame AlertsFields}
    (hops : ∀ ops, r.1 = .ok ops → ∀ op ∈ ops, op = .filter)
    (hf : 0 ∈ s.outstanding → r.2.fields = .empty) : Waiting (s.settle r) := by
  have hlen : 0 < s.started.length := (List.getElem?_eq_some_iff.mp h.first).1
  have hfields : 0 ∈ (s.settle r).outstanding → (s.settle r).frame.fields = .empty := by
    intro h0
    rw [Live.settle_frame]
    exact hf (Live.mem_of_mem_settle hlen h0)
  obtain ⟨r, fr⟩ := r
  cases r with
  | error e => exact ⟨h.first, h.rest, hfields⟩
  | ok ops =>
    refine ⟨Live.settle_getElem? h.first, fun i op hi hop => ?_, hfields⟩
    rw [Live.settle_ok_started] at hop
    rcases Nat.lt_or_ge i s.started.length with hlt | hge
    · rw [List.getElem?_append_left hlt] at hop
      exact h.rest i op hi hop
    · rw [List.getElem?_append_right hge] at hop
      exact hops ops rfl op (List.mem_of_getElem? hop)

theorem Waiting.close {s : AlertsLive} (h : Waiting s) (i : Nat) (a : AlertsAnswer) :
    Waiting (s.close i a) :=
  ⟨h.first, h.rest, fun h0 => h.fields (Live.mem_close_outstanding.mp h0).1⟩

theorem AlertsPage.sortAlerts_empty (order : Text) {fr : Frame AlertsFields}
    (hf : fr.fields = .empty) : ((sortAlerts order).run fr).2.fields = .empty := by
  cases hm : fr.mounted with
  | true =>
    rw [sortAlerts, run_bind_ok (run_setState hm _), hf]
    show ({ alerts := List.mergeSort [] _, isLoading := true } : AlertsFields) = .empty
    rw [List.mergeSort_nil]
    rfl
  | false =>
    rw [sortAlerts, run_bind_error (run_setState_late hm _)]
    exact hf

/-- A sequence that ends in an empty list of operations starts none. -/
theorem ops_bind_nil {α : Type} {x : Handler AlertsFields α} {fr : Frame AlertsFields}
    {ops : List AlertsOp} (h : ((x >>= fun _ => (pure [] : AlertsHandler)).run fr).1 = .ok ops) :
    ops = [] := by
  obtain ⟨a, fr', -, hops⟩ := result_bind_ok h
  exact (Except.ok.inj hops).symm

theorem AlertsPage.fetchAlertsDone_ops {clock : Clock} {siteName : Text}
    {r : Except Thrown (Option (List Json))} {fr : Frame AlertsFields} {ops : List AlertsOp}
    (h : ((fetchAlertsDone clock siteName r).run fr).1 = .ok ops) : ops = [] := by
  obtain ⟨newAlerts, fr', -, hops⟩ := result_bind_ok h
  split at hops <;> exact ops_bind_nil hops

theorem PushNotificationsPage.loadNotificationsDone_ops {clock : Clock} {siteName : Text}
    {r : Except Thrown (Option (List Json))} {fr : Frame AlertsFields} {ops : List AlertsOp}
    (h : ((loadNotificationsDone clock siteName r).run fr).1 = .ok ops) : ops = [] := by
  obtain ⟨result, fr', -, hops⟩ := result_bind_ok h
  exact ops_bind_nil hops

namespace AlertsFile

variable {clock : Clock} {siteName : Text}

theorem waiting_opened (f : AlertsFile) : Waiting (f.page clock siteName).opened := by
  have hrest : ∀ i op, 0 < i → [AlertsOp.alerts][i]? = some op → op = .filter := by
    intro i op hi hop
    have := (List.getElem?_eq_some_iff.mp hop).1
    simp at this
    omega
  cases f <;> exact ⟨rfl, hrest, fun _ => rfl⟩

/-- The only operation that writes rows is the fetch. -/
theorem ops_resume {f : AlertsFile} {op : AlertsOp} {a : AlertsAnswer} {hdl : AlertsHandler}
    (h : (f.page clock siteName).resume op a = some hdl) (fr : Frame AlertsFields) :
    (∀ ops, (hdl.run fr).1 = .ok ops → ops = []) ∧
      (op = .filter → fr.fields = .empty → (hdl.run fr).2.fields = .empty) := by
  cases f with
  | alerts =>
    cases op with
    | alerts =>
      cases a with
      | alerts r => cases h; exact ⟨fun _ => AlertsPage.fetchAlertsDone_ops, fun h => by cases h⟩
      | filter selected => cases h
    | filter =>
      cases a with
      | alerts r => cases h
      | filter selected =>
        cases selected with
        | none => cases h; exact ⟨fun _ h => (Except.ok.inj h).symm, fun _ hf => hf⟩
        | some order =>
          cases h
          exact ⟨fun _ => ops_bind_nil, fun _ => AlertsPage.sortAlerts_empty order⟩
  | pushNotifications =>
    cases op with
    | alerts =>
      cases a with
      | alerts r =>
        cases h
        exact ⟨fun _ => PushNotificationsPage.loadNotificationsDone_ops, fun h => by cases h⟩
      | filter selected => cases h
    | filter => cases a <;> cases h

theorem waiting_tap {f : AlertsFile} {s : AlertsLive} (h : Waiting s) {tap : AlertsTap}
    {hdl : AlertsHandler} (hhdl : (f.page clock siteName).onTap tap s.frame.fields = some hdl) :
    Waiting (s.settle (hdl.run s.frame)) := by
  cases f with
  | pushNotifications => cases hhdl
  | alerts =>
    cases tap with
    | filterIcon =>
      cases hhdl
      exact h.settle (fun ops hops op hop => by cases hops; exact List.mem_singleton.mp hop) h.fields
    | alertsIcon =>
      cases hhdl
      refine h.settle (fun ops hops op hop => ?_) fun h0 => AlertsPage.sortAlerts_empty _ (h.fields h0)
      rw [ops_bind_nil hops] at hop
      cases hop

theorem waiting_step {f : AlertsFile} {s t : AlertsLive} {e : AlertsEvent} (h : Waiting s)
    (hstep : (f.page clock siteName).step s e = some t) : Waiting t := by
  cases e with
  | tap tap =>
    obtain ⟨-, hdl, hhdl, rfl⟩ := PageCode.step_tap hstep
    exact waiting_tap h hhdl
  | answer i a =>
    obtain ⟨hi, op, hdl, hop, hhdl, rfl⟩ := PageCode.step_answer hstep
    obtain ⟨hops, hfields⟩ := ops_resume hhdl s.frame
    refine (h.close i a).settle (fun ops ho op ho' => ?_) fun h0 => ?_
    · rw [hops ops ho] at ho'
      cases ho'
    · obtain ⟨h0, hne⟩ := Live.mem_close_outstanding.mp h0
      exact hfields (h.rest i op (Nat.pos_of_ne_zero hne.symm) hop) (h.fields h0)
  | dispose =>
    obtain ⟨-, rfl⟩ := PageCode.step_dispose hstep
    exact ⟨h.first, h.rest, h.fields⟩

theorem waiting_of_exec {f : AlertsFile} {es : List AlertsEvent} {s : AlertsLive}
    (h : Runs.exec (f.page clock siteName).step (f.page clock siteName).opened es = some s) :
    Waiting s :=
  Runs.Reachable.of_throughout
    (Runs.throughout_of_step (fun _ _ _ => waiting_step) (fun _ h => h) f.waiting_opened) ⟨es, h⟩

/-- Whenever the answer to the fetch reaches the mounted page, it settles the
page exactly when every alert is an object with a date that can be read. -/
theorem settled_iff (f : AlertsFile) (clock : Clock) (siteName : Text) (o : HttpOutcome)
    {es : List AlertsEvent} {s t : AlertsLive}
    (hrun : Runs.exec (f.page clock siteName).step (f.page clock siteName).opened es = some s)
    (hm : s.frame.mounted = true)
    (hstep : (f.page clock siteName).step s (.answer 0 (.alerts (.ok o))) = some t) :
    f.Settled clock siteName o t.frame.fields ↔
      ∀ l, GraphQLService.getAlerts o = some l → ∀ e ∈ l, f.Readable e := by
  have hwait := waiting_of_exec hrun
  obtain ⟨hi, op, hdl, hop, hhdl, rfl⟩ := PageCode.step_answer hstep
  obtain rfl := Option.some.inj (hwait.first.symm.trans hop)
  have hempty := hwait.fields hi
  rw [Live.settle_frame]
  cases f with
  | alerts => cases hhdl; exact AlertsPage.answered_iff hm hempty clock siteName o
  | pushNotifications =>
    cases hhdl
    exact PushNotificationsPage.answered_iff hm hempty clock siteName o

/-- A response to the query for alerts. -/
def alertsResponse (l : List Json) : HttpOutcome :=
  .response 200 [] (some (.map [("data".toList, .map [("getAlerts".toList,
    .map [("alerts".toList, .list l)])])]))

/-- The fetch settles the page whatever it is answered. -/
def AlwaysSettles (f : AlertsFile) : Prop :=
  ∀ (clock : Clock) (siteName : Text) (o : HttpOutcome) (es : List AlertsEvent) (s t : AlertsLive),
    Runs.exec (f.page clock siteName).step (f.page clock siteName).opened es = some s →
    s.frame.mounted = true →
    (f.page clock siteName).step s (.answer 0 (.alerts (.ok o))) = some t →
    f.Settled clock siteName o t.frame.fields

theorem settled_with_date :
    ∃ t, (alertsPage ⟨fun _ => none, ⟨0⟩⟩ []).step (alertsPage ⟨fun _ => none, ⟨0⟩⟩ []).opened
        (.answer 0 (.alerts (.ok (alertsResponse
          [.map [("created_at".toList, .int 1751328000)]])))) = some t ∧
      AlertsFile.alerts.Settled ⟨fun _ => none, ⟨0⟩⟩ []
        (alertsResponse [.map [("created_at".toList, .int 1751328000)]]) t.frame.fields := by
  refine ⟨_, rfl, (settled_iff .alerts _ [] _ (show Runs.exec _ _ [] = some _ from rfl) rfl
    rfl).mpr ?_⟩
  intro l hl e he
  cases hl
  obtain rfl := List.mem_singleton.mp he
  refine ⟨_, rfl, fun i hi => ?_⟩
  cases hi
  exact ⟨by decide, by decide⟩

/-- One alert that is `null` leaves the spinner of either page on. -/
theorem nullAlert_not_settled : ¬ AlwaysSettles .alerts ∧ ¬ AlwaysSettles .pushNotifications := by
  constructor <;>
  · intro h
    have hsettled := h ⟨fun _ => none, ⟨0⟩⟩ [] (alertsResponse [.null]) [] _ _ rfl rfl rfl
    cases hsettled.1

end AlertsFile

end SurveilOne
