import SurveilOne.Alerts.Settled
import SurveilOne.Lifecycle

/-!
# The list after the fetch

Once the fetch has been answered the rows of a page are its own to sort.  They stay
the same rows, and they stand in the order that was asked for last.
-/

namespace SurveilOne

open Dart Flutter Flutter.Handler

/-- The order a row precedes another in. -/
def AlertRow.Precedes (order : Text) (a b : AlertRow) : Prop :=
  if order = "newest".toList then b.date.microsecondsSinceEpoch ≤ a.date.microsecondsSinceEpoch
  else a.date.microsecondsSinceEpoch ≤ b.date.microsecondsSinceEpoch

/-- The order an event asks for. -/
def order? : AlertsEvent → Option Text
  | .tap .alertsIcon => some "newest".toList
  | .answer _ (.filter selected) => selected
  | _ => none

def lastOrder : List AlertsEvent → Option Text
  | [] => none
  | e :: rest => (lastOrder rest).or (order? e)

namespace AlertsPage

theorem run_sortAlerts {fr : Frame AlertsFields} (hm : fr.mounted = true) (order : Text) :
    ∃ rows : List AlertRow, rows.Perm fr.fields.alerts ∧ rows.Pairwise (AlertRow.Precedes order) ∧
      (sortAlerts order).run fr =
        (.ok [], { fr with fields := { fr.fields with alerts := rows } }) := by
  let le : AlertRow → AlertRow → Bool := fun a b =>
    if order = "newest".toList then
      decide (b.date.microsecondsSinceEpoch ≤ a.date.microsecondsSinceEpoch)
    else decide (a.date.microsecondsSinceEpoch ≤ b.date.microsecondsSinceEpoch)
  have hle : ∀ a b, le a b = true ↔ a.Precedes order b := by
    intro a b
    simp only [le, AlertRow.Precedes]
    split <;> exact decide_eq_true_iff
  have htrans : ∀ a b c, le a b = true → le b c = true → le a c = true := by
    intro a b c hab hbc
    rw [hle, AlertRow.Precedes] at hab hbc ⊢
    by_cases horder : order = "newest".toList
    · rw [if_pos horder] at hab hbc ⊢
      exact Int.le_trans hbc hab
    · rw [if_neg horder] at hab hbc ⊢
      exact Int.le_trans hab hbc
  have htotal : ∀ a b, (le a b || le b a) = true := by
    intro a b
    rw [Bool.or_eq_true, hle, hle, AlertRow.Precedes, AlertRow.Precedes]
    split <;> omega
  refine ⟨fr.fields.alerts.mergeSort le, List.mergeSort_perm _ _, ?_, ?_⟩
  · exact (List.pairwise_mergeSort htrans htotal _).imp fun h => (hle _ _).mp h
  · rw [sortAlerts, run_bind_ok (run_setState hm _)]
    rfl

theorem run_sortAlerts_late {fr : Frame AlertsFields} (hm : fr.mounted = false) (order : Text) :
    ((sortAlerts order).run fr).2.fields = fr.fields := by
  rw [sortAlerts, run_bind_error (run_setState_late hm _)]

end AlertsPage

/-! ## A step after the fetch -/

/-- The rows stay the same, and where the page is mounted a sort orders them and
nothing else moves them. -/
structure Resorts (order : Option Text) (fr fr' : Frame AlertsFields) : Prop where
  perm : fr'.fields.alerts.Perm fr.fields.alerts
  kept : order = none → fr'.fields.alerts = fr.fields.alerts
  sorted : fr.mounted = true → ∀ o, order = some o → fr'.fields.alerts.Pairwise (AlertRow.Precedes o)

theorem Resorts.same {fr fr' : Frame AlertsFields} (h : fr'.fields = fr.fields) :
    Resorts none fr fr' where
  perm := by rw [h]
  kept _ := by rw [h]
  sorted _ _ ho := nomatch ho

theorem Resorts.sortAlerts (order : Text) (fr : Frame AlertsFields) :
    Resorts (some order) fr ((AlertsPage.sortAlerts order).run fr).2 := by
  cases hm : fr.mounted with
  | true =>
    obtain ⟨rows, hperm, hsorted, hrun⟩ := AlertsPage.run_sortAlerts hm order
    rw [hrun]
    refine ⟨hperm, fun ho => (nomatch ho), fun _ o ho => ?_⟩
    obtain rfl := Option.some.inj ho
    exact hsorted
  | false =>
    refine ⟨?_, fun ho => (nomatch ho), fun h => absurd (hm.symm.trans h) Bool.false_ne_true⟩
    rw [AlertsPage.run_sortAlerts_late hm]

namespace AlertsFile

variable {f : AlertsFile} {clock : Clock} {siteName : Text} {s t : AlertsLive}

theorem resorts_step {e : AlertsEvent} (hw : Waiting s) (h0 : 0 ∉ s.outstanding)
    (h : (f.page clock siteName).step s e = some t) : Resorts (order? e) s.frame t.frame := by
  cases e with
  | tap tap =>
    obtain ⟨-, hdl, hhdl, rfl⟩ := PageCode.step_tap h
    rw [Live.settle_frame]
    cases f with
    | pushNotifications => cases hhdl
    | alerts =>
      cases tap with
      | filterIcon => cases hhdl; exact .same rfl
      | alertsIcon => cases hhdl; exact .sortAlerts _ s.frame
  | answer i a =>
    obtain ⟨hi, op, hdl, hop, hhdl, rfl⟩ := PageCode.step_answer h
    rw [Live.settle_frame]
    -- The fetch is operation 0, so what is answered is the filter menu.
    obtain rfl : op = .filter :=
      hw.rest i op (Nat.pos_of_ne_zero fun h => h0 (h ▸ hi)) hop
    cases f with
    | pushNotifications => cases a <;> cases hhdl
    | alerts =>
      cases a with
      | alerts r => cases hhdl
      | filter selected =>
        cases selected with
        | none => cases hhdl; exact .same rfl
        | some order => cases hhdl; exact .sortAlerts order s.frame
  | dispose =>
    obtain ⟨-, rfl⟩ := PageCode.step_dispose h
    exact .same rfl

/-- The fetch is made once. -/
theorem fetched_step {e : AlertsEvent} (hw : Waiting s) (h0 : 0 ∉ s.outstanding)
    (h : (f.page clock siteName).step s e = some t) : 0 ∉ t.outstanding := by
  have hlen : 0 < s.started.length := (List.getElem?_eq_some_iff.mp hw.first).1
  cases e with
  | tap tap =>
    obtain ⟨-, hdl, -, rfl⟩ := PageCode.step_tap h
    exact fun h => h0 (Live.mem_of_mem_settle hlen h)
  | answer i a =>
    obtain ⟨-, op, hdl, -, -, rfl⟩ := PageCode.step_answer h
    exact fun h => h0 (Live.mem_close_outstanding.mp (Live.mem_of_mem_settle hlen h)).1
  | dispose =>
    obtain ⟨-, rfl⟩ := PageCode.step_dispose h
    exact h0

theorem page_timely (f : AlertsFile) (clock : Clock) (siteName : Text) :
    (f.page clock siteName).Timely := by
  cases f with
  | alerts => exact AlertsPage.page_timely clock siteName
  | pushNotifications => exact PushNotificationsPage.page_timely clock siteName

/-! ## Every run after the fetch -/

/-- However the page is sorted and left, it keeps its rows.  While it is open they
stand in the order asked for last. -/
theorem sorted_of_exec {es : List AlertsEvent} (hw : Waiting s) (h0 : 0 ∉ s.outstanding)
    (h : Runs.exec (f.page clock siteName).step s es = some t) :
    t.frame.fields.alerts.Perm s.frame.fields.alerts ∧
      (t.frame.mounted = true → lastOrder es = none →
        t.frame.fields.alerts = s.frame.fields.alerts) ∧
      (t.frame.mounted = true → ∀ order, lastOrder es = some order →
        t.frame.fields.alerts.Pairwise (AlertRow.Precedes order)) := by
  induction es generalizing s with
  | nil =>
    cases h
    exact ⟨.refl _, fun _ _ => rfl, fun _ _ ho => nomatch ho⟩
  | cons e rest ih =>
    obtain ⟨u, hu, hrest⟩ := Option.bind_eq_some_iff.mp h
    have hstep := resorts_step hw h0 hu
    obtain ⟨hperm, hkept, hsorted⟩ := ih (waiting_step hw hu) (fetched_step hw h0 hu) hrest
    refine ⟨hperm.trans hstep.perm, fun hm hnone => ?_, fun hm order horder => ?_⟩
    · obtain ⟨hrest', he⟩ := Option.or_eq_none_iff.mp hnone
      rw [hkept hm hrest', hstep.kept he]
    · rw [lastOrder] at horder
      cases hlast : lastOrder rest with
      | some o =>
        rw [hlast, Option.some_or] at horder
        exact hsorted hm order (hlast.trans horder)
      | none =>
        rw [hlast, Option.none_or] at horder
        rw [hkept hm hlast]
        exact hstep.sorted (PageCode.mounted_before (f.page_timely clock siteName) hu
          (PageCode.exec_mounted (f.page_timely clock siteName) hrest hm)) order horder

/-- A fetch of alerts that can all be read brings one row for each of them. -/
theorem fetch_rows {es : List AlertsEvent} {s u : AlertsLive} {o : HttpOutcome} {l : List Json}
    (hrun : Runs.exec (f.page clock siteName).step (f.page clock siteName).opened es = some s)
    (hm : s.frame.mounted = true) (hl : GraphQLService.getAlerts o = some l)
    (hread : ∀ e ∈ l, f.Readable e)
    (hfetch : (f.page clock siteName).step s (.answer 0 (.alerts (.ok o))) = some u) :
    List.Forall₂ (fun e r => f.row clock siteName e = .ok r) l u.frame.fields.alerts ∧
      Waiting u ∧ 0 ∉ u.outstanding := by
  have hwait := waiting_of_exec hrun
  have hsettled := (settled_iff f clock siteName o hrun hm hfetch).mpr fun l' hl' => by
    obtain rfl := Option.some.inj (hl.symm.trans hl')
    exact hread
  refine ⟨((settled_some hl _).mp hsettled).2, waiting_step hwait hfetch, ?_⟩
  obtain ⟨-, op, hdl, -, -, rfl⟩ := PageCode.step_answer hfetch
  have hlen : 0 < (s.close 0 (.alerts (.ok o))).started.length :=
    (List.getElem?_eq_some_iff.mp hwait.first).1
  exact fun h => (Live.mem_close_outstanding.mp (Live.mem_of_mem_settle hlen h)).2 rfl

/-- After the fetch has brought alerts that can all be read, whatever is done to the
page, it holds one row for each of them, and while it is open these stand in the order
asked for last, or as they came. -/
theorem shown_after_fetch {es es' : List AlertsEvent} {s u t : AlertsLive} {o : HttpOutcome}
    {l : List Json}
    (hrun : Runs.exec (f.page clock siteName).step (f.page clock siteName).opened es = some s)
    (hm : s.frame.mounted = true) (hl : GraphQLService.getAlerts o = some l)
    (hread : ∀ e ∈ l, f.Readable e)
    (hfetch : (f.page clock siteName).step s (.answer 0 (.alerts (.ok o))) = some u)
    (hrest : Runs.exec (f.page clock siteName).step u es' = some t) :
    ∃ rows, List.Forall₂ (fun e r => f.row clock siteName e = .ok r) l rows ∧
      t.frame.fields.alerts.Perm rows ∧
      (t.frame.mounted = true → lastOrder es' = none → t.frame.fields.alerts = rows) ∧
      (t.frame.mounted = true → ∀ order, lastOrder es' = some order →
        t.frame.fields.alerts.Pairwise (AlertRow.Precedes order)) := by
  obtain ⟨hrows, hwait, h0⟩ := fetch_rows hrun hm hl hread hfetch
  exact ⟨u.frame.fields.alerts, hrows, sorted_of_exec hwait h0 hrest⟩

/-- Two alerts come, and the alerts icon is tapped. -/
theorem shown_after_icon :
    ∃ u t, (alertsPage ⟨fun _ => none, ⟨0⟩⟩ []).step (alertsPage ⟨fun _ => none, ⟨0⟩⟩ []).opened
        (.answer 0 (.alerts (.ok (alertsResponse [.map [("created_at".toList, .int 5)],
          .map [("created_at".toList, .int 7)]])))) = some u ∧
      Runs.exec (alertsPage ⟨fun _ => none, ⟨0⟩⟩ []).step u [.tap .alertsIcon] = some t ∧
      t.frame.fields.alerts.Pairwise (AlertRow.Precedes "newest".toList) := by
  have hread : ∀ e ∈ ([.map [("created_at".toList, .int 5)],
      .map [("created_at".toList, .int 7)]] : List Json), alerts.Readable e := by
    intro e he
    rcases List.mem_cons.mp he with rfl | he
    · exact ⟨_, rfl, fun i hi => by cases hi; exact ⟨by decide, by decide⟩⟩
    · obtain rfl := List.mem_singleton.mp he
      exact ⟨_, rfl, fun i hi => by cases hi; exact ⟨by decide, by decide⟩⟩
  obtain ⟨u, hu, hmu⟩ : ∃ u, (alertsPage ⟨fun _ => none, ⟨0⟩⟩ []).step
      (alertsPage ⟨fun _ => none, ⟨0⟩⟩ []).opened (.answer 0 (.alerts (.ok (alertsResponse
        [.map [("created_at".toList, .int 5)], .map [("created_at".toList, .int 7)]])))) = some u ∧
      u.frame.mounted = true := ⟨_, rfl, rfl⟩
  obtain ⟨t, ht⟩ : ∃ t, (alertsPage ⟨fun _ => none, ⟨0⟩⟩ []).step u (.tap .alertsIcon) = some t :=
    ⟨_, if_pos hmu⟩
  have hm : t.frame.mounted = true :=
    (PageCode.step_mounted (alerts.page_timely _ _) (Event.tap_ne_dispose _) ht).trans hmu
  have hexec : Runs.exec (alertsPage ⟨fun _ => none, ⟨0⟩⟩ []).step u [.tap .alertsIcon] = some t := by
    rw [Runs.exec_cons, ht]
    rfl
  have hopened : Runs.exec (alertsPage ⟨fun _ => none, ⟨0⟩⟩ []).step
      (alertsPage ⟨fun _ => none, ⟨0⟩⟩ []).opened [] = some _ := rfl
  obtain ⟨rows, -, -, -, hsorted⟩ :=
    shown_after_fetch (f := .alerts) hopened rfl rfl hread hu hexec
  exact ⟨u, t, hu, hexec, hsorted hm _ rfl⟩

end AlertsFile

end SurveilOne
