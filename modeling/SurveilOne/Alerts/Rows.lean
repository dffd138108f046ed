import SurveilOne.Flutter.Page
import SurveilOne.ImageUrl
import SurveilOne.Service

/-!
# The alerts page and the push notifications page

Both pages fetch the alerts once, when they are opened, and build one row for
each.  They differ in how they read a date, in the fields they look for an image
under, and in that the push page looks at `mounted` first.

The rows are built inside the callback of `setState`.  The alerts page adds them
to its list one at a time, the push page assigns the whole list at the end.
-/

namespace SurveilOne

open Dart Flutter Flutter.Handler

/-- What the pages know of time: `DateTime.parse`, `none` when it throws, and
the present. -/
structure Clock where
  parse : Text → Option DateTime
  now : DateTime

/-- A row.  Its entry `date`, the only one that is no JSON value, stands apart. -/
structure AlertRow where
  fields : Fields
  date : DateTime

structure AlertsFields where
  alerts : List AlertRow
  isLoading : Bool

/-- `DateTime.parse(v.replaceFirst('+00:00', 'Z'))` in a `try`. -/
def Clock.tryParse (clock : Clock) (v : Text) : Option DateTime :=
  clock.parse (Text.replaceFirst v "+00:00".toList ['Z'])

/-- The row of an alert whose date has been read. -/
def rowOf (clock : Clock) (siteName : Text) (rawImage : Fields → Option Text) (alert : Fields)
    (date : Option DateTime) : AlertRow :=
  { fields :=
      ((alert.set "title" ((alert.get "alert_type").ifNull (.string "Alert".toList))).set "preview"
        ((Fields.firstOf alert ["alert_message_code", "alert_message"]).ifNull
          (.string "No message".toList))).set "image_url"
        ((normalizeImageUrl (rawImage alert) kDefaultImageHost siteName).elim .null .string)
    date := date.getD clock.now }

/-- The row of an alert, given how its date is read and its image is found. -/
def buildRow (clock : Clock) (siteName : Text)
    (parseDate : Json → Except Thrown (Option DateTime)) (rawImage : Fields → Option Text)
    (e : Json) : Except Thrown AlertRow := do
  let alert ← e.asMap
  let date ← parseDate (Fields.firstOf alert ["created_at", "createdAt"])
  .ok (rowOf clock siteName rawImage alert date)

/-- The rows up to the first alert that throws. -/
def rowsUntil (row : Json → Except Thrown AlertRow) :
    List Json → Except Thrown Unit × List AlertRow
  | [] => (.ok (), [])
  | e :: rest =>
    match row e with
    | .ok r => ((rowsUntil row rest).1, r :: (rowsUntil row rest).2)
    | .error e => (.error e, [])

inductive AlertsOp where
  | alerts
  /-- The menu under the filter icon. -/
  | filter
  deriving DecidableEq, Repr

inductive AlertsAnswer where
  | alerts (r : Except Thrown HttpOutcome)
  | filter (selected : Option Text)

inductive AlertsTap where
  | filterIcon
  | alertsIcon

abbrev AlertsHandler := Handler AlertsFields (List AlertsOp)

namespace AlertsPage

/-- `_parseDate`. -/
def parseDate (clock : Clock) (v : Json) : Except Thrown (Option DateTime) :=
  match v with
  | .int v => do
    let d ← DateTime.fromMillisecondsSinceEpoch (if v > 1000000000000 then v else toInt64 (v * 1000))
    .ok (some d)
  | .string v => .ok (clock.tryParse v)
  | _ => .ok none

def rawImage (alert : Fields) : Option Text :=
  (Fields.firstOf alert ["image_url", "imageUrl", "thumbnail"]).toText?

def row (clock : Clock) (siteName : Text) : Json → Except Thrown AlertRow :=
  buildRow clock siteName (parseDate clock) rawImage

/-- The rows replace the old ones, one after the other. -/
def receive (clock : Clock) (siteName : Text) (newAlerts : List Json) : Handler AlertsFields Unit :=
  setStateThrowing fun s =>
    match rowsUntil (row clock siteName) newAlerts with
    | (.ok _, rows) => (.ok (), { alerts := rows, isLoading := false })
    | (.error e, rows) => (.error e, { s with alerts := rows })

/-- `_fetchAlerts` after its `await`. -/
def fetchAlertsDone (clock : Clock) (siteName : Text) (r : Except Thrown (Option (List Json))) :
    AlertsHandler := do
  let newAlerts ← lift r
  match newAlerts with
  | some (e :: rest) => receive clock siteName (e :: rest)
  | _ => setState fun s => { s with isLoading := false }
  pure []

/-- `_sortAlerts`.  Dart leaves the order of equal dates open. -/
def sortAlerts (order : Text) : AlertsHandler := do
  setState fun s => { s with
    alerts := s.alerts.mergeSort fun a b =>
      if order = "newest".toList then
        decide (b.date.microsecondsSinceEpoch ≤ a.date.microsecondsSinceEpoch)
      else decide (a.date.microsecondsSinceEpoch ≤ b.date.microsecondsSinceEpoch) }
  pure []

end AlertsPage

def alertsPage (clock : Clock) (siteName : Text) :
    PageCode AlertsFields AlertsOp AlertsAnswer AlertsTap where
  initial := { alerts := [], isLoading := true }
  initState := pure [.alerts]
  onTap
    | .filterIcon, _ => some (pure [.filter])
    | .alertsIcon, _ => some (AlertsPage.sortAlerts "newest".toList)
  resume
    | .alerts, .alerts r =>
      some (AlertsPage.fetchAlertsDone clock siteName (r.map GraphQLService.getAlerts))
    | .filter, .filter (some selected) => some (AlertsPage.sortAlerts selected)
    | .filter, .filter none => some (pure [])
    | _, _ => none

namespace PushNotificationsPage

/-- `_parseDate`. -/
def parseDate (clock : Clock) (value : Json) : Except Thrown (Option DateTime) :=
  match value with
  | .int value =>
    if value > 1000000000000 then do
      let d ← DateTime.fromMillisecondsSinceEpoch value
      .ok (some d)
    else if value > 1000000000 then do
      let d ← DateTime.fromMillisecondsSinceEpoch (toInt64 (value * 1000))
      .ok (some d)
    else .ok none
  | .string value => .ok (clock.tryParse value)
  | _ => .ok none

/-- `_pickRawImageField`. -/
def pickRawImageField (a : Fields) : Option Text :=
  (Fields.firstOf a ["image_url", "imageUrl", "thumbnail", "image", "img"]).toText?

def row (clock : Clock) (siteName : Text) : Json → Except Thrown AlertRow :=
  buildRow clock siteName (parseDate clock) pickRawImageField

/-- The callback of `setState`. -/
def receive (clock : Clock) (siteName : Text) (result : Option (List Json)) :
    Handler AlertsFields Unit :=
  setStateThrowing fun s =>
    match rowsUntil (row clock siteName) (result.getD []) with
    | (.ok _, rows) => (.ok (), { alerts := rows, isLoading := false })
    | (.error e, _) => (.error e, s)

/-- `_loadNotifications` after its `await`. -/
def loadNotificationsDone (clock : Clock) (siteName : Text)
    (r : Except Thrown (Option (List Json))) : AlertsHandler := do
  let result ← lift r
  whenMounted (receive clock siteName result)
  pure []

end PushNotificationsPage

def pushNotificationsPage (clock : Clock) (siteName : Text) :
    PageCode AlertsFields AlertsOp AlertsAnswer AlertsTap where
  initial := { alerts := [], isLoading := true }
  initState := pure [.alerts]
  onTap _ _ := none
  resume
    | .alerts, .alerts r =>
      some (PushNotificationsPage.loadNotificationsDone clock siteName
        (r.map GraphQLService.getAlerts))
    | _, _ => none

/-! ## The row of an alert -/

section RowOf

variable {clock : Clock} {siteName : Text} {parseDate : Json → Except Thrown (Option DateTime)}
  {rawImage : Fields → Option Text}

theorem buildRow_eq_ok_iff {e : Json} {row : AlertRow} :
    buildRow clock siteName parseDate rawImage e = .ok row ↔
      ∃ alert date, e = .map alert ∧
        parseDate (Fields.firstOf alert ["created_at", "createdAt"]) = .ok date ∧
        rowOf clock siteName rawImage alert date = row := by
  rw [buildRow]
  simp only [bind_ok_iff]
  constructor
  · rintro ⟨alert, hmap, date, hdate, hrow⟩
    refine ⟨alert, date, ?_, hdate, Except.ok.inj hrow⟩
    cases e <;> cases hmap
    rfl
  · rintro ⟨alert, date, rfl, hdate, rfl⟩
    exact ⟨alert, rfl, date, hdate, rfl⟩

variable (clock siteName rawImage) (alert : Fields) (date : Option DateTime)

theorem rowOf_title : (rowOf clock siteName rawImage alert date).fields.get "title" =
    (alert.get "alert_type").ifNull (.string "Alert".toList) := by
  rw [rowOf, Fields.get_set_ne _ (by decide), Fields.get_set_ne _ (by decide), Fields.get_set_self]

theorem rowOf_preview : (rowOf clock siteName rawImage alert date).fields.get "preview" =
    (Fields.firstOf alert ["alert_message_code", "alert_message"]).ifNull
      (.string "No message".toList) := by
  rw [rowOf, Fields.get_set_ne _ (by decide), Fields.get_set_self]

theorem rowOf_image : (rowOf clock siteName rawImage alert date).fields.get "image_url" =
    (normalizeImageUrl (rawImage alert) kDefaultImageHost siteName).elim .null .string :=
  Fields.get_set_self _ _ _

theorem rowOf_get {key : String} (h : key ∉ ["title", "preview", "image_url"]) :
    (rowOf clock siteName rawImage alert date).fields.get key = alert.get key := by
  simp only [List.mem_cons, List.not_mem_nil, or_false, not_or] at h
  rw [rowOf, Fields.get_set_ne _ h.2.2, Fields.get_set_ne _ h.2.1, Fields.get_set_ne _ h.1]

end RowOf

/-! ## Timeliness -/

namespace AlertsPage

theorem sortAlerts_timely (order : Text) : (sortAlerts order).Timely :=
  .bind (.setState _) fun _ => .pure _

theorem sortAlerts_late (order : Text) : (sortAlerts order).Late :=
  .bind_left (.setState _) fun _ => .pure _

theorem fetchAlertsDone_timely (clock : Clock) (siteName : Text)
    (r : Except Thrown (Option (List Json))) : (fetchAlertsDone clock siteName r).Timely := by
  refine .bind (.lift _) fun newAlerts => ?_
  split
  · exact .bind (.setStateThrowing _) fun _ => .pure _
  · exact .bind (.setState _) fun _ => .pure _

theorem fetchAlertsDone_late (clock : Clock) (siteName : Text) (newAlerts : Option (List Json)) :
    (fetchAlertsDone clock siteName (.ok newAlerts)).Late := by
  refine .bind_right (.lift _) (fun fr => ⟨newAlerts, fr, rfl⟩) fun newAlerts => ?_
  split
  · exact .bind_left (.setStateThrowing _) fun _ => .pure _
  · exact .bind_left (.setState _) fun _ => .pure _

end AlertsPage

namespace PushNotificationsPage

theorem loadNotificationsDone_timely (clock : Clock) (siteName : Text)
    (r : Except Thrown (Option (List Json))) : (loadNotificationsDone clock siteName r).Timely :=
  .bind (.lift _) fun _ => .bind (.whenMounted (.setStateThrowing _)) fun _ => .pure _

theorem loadNotificationsDone_silent (clock : Clock) (siteName : Text)
    (r : Except Thrown (Option (List Json))) : (loadNotificationsDone clock siteName r).Silent :=
  .bind (.lift _) (.lift _) fun _ =>
    .bind (.whenMounted (.setStateThrowing _)) (.whenMounted _) fun _ => .pure _

end PushNotificationsPage

end SurveilOne
