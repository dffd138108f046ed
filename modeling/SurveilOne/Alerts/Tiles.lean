import SurveilOne.Alerts.Sorted
import SurveilOne.Dart.Numeral
import SurveilOne.MessageDetail

/-!
# What is shown of an alert

The tile of the alerts page, the card of the push notifications page and the head of
the detail page are drawn from the same row.  The lists give a time of day for an alert
of today and a day for any other, the detail page gives both.

`date_eq_iff` and `formatDateTime_eq_iff` say which times the texts tell apart, and
`AlertsFile.sameMetadata_iff` which alerts the metadata of the detail page do.  The
tile takes the title for a `String` where the card asks for its text, so a row may not
be drawable: `tiles_after_fetch` says which alerts have this effect.
-/

namespace SurveilOne

open Dart Flutter Flutter.Handler

/-! ## Times -/

namespace Clock12

/-- `d.hour == 0 ? 12 : (d.hour > 12 ? d.hour - 12 : d.hour)`. -/
def hour (d : LocalTime) : Nat := if d.hour = 0 then 12 else if d.hour > 12 then d.hour - 12 else d.hour

def ampm (d : LocalTime) : Text := if d.hour ≥ 12 then "PM".toList else "AM".toList

/-- Twelve hours and their half of the day are the hours of a day. -/
theorem hour_ampm_inj {s t : LocalTime} :
    hour s = hour t ∧ ampm s = ampm t ↔ s.hour = t.hour := by
  have hs := s.hour_lt
  have ht := t.hour_lt
  have hampm : ampm s = ampm t ↔ (s.hour ≥ 12 ↔ t.hour ≥ 12) := by
    by_cases hspm : s.hour ≥ 12 <;> by_cases htpm : t.hour ≥ 12 <;> simp [ampm, hspm, htpm]
  rw [hampm, hour, hour]
  constructor
  · rintro ⟨hhour, hhalf⟩
    split at hhour <;> split at hhour <;> (try split at hhour) <;> (try split at hhour) <;> omega
  · intro h
    rw [h]
    exact ⟨rfl, Iff.rfl⟩

end Clock12

/-- `'$h:$mm $ampm'` of a list, with `mm` padded to two digits. -/
def timeText (d : LocalTime) : Text :=
  Text.decimal (Clock12.hour d) ++ ':' :: (Text.twoDigits d.minute ++ ' ' :: Clock12.ampm d)

/-- `'${d.month}/${d.day}/${d.year}'`. -/
def dayText (d : LocalTime) : Text :=
  Text.decimal d.month ++ '/' :: (Text.decimal d.day ++ '/' :: (toString d.year).toList)

/-- The time of a row in a list. -/
def listTime (now d : LocalTime) : Text := if d.SameDay now then timeText d else dayText d

namespace AlertTile

/-- `_date`. -/
def date (now d : LocalTime) : Text := listTime now d

end AlertTile

namespace PushNotificationsPage

/-- `_formatDate`. -/
def formatDate (now d : LocalTime) : Text := listTime now d

end PushNotificationsPage

namespace MessageDetailPage

/-- `_formatDateTime`. -/
def formatDateTime (d : LocalTime) : Text :=
  dayText d ++ ' ' :: '•' :: ' ' ::
    (Text.twoDigits (Clock12.hour d) ++ ':' :: (Text.twoDigits d.minute ++ ' ' :: Clock12.ampm d))

end MessageDetailPage

section Times

variable {s t : LocalTime}

theorem timeText_eq_iff : timeText s = timeText t ↔ s.hour = t.hour ∧ s.minute = t.minute := by
  rw [timeText, timeText,
    Text.append_separator_inj (Text.notMem_decimal rfl _) (Text.notMem_decimal rfl _),
    Text.append_separator_inj (Text.notMem_twoDigits rfl _) (Text.notMem_twoDigits rfl _),
    Text.decimal_inj, Text.twoDigits_inj, ← Clock12.hour_ampm_inj]
  constructor
  · rintro ⟨hhour, hminute, hampm⟩
    exact ⟨⟨hhour, hampm⟩, hminute⟩
  · rintro ⟨⟨hhour, hampm⟩, hminute⟩
    exact ⟨hhour, hminute, hampm⟩

theorem dayText_eq_iff : dayText s = dayText t ↔ s.SameDay t := by
  rw [dayText, dayText,
    Text.append_separator_inj (Text.notMem_decimal rfl _) (Text.notMem_decimal rfl _),
    Text.append_separator_inj (Text.notMem_decimal rfl _) (Text.notMem_decimal rfl _),
    Text.decimal_inj, Text.decimal_inj, Text.intText_inj, LocalTime.SameDay]
  constructor
  · rintro ⟨hmonth, hday, hyear⟩
    exact ⟨hyear, hmonth, hday⟩
  · rintro ⟨hyear, hmonth, hday⟩
    exact ⟨hmonth, hday, hyear⟩

theorem notMem_dayText {c : Char} (hdigit : c.isDigit = false) (hslash : c ≠ '/')
    (hminus : c ≠ '-') : c ∉ dayText s := by
  intro hmem
  rw [dayText] at hmem
  rcases List.mem_append.mp hmem with hmem | hmem
  · exact Text.notMem_decimal hdigit _ hmem
  · rcases List.mem_cons.mp hmem with hmem | hmem
    · exact hslash hmem
    · rcases List.mem_append.mp hmem with hmem | hmem
      · exact Text.notMem_decimal hdigit _ hmem
      · rcases List.mem_cons.mp hmem with hmem | hmem
        · exact hslash hmem
        · exact Text.notMem_intText hdigit hminus _ hmem

/-- A time of day has a colon and a day has none. -/
theorem timeText_ne_dayText : timeText s ≠ dayText t := by
  intro h
  have hmem : ':' ∈ timeText s := List.mem_append_right _ List.mem_cons_self
  rw [h] at hmem
  exact notMem_dayText rfl (by decide) (by decide) hmem

theorem listTime_eq_iff {now : LocalTime} : listTime now s = listTime now t ↔
    (s.SameDay now ↔ t.SameDay now) ∧
      if s.SameDay now then s.hour = t.hour ∧ s.minute = t.minute else s.SameDay t := by
  rw [listTime, listTime]
  by_cases hs : s.SameDay now
  · by_cases ht : t.SameDay now
    · rw [if_pos hs, if_pos ht, if_pos hs, timeText_eq_iff]
      exact (and_iff_right (iff_of_true hs ht)).symm
    · rw [if_pos hs, if_neg ht]
      exact iff_of_false timeText_ne_dayText fun h => ht (h.1.mp hs)
  · by_cases ht : t.SameDay now
    · rw [if_neg hs, if_pos ht]
      exact iff_of_false (Ne.symm timeText_ne_dayText) fun h => hs (h.1.mpr ht)
    · rw [if_neg hs, if_neg ht, if_neg hs, dayText_eq_iff]
      exact (and_iff_right (iff_of_false hs ht)).symm

/-- The time text of the file's list. -/
def AlertsFile.time : AlertsFile → LocalTime → LocalTime → Text
  | alerts => AlertTile.date
  | pushNotifications => PushNotificationsPage.formatDate

/-- Two times look alike, each in either list, exactly when both are of today and at one
minute of the day, or neither is and they are of one day. -/
theorem date_eq_iff (f g : AlertsFile) {now : LocalTime} : f.time now s = g.time now t ↔
    (s.SameDay now ↔ t.SameDay now) ∧
      if s.SameDay now then s.hour = t.hour ∧ s.minute = t.minute else s.SameDay t := by
  have htime : ∀ (f : AlertsFile) (d : LocalTime), f.time now d = listTime now d := by
    intro f d
    cases f <;> rfl
  rw [htime, htime, listTime_eq_iff]

/-- The detail page shows two times alike exactly when they are the same minute. -/
theorem formatDateTime_eq_iff :
    MessageDetailPage.formatDateTime s = MessageDetailPage.formatDateTime t ↔ s = t := by
  rw [MessageDetailPage.formatDateTime, MessageDetailPage.formatDateTime,
    Text.append_separator_inj (notMem_dayText rfl (by decide) (by decide))
      (notMem_dayText rfl (by decide) (by decide)), dayText_eq_iff]
  simp only [List.cons.injEq, true_and]
  rw [Text.append_separator_inj (Text.notMem_twoDigits rfl _) (Text.notMem_twoDigits rfl _),
    Text.append_separator_inj (Text.notMem_twoDigits rfl _) (Text.notMem_twoDigits rfl _),
    Text.twoDigits_inj, Text.twoDigits_inj]
  constructor
  · rintro ⟨⟨hyear, hmonth, hday⟩, hhour, hminute, hampm⟩
    have hhours := Clock12.hour_ampm_inj.mp ⟨hhour, hampm⟩
    cases s
    cases t
    simp_all
  · rintro rfl
    exact ⟨⟨rfl, rfl, rfl⟩, rfl, rfl, rfl⟩

end Times

/-! ## Tiles and cards -/

structure Tile where
  /-- The picture, or the icon in its place. -/
  image : Option Text
  title : Text
  time : Text

structure NotificationCard where
  title : Text
  message : Text
  time : Text

section Drawing

variable (zone : DateTime → LocalTime) (now : DateTime)

/-- `_AlertTile.build`. -/
def AlertTile.build (row : AlertRow) : Except Thrown Tile := do
  let img ← (row.fields.get "image_url").asString?
  let title ← ((row.fields.get "title").ifNull (.string "Alert".toList)).asString
  .ok
    { image := img.filter fun img => !img.isEmpty
      title := title
      time := AlertTile.date (zone now) (zone row.date) }

/-- The card the push notifications page builds for a row. -/
def PushNotificationsPage.card (row : AlertRow) : NotificationCard :=
  { title := ((row.fields.get "title").ifNull (.string "Alert".toList)).toText
    message := ((row.fields.get "preview").ifNull (.string [])).toText
    time := PushNotificationsPage.formatDate (zone now) (zone row.date) }

/-- The alert has no `alert_type`, or a text for it. -/
def TypeIsText (e : Json) : Prop :=
  ∃ alert : Fields, e = .map alert ∧
    (alert.get "alert_type" = .null ∨ ∃ s, alert.get "alert_type" = .string s)

theorem asString_ifNull_ok_iff {v : Json} {text : Text} :
    (∃ s, (v.ifNull (.string text)).asString = .ok s) ↔ v = .null ∨ ∃ s, v = .string s := by
  cases v with
  | null => exact iff_of_true ⟨text, rfl⟩ (Or.inl rfl)
  | string s => exact iff_of_true ⟨s, rfl⟩ (Or.inr ⟨s, rfl⟩)
  | _ =>
    refine iff_of_false (fun ⟨_, h⟩ => nomatch h) ?_
    rintro (h | ⟨s, h⟩) <;> cases h

theorem toText_of_asString {v : Json} {s : Text} (h : v.asString = .ok s) : v.toText = s := by
  cases v <;> cases h
  rfl

/-- A tile that is drawn has the title of the card and of the detail page. -/
theorem AlertTile.build_title {row : AlertRow} {tile : Tile} (h : build zone now row = .ok tile) :
    tile.title = (PushNotificationsPage.card zone now row).title ∧
      tile.title = MessageDetailPage.title row.fields := by
  obtain ⟨img, -, h⟩ := bind_ok_iff.mp h
  obtain ⟨title, htitle, h⟩ := bind_ok_iff.mp h
  cases h
  exact ⟨(toText_of_asString htitle).symm, (toText_of_asString htitle).symm⟩

theorem AlertTile.build_rowOf_iff {clock : Clock} {siteName : Text} {rawImage : Fields → Option Text}
    {alert : Fields} {date : Option DateTime} :
    (∃ tile, build zone now (rowOf clock siteName rawImage alert date) = .ok tile) ↔
      TypeIsText (.map alert) := by
  have himage : ∃ img, ((rowOf clock siteName rawImage alert date).fields.get "image_url").asString? =
      .ok img := by
    rw [rowOf_image]
    cases normalizeImageUrl (rawImage alert) kDefaultImageHost siteName with
    | none => exact ⟨none, rfl⟩
    | some url => exact ⟨some url, rfl⟩
  have htitle : (rowOf clock siteName rawImage alert date).fields.get "title" ≠ .null := by
    rw [rowOf_title]
    cases alert.get "alert_type" <;> exact fun h => nomatch h
  obtain ⟨img, himg⟩ := himage
  have hiff : (∃ tile, build zone now (rowOf clock siteName rawImage alert date) = .ok tile) ↔
      ∃ s, ((alert.get "alert_type").ifNull (.string "Alert".toList)).asString = .ok s := by
    rw [← rowOf_title clock siteName rawImage alert date]
    simp only [build, himg, Json.ifNull_of_ne_null htitle, bind_ok_iff]
    constructor
    · rintro ⟨tile, img', -, s, hs, -⟩
      exact ⟨s, hs⟩
    · rintro ⟨s, hs⟩
      exact ⟨_, img, rfl, s, hs, rfl⟩
  rw [hiff, asString_ifNull_ok_iff]
  constructor
  · intro h
    exact ⟨alert, rfl, h⟩
  · rintro ⟨alert', halert, h⟩
    cases halert
    exact h

namespace AlertsFile

variable {f : AlertsFile} {clock : Clock} {siteName : Text}

theorem row_eq_rowOf {e : Json} {row : AlertRow} (h : f.row clock siteName e = .ok row) :
    ∃ rawImage alert date, e = .map alert ∧ row = rowOf clock siteName rawImage alert date := by
  cases f with
  | alerts =>
    obtain ⟨alert, date, rfl, -, rfl⟩ := buildRow_eq_ok_iff.mp h
    exact ⟨_, alert, date, rfl, rfl⟩
  | pushNotifications =>
    obtain ⟨alert, date, rfl, -, rfl⟩ := buildRow_eq_ok_iff.mp h
    exact ⟨_, alert, date, rfl, rfl⟩

theorem build_row_iff {e : Json} {row : AlertRow} (h : f.row clock siteName e = .ok row) :
    (∃ tile, AlertTile.build zone now row = .ok tile) ↔ TypeIsText e := by
  obtain ⟨rawImage, alert, date, rfl, rfl⟩ := row_eq_rowOf h
  exact AlertTile.build_rowOf_iff zone now

end AlertsFile

end Drawing

/-! ## The detail page of a row -/

namespace AlertsFile

open MessageDetailPage

variable {f g : AlertsFile} {clock clock' : Clock} {siteName siteName' : Text} {alert alert' : Fields}
  {row row' : AlertRow}

/-- A row has its own title, preview and picture and the rest from the alert. -/
theorem row_get (h : f.row clock siteName (.map alert) = .ok row) {key : String}
    (hkey : key ∉ ["title", "preview", "image_url"]) : row.fields.get key = alert.get key := by
  obtain ⟨rawImage, alert', date, halert, rfl⟩ := row_eq_rowOf h
  cases halert
  exact rowOf_get _ _ _ _ _ hkey

theorem metadataText_row (h : f.row clock siteName (.map alert) = .ok row) :
    ∀ p ∈ metadataKeys, metadataText row.fields p.2 = metadataText alert p.2 := by
  intro p hp
  have hkeys : ∀ key ∈ p.2, key ∉ ["title", "preview", "image_url"] :=
    (by decide : ∀ p ∈ metadataKeys, ∀ key ∈ p.2, key ∉ ["title", "preview", "image_url"]) p hp
  rw [metadataText, metadataText, Fields.firstOf_congr fun key hkey => row_get h (hkeys key hkey)]

/-- The detail pages of two rows, each of either list, show the same metadata exactly when
their alerts agree on the text of every label, or leave it blank. -/
theorem sameMetadata_iff (K : Casing) (h : f.row clock siteName (.map alert) = .ok row)
    (h' : g.row clock' siteName' (.map alert') = .ok row') :
    metadataRows K row.fields = metadataRows K row'.fields ↔
      ∀ p ∈ metadataKeys, SameText (metadataText alert p.2) (metadataText alert' p.2) := by
  rw [MessageDetailPage.metadataRows_eq_iff]
  refine forall₂_congr fun p hp => ?_
  rw [metadataText_row h p hp, metadataText_row h' p hp]

/-- A blank zone is no zone, and a camera goes by several names. -/
theorem sameMetadata_of_cam :
    ∃ row row', AlertsFile.alerts.row ⟨fun _ => none, ⟨0⟩⟩ []
        (.map [("cam".toList, .int 3), ("zone".toList, .string [' '])]) = .ok row ∧
      AlertsFile.pushNotifications.row ⟨fun _ => none, ⟨0⟩⟩ []
        (.map [("camera".toList, .string ['3'])]) = .ok row' ∧
      metadataRows Casing.ascii row.fields = metadataRows Casing.ascii row'.fields := by
  obtain ⟨row, hrow⟩ : ∃ row, AlertsFile.alerts.row ⟨fun _ => none, ⟨0⟩⟩ []
      (.map [("cam".toList, .int 3), ("zone".toList, .string [' '])]) = .ok row := ⟨_, rfl⟩
  obtain ⟨row', hrow'⟩ : ∃ row', AlertsFile.pushNotifications.row ⟨fun _ => none, ⟨0⟩⟩ []
      (.map [("camera".toList, .string ['3'])]) = .ok row' := ⟨_, rfl⟩
  exact ⟨row, row', hrow, hrow', (sameMetadata_iff Casing.ascii hrow hrow').mpr (by decide)⟩

/-- What an alert says: its `alert_message`, else its `alert_message_code`, or that there
is no message. -/
def message (alert : Fields) : Json :=
  (Fields.firstOf alert ["alert_message", "alert_message_code"]).ifNull
    (.string "No message".toList)

/-- The preview of a row is never null, so the detail page does not look at the
description. -/
theorem message_row (h : f.row clock siteName (.map alert) = .ok row) :
    Fields.firstOf row.fields ["alert_message", "preview", "alert_message_code", "description"] =
      message alert := by
  have hmessage : row.fields.get "alert_message" = alert.get "alert_message" :=
    row_get h (by decide)
  have hpreview : row.fields.get "preview" =
      (Fields.firstOf alert ["alert_message_code", "alert_message"]).ifNull
        (.string "No message".toList) := by
    obtain ⟨rawImage, alert', date, halert, rfl⟩ := row_eq_rowOf h
    cases halert
    exact rowOf_preview clock siteName rawImage alert date
  rw [Fields.firstOf_cons, Fields.firstOf_cons, hmessage, hpreview, message]
  simp only [Fields.firstOf_cons]
  cases alert.get "alert_message" with
  | null => cases alert.get "alert_message_code" <;> rfl
  | _ => rfl

theorem message_ne_null (alert : Fields) : message alert ≠ .null := by
  rw [message]
  cases Fields.firstOf alert ["alert_message", "alert_message_code"] <;> exact fun h => by cases h

/-- A row without chips is described by its message alone. -/
theorem whatWeSee_row (K : Casing) (h : f.row clock siteName (.map alert) = .ok row)
    (hitems : items alert = []) :
    whatWeSee K row.fields = whatWeSee K [("alert_message".toList, message alert)] := by
  have hnone : items row.fields = [] := by
    rw [items, row_get h (by decide), row_get h (by decide)]
    exact hitems
  have hmessage : Fields.firstOf [("alert_message".toList, message alert)]
      ["alert_message", "preview", "alert_message_code", "description"] = message alert := by
    rw [Fields.firstOf_cons]
    exact Json.ifNull_of_ne_null (message_ne_null alert) _
  have hpretty : pretty row.fields = pretty [("alert_message".toList, message alert)] := by
    rw [pretty, pretty, message_row h, hmessage]
  have hnone' : items [("alert_message".toList, message alert)] = [] := rfl
  rw [whatWeSee, whatWeSee, hnone, hnone', hpretty]

end AlertsFile

/-! ## The list after the fetch -/

theorem forall_rows_iff {R : Json → AlertRow → Prop} {Q : Json → Prop} {D : AlertRow → Prop}
    (hiff : ∀ e row, R e row → (D row ↔ Q e)) {l : List Json} {rows : List AlertRow}
    (h : List.Forall₂ R l rows) : (∀ row ∈ rows, D row) ↔ ∀ e ∈ l, Q e := by
  induction h with
  | nil => simp
  | cons hr _ ih => rw [List.forall_mem_cons, List.forall_mem_cons, ih, hiff _ _ hr]

/-- After the fetch has brought alerts that can all be read, whatever is done to the
page, every tile of its list can be drawn exactly when every alert that came has no
`alert_type` or a text for it. -/
theorem AlertsPage.tiles_after_fetch {clock : Clock} {siteName : Text} {es es' : List AlertsEvent}
    {s u t : AlertsLive} {o : HttpOutcome} {l : List Json} (zone : DateTime → LocalTime)
    (now : DateTime)
    (hrun : Runs.exec (alertsPage clock siteName).step (alertsPage clock siteName).opened es = some s)
    (hm : s.frame.mounted = true) (hl : GraphQLService.getAlerts o = some l)
    (hread : ∀ e ∈ l, AlertsFile.alerts.Readable e)
    (hfetch : (alertsPage clock siteName).step s (.answer 0 (.alerts (.ok o))) = some u)
    (hrest : Runs.exec (alertsPage clock siteName).step u es' = some t) :
    (∀ row ∈ t.frame.fields.alerts, ∃ tile, AlertTile.build zone now row = .ok tile) ↔
      ∀ e ∈ l, TypeIsText e := by
  obtain ⟨hrows, hwait, h0⟩ := AlertsFile.fetch_rows (f := .alerts) hrun hm hl hread hfetch
  obtain ⟨hperm, -, -⟩ := AlertsFile.sorted_of_exec (f := .alerts) hwait h0 hrest
  calc
    _ ↔ ∀ row ∈ u.frame.fields.alerts, ∃ tile, AlertTile.build zone now row = .ok tile :=
      forall_congr' fun row => imp_congr_left hperm.mem_iff
    _ ↔ ∀ e ∈ l, TypeIsText e :=
      forall_rows_iff (fun e row h => AlertsFile.build_row_iff (f := .alerts) zone now h) hrows

/-- The alert that came has a number for its type. -/
theorem AlertsPage.tile_of_number :
    ∃ u, (alertsPage ⟨fun _ => none, ⟨0⟩⟩ []).step (alertsPage ⟨fun _ => none, ⟨0⟩⟩ []).opened
        (.answer 0 (.alerts (.ok (AlertsFile.alertsResponse [.map [("alert_type".toList, .int 3)]])))) = some u ∧
      ¬ ∀ row ∈ u.frame.fields.alerts, ∃ tile,
        AlertTile.build (fun _ => ⟨1970, 1, 1, 0, 0, by decide, by decide⟩) ⟨0⟩ row = .ok tile := by
  have hread : ∀ e ∈ ([.map [("alert_type".toList, .int 3)]] : List Json),
      AlertsFile.alerts.Readable e := by
    intro e he
    obtain rfl := List.mem_singleton.mp he
    exact ⟨_, rfl, fun i hi => nomatch hi⟩
  obtain ⟨u, hu⟩ : ∃ u, (alertsPage ⟨fun _ => none, ⟨0⟩⟩ []).step
      (alertsPage ⟨fun _ => none, ⟨0⟩⟩ []).opened (.answer 0 (.alerts (.ok (AlertsFile.alertsResponse
        [.map [("alert_type".toList, .int 3)]])))) = some u := ⟨_, rfl⟩
  have hopened : Runs.exec (alertsPage ⟨fun _ => none, ⟨0⟩⟩ []).step
      (alertsPage ⟨fun _ => none, ⟨0⟩⟩ []).opened [] = some _ := rfl
  refine ⟨u, hu, fun hdrawn => ?_⟩
  have hrest : Runs.exec (alertsPage ⟨fun _ => none, ⟨0⟩⟩ []).step u [] = some u := rfl
  have htext := (tiles_after_fetch _ _ hopened rfl rfl hread hu hrest).mp hdrawn
  obtain ⟨alert, halert, htype⟩ := htext _ List.mem_cons_self
  cases halert
  rcases htype with h | ⟨text, h⟩ <;> cases h

end SurveilOne
