import SurveilOne.Flutter.Page
import SurveilOne.Service

/-!
# The login page

`signIn` is `_signIn` up to its `await` and `signInDone` is the rest.  The
continuation reports the account it navigates to the alerts page with.  Whoever knows
the stack of routes says how its `pushReplacement` ends, which is inside the `try`.

`SignInRequest.grant` is what an answer grants and `SignInRequest.refusal` what the page
says of it.  `run_signInDone_granted`, `run_signInDone_stranded` and
`run_signInDone_refused` say all that the continuation does on a mounted page.
-/

namespace SurveilOne

open Dart Flutter Flutter.Handler

/-- What a page of a session is opened with. -/
structure Account where
  partyId : Int
  username : Text
  password : Text
  siteName : Text
  fullName : Text
  email : Text
  deriving DecidableEq, Repr

structure LoginFields where
  site : Text
  username : Text
  password : Text
  isLoading : Bool
  errorMessage : Option Text
  latestPartyId : Int
  latestFullName : Text
  latestEmail : Text
  deriving DecidableEq, Repr

/-- The arguments of `signin`. -/
structure SignInRequest where
  username : Text
  password : Text
  siteName : Text
  deriving DecidableEq, Repr

inductive LoginOp where
  | signin (req : SignInRequest)

/-- How a sign-in is answered, and how the `pushReplacement` ends that follows an
account. -/
structure LoginAnswer where
  result : Except Thrown HttpOutcome
  navigation : Except Thrown Unit

inductive LoginTap where
  | editSite (text : Text)
  | editUsername (text : Text)
  | editPassword (text : Text)
  | signIn
  deriving DecidableEq

abbrev LoginHandler := Handler LoginFields (List LoginOp)

namespace LoginPage

def initial : LoginFields :=
  { site := [], username := [], password := [], isLoading := false, errorMessage := none
    latestPartyId := 0, latestFullName := "User".toList, latestEmail := "no-email@domain.com".toList }

/-! ## Reading the response -/

/-- The first candidate that is an int or whose text parses as one. -/
def firstPartyId : List Json → Option Int
  | [] => none
  | .null :: rest => firstPartyId rest
  | .int v :: _ => some v
  | v :: rest =>
    match intTryParse v.toText with
    | some parsed => some parsed
    | none => firstPartyId rest

/-- The eight candidates of `_extractPartyId`, looked up one after the other. -/
def candidates (data : Fields) : Except Thrown (List Json) := do
  let partyPartyId ← (data.get "party").index? "party_id"
  let partyPartyId' ← (data.get "party").index? "partyId"
  let userPartyId ← (data.get "user").index? "party_id"
  let userPartyId' ← (data.get "user").index? "partyId"
  let dataPartyId ← (data.get "data").index? "party_id"
  let dataPartyId' ← (data.get "data").index? "partyId"
  .ok [data.get "party_id", data.get "partyId", partyPartyId, partyPartyId', userPartyId,
    userPartyId', dataPartyId, dataPartyId']

/-- `_extractPartyId`. -/
def extractPartyId (data : Fields) : Except Thrown Int := do
  let candidates ← candidates data
  match firstPartyId candidates with
  | some partyId => .ok partyId
  | none => .error (.stateError "partyId not found in sign-in response".toList)

/-- `'${user['first_name'] ?? ''} ${user['last_name'] ?? ''}'.trim()`. -/
def joinedName (firstName lastName : Json) : Text :=
  ((firstName.ifNull (.string [])).toText ++ ' ' :: (lastName.ifNull (.string [])).toText).trim

/-- `v.isNotEmpty ? v : fallback`, where a `String` is wanted. -/
def notEmptyOr (v : Json) (fallback : Text) : Except Thrown Text := do
  if ← v.isNotEmpty then v.asString else .ok fallback

/-- The full name `_extractUserInfo` finds. -/
def fullNameOf (user : Json) : Except Thrown Json := do
  let fullName ← user.index "full_name"
  let name ← user.index "name"
  let userName ← user.index "user_name"
  let firstName ← user.index "first_name"
  let lastName ← user.index "last_name"
  .ok (fullName.ifNull (name.ifNull (userName.ifNull (.string (joinedName firstName lastName)))))

/-- `_extractUserInfo`: full name and email. -/
def extractUserInfo (user : Json) : Except Thrown (Text × Text) := do
  let fullName ← fullNameOf user
  let email ← user.index "email"
  let fullName ← notEmptyOr fullName "User".toList
  let email ← notEmptyOr (email.ifNull (.string [])) "no-email@domain.com".toList
  .ok (fullName, email)

/-! ## Signing in -/

section SignIn

variable (K : Casing)

/-- The site in the form, as it is sent and passed on. -/
def siteNameOf (site : Text) : Text :=
  if site.trim.isEmpty then "TEST_SITE".toList else K.upper site.trim

/-- The identity in the form. -/
def requestOf (s : LoginFields) : SignInRequest :=
  { username := s.username.trim, password := s.password.trim, siteName := siteNameOf K s.site }

/-- `_signIn` up to its `await`. -/
def signIn : LoginHandler := do
  setState fun s => { s with isLoading := true, errorMessage := none }
  let s ← getFields
  pure [.signin (requestOf K s)]

end SignIn

/-- The account of a response without an error code. -/
def accountOf (req : SignInRequest) (data : Fields) : Except Thrown Account := do
  let partyId ← extractPartyId data
  let userInfo ← extractUserInfo (((data.get "party").ifNull (data.get "user")).ifNull (.map []))
  .ok
    { partyId := partyId, username := req.username, password := req.password
      siteName := req.siteName, fullName := userInfo.1, email := userInfo.2 }

def setError (message : String) : Handler LoginFields (Option Account) := do
  setState fun s => { s with errorMessage := some message.toList }
  pure none

/-- The `try` block once there is a result. -/
def receive (navigation : Except Thrown Unit) (req : SignInRequest) (data : Option Fields) :
    Handler LoginFields (Option Account) :=
  match data with
  | none => setError "Something went wrong. Please try again."
  | some data =>
    if (data.get "error_code").isNull then do
      let account ← lift (accountOf req data)
      assign fun s => { s with
        latestPartyId := account.partyId
        latestFullName := account.fullName
        latestEmail := account.email }
      let m ← mounted
      if m then
        lift navigation
        pure (some account)
      else pure none
    else
      -- The dollar sign is escaped in the source.
      setError "Login failed. Error code: $\x7bdata['error_code']\x7d"

/-- `_signIn` after its `await`.  The account is the one `pushReplacement` opens
the alerts page with. -/
def signInDone (navigation : Except Thrown Unit) (req : SignInRequest)
    (r : Except Thrown (Option Fields)) : Handler LoginFields (Option Account) :=
  tryFinally
    (tryCatch
      (do
        let data ← lift r
        receive navigation req data)
      fun _ => setError "Sign-in failed: $e")
    (whenMounted (setState fun s => { s with isLoading := false }))

end LoginPage

/-- The account that an answer to a sign-in grants. -/
def SignInRequest.grant (req : SignInRequest) (r : Except Thrown (Option Fields)) :
    Option Account :=
  match r with
  | .ok (some data) =>
    if (data.get "error_code").isNull then (LoginPage.accountOf req data).toOption else none
  | _ => none

/-- What the page says of an answer, which is nothing where it grants an account and the
navigation goes through. -/
def SignInRequest.refusal (req : SignInRequest) (navigation : Except Thrown Unit) :
    Except Thrown (Option Fields) → Option Text
  | .error _ => some "Sign-in failed: $e".toList
  | .ok none => some "Something went wrong. Please try again.".toList
  | .ok (some data) =>
    if (data.get "error_code").isNull then
      match LoginPage.accountOf req data >>= fun _ => navigation with
      | .ok _ => none
      | .error _ => some "Sign-in failed: $e".toList
    else some "Login failed. Error code: $\x7bdata['error_code']\x7d".toList

def LoginFields.signedIn (s : LoginFields) (account : Account) : LoginFields :=
  { s with
    latestPartyId := account.partyId
    latestFullName := account.fullName
    latestEmail := account.email
    isLoading := false }

/-- The page says why the sign-in came to nothing. -/
def LoginFields.refused (s : LoginFields) (message : Text) : LoginFields :=
  { s with errorMessage := some message, isLoading := false }

/-- What the page remembers of its last sign-in is the same. -/
structure LoginFields.SameLatest (f g : LoginFields) : Prop where
  partyId : g.latestPartyId = f.latestPartyId
  fullName : g.latestFullName = f.latestFullName
  email : g.latestEmail = f.latestEmail

namespace LoginFields.SameLatest

theorem refl (f : LoginFields) : f.SameLatest f := ⟨rfl, rfl, rfl⟩

theorem trans {f g h : LoginFields} (hfg : f.SameLatest g) (hgh : g.SameLatest h) :
    f.SameLatest h :=
  ⟨hgh.partyId.trans hfg.partyId, hgh.fullName.trans hfg.fullName, hgh.email.trans hfg.email⟩

theorem refused {f g : LoginFields} (h : f.SameLatest g) (message : Text) :
    f.SameLatest (g.refused message) :=
  ⟨h.partyId, h.fullName, h.email⟩

end LoginFields.SameLatest

theorem SignInRequest.grant_eq_some {req : SignInRequest} {r : Except Thrown (Option Fields)}
    {account : Account} (h : req.grant r = some account) :
    ∃ data, r = .ok (some data) ∧ Fields.get data "error_code" = .null ∧
      LoginPage.accountOf req data = .ok account := by
  unfold grant at h
  split at h
  · rename_i data
    split at h
    · rename_i hnull
      refine ⟨data, rfl, Json.isNull_iff.mp hnull, ?_⟩
      cases haccount : LoginPage.accountOf req data with
      | ok a =>
        rw [haccount] at h
        rw [Option.some.inj h]
      | error e =>
        rw [haccount] at h
        cases h
    · cases h
  · cases h

theorem SignInRequest.refusal_eq_none_iff (req : SignInRequest) (navigation : Except Thrown Unit)
    (r : Except Thrown (Option Fields)) :
    req.refusal navigation r = none ↔ req.grant r ≠ none ∧ navigation = .ok () := by
  cases r with
  | error e => simp [refusal, grant]
  | ok data =>
    cases data with
    | none => simp [refusal, grant]
    | some data =>
      rw [refusal, grant]
      split
      · cases LoginPage.accountOf req data <;> cases navigation <;>
          simp [Except.toOption, bind, Except.bind]
      · simp

/-- The page says something where no account is granted. -/
theorem SignInRequest.exists_refusal {req : SignInRequest} {r : Except Thrown (Option Fields)}
    (h : req.grant r = none) (navigation : Except Thrown Unit) :
    ∃ message, req.refusal navigation r = some message :=
  Option.ne_none_iff_exists'.mp fun hnone => ((req.refusal_eq_none_iff navigation r).mp hnone).1 h

theorem SignInRequest.refusal_stranded {req : SignInRequest} {r : Except Thrown (Option Fields)}
    {account : Account} (h : req.grant r = some account) (e : Thrown) :
    req.refusal (.error e) r = some "Sign-in failed: $e".toList := by
  obtain ⟨data, rfl, hnull, haccount⟩ := grant_eq_some h
  rw [refusal, if_pos (Json.isNull_iff.mpr hnull), haccount]
  rfl

/-- An account carries the request it was granted for and the party id of the
response. -/
theorem LoginPage.accountOf_ok {req : SignInRequest} {data : Fields} {account : Account}
    (h : accountOf req data = .ok account) :
    account.username = req.username ∧ account.password = req.password ∧
      account.siteName = req.siteName ∧ extractPartyId data = .ok account.partyId := by
  rw [accountOf] at h
  simp only [bind_ok_iff] at h
  obtain ⟨partyId, hparty, userInfo, -, haccount⟩ := h
  cases haccount
  exact ⟨rfl, rfl, rfl, hparty⟩

namespace LoginPage

/-- On an answer that grants nothing the `try` block throws or sets its message. -/
theorem run_receive_refused {req : SignInRequest} {r : Except Thrown (Option Fields)}
    {navigation : Except Thrown Unit} {message : Text} (h : req.grant r = none)
    (hmessage : req.refusal navigation r = some message) (fr : Frame LoginFields) :
    (∃ e, (lift r >>= fun data => receive navigation req data).run fr = (.error e, fr)) ∧
        "Sign-in failed: $e".toList = message ∨
      ∃ text : String, text.toList = message ∧
        (lift r >>= fun data => receive navigation req data).run fr = (setError text).run fr := by
  cases r with
  | error e =>
    cases hmessage
    exact Or.inl ⟨⟨e, run_bind_error (run_lift _ fr)⟩, rfl⟩
  | ok data =>
    rw [run_bind_ok (run_lift _ fr)]
    cases data with
    | none =>
      cases hmessage
      exact Or.inr ⟨_, rfl, rfl⟩
    | some data =>
      rw [SignInRequest.refusal] at hmessage
      rw [receive]
      by_cases hnull : (data.get "error_code").isNull = true
      · cases haccount : accountOf req data with
        | ok account =>
          rw [SignInRequest.grant, if_pos hnull, haccount] at h
          cases h
        | error e =>
          rw [if_pos hnull, haccount] at hmessage
          cases hmessage
          rw [if_pos hnull]
          exact Or.inl ⟨⟨e, run_bind_error (run_lift _ fr)⟩, rfl⟩
      · rw [if_neg hnull] at hmessage
        cases hmessage
        rw [if_neg hnull]
        exact Or.inr ⟨_, rfl, rfl⟩

section Mounted

variable {fr : Frame LoginFields} (hm : fr.mounted = true)

include hm

theorem run_finally (fields : LoginFields) :
    (whenMounted (setState fun s : LoginFields => { s with isLoading := false })).run
        { fr with fields := fields } =
      (.ok (), { fr with fields := { fields with isLoading := false } }) := by
  have hm' : ({ fr with fields := fields } : Frame LoginFields).mounted = true := hm
  rw [run_whenMounted hm', run_setState hm']

theorem run_setError (message : String) (fields : LoginFields) :
    (setError message).run { fr with fields := fields } =
      (.ok none, { fr with fields := { fields with errorMessage := some message.toList } }) := by
  have hm' : ({ fr with fields := fields } : Frame LoginFields).mounted = true := hm
  rw [setError, run_bind_ok (run_setState hm' _)]
  rfl

/-- The account is put away before the navigation. -/
theorem run_receive_granted (navigation : Except Thrown Unit) {req : SignInRequest} {data : Fields}
    {account : Account} (hnull : Fields.get data "error_code" = .null)
    (h : accountOf req data = .ok account) :
    (receive navigation req (some data)).run fr = (navigation.map fun _ => some account, { fr with
      fields := { fr.fields with
        latestPartyId := account.partyId
        latestFullName := account.fullName
        latestEmail := account.email } }) := by
  rw [receive, if_pos (Json.isNull_iff.mpr hnull), h, run_bind_ok (run_lift _ fr),
    run_bind_ok (run_assign _ fr), run_bind_ok (run_mounted _)]
  simp only [hm]
  cases navigation <;> rfl

theorem run_signInDone_granted {req : SignInRequest} {r : Except Thrown (Option Fields)}
    {account : Account} (h : req.grant r = some account) :
    (signInDone (.ok ()) req r).run fr =
      (.ok (some account), { fr with fields := fr.fields.signedIn account }) := by
  obtain ⟨data, rfl, hnull, haccount⟩ := SignInRequest.grant_eq_some h
  have hbody : (tryCatch (lift (.ok (some data)) >>= fun data => receive (.ok ()) req data)
      fun _ => setError "Sign-in failed: $e").run fr = _ :=
    run_tryCatch_ok ((run_bind_ok (run_lift _ fr)).trans (run_receive_granted hm _ hnull haccount))
  exact run_tryFinally_ok hbody (run_finally hm _)

/-- The navigation throws, and the account stays put away. -/
theorem run_signInDone_stranded {req : SignInRequest} {r : Except Thrown (Option Fields)}
    {account : Account} (h : req.grant r = some account) (e : Thrown) :
    (signInDone (.error e) req r).run fr = (.ok none, { fr with
      fields := (fr.fields.signedIn account).refused "Sign-in failed: $e".toList }) := by
  obtain ⟨data, rfl, hnull, haccount⟩ := SignInRequest.grant_eq_some h
  have hbody : (tryCatch (lift (.ok (some data)) >>= fun data => receive (.error e) req data)
      fun _ => setError "Sign-in failed: $e").run fr = _ :=
    (run_tryCatch_error ((run_bind_ok (run_lift _ fr)).trans
      (run_receive_granted hm _ hnull haccount))).trans (run_setError hm _ _)
  exact run_tryFinally_ok hbody (run_finally hm _)

theorem run_signInDone_refused {req : SignInRequest} {r : Except Thrown (Option Fields)}
    {navigation : Except Thrown Unit} {message : Text} (h : req.grant r = none)
    (hmessage : req.refusal navigation r = some message) :
    (signInDone navigation req r).run fr =
      (.ok none, { fr with fields := fr.fields.refused message }) := by
  have hbody : (tryCatch (lift r >>= fun data => receive navigation req data)
      fun _ => setError "Sign-in failed: $e").run fr =
      (.ok none, { fr with fields := { fr.fields with errorMessage := some message } }) := by
    rcases run_receive_refused h hmessage fr with ⟨⟨e, herror⟩, rfl⟩ | ⟨text, rfl, hset⟩
    · exact (run_tryCatch_error herror).trans (run_setError hm _ _)
    · exact run_tryCatch_ok (hset.trans (run_setError hm _ _))
  exact run_tryFinally_ok hbody (run_finally hm _)

theorem run_signIn (K : Casing) :
    (signIn K).run fr = (.ok [.signin (requestOf K fr.fields)],
      { fr with fields := { fr.fields with isLoading := true, errorMessage := none } }) := by
  rw [signIn, run_bind_ok (run_setState hm _)]
  rfl

end Mounted

end LoginPage

/-- The page by itself.  Its button is disabled while it is loading. -/
def loginPage (K : Casing) : PageCode LoginFields LoginOp LoginAnswer LoginTap where
  initial := LoginPage.initial
  initState := pure []
  onTap
    | .editSite text, _ => some do
      assign fun s => { s with site := text }
      pure []
    | .editUsername text, _ => some do
      assign fun s => { s with username := text }
      pure []
    | .editPassword text, _ => some do
      assign fun s => { s with password := text }
      pure []
    | .signIn, s => if s.isLoading then none else some (LoginPage.signIn K)
  resume
    | .signin req, a => some do
      let _ ← LoginPage.signInDone a.navigation req (a.result.map GraphQLService.signin)
      pure []

/-- What a tap leaves outstanding and what it does not touch. -/
theorem loginPage_tap {K : Casing} {t : LoginTap} {s : LoginFields} {h : LoginHandler}
    (ht : (loginPage K).onTap t s = some h) :
    ∃ s', h.run { fields := s } =
        (.ok (if t = .signIn then [.signin (LoginPage.requestOf K s)] else []), { fields := s' }) ∧
      s.SameLatest s' := by
  cases t with
  | signIn =>
    rw [loginPage] at ht
    simp only at ht
    split at ht
    · cases ht
    · cases ht
      exact ⟨_, LoginPage.run_signIn rfl K, ⟨rfl, rfl, rfl⟩⟩
  | _ => cases ht; exact ⟨_, rfl, ⟨rfl, rfl, rfl⟩⟩

/-! ## Timeliness -/

namespace LoginPage

theorem setError_timely (message : String) : (setError message).Timely :=
  .bind (.setState _) fun _ => .pure _

theorem setError_late (message : String) : (setError message).Late :=
  .bind_left (.setState _) fun _ => .pure _

theorem receive_timely (navigation : Except Thrown Unit) (req : SignInRequest)
    (data : Option Fields) : (receive navigation req data).Timely := by
  cases data with
  | none => exact setError_timely _
  | some data =>
    rw [receive]
    split
    · refine .bind (.lift _) fun _ => .bind (.assign _) fun _ => .bind .isMounted fun m => ?_
      cases m with
      | true => exact .bind (.lift _) fun _ => .pure _
      | false => exact .pure _
    · exact setError_timely _

theorem signIn_timely (K : Casing) : (signIn K).Timely :=
  .bind (.setState _) fun _ => .bind .getFields fun _ => .pure _

theorem signInDone_timely (navigation : Except Thrown Unit) (req : SignInRequest)
    (r : Except Thrown (Option Fields)) : (signInDone navigation req r).Timely :=
  .tryFinally
    (.tryCatch (.bind (.lift _) fun data => receive_timely navigation req data)
      fun _ => setError_timely _)
    (.whenMounted (.setState _))

/-! ## After the page was disposed -/

section Disposed

variable {fr : Frame LoginFields} (hm : fr.mounted = false)

include hm

theorem setError_disposed (message : String) (account : Account) :
    ((setError message).run fr).1 ≠ .ok (some account) := by
  have hlate : (setError message).run fr = _ := run_bind_error (run_setState_late hm _)
  rw [hlate]
  exact fun h => nomatch h

theorem receive_disposed (navigation : Except Thrown Unit) (req : SignInRequest)
    (data : Option Fields) (account : Account) :
    ((receive navigation req data).run fr).1 ≠ .ok (some account) := by
  cases data with
  | none => exact setError_disposed hm _ account
  | some data =>
    rw [receive]
    split
    · intro h
      obtain ⟨found, fr', hlift, h⟩ := result_bind_ok h
      obtain ⟨-, rfl⟩ := Prod.mk.inj hlift
      rw [run_bind_ok (run_assign _ fr), run_bind_ok (run_mounted _)] at h
      simp only [hm] at h
      cases h
    · exact setError_disposed hm _ account

/-- No account is navigated with. -/
theorem signInDone_disposed (navigation : Except Thrown Unit) (req : SignInRequest)
    (r : Except Thrown (Option Fields)) (account : Account) :
    ((signInDone navigation req r).run fr).1 ≠ .ok (some account) := by
  intro h
  rcases result_tryCatch_ok (result_tryFinally_ok h) with hdone | ⟨e, fr', herror, hcaught⟩
  · obtain ⟨data, fr', hlift, hreceive⟩ := result_bind_ok hdone
    cases hlift
    exact receive_disposed hm navigation req _ account hreceive
  · have hbody := (Timely.bind (.lift r) fun data => receive_timely navigation req data).mounted fr
    rw [herror] at hbody
    exact setError_disposed (hbody.trans hm) _ account hcaught

end Disposed

end LoginPage

end SurveilOne
