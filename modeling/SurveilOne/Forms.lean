import SurveilOne.Lifecycle
import SurveilOne.SignUp

/-!
# What the two forms say

The login page has one request out at a time, so what it says is what the last answer
says.  What it remembers for its links is of the last answer that granted an account,
also where the navigation that followed threw.

The sign-up page may have many requests out.  It says one thing for each answer, and
each tap on its button either sends a request or asks for a mobile number.
-/

namespace SurveilOne

open Dart Flutter Flutter.Handler

abbrev LoginLive := Live LoginFields LoginOp LoginAnswer

abbrev LoginEvent := Event LoginAnswer LoginTap

abbrev SignUpLive := Live SignUpFields SignUpOp HttpOutcome

abbrev SignUpEvent := Event HttpOutcome SignUpTap

/-! ## Signing in -/

/-- What an exchange of the login page granted, and what it was refused with. -/
def LoginOp.grant : LoginOp × LoginAnswer → Option Account
  | (signin req, a) => req.grant (a.result.map GraphQLService.signin)

def LoginOp.refusal : LoginOp × LoginAnswer → Option Text
  | (signin req, a) => req.refusal a.navigation (a.result.map GraphQLService.signin)

/-- The page remembers the account, or what it was opened with. -/
def LoginFields.Remembers (s : LoginFields) : Option Account → Prop
  | none => LoginPage.initial.SameLatest s
  | some account => s.latestPartyId = account.partyId ∧ s.latestFullName = account.fullName ∧
      s.latestEmail = account.email

theorem LoginFields.Remembers.of_sameLatest {s s' : LoginFields} {account : Option Account}
    (h : s.Remembers account) (hsame : s.SameLatest s') : s'.Remembers account := by
  cases account with
  | none => exact h.trans hsame
  | some account =>
    exact ⟨hsame.partyId.trans h.1, hsame.fullName.trans h.2.1, hsame.email.trans h.2.2⟩

namespace LoginPage

/-- The page waits for one answer while it is loading and for none otherwise.  Once it
is idle it says what the last answer says, and it remembers the account that was
granted last. -/
structure SaysLast (s : LoginLive) : Prop where
  loading : s.outstanding.length = if s.frame.fields.isLoading then 1 else 0
  message : s.frame.fields.errorMessage =
    if s.frame.fields.isLoading then none else s.exchanges.getLast?.bind LoginOp.refusal
  remembers : s.frame.fields.Remembers (s.exchanges.filterMap LoginOp.grant).getLast?

section Steps

variable {K : Casing} {s t : LoginLive}

theorem SaysLast.edit (h : SaysLast s) (hmatched : s.Matched) {fields : LoginFields}
    (hloading : fields.isLoading = s.frame.fields.isLoading)
    (hmessage : fields.errorMessage = s.frame.fields.errorMessage)
    (hsame : s.frame.fields.SameLatest fields) :
    SaysLast (s.settle (.ok [], { s.frame with fields := fields })) := by
  refine ⟨?_, ?_, ?_⟩
  · rw [Live.settle_ok_outstanding, Live.settle_frame]
    show (s.outstanding ++ []).length = if fields.isLoading then 1 else 0
    rw [List.append_nil, hloading, h.loading]
  · rw [hmatched.exchanges_settle, Live.settle_frame]
    show fields.errorMessage = if fields.isLoading then none else _
    rw [hmessage, hloading, h.message]
  · rw [hmatched.exchanges_settle, Live.settle_frame]
    exact h.remembers.of_sameLatest hsame

theorem SaysLast.signIn (h : SaysLast s) (hmatched : s.Matched) (hm : s.frame.mounted = true)
    (hidle : s.frame.fields.isLoading = false) :
    SaysLast (s.settle ((LoginPage.signIn K).run s.frame)) := by
  have hnone := h.loading
  rw [hidle] at hnone
  rw [run_signIn hm K]
  refine ⟨?_, rfl, ?_⟩
  · rw [Live.settle_ok_outstanding, List.length_append, hnone]
    rfl
  · rw [hmatched.exchanges_settle]
    exact h.remembers.of_sameLatest ⟨rfl, rfl, rfl⟩

/-- The one request that is out is answered. -/
theorem SaysLast.close (h : SaysLast s) (hmatched : s.Matched) {i : Nat} {op : LoginOp}
    (hi : i ∈ s.outstanding) (hop : s.started[i]? = some op) (a : LoginAnswer)
    {fields : LoginFields} (hidle : fields.isLoading = false)
    (hmessage : fields.errorMessage = LoginOp.refusal (op, a))
    (hremembers : fields.Remembers ((s.exchanges ++ [(op, a)]).filterMap LoginOp.grant).getLast?) :
    SaysLast ((s.close i a).settle (.ok [], { s.frame with fields := fields })) := by
  have hone : s.outstanding.length ≤ 1 := by
    rw [h.loading]
    split <;> omega
  refine ⟨?_, ?_, ?_⟩
  · rw [Live.settle_ok_outstanding, Live.settle_frame, Live.close_outstanding_eq_nil hone hi a]
    show 0 = if fields.isLoading then 1 else 0
    rw [hidle]
    rfl
  · rw [(hmatched.close hop a).exchanges_settle, Live.exchanges_close hop, List.getLast?_concat,
      Live.settle_frame]
    show fields.errorMessage = if fields.isLoading then none else _
    rw [hidle]
    exact hmessage
  · rw [(hmatched.close hop a).exchanges_settle, Live.exchanges_close hop]
    exact hremembers

/-- The account of the last exchange is the one to remember. -/
theorem getLast?_grant {op : LoginOp} {a : LoginAnswer} {account : Account}
    (h : LoginOp.grant (op, a) = some account) (l : List (LoginOp × LoginAnswer)) :
    ((l ++ [(op, a)]).filterMap LoginOp.grant).getLast? = some account := by
  rw [List.filterMap_append, List.filterMap_cons_some h, List.filterMap_nil, List.getLast?_concat]

theorem SaysLast.answer (h : SaysLast s) (hmatched : s.Matched) (hm : s.frame.mounted = true)
    {i : Nat} {req : SignInRequest} (hi : i ∈ s.outstanding)
    (hop : s.started[i]? = some (.signin req)) (a : LoginAnswer) :
    SaysLast ((s.close i a).settle ((signInDone a.navigation req
      (a.result.map GraphQLService.signin) >>= fun _ => (pure [] : LoginHandler)).run s.frame)) := by
  cases hgrant : req.grant (a.result.map GraphQLService.signin) with
  | none =>
    obtain ⟨message, hmessage⟩ := SignInRequest.exists_refusal hgrant a.navigation
    have hnone : LoginOp.grant (.signin req, a) = none := hgrant
    rw [run_bind_ok (run_signInDone_refused hm hgrant hmessage)]
    refine h.close hmatched hi hop a rfl hmessage.symm ?_
    rw [List.filterMap_append, List.filterMap_cons_none hnone, List.filterMap_nil, List.append_nil]
    exact h.remembers.of_sameLatest ⟨rfl, rfl, rfl⟩
  | some account =>
    cases hnavigation : a.navigation with
    | ok u =>
      -- The message was taken away when the request was sent.
      have hloading : s.frame.fields.isLoading = true := by
        by_contra hidle
        have hlen := h.loading
        rw [if_neg hidle] at hlen
        exact absurd hlen (Nat.ne_of_gt (List.length_pos_of_mem hi))
      have hmessage := h.message
      rw [hloading] at hmessage
      have hrefusal : LoginOp.refusal (.signin req, a) = none :=
        (req.refusal_eq_none_iff _ _).mpr ⟨hgrant ▸ Option.some_ne_none account, hnavigation⟩
      rw [run_bind_ok (run_signInDone_granted hm hgrant)]
      refine h.close hmatched hi hop a rfl (hmessage.trans hrefusal.symm) ?_
      rw [getLast?_grant hgrant]
      exact ⟨rfl, rfl, rfl⟩
    | error e =>
      rw [run_bind_ok (run_signInDone_stranded hm hgrant e)]
      have hrefusal : LoginOp.refusal (.signin req, a) = some "Sign-in failed: $e".toList := by
        rw [LoginOp.refusal, hnavigation]
        exact SignInRequest.refusal_stranded hgrant e
      refine h.close hmatched hi hop a rfl hrefusal.symm ?_
      rw [getLast?_grant hgrant]
      exact ⟨rfl, rfl, rfl⟩

theorem saysLast_step {e : LoginEvent} (hs : s.Matched ∧ (s.frame.mounted = true → SaysLast s))
    (h : (loginPage K).step s e = some t) :
    t.Matched ∧ (t.frame.mounted = true → SaysLast t) := by
  refine ⟨PageCode.matched_step hs.1 h, fun ht => ?_⟩
  have hm := PageCode.mounted_before (page_timely K) h ht
  have hsaid := hs.2 hm
  cases e with
  | tap tap =>
    obtain ⟨-, hdl, hhdl, rfl⟩ := PageCode.step_tap h
    cases tap with
    | signIn =>
      rw [loginPage] at hhdl
      simp only at hhdl
      split at hhdl
      · cases hhdl
      · cases hhdl
        exact hsaid.signIn hs.1 hm (by simpa using ‹¬ s.frame.fields.isLoading = true›)
    | _ => cases hhdl; exact hsaid.edit hs.1 rfl rfl ⟨rfl, rfl, rfl⟩
  | answer i a =>
    obtain ⟨hi, op, hdl, hop, hhdl, rfl⟩ := PageCode.step_answer h
    cases op
    cases hhdl
    exact hsaid.answer hs.1 hm hi hop a
  | dispose =>
    obtain ⟨-, rfl⟩ := PageCode.step_dispose h
    cases ht

end Steps

theorem saysLast_opened (K : Casing) : SaysLast (loginPage K).opened :=
  ⟨rfl, rfl, ⟨rfl, rfl, rfl⟩⟩

/-- In every run the mounted login page has one request out while it is loading and
none otherwise, says what its last answer says, and remembers the account that was
granted last. -/
theorem saysLast_throughout (K : Casing) (es : List LoginEvent) :
    Runs.Throughout (loginPage K).step (fun s => s.frame.mounted = true → SaysLast s)
      (loginPage K).opened es :=
  Runs.throughout_of_step (I := fun s : LoginLive => s.Matched ∧ (s.frame.mounted = true → SaysLast s))
    (fun _ _ _ => saysLast_step) (fun _ hs => hs.2)
    ⟨PageCode.matched_opened, fun _ => saysLast_opened K⟩ es

end LoginPage

/-! ## Signing up -/

/-- A tap on the button of the sign-up page. -/
def isSignUp : SignUpEvent → Bool
  | .tap .signUp => true
  | _ => false

namespace SignUpPage

def blankMobile : Text := "Please enter a valid mobile number".toList

/-- What the page says of an exchange. -/
def messageFor (x : SignUpOp × HttpOutcome) : Text := snackBarOf (GraphQLService.signup x.2)

theorem messageFor_ne (x : SignUpOp × HttpOutcome) : messageFor x ≠ blankMobile := by
  rw [messageFor, snackBarOf]
  split
  · decide
  · exact fun h => absurd (List.cons.inj h).1 (by decide)

theorem showSnackBar_timely (text : Text) : (showSnackBar text).Timely := by
  refine .bind .isMounted fun m => ?_
  split
  · exact .assign _
  · exact .throw _

theorem page_timely : signUpPage.Timely where
  initState := .pure _
  onTap t s h ht := by
    cases t with
    | signUp =>
      cases ht
      refine .bind .getFields fun s => ?_
      split
      · exact .bind (showSnackBar_timely _) fun _ => .pure _
      · exact .pure _
    | _ => cases ht; exact .bind (.assign _) fun _ => .pure _
  resume op a h hr := by
    cases op
    cases hr
    exact .bind (.bind (showSnackBar_timely _) fun _ => .pure _) fun _ => .pure _

/-- Apart from asking for a mobile number the page has said one thing for each answer,
in their order, and every request it has sent holds a mobile number. -/
structure SaysEach (s : SignUpLive) : Prop where
  messages : s.frame.fields.snackBars.filter (· ≠ blankMobile) = s.exchanges.map messageFor
  mobiles : ∀ req, .signup req ∈ s.started → ∃ m, req.party.get "mobile" = .string m ∧ m ≠ []

/-- The requests sent and the times a mobile number was asked for. -/
def handled (s : SignUpLive) : Nat :=
  s.started.length + s.frame.fields.snackBars.count blankMobile

section Steps

variable {s t : SignUpLive}

theorem SaysEach.edit (h : SaysEach s) (hmatched : s.Matched) {fields : SignUpFields}
    (hsame : fields.snackBars = s.frame.fields.snackBars) :
    SaysEach (s.settle (.ok [], { s.frame with fields := fields })) ∧
      handled (s.settle (.ok [], { s.frame with fields := fields })) = handled s := by
  refine ⟨⟨?_, ?_⟩, ?_⟩
  · rw [hmatched.exchanges_settle, Live.settle_frame]
    show fields.snackBars.filter _ = _
    rw [hsame, h.messages]
  · rw [Live.settle_ok_started, List.append_nil]
    exact h.mobiles
  · rw [handled, handled, Live.settle_ok_started, List.append_nil, Live.settle_frame]
    show _ + fields.snackBars.count _ = _
    rw [hsame]

/-- A tap on the button sends one request or asks once. -/
theorem SaysEach.signUp (h : SaysEach s) (hmatched : s.Matched) (hm : s.frame.mounted = true) :
    SaysEach (s.settle (SignUpPage.signUp.run s.frame)) ∧
      handled (s.settle (SignUpPage.signUp.run s.frame)) = handled s + 1 := by
  by_cases hmobile : s.frame.fields.mobile.trim = []
  · rw [run_signUp_blank hm hmobile]
    refine ⟨⟨?_, ?_⟩, ?_⟩
    · rw [hmatched.exchanges_settle, Live.settle_frame]
      show (s.frame.fields.snackBars ++ [blankMobile]).filter _ = _
      rw [List.filter_append, h.messages]
      exact List.append_nil _
    · rw [Live.settle_ok_started, List.append_nil]
      exact h.mobiles
    · rw [handled, handled, Live.settle_ok_started, List.append_nil, Live.settle_frame]
      show _ + (s.frame.fields.snackBars ++ [blankMobile]).count blankMobile = _
      rw [List.count_append, List.count_singleton_self, Nat.add_assoc]
  · rw [run_signUp_sent hmobile]
    refine ⟨⟨?_, fun req hreq => ?_⟩, ?_⟩
    · rw [hmatched.exchanges_settle]
      exact h.messages
    · rw [Live.settle_ok_started] at hreq
      rcases List.mem_append.mp hreq with hreq | hreq
      · exact h.mobiles req hreq
      · cases List.mem_singleton.mp hreq
        exact ⟨_, rfl, hmobile⟩
    · rw [handled, handled, Live.settle_ok_started, List.length_append, Nat.add_right_comm]
      rfl

theorem SaysEach.answer (h : SaysEach s) (hmatched : s.Matched) (hm : s.frame.mounted = true)
    {i : Nat} {op : SignUpOp} (hop : s.started[i]? = some op) (o : HttpOutcome) :
    SaysEach ((s.close i o).settle ((signUpDone (GraphQLService.signup o) >>= fun _ =>
        (pure [] : SignUpHandler)).run s.frame)) ∧
      handled ((s.close i o).settle ((signUpDone (GraphQLService.signup o) >>= fun _ =>
        (pure [] : SignUpHandler)).run s.frame)) = handled s := by
  rw [run_bind_ok (run_signUpDone hm _)]
  have hne : messageFor (op, o) ≠ blankMobile := messageFor_ne (op, o)
  refine ⟨⟨?_, ?_⟩, ?_⟩
  · rw [(hmatched.close hop o).exchanges_settle, Live.exchanges_close hop, Live.settle_frame,
      List.map_append, ← h.messages]
    show (s.frame.fields.snackBars ++ [messageFor (op, o)]).filter _ = _
    rw [List.filter_append]
    simp [hne]
  · show ∀ req, .signup req ∈ s.started ++ [] → _
    rw [List.append_nil]
    exact h.mobiles
  · show (s.started ++ []).length +
        (s.frame.fields.snackBars ++ [messageFor (op, o)]).count blankMobile = _
    rw [List.append_nil, List.count_append, List.count_singleton, handled]
    simp [hne]

theorem saysEach_step {e : SignUpEvent} (hs : SaysEach s) (hmatched : s.Matched)
    (h : signUpPage.step s e = some t) (ht : t.frame.mounted = true) :
    SaysEach t ∧ handled t = handled s + if isSignUp e then 1 else 0 := by
  have hm := PageCode.mounted_before page_timely h ht
  cases e with
  | tap tap =>
    obtain ⟨-, hdl, hhdl, rfl⟩ := PageCode.step_tap h
    cases tap with
    | signUp => cases hhdl; exact hs.signUp hmatched hm
    | _ => cases hhdl; exact hs.edit hmatched rfl
  | answer i o =>
    obtain ⟨-, op, hdl, hop, hhdl, rfl⟩ := PageCode.step_answer h
    cases op
    cases hhdl
    exact hs.answer hmatched hm hop o
  | dispose =>
    obtain ⟨-, rfl⟩ := PageCode.step_dispose h
    cases ht

theorem saysEach_exec {es : List SignUpEvent} (hs : SaysEach s) (hmatched : s.Matched)
    (h : Runs.exec signUpPage.step s es = some t) (ht : t.frame.mounted = true) :
    SaysEach t ∧ handled t = handled s + es.countP isSignUp := by
  induction es generalizing s with
  | nil => cases h; exact ⟨hs, rfl⟩
  | cons e rest ih =>
    obtain ⟨u, hu, hrest⟩ := Option.bind_eq_some_iff.mp h
    have hum := PageCode.exec_mounted page_timely hrest ht
    obtain ⟨hsaid, hhandled⟩ := saysEach_step hs hmatched hu hum
    obtain ⟨hsaid', hhandled'⟩ := ih hsaid (PageCode.matched_step hmatched hu) hrest
    refine ⟨hsaid', ?_⟩
    rw [hhandled', hhandled, List.countP_cons, Nat.add_assoc, Nat.add_comm (rest.countP _)]

end Steps

/-- While the page is open it has said one thing for each answer, it has sent no
request without a mobile number, and every tap on its button has sent a request or
been answered by asking for the number. -/
theorem says_after {es : List SignUpEvent} {s : SignUpLive}
    (h : Runs.exec signUpPage.step signUpPage.opened es = some s) (hm : s.frame.mounted = true) :
    SaysEach s ∧ es.countP isSignUp =
      s.started.length + s.frame.fields.snackBars.count blankMobile := by
  have hopened : SaysEach signUpPage.opened := by
    refine ⟨rfl, fun req hreq => ?_⟩
    cases hreq
  obtain ⟨hsaid, hhandled⟩ := saysEach_exec hopened PageCode.matched_opened h hm
  exact ⟨hsaid, (hhandled.trans (Nat.zero_add _)).symm⟩

/-- The button is tapped without a mobile number, then with one. -/
theorem says_after_two_taps :
    ∃ s, Runs.exec signUpPage.step signUpPage.opened
        [.tap .signUp, .tap (.editMobile "5".toList), .tap .signUp] = some s ∧
      SaysEach s ∧ s.frame.fields.snackBars.count blankMobile = 1 := by
  obtain ⟨s, hs, hm, hsent⟩ : ∃ s, Runs.exec signUpPage.step signUpPage.opened
      [.tap .signUp, .tap (.editMobile "5".toList), .tap .signUp] = some s ∧
      s.frame.mounted = true ∧ s.started.length = 1 := ⟨_, rfl, rfl, rfl⟩
  obtain ⟨hsaid, hcount⟩ := says_after hs hm
  refine ⟨s, hs, hsaid, ?_⟩
  rw [hsent] at hcount
  exact (Nat.add_left_cancel (hcount.symm.trans rfl : 1 + _ = 1 + 1))

end SignUpPage

end SurveilOne
