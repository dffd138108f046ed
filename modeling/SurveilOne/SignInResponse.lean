import SurveilOne.Login

/-!
# What a response to a sign-in has to be

The login page looks at the response without checking its shape, so a value of
the wrong type under one key can end the sign-in.  `GrantsAccount` is the shape
with which none of the lookups, tests and casts throws, and `Tells` is what the
page then takes from the response.
-/

namespace SurveilOne

open Dart

namespace LoginPage

/-! ## The party id -/

/-- An int, or a value whose text parses as one. -/
def partyIdIn : Json → Option Int
  | .int v => some v
  | v => intTryParse v.toText

theorem firstPartyId_eq (candidates : List Json) :
    firstPartyId candidates = candidates.findSome? partyIdIn := by
  induction candidates with
  | nil => rfl
  | cons v rest ih =>
    rw [List.findSome?_cons, ← ih]
    cases v with
    | null => rfl
    | int v => rfl
    | _ =>
      rw [firstPartyId, partyIdIn]
      · cases intTryParse _ <;> rfl
      all_goals intros; contradiction

/-- `a?[key]` where it does not throw. -/
def ObjectOrNull : Json → Prop
  | .null => True
  | .map _ => True
  | _ => False

def entry (a : Json) (key : String) : Json :=
  match a with
  | .map m => Fields.get m key
  | _ => .null

theorem index?_ok_iff {a v : Json} {key : String} :
    a.index? key = .ok v ↔ ObjectOrNull a ∧ entry a key = v := by
  cases a with
  | null => exact ⟨fun h => ⟨trivial, Except.ok.inj h⟩, fun h => congrArg Except.ok h.2⟩
  | map m => exact ⟨fun h => ⟨trivial, Except.ok.inj h⟩, fun h => congrArg Except.ok h.2⟩
  | _ => exact iff_of_false (fun h => nomatch h) fun h => h.1

/-- The eight candidates in their order, `null` where there is no object. -/
def candidateValues (data : Fields) : List Json :=
  [data.get "party_id", data.get "partyId", entry (data.get "party") "party_id",
    entry (data.get "party") "partyId", entry (data.get "user") "party_id",
    entry (data.get "user") "partyId", entry (data.get "data") "party_id",
    entry (data.get "data") "partyId"]

/-- The three objects that are looked into are objects if they are there. -/
structure Objects (data : Fields) : Prop where
  party : ObjectOrNull (data.get "party")
  user : ObjectOrNull (data.get "user")
  data : ObjectOrNull (data.get "data")

theorem candidates_ok_iff {data : Fields} {l : List Json} :
    candidates data = .ok l ↔ Objects data ∧ candidateValues data = l := by
  rw [candidates]
  simp only [bind_ok_iff, index?_ok_iff]
  constructor
  · rintro ⟨_, ⟨hparty, rfl⟩, _, ⟨-, rfl⟩, _, ⟨huser, rfl⟩, _, ⟨-, rfl⟩, _, ⟨hdata, rfl⟩, _,
      ⟨-, rfl⟩, hl⟩
    exact ⟨⟨hparty, huser, hdata⟩, Except.ok.inj hl⟩
  · rintro ⟨h, hl⟩
    exact ⟨_, ⟨h.party, rfl⟩, _, ⟨h.party, rfl⟩, _, ⟨h.user, rfl⟩, _, ⟨h.user, rfl⟩, _,
      ⟨h.data, rfl⟩, _, ⟨h.data, rfl⟩, congrArg Except.ok hl⟩

theorem extractPartyId_ok_iff {data : Fields} {partyId : Int} :
    extractPartyId data = .ok partyId ↔
      Objects data ∧ (candidateValues data).findSome? partyIdIn = some partyId := by
  rw [extractPartyId]
  simp only [bind_ok_iff, candidates_ok_iff, firstPartyId_eq]
  constructor
  · rintro ⟨_, ⟨hobjects, rfl⟩, hfirst⟩
    refine ⟨hobjects, ?_⟩
    split at hfirst
    · rw [← Except.ok.inj hfirst]
      assumption
    · cases hfirst
  · rintro ⟨hobjects, hfirst⟩
    exact ⟨_, ⟨hobjects, rfl⟩, by rw [hfirst]⟩

/-! ## The full name and the email -/

/-- `isNotEmpty ? v : fallback` gives a `String`: a text, or something empty.
`null` stands for what `??` has replaced before. -/
def NameLike : Json → Prop
  | .null => True
  | .string _ => True
  | .list l => l = []
  | .map m => m = []
  | _ => False

def textOr (v : Json) (fallback : Text) : Text :=
  match v with
  | .string (c :: s) => c :: s
  | _ => fallback

theorem textOr_ne_nil {v : Json} {fallback : Text} (h : fallback ≠ []) : textOr v fallback ≠ [] := by
  unfold textOr
  split
  · exact List.cons_ne_nil _ _
  · exact h

theorem notEmptyOr_ok_iff {v : Json} (hv : v ≠ .null) {fallback t : Text} :
    notEmptyOr v fallback = .ok t ↔ NameLike v ∧ textOr v fallback = t := by
  cases v with
  | null => exact absurd rfl hv
  | string s =>
    cases s with
    | nil => exact ⟨fun h => ⟨trivial, Except.ok.inj h⟩, fun h => congrArg Except.ok h.2⟩
    | cons c s => exact ⟨fun h => ⟨trivial, Except.ok.inj h⟩, fun h => congrArg Except.ok h.2⟩
  | list l =>
    cases l with
    | nil => exact ⟨fun h => ⟨rfl, Except.ok.inj h⟩, fun h => congrArg Except.ok h.2⟩
    | cons x l => exact iff_of_false (fun h => nomatch h) fun h => nomatch h.1
  | map m =>
    cases m with
    | nil => exact ⟨fun h => ⟨rfl, Except.ok.inj h⟩, fun h => congrArg Except.ok h.2⟩
    | cons x m => exact iff_of_false (fun h => nomatch h) fun h => nomatch h.1
  | _ => exact iff_of_false (fun h => nomatch h) fun h => h.1

/-- The name the user goes by: a field of its own, or first and last name. -/
def fullNameIn (user : Fields) : Json :=
  (Fields.firstOf user ["full_name", "name", "user_name"]).ifNull
    (.string (joinedName (user.get "first_name") (user.get "last_name")))

theorem fullNameOf_map (user : Fields) : fullNameOf (.map user) = .ok (fullNameIn user) := by
  rw [fullNameIn, Fields.firstOf, Fields.firstOf, Fields.firstOf, Fields.firstOf]
  show Except.ok _ = Except.ok _
  cases user.get "full_name" <;> cases user.get "name" <;> cases user.get "user_name" <;> rfl

theorem ifNull_ne_null {a b : Json} (h : b ≠ .null) : a.ifNull b ≠ .null := by
  cases a with
  | null => exact h
  | _ => exact fun h => nomatch h

theorem fullNameIn_ne_null (user : Fields) : fullNameIn user ≠ .null :=
  ifNull_ne_null fun h => nomatch h

/-- An email that is not there is taken for an empty one. -/
theorem email_ok_iff {v : Json} {t : Text} :
    notEmptyOr (v.ifNull (.string [])) "no-email@domain.com".toList = .ok t ↔
      NameLike v ∧ textOr v "no-email@domain.com".toList = t := by
  have hne : v.ifNull (.string []) ≠ .null := ifNull_ne_null fun h => nomatch h
  rw [notEmptyOr_ok_iff hne]
  cases v <;> rfl

theorem extractUserInfo_ok_iff {user : Fields} {fullName email : Text} :
    extractUserInfo (.map user) = .ok (fullName, email) ↔
      (NameLike (fullNameIn user) ∧ textOr (fullNameIn user) "User".toList = fullName) ∧
        NameLike (user.get "email") ∧
          textOr (user.get "email") "no-email@domain.com".toList = email := by
  rw [extractUserInfo, fullNameOf_map]
  simp only [bind_ok_iff]
  constructor
  · rintro ⟨_, hname, _, hemail, name, hname', mail, hemail', hpair⟩
    obtain rfl := Except.ok.inj hname
    obtain rfl := Except.ok.inj hemail
    obtain ⟨rfl, rfl⟩ := Prod.mk.inj (Except.ok.inj hpair)
    exact ⟨(notEmptyOr_ok_iff (fullNameIn_ne_null user)).mp hname', email_ok_iff.mp hemail'⟩
  · rintro ⟨hname, hemail⟩
    exact ⟨_, rfl, _, rfl, _, (notEmptyOr_ok_iff (fullNameIn_ne_null user)).mpr hname, _,
      email_ok_iff.mpr hemail, rfl⟩

/-- The object the user's name and email are looked up in. -/
def userIn (data : Fields) : Fields :=
  match (data.get "party").ifNull (data.get "user") with
  | .map user => user
  | _ => []

theorem Objects.user_eq {data : Fields} (h : Objects data) :
    ((data.get "party").ifNull (data.get "user")).ifNull (.map []) = .map (userIn data) := by
  have hparty := h.party
  have huser := h.user
  rw [userIn]
  cases hp : data.get "party" with
  | map m => rfl
  | null =>
    cases hu : data.get "user" with
    | map m => rfl
    | null => rfl
    | _ => rw [hu] at huser; exact huser.elim
  | _ => rw [hp] at hparty; exact hparty.elim

end LoginPage

/-! ## The response -/

open LoginPage

/-- Nothing in the response makes the page's reading of it fail. -/
structure GrantsAccount (data : Fields) : Prop where
  error_code : data.get "error_code" = .null
  objects : Objects data
  partyId : ∃ v ∈ candidateValues data, partyIdIn v ≠ none
  fullName : NameLike (fullNameIn (userIn data))
  email : NameLike ((userIn data).get "email")

/-- The party id, the full name and the email of a response. -/
structure Tells (data : Fields) (partyId : Int) (fullName email : Text) : Prop where
  partyId : (candidateValues data).findSome? partyIdIn = some partyId
  fullName : textOr (fullNameIn (userIn data)) "User".toList = fullName
  email : textOr ((userIn data).get "email") "no-email@domain.com".toList = email

theorem Tells.unique {data : Fields} {partyId partyId' : Int} {fullName fullName' email email' : Text}
    (h : Tells data partyId fullName email) (h' : Tells data partyId' fullName' email') :
    partyId = partyId' ∧ fullName = fullName' ∧ email = email' :=
  ⟨Option.some.inj (h.partyId.symm.trans h'.partyId), h.fullName.symm.trans h'.fullName,
    h.email.symm.trans h'.email⟩

theorem Tells.ne_nil {data : Fields} {partyId : Int} {fullName email : Text}
    (h : Tells data partyId fullName email) : fullName ≠ [] ∧ email ≠ [] := by
  rw [← h.fullName, ← h.email]
  exact ⟨textOr_ne_nil (by decide), textOr_ne_nil (by decide)⟩

theorem LoginPage.accountOf_ok_iff {req : SignInRequest} {data : Fields} {account : Account} :
    accountOf req data = .ok account ↔
      Objects data ∧ NameLike (fullNameIn (userIn data)) ∧ NameLike ((userIn data).get "email") ∧
        Tells data account.partyId account.fullName account.email ∧
        account.username = req.username ∧ account.password = req.password ∧
        account.siteName = req.siteName := by
  rw [accountOf]
  simp only [bind_ok_iff, extractPartyId_ok_iff]
  constructor
  · rintro ⟨partyId, ⟨hobjects, hparty⟩, ⟨fullName, email⟩, hinfo, haccount⟩
    rw [hobjects.user_eq, extractUserInfo_ok_iff] at hinfo
    obtain ⟨⟨hname, hname'⟩, hemail, hemail'⟩ := hinfo
    obtain rfl := Except.ok.inj haccount
    exact ⟨hobjects, hname, hemail, ⟨hparty, hname', hemail'⟩, rfl, rfl, rfl⟩
  · rintro ⟨hobjects, hname, hemail, htells, husername, hpassword, hsite⟩
    refine ⟨account.partyId, ⟨hobjects, htells.partyId⟩, (account.fullName, account.email), ?_, ?_⟩
    · rw [hobjects.user_eq, extractUserInfo_ok_iff]
      exact ⟨⟨hname, htells.fullName⟩, hemail, htells.email⟩
    · rw [← husername, ← hpassword, ← hsite]

theorem SignInRequest.grant_tells {req : SignInRequest} {data : Option Fields} {account : Account}
    (h : req.grant (.ok data) = some account) :
    ∃ fields, data = some fields ∧ GrantsAccount fields ∧
      Tells fields account.partyId account.fullName account.email := by
  obtain ⟨fields, hdata, hnull, haccount⟩ := grant_eq_some h
  obtain ⟨hobjects, hname, hemail, htells, -⟩ := accountOf_ok_iff.mp haccount
  have hparty : ∃ v ∈ candidateValues fields, partyIdIn v ≠ none := by
    obtain ⟨v, hv, hid⟩ := List.exists_of_findSome?_eq_some htells.partyId
    exact ⟨v, hv, hid ▸ Option.some_ne_none _⟩
  exact ⟨fields, Except.ok.inj hdata, ⟨hnull, hobjects, hparty, hname, hemail⟩, htells⟩

/-- Every response of that shape grants an account. -/
theorem GrantsAccount.grant_ne_none {data : Fields} (h : GrantsAccount data) (req : SignInRequest) :
    req.grant (.ok (some data)) ≠ none := by
  obtain ⟨v, hv, hid⟩ := h.partyId
  obtain ⟨partyId, hparty⟩ := Option.ne_none_iff_exists'.mp fun hnone =>
    hid (List.findSome?_eq_none_iff.mp hnone v hv)
  have haccount : accountOf req data = .ok
      { partyId := partyId, username := req.username, password := req.password
        siteName := req.siteName, fullName := textOr (fullNameIn (userIn data)) "User".toList
        email := textOr ((userIn data).get "email") "no-email@domain.com".toList } :=
    accountOf_ok_iff.mpr ⟨h.objects, h.fullName, h.email, ⟨hparty, rfl, rfl⟩, rfl, rfl, rfl⟩
  rw [SignInRequest.grant, if_pos (Json.isNull_iff.mpr h.error_code), haccount]
  exact Option.some_ne_none _

end SurveilOne
