import SurveilOne.Login
import SurveilOne.SignUp

/-!
# What an account is addressed by

The sign-up form and the login form both take a site, a user name and a password,
and both mutations name an account by the three.  The texts are trimmed on the
pages, and the site is put into upper case by the login page and by the service.
Only the login page has a site of its own for a form without one.

`sameCredentials_iff` says when the two buttons address the same account.
-/

namespace SurveilOne

open Dart Flutter Flutter.Handler

/-- What the variables of a mutation name an account by. -/
structure Credentials where
  siteName : Json
  userName : Json
  password : Json

/-- `signup` has the user name and the password in the map under `party`. -/
def partyVariables (vars : Fields) : Fields :=
  match vars.get "party" with
  | .map party => party
  | _ => []

section Requests

variable (K : Casing)

def SignInRequest.credentials (req : SignInRequest) : Credentials :=
  let vars := GraphQLService.signinVariables K req.username req.password req.siteName
  { siteName := vars.get "site_name"
    userName := vars.get "user_name"
    password := vars.get "password" }

def SignUpRequest.credentials (req : SignUpRequest) : Credentials :=
  let vars := GraphQLService.signupVariables K req.party req.siteName
  { siteName := vars.get "site_name"
    userName := Fields.get (partyVariables vars) "user_name"
    password := Fields.get (partyVariables vars) "password" }

theorem LoginPage.requestOf_credentials (s : LoginFields) :
    (requestOf K s).credentials K =
      { siteName := .string (K.upper (siteNameOf K s.site))
        userName := .string s.username.trim
        password := .string s.password.trim } := rfl

theorem SignUpPage.requestOf_credentials (s : SignUpFields) :
    (requestOf s).credentials K =
      { siteName := .string (K.upper s.site.trim)
        userName := .string s.username.trim
        password := .string s.password.trim } := rfl

/-! ## The site -/

theorem upper_nil : K.upper [] = [] := K.upper_ascii [] (by simp)

theorem upper_testSite : K.upper "TEST_SITE".toList = "TEST_SITE".toList :=
  K.upper_ascii _ (Text.forall_mem_of_all (by decide))

theorem upper_siteNameOf (site : Text) :
    K.upper (LoginPage.siteNameOf K site) =
      if site.trim = [] then "TEST_SITE".toList else K.upper site.trim := by
  rw [LoginPage.siteNameOf]
  by_cases hblank : site.trim = []
  · rw [if_pos hblank, if_pos (by simpa using hblank), upper_testSite]
  · rw [if_neg hblank, if_neg (by simpa using hblank), K.upper_upper]

theorem sameSite_iff (site : Text) :
    K.upper site.trim = K.upper (LoginPage.siteNameOf K site) ↔ site.trim ≠ [] := by
  rw [upper_siteNameOf]
  by_cases hblank : site.trim = []
  · rw [if_pos hblank, hblank, upper_nil]
    exact iff_of_false (fun h => (by cases h)) fun h => h rfl
  · rw [if_neg hblank]
    exact iff_of_true rfl hblank

end Requests

/-! ## The buttons -/

theorem SignUpPage.sent_eq {s : SignUpFields} {up : SignUpRequest}
    (h : (signUp.run { fields := s }).1 = .ok [.signup up]) : up = requestOf s := by
  by_cases hmobile : s.mobile.trim = []
  · rw [run_signUp_blank rfl hmobile] at h
    cases h
  · rw [run_signUp_sent hmobile] at h
    cases h
    rfl

theorem LoginPage.sent_eq {K : Casing} {s : LoginFields} {req : SignInRequest}
    (h : ((signIn K).run { fields := s }).1 = .ok [.signin req]) : req = requestOf K s := by
  rw [run_signIn rfl] at h
  cases h
  rfl

/-- What the two buttons send for the same site, user name and password names the
same account exactly when a site was typed. -/
theorem sameCredentials_iff (K : Casing) (form : SignUpFields) (login : LoginFields)
    (up : SignUpRequest) (req : SignInRequest) (hsite : login.site = form.site)
    (husername : login.username = form.username) (hpassword : login.password = form.password)
    (hup : (SignUpPage.signUp.run { fields := form }).1 = .ok [.signup up])
    (hin : ((LoginPage.signIn K).run { fields := login }).1 = .ok [.signin req]) :
    up.credentials K = req.credentials K ↔ form.site.trim ≠ [] := by
  obtain rfl := SignUpPage.sent_eq hup
  obtain rfl := LoginPage.sent_eq hin
  rw [SignUpPage.requestOf_credentials, LoginPage.requestOf_credentials, hsite, husername,
    hpassword, ← sameSite_iff K]
  constructor
  · intro h
    exact Json.string.inj (Credentials.mk.inj h).1
  · intro h
    rw [h]

def typedSignUp (site : String) : SignUpFields :=
  { SignUpPage.initial with
    site := site.toList, username := " ann ".toList, password := "pw".toList, mobile := ['1'] }

def typedLogin (site : String) : LoginFields :=
  { LoginPage.initial with
    site := site.toList, username := " ann ".toList, password := "pw".toList }

theorem typedSite_sameCredentials :
    (SignUpPage.requestOf (typedSignUp " Plant7 ")).credentials .ascii =
      (LoginPage.requestOf .ascii (typedLogin " Plant7 ")).credentials .ascii :=
  (sameCredentials_iff .ascii (typedSignUp " Plant7 ") (typedLogin " Plant7 ")
    _ _ rfl rfl rfl rfl rfl).mpr (by decide)

/-- Without a site the account is made under an empty name and looked for under
`TEST_SITE`. -/
theorem blankSite_not_sameCredentials :
    ¬ ∀ (K : Casing) (form : SignUpFields) (login : LoginFields) (up : SignUpRequest)
      (req : SignInRequest), login.site = form.site → login.username = form.username →
      login.password = form.password →
      (SignUpPage.signUp.run { fields := form }).1 = .ok [.signup up] →
      ((LoginPage.signIn K).run { fields := login }).1 = .ok [.signin req] →
      up.credentials K = req.credentials K := by
  intro hall
  have hsame := hall .ascii (typedSignUp " ") (typedLogin " ") _ _ rfl rfl rfl rfl rfl
  have hsite := Json.string.inj (Credentials.mk.inj hsame).1
  exact absurd hsite (by decide)

end SurveilOne
