import SurveilOne.Flutter.Page
import SurveilOne.Service

/-!
# The sign-up page

`signUp` is the button's `onPressed` up to its `await` and `signUpDone` is the
rest, which says whether it calls `Navigator.pop`.  The button has no state of
its own: it is enabled while a request is out.
-/

namespace SurveilOne

open Dart Flutter Flutter.Handler

structure SignUpFields where
  site : Text
  username : Text
  password : Text
  firstName : Text
  lastName : Text
  email : Text
  mobile : Text
  /-- The snack bars shown so far. -/
  snackBars : List Text
  deriving DecidableEq, Repr

/-- The arguments of `signup`. -/
structure SignUpRequest where
  party : Fields
  siteName : Text

inductive SignUpOp where
  | signup (req : SignUpRequest)

inductive SignUpTap where
  | editSite (text : Text)
  | editUsername (text : Text)
  | editPassword (text : Text)
  | editFirstName (text : Text)
  | editLastName (text : Text)
  | editEmail (text : Text)
  | editMobile (text : Text)
  | signUp
  deriving DecidableEq

abbrev SignUpHandler := Handler SignUpFields (List SignUpOp)

namespace SignUpPage

def initial : SignUpFields :=
  { site := [], username := [], password := [], firstName := [], lastName := [], email := []
    mobile := [], snackBars := [] }

/-- The fields of the form in the order of the map sent. -/
def partyOf (s : SignUpFields) : Fields :=
  [("first_name".toList, .string s.firstName.trim), ("middle_name".toList, .string []),
    ("last_name".toList, .string s.lastName.trim), ("user_name".toList, .string s.username.trim),
    ("password".toList, .string s.password.trim), ("email".toList, .string s.email.trim),
    ("mobile".toList, .string s.mobile.trim), ("phone".toList, .string [])]

def requestOf (s : SignUpFields) : SignUpRequest :=
  { party := partyOf s, siteName := s.site.trim }

/-- `ScaffoldMessenger.of(context).showSnackBar(…)`. -/
def showSnackBar (text : Text) : Handler SignUpFields Unit := do
  if ← mounted then assign fun s => { s with snackBars := s.snackBars ++ [text] }
  else throw .unmountedContext

/-- `onPressed` up to its `await`. -/
def signUp : SignUpHandler := do
  let s ← getFields
  if s.mobile.trim.isEmpty then
    showSnackBar "Please enter a valid mobile number".toList
    pure []
  else pure [.signup (requestOf s)]

/-- `result != null && result['error_code'] == null`. -/
def succeeded (result : Option Fields) : Bool :=
  match result with
  | none => false
  | some result => (result.get "error_code").isNull

/-- `result?['message']`. -/
def messageOf (result : Option Fields) : Json :=
  match result with
  | none => .null
  | some result => result.get "message"

def snackBarOf (result : Option Fields) : Text :=
  if succeeded result then "Signup successful!".toList
  else "Signup failed: ".toList ++ ((messageOf result).ifNull (.string "Unknown error".toList)).toText

/-- `onPressed` after its `await`: `true` when it ends in `Navigator.pop`. -/
def signUpDone (result : Option Fields) : Handler SignUpFields Bool := do
  showSnackBar (snackBarOf result)
  pure (succeeded result)

theorem run_showSnackBar {fr : Frame SignUpFields} (hm : fr.mounted = true) (text : Text) :
    (showSnackBar text).run fr = (.ok (),
      { fr with fields := { fr.fields with snackBars := fr.fields.snackBars ++ [text] } }) := by
  rw [showSnackBar, run_bind_ok (run_mounted fr), if_pos hm]
  rfl

theorem run_signUp_blank {fr : Frame SignUpFields} (hm : fr.mounted = true)
    (hmobile : fr.fields.mobile.trim = []) :
    signUp.run fr = (.ok [], { fr with fields := { fr.fields with
      snackBars := fr.fields.snackBars ++ ["Please enter a valid mobile number".toList] } }) := by
  rw [signUp, run_bind_ok (run_getFields fr), if_pos (by simpa using hmobile),
    run_bind_ok (run_showSnackBar hm _)]
  rfl

theorem run_signUp_sent {fr : Frame SignUpFields} (hmobile : fr.fields.mobile.trim ≠ []) :
    signUp.run fr = (.ok [.signup (requestOf fr.fields)], fr) := by
  rw [signUp, run_bind_ok (run_getFields fr), if_neg (by simpa using hmobile)]
  rfl

theorem run_signUpDone {fr : Frame SignUpFields} (hm : fr.mounted = true) (result : Option Fields) :
    (signUpDone result).run fr = (.ok (succeeded result), { fr with
      fields := { fr.fields with snackBars := fr.fields.snackBars ++ [snackBarOf result] } }) := by
  rw [signUpDone, run_bind_ok (run_showSnackBar hm _)]
  rfl

/-- After the page was disposed the lookup of the messenger throws, so nothing
is popped. -/
theorem run_signUpDone_disposed {fr : Frame SignUpFields} (hm : fr.mounted = false)
    (result : Option Fields) :
    (signUpDone result).run fr = (.error .unmountedContext, fr) := by
  rw [signUpDone]
  refine run_bind_error ?_
  rw [showSnackBar, run_bind_ok (run_mounted fr), if_neg (by simp [hm])]
  rfl

end SignUpPage

/-- The page by itself. -/
def signUpPage : PageCode SignUpFields SignUpOp HttpOutcome SignUpTap where
  initial := SignUpPage.initial
  initState := pure []
  onTap
    | .editSite text, _ => some do
      assign fun s => { s with site := text }
      pure []
    | .editUsername text, _ => some do
      assign fun s => { s with username := text }
      pure []
    | .editPassword text, _ => some do
      assign fun s => { s with password := text }
      pure []
    | .editFirstName text, _ => some do
      assign fun s => { s with firstName := text }
      pure []
    | .editLastName text, _ => some do
      assign fun s => { s with lastName := text }
      pure []
    | .editEmail text, _ => some do
      assign fun s => { s with email := text }
      pure []
    | .editMobile text, _ => some do
      assign fun s => { s with mobile := text }
      pure []
    | .signUp, _ => some SignUpPage.signUp
  resume
    | .signup _, o => some do
      let _ ← SignUpPage.signUpDone (GraphQLService.signup o)
      pure []

/-- What a tap leaves outstanding: one request for each tap on the button with a
mobile number in the form, and nothing else. -/
theorem signUpPage_tap {t : SignUpTap} {s : SignUpFields} {h : SignUpHandler}
    (ht : signUpPage.onTap t s = some h) :
    ∃ s', h.run { fields := s } =
      (.ok (if t = .signUp ∧ s.mobile.trim ≠ [] then [.signup (SignUpPage.requestOf s)] else []),
        { fields := s' }) := by
  cases t with
  | signUp =>
    cases ht
    by_cases hmobile : s.mobile.trim = []
    · rw [if_neg fun hand => hand.2 hmobile]
      exact ⟨_, SignUpPage.run_signUp_blank rfl hmobile⟩
    · rw [if_pos ⟨rfl, hmobile⟩]
      exact ⟨s, SignUpPage.run_signUp_sent hmobile⟩
  | _ => cases ht; exact ⟨_, rfl⟩

end SurveilOne
