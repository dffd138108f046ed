import SurveilOne.Dart.Value

/-!
# The GraphQL service

`post` is the private helper every request goes through.  It turns what the
network did into the object under `data` or an exception.  Each service method
adds its own decoding and a catch-all: `signin`, `signup`, `getAlerts` and
`getProductStatus` return `null` for every failure and `getProducts` returns
the empty list.

A method is a function of the outcome of its one HTTP request.  The variables
it sends are separate definitions.
-/

namespace SurveilOne

open Dart

/-- What `http.post(…).timeout(…)` did: it threw, or a response came, given
with its body and what `jsonDecode` makes of it (`none` for a body that is not
JSON). -/
inductive HttpOutcome where
  | threw (e : Thrown)
  | response (statusCode : Int) (body : Text) (decoded : Option Json)

namespace GraphQLService

def signinUrl : Text :=
  "https://kf6iirlcgrbqdmr2b6nq5s6g3q.appsync-api.ca-central-1.amazonaws.com/graphql".toList

def signupUrl : Text :=
  "https://l5a4sfcxxfbj3icqefjhoup4ti.appsync-api.ca-central-1.amazonaws.com/graphql".toList

def alertsUrl : Text :=
  "https://tb5xwefsybcitbefa3wksxrazm.appsync-api.ca-central-1.amazonaws.com/graphql".toList

def productsUrl : Text :=
  "https://glpt3ohk3zbyfdlla3fnj2r6ny.appsync-api.ca-central-1.amazonaws.com/graphql".toList

def productStatusUrl : Text :=
  "https://jnnyyvz3prfudoenrzuudwdtea.appsync-api.ca-central-1.amazonaws.com/graphql".toList

/-- The typed rethrows at the end of `_post`. -/
def rethrow (url : Text) : Thrown → Thrown
  | .socketException => .exception "No internet connection.".toList
  | .timeoutException => .exception ("Request to ".toList ++ url ++ " timed out.".toList)
  | .formatException => .exception ("Non-JSON response from ".toList ++ url ++ ['.'])
  | e => e

/-- The body of `_post` once a response has come. -/
def readResponse (statusCode : Int) (responseBody : Text) (decoded : Option Json) :
    Except Thrown Fields := do
  let body ← match decoded with
    | some json => json.asMap
    | none => .error .formatException
  -- The body is printed first, and for that encoded again.
  if !(Json.map body).encodable then .error .jsonUnsupportedObject
  else if statusCode ≠ 200 then
    .error (.exception ("HTTP ".toList ++ (toString statusCode).toList ++ ": ".toList ++ responseBody))
  else if !(body.get "errors").isNull then
    .error (.exception (body.get "errors").encode)
  else
    match body.get "data" with
    | .map data => .ok data
    | _ => .error (.exception "Missing \"data\" in GraphQL response.".toList)

/-- `_post`. -/
def post (url : Text) (o : HttpOutcome) : Except Thrown Fields :=
  match o with
  | .threw e => .error (rethrow url e)
  | .response statusCode body decoded =>
    match readResponse statusCode body decoded with
    | .ok data => .ok data
    | .error e => .error (rethrow url e)

/-- An HTTP 200 with a JSON object that can be printed and has no errors and an object
under `data`. -/
def Delivers (o : HttpOutcome) (data : Fields) : Prop :=
  ∃ text body, o = .response 200 text (some (.map body)) ∧ (Json.map body).encodable = true ∧
    Fields.get body "errors" = .null ∧ Fields.get body "data" = .map data

theorem readResponse_map (statusCode : Int) (text : Text) (body : Fields) :
    readResponse statusCode text (some (.map body)) =
      if !(Json.map body).encodable then .error .jsonUnsupportedObject
      else if statusCode ≠ 200 then
        .error (.exception
          ("HTTP ".toList ++ (toString statusCode).toList ++ ": ".toList ++ text))
      else if !(body.get "errors").isNull then .error (.exception (body.get "errors").encode)
      else
        match body.get "data" with
        | .map data => .ok data
        | _ => .error (.exception "Missing \"data\" in GraphQL response.".toList) := rfl

theorem readResponse_ok_iff {statusCode : Int} {text : Text} {decoded : Option Json}
    {data : Fields} :
    readResponse statusCode text decoded = .ok data ↔
      ∃ body, decoded = some (.map body) ∧ (Json.map body).encodable = true ∧ statusCode = 200 ∧
        Fields.get body "errors" = .null ∧ Fields.get body "data" = .map data := by
  constructor
  · intro h
    cases decoded with
    | none => cases h
    | some json =>
      cases json with
      | map body =>
        rw [readResponse_map] at h
        split at h
        · cases h
        rename_i hprint
        split at h
        · cases h
        rename_i hstatus
        split at h
        · cases h
        rename_i herrors
        split at h
        · rename_i d hdata
          obtain rfl := Except.ok.inj h
          exact ⟨body, rfl, by simpa using hprint, not_not.mp hstatus,
            Json.isNull_iff.mp (by simpa using herrors), hdata⟩
        · cases h
      | _ => cases h
  · rintro ⟨body, rfl, hprint, rfl, herrors, hdata⟩
    rw [readResponse_map, hprint, if_neg (by simp), if_neg (by simp), herrors]
    simp [hdata]

/-- Rethrowing an exception makes no response of it. -/
theorem post_response_ok_iff {url text : Text} {statusCode : Int} {decoded : Option Json}
    {data : Fields} :
    post url (.response statusCode text decoded) = .ok data ↔
      readResponse statusCode text decoded = .ok data := by
  rw [post]
  cases readResponse statusCode text decoded with
  | ok d => exact Iff.rfl
  | error e => exact iff_of_false (fun h => nomatch h) fun h => nomatch h

theorem post_ok_iff {url : Text} {o : HttpOutcome} {data : Fields} :
    post url o = .ok data ↔ Delivers o data := by
  cases o with
  | threw e =>
    constructor
    · intro h
      cases h
    · rintro ⟨text, body, ho, -⟩
      cases ho
  | response statusCode text decoded =>
    rw [post_response_ok_iff, readResponse_ok_iff]
    constructor
    · rintro ⟨body, rfl, hprint, rfl, herrors, hdata⟩
      exact ⟨text, body, rfl, hprint, herrors, hdata⟩
    · rintro ⟨text', body, ho, hprint, herrors, hdata⟩
      cases ho
      exact ⟨body, rfl, hprint, rfl, herrors, hdata⟩

/-! ## Variables sent -/

section Variables

variable (K : Casing)

def signinVariables (username password siteName : Text) : Fields :=
  [("user_name".toList, .string username), ("password".toList, .string password),
    ("site_name".toList, .string (K.upper siteName))]

def signupVariables (party : Fields) (siteName : Text) : Fields :=
  [("party".toList, .map party), ("site_name".toList, .string (K.upper siteName))]

def getAlertsVariables (siteName fromDate toDate : Text) (recordsPerPage : Int) : Fields :=
  [("site".toList, .string (K.upper siteName)), ("from".toList, .string fromDate),
    ("to".toList, .string toDate), ("limit".toList, .int recordsPerPage)]

def getProductsVariables (siteName : Text) (partyId : Int) : Fields :=
  [("site_name".toList, .string (K.upper siteName)), ("party_id".toList, .int partyId)]

def getProductStatusVariables (siteName : Text) (partyId : Int) (productCode : Text) : Fields :=
  [("site_name".toList, .string (K.upper siteName)), ("party_id".toList, .int partyId),
    ("product_code".toList, .string productCode)]

end Variables

/-! ## The methods -/

def signin (o : HttpOutcome) : Option Fields :=
  match post signinUrl o with
  | .ok data =>
    match (data.get "signin").asMap? with
    | .ok result => result
    | .error _ => none
  | .error _ => none

def signup (o : HttpOutcome) : Option Fields :=
  match post signupUrl o with
  | .ok data =>
    match (data.get "signup").asMap? with
    | .ok result => result
    | .error _ => none
  | .error _ => none

/-- `x?.cast<Map<String, dynamic>>()` on a dynamic value.  A list is wrapped as
it is and its elements are checked on access only; nothing else has a `cast`
that takes one type argument. -/
def castToMaps : Json → Except Thrown (Option (List Json))
  | .null => .ok none
  | .list l => .ok (some l)
  | _ => .error .noSuchMethod

def getAlerts (o : HttpOutcome) : Option (List Json) :=
  match post alertsUrl o with
  | .ok data =>
    match (data.get "getAlerts").index? "alerts" with
    | .ok alerts =>
      match castToMaps alerts with
      | .ok result => result
      | .error _ => none
    | .error _ => none
  | .error _ => none

/-- `(e as Map<String, dynamic>)['product_code']?.toString()` over the rows. -/
def productCodes : List Json → Except Thrown (List (Option Text))
  | [] => .ok []
  | e :: rest => do
    let row ← e.asMap
    let codes ← productCodes rest
    .ok ((row.get "product_code").toText? :: codes)

def getProducts (o : HttpOutcome) : List Text :=
  match post productsUrl o with
  | .ok data =>
    match data.get "getProducts" with
    | .list raw =>
      match productCodes raw with
      | .ok codes => codes.filterMap id
      | .error _ => []
    | _ => []
  | .error _ => []

/-- The flags of the rows, each `item['product_status_flag']` read as an int. -/
def rowFlags : List Json → Except Thrown (List Int)
  | [] => .ok []
  | item :: rest => do
    let f ← item.index "product_status_flag"
    let flags ← rowFlags rest
    .ok (f.intOrZero :: flags)

/-- `flags.reduce((a, b) => a > b ? a : b)` on a list with a first element. -/
def worstFlag (first : Int) (rest : List Int) : Int :=
  rest.foldl (fun a b => if a > b then a else b) first

def statusRow (item : Json) : Except Thrown Fields := do
  let name ← item.index "product_status_name"
  let value ← item.index "product_status_value"
  let flag ← item.index "product_status_flag"
  .ok [("product_status_name".toList, name), ("product_status_value".toList, value),
    ("product_status_flag".toList, flag)]

def statusRows : List Json → Except Thrown (List Fields)
  | [] => .ok []
  | item :: rest => do
    let row ← statusRow item
    let rows ← statusRows rest
    .ok (row :: rows)

/-- The object `getProductStatus` builds from a non-empty list. -/
def statusResponse (raw : List Json) : Except Thrown (Option Fields) := do
  let flags ← rowFlags raw
  match flags with
  | [] => .ok none
  | first :: rest =>
    let rows ← statusRows raw
    .ok (some [("product_status_flag".toList, .int (worstFlag first rest)),
      ("statuses".toList, .list (rows.map .map))])

def getProductStatus (o : HttpOutcome) : Option Fields :=
  match post productStatusUrl o with
  | .ok data =>
    match data.get "getProductStatus" with
    | .list raw =>
      match statusResponse raw with
      | .ok result => result
      | .error _ => none
    | _ => none
  | .error _ => none

end GraphQLService

end SurveilOne
