import SurveilOne.Alerts.Rows
import SurveilOne.Dart.JsonText
import SurveilOne.Login
import SurveilOne.Menu
import SurveilOne.SignUp
import SurveilOne.Status.Pages

/-!
# What the service sends

`GraphQLService.request` is the request of `_post` and `ServiceCall` is a call of
one of the five methods.  The query of a method is a constant text and the
arguments travel as variables, so `body_read` gives back exactly these two, and
`body_eq_iff` says that the body alone names the call, up to the case of the site.
-/

namespace SurveilOne

open Dart

/-- The arguments of `http.post`. -/
structure HttpRequest where
  url : Text
  headers : List (Text × Text)
  body : Text
  deriving DecidableEq, Repr

namespace GraphQLService

def signinKey : Text := "da2-gyewjbxhlvdarogtzp5mbyrm6m".toList

def signupKey : Text := "da2-3g2r42737jf73igdhfsrp2mh2y".toList

def alertsKey : Text := "da2-7lmmoz642fb3bakwqc4e5k6ytq".toList

def productsKey : Text := "da2-hykzcqryevbrjjwc56jbsjcg3m".toList

def productStatusKey : Text := "da2-7tsjq7tch5e2xojhguyhc6pwm4".toList

/-- A raw string over several lines, whose closing quotes are indented by four. -/
def rawText (lines : List String) : Text :=
  lines.flatMap (fun line => line.toList ++ ['\n']) ++ "    ".toList

def signinQuery : Text := rawText
  ["      mutation ($user_name: String!, $password: String!, $site_name: String!) \x7b",
    "        signin(user_name: $user_name, password: $password, site_name: $site_name) \x7b",
    "          party \x7b party_id user_name email \x7d",
    "          error_code",
    "        \x7d",
    "      \x7d"]

def signupQuery : Text := rawText
  ["      mutation Signup($party: PartyInput!, $site_name: String!) \x7b",
    "        signup(party: $party, site_name: $site_name) \x7b",
    "          party_id user_name first_name last_name email mobile error_code message",
    "        \x7d",
    "      \x7d"]

def alertsQuery : Text := rawText
  ["      query GetAlerts($site: String!, $from: AWSDateTime!, $to: AWSDateTime!, $limit: Int!) \x7b",
    "        getAlerts(site_name: $site, from_date: $from, to_date: $to, records_per_page: $limit) \x7b",
    "          alerts \x7b",
    "            alert_id",
    "            timestamp_occurred",
    "            triggering_event_id",
    "            triggering_event_type",
    "            site_id",
    "            alert_type",
    "            alert_severity",
    "            alert_message_code",
    "            created_at",
    "            image_url",
    "          \x7d",
    "        \x7d",
    "      \x7d"]

def productsQuery : Text := rawText
  ["      query GetProducts($site_name: String!, $party_id: Int!) \x7b",
    "        getProducts(site_name: $site_name, party_id: $party_id) \x7b",
    "          product_code",
    "        \x7d",
    "      \x7d"]

def productStatusQuery : Text := rawText
  ["      query GetProductStatus($site_name: String!, $party_id: Int!, $product_code: String!) \x7b",
    "        getProductStatus(site_name: $site_name, party_id: $party_id, product_code: $product_code) \x7b",
    "          product_code",
    "          product_status_name",
    "          product_status_value",
    "          product_status_flag",
    "        \x7d",
    "      \x7d"]

/-- The request of `_post`.  No caller passes `extraHeaders`. -/
def request (authToken : Option Text) (url apiKey query : Text) (vars : Option Fields) :
    HttpRequest :=
  { url := url
    headers :=
      [("Content-Type".toList, "application/json".toList),
        ("Accept".toList, "application/json".toList), ("x-api-key".toList, apiKey)] ++
      authToken.toList.map fun token => ("authorization".toList, "Bearer ".toList ++ token)
    body := Json.encode (.map
      [("query".toList, .string query), ("variables".toList, .map (vars.getD []))]) }

end GraphQLService

open GraphQLService

inductive ServiceMethod where
  | signin
  | signup
  | getAlerts
  | getProducts
  | getProductStatus
  deriving DecidableEq, Repr

namespace ServiceMethod

def url : ServiceMethod → Text
  | signin => signinUrl
  | signup => signupUrl
  | getAlerts => alertsUrl
  | getProducts => productsUrl
  | getProductStatus => productStatusUrl

def apiKey : ServiceMethod → Text
  | signin => signinKey
  | signup => signupKey
  | getAlerts => alertsKey
  | getProducts => productsKey
  | getProductStatus => productStatusKey

def query : ServiceMethod → Text
  | signin => signinQuery
  | signup => signupQuery
  | getAlerts => alertsQuery
  | getProducts => productsQuery
  | getProductStatus => productStatusQuery

/-- The eight characters of the query where the operation is named. -/
def operation : ServiceMethod → Text
  | signin => "($user_n".toList
  | signup => "Signup($".toList
  | getAlerts => "Alerts($".toList
  | getProducts => "Products".toList
  | getProductStatus => "ProductS".toList

theorem query_operation (m : ServiceMethod) : (m.query.drop 15).take 8 = m.operation := by
  cases m <;> rfl

theorem query_inj {m m' : ServiceMethod} (h : m.query = m'.query) : m = m' := by
  have hoperation : m.operation = m'.operation := by
    rw [← query_operation, ← query_operation, h]
  clear h
  cases m <;> cases m' <;> first | rfl | exact absurd hoperation (by decide)

end ServiceMethod

/-- A call of a method with its arguments. -/
inductive ServiceCall where
  | signin (username password siteName : Text)
  | signup (party : Fields) (siteName : Text)
  | getAlerts (siteName fromDate toDate : Text) (recordsPerPage : Int)
  | getProducts (siteName : Text) (partyId : Int)
  | getProductStatus (siteName : Text) (partyId : Int) (productCode : Text)

namespace ServiceCall

def method : ServiceCall → ServiceMethod
  | signin _ _ _ => .signin
  | signup _ _ => .signup
  | getAlerts _ _ _ _ => .getAlerts
  | getProducts _ _ => .getProducts
  | getProductStatus _ _ _ => .getProductStatus

section Sent

variable (K : Casing)

def vars : ServiceCall → Fields
  | signin username password siteName => signinVariables K username password siteName
  | signup party siteName => signupVariables K party siteName
  | getAlerts siteName fromDate toDate recordsPerPage =>
    getAlertsVariables K siteName fromDate toDate recordsPerPage
  | getProducts siteName partyId => getProductsVariables K siteName partyId
  | getProductStatus siteName partyId productCode =>
    getProductStatusVariables K siteName partyId productCode

/-- The one request a call makes. -/
def request (authToken : Option Text) (call : ServiceCall) : HttpRequest :=
  GraphQLService.request authToken call.method.url call.method.apiKey call.method.query
    (some (call.vars K))

/-- The call with its site in upper case. -/
def upperSite : ServiceCall → ServiceCall
  | signin username password siteName => signin username password (K.upper siteName)
  | signup party siteName => signup party (K.upper siteName)
  | getAlerts siteName fromDate toDate recordsPerPage =>
    getAlerts (K.upper siteName) fromDate toDate recordsPerPage
  | getProducts siteName partyId => getProducts (K.upper siteName) partyId
  | getProductStatus siteName partyId productCode =>
    getProductStatus (K.upper siteName) partyId productCode

/-- What the body holds. -/
def content (call : ServiceCall) : Json :=
  .map [("query".toList, .string call.method.query), ("variables".toList, .map (call.vars K))]

end Sent

/-- No double is among the arguments, and the integers fit into 64 bits. -/
def Plain : ServiceCall → Prop
  | signin _ _ _ => True
  | signup party _ => (Json.map party).Plain
  | getAlerts _ _ _ recordsPerPage => (Json.int recordsPerPage).Plain
  | getProducts _ partyId => (Json.int partyId).Plain
  | getProductStatus _ partyId _ => (Json.int partyId).Plain

variable {K : Casing} {authToken : Option Text} {call call' : ServiceCall}

theorem content_plain (h : call.Plain) : (call.content K).Plain := by
  refine ⟨trivial, ?_, trivial⟩
  cases call with
  | signin username password siteName => exact ⟨trivial, trivial, trivial, trivial⟩
  | signup party siteName => exact ⟨h, trivial, trivial⟩
  | getAlerts siteName fromDate toDate recordsPerPage =>
    exact ⟨trivial, trivial, trivial, h, trivial⟩
  | getProducts siteName partyId => exact ⟨trivial, h, trivial⟩
  | getProductStatus siteName partyId productCode => exact ⟨trivial, h, trivial, trivial⟩

/-- Whatever the arguments hold, the body of a request is read back as the query of
its method with the variables of the call. -/
theorem body_read (K : Casing) (authToken : Option Text) (h : call.Plain) :
    jsonRead (call.request K authToken).body = some (.map
      [("query".toList, .string call.method.query), ("variables".toList, .map (call.vars K))]) :=
  jsonRead_encode (content_plain h)

/-- A name with a quote and a line feed. -/
theorem body_read_signup :
    jsonRead ((signup [("user_name".toList, .string "a\"\n".toList)] "site".toList).request .ascii
      none).body = some (.map [("query".toList, .string signupQuery),
        ("variables".toList, .map [("party".toList,
          .map [("user_name".toList, .string "a\"\n".toList)]),
          ("site_name".toList, .string "SITE".toList)])]) := by
  have hplain : (signup [("user_name".toList, .string "a\"\n".toList)] "site".toList).Plain :=
    ⟨trivial, trivial⟩
  exact body_read .ascii none hplain

/-! ## One body for one call -/

theorem vars_upperSite : (call.upperSite K).vars K = call.vars K := by
  cases call <;> simp only [upperSite, vars, signinVariables, signupVariables, getAlertsVariables,
    getProductsVariables, getProductStatusVariables, K.upper_upper]

theorem method_upperSite : (call.upperSite K).method = call.method := by
  cases call <;> rfl

/-- The variables of one method name the call. -/
theorem upperSite_eq (hmethod : call.method = call'.method) (hvars : call.vars K = call'.vars K) :
    call.upperSite K = call'.upperSite K := by
  cases call <;> cases call' <;> cases hmethod <;>
    simp only [vars, signinVariables, signupVariables, getAlertsVariables, getProductsVariables,
      getProductStatusVariables, List.cons.injEq, Prod.mk.injEq, Json.string.injEq, Json.map.injEq,
      Json.int.injEq, true_and, and_true] at hvars <;>
    simp only [upperSite, hvars]

/-- The body alone, whatever is sent along with it in the headers, names the method
and its arguments up to the case of the site. -/
theorem body_eq_iff (authToken authToken' : Option Text) (h : call.Plain) (h' : call'.Plain) :
    (call.request K authToken).body = (call'.request K authToken').body ↔
      call.upperSite K = call'.upperSite K := by
  constructor
  · intro heq
    have hcontent : call.content K = call'.content K :=
      Json.encode_inj (content_plain h) (content_plain h') heq
    obtain ⟨hquery, hvars⟩ : call.method.query = call'.method.query ∧ call.vars K = call'.vars K := by
      simpa [content] using hcontent
    exact upperSite_eq (ServiceMethod.query_inj hquery) hvars
  · intro heq
    have hcontent : call.content K = call'.content K := by
      rw [content, content, ← method_upperSite (K := K), ← vars_upperSite, heq, method_upperSite,
        vars_upperSite]
    exact congrArg Json.encode hcontent

/-- The party ids differ. -/
theorem body_products_ne :
    ((getProducts "site".toList 1).request .ascii none).body ≠
      ((getProducts "site".toList 2).request .ascii none).body := by
  have h1 : (getProducts "site".toList 1).Plain := ⟨by decide, by decide⟩
  have h2 : (getProducts "site".toList 2).Plain := ⟨by decide, by decide⟩
  refine (body_eq_iff (K := .ascii) none none h1 h2).not.mpr fun h => ?_
  cases h

end ServiceCall

end SurveilOne
