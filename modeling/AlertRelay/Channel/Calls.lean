import AlertRelay.Push.Subscription

/-!
# Outbound calls

The calls that channels make to the outside, with their arguments as they are sent.
-/

namespace AlertRelay

/-- What a telephone call says, or what a short message says. -/
inductive TelephonyContent where
  | spoken (script : String)
  | written (text : String)
deriving DecidableEq

/-- A telephone call or a short message. -/
structure TelephonyCall where
  accountSid : String
  authToken : String
  timeout : Double
  toNumber : String
  fromNumber : String
  content : TelephonyContent

namespace TelephonyCall

/-- The kind of resource that the call creates. -/
def resource (call : TelephonyCall) : String :=
  match call.content with
  | .spoken _ => "calls"
  | .written _ => "messages"

def arguments (call : TelephonyCall) : List (String × Json) :=
  [("account_sid", .text call.accountSid), ("auth_token", .text call.authToken),
    ("timeout", .real call.timeout), ("to", .text call.toNumber),
    ("from_", .text call.fromNumber),
    match call.content with
    | .spoken script => ("twiml", .text script)
    | .written text => ("body", .text text)]

end TelephonyCall

/-- What an HTTP request carries. -/
inductive HttpContent where
  | json (data : Json)
  | form (fields : List (String × String))

/-- An HTTP request that posts data. -/
structure HttpPost where
  url : String
  content : HttpContent
  headers : List (String × String)
  timeout : Json

namespace HttpPost

/-- Texts by name as a JSON object. -/
def fieldsJson (fields : List (String × String)) : Json :=
  .object (fields.map fun field => (field.1, .text field.2))

def arguments (request : HttpPost) : List (String × Json) :=
  ("url", .text request.url) ::
    (match request.content with
      | .json data => ("json", data)
      | .form fields => ("data", fieldsJson fields)) ::
    (if request.headers.isEmpty then [] else [("headers", fieldsJson request.headers)]) ++
    [("timeout", request.timeout)]

end HttpPost

/-- A push message for one subscription. -/
structure PushRequest where
  subscription : PushSubscription
  data : String
  privateKey : String
  subscriber : String
  timeToLive : Int
  timeout : Double

namespace PushRequest

def arguments (request : PushRequest) : List (String × Json) :=
  [("subscription_info", request.subscription.exchangeJson), ("data", .text request.data),
    ("vapid_private_key", .text request.privateKey),
    ("vapid_claims", .object [("sub", .text request.subscriber)]),
    ("ttl", .integer request.timeToLive),
    ("headers", .object [("Urgency", .text "high")]), ("timeout", .real request.timeout)]

end PushRequest
end AlertRelay
