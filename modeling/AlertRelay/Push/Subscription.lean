import AlertRelay.Failure.Basic
import AlertRelay.Schema.Scalar

/-!
# Push subscriptions

A browser hands out a subscription as JSON with the endpoint of its push service and two keys.
Stored subscriptions may be unusable.
-/

namespace AlertRelay

/-- A browser that a user has subscribed. -/
structure PushSubscription where
  endpoint : String
  auth : String
  p256dh : String

namespace PushSubscription

/-- The count of characters of an endpoint that are shown. -/
def suffixLength : Nat := 16

/-- The last part of a list. -/
def lastPart {α : Type} (items : List α) : List α := items.drop (items.length - suffixLength)

/-- The last characters of an endpoint. -/
def endpointSuffix (endpoint : String) : String :=
  Surrogate.ofPoints (lastPart (Surrogate.points endpoint))

def toJson (subscription : PushSubscription) : Json :=
  .object
    [("endpoint", .text subscription.endpoint), ("auth", .text subscription.auth),
      ("p256dh", .text subscription.p256dh)]

/-- The subscription in the form in which browsers hand it out and push services take it. -/
def exchangeJson (subscription : PushSubscription) : Json :=
  .object
    [("endpoint", .text subscription.endpoint),
      ("keys", .object
        [("auth", .text subscription.auth), ("p256dh", .text subscription.p256dh)])]

/-- The subscription with three values, which must be texts. -/
def ofValues (endpoint auth p256dh : Json) : Checked PushSubscription :=
  PushSubscription.mk
    <$> (Scalar.text endpoint).within "endpoint"
    <*> (Scalar.text auth).within "auth"
    <*> (Scalar.text p256dh).within "p256dh"

/-- What the data of a subscription turns out to be. -/
inductive Reading where
  | usable (subscription : PushSubscription)
  | invalidJson
  | incomplete (endpointSuffix : Json) (hasAuth hasP256dh : Bool)
  | failure (failure : Failure)

/-- The last part of an endpoint that may be of any kind. -/
def anySuffix : Json → Except Failure Json
  | .text value => .ok (.text (endpointSuffix value))
  | .list items => .ok (.list (lastPart items))
  | .object _ => .error (.shape .objectSliced)
  | value => .error (.shape (.notIndexed value.typeName))

/-- The value of a member, empty when it is absent or counts as absent. -/
def present (data : Json) (name : String) : Json :=
  match data.member? name with
  | some value => if value.isTruthy then value else .text ""
  | none => .text ""

/-- The subscription in an object. -/
def ofObject (data : Json) : Reading :=
  let keys := (data.member? "keys").getD .null
  let endpoint := present data "endpoint"
  let auth := present keys "auth"
  let p256dh := present keys "p256dh"
  if endpoint.isTruthy && auth.isTruthy && p256dh.isTruthy then
    match ofValues endpoint auth p256dh with
    | .valid subscription => .usable subscription
    | .invalid first more => .failure (.invalid "PushSubscription" first more)
  else
    match anySuffix endpoint with
    | .ok suffix => .incomplete suffix auth.isTruthy p256dh.isTruthy
    | .error failure => .failure failure

/-- Read the data of a subscription. -/
def ofText (raw : String) : Reading :=
  match Json.parse raw with
  | .ok (.object members) => ofObject (.object members)
  | .ok _ => .invalidJson
  | .error (.tooDeep container) =>
      .failure (.malformedJson (.tooDeep container) raw)
  | .error _ => .invalidJson

/-- Read stored data, which should be a text. -/
def ofStored : Json → Reading
  | .text raw => ofText raw
  | _ => .invalidJson

end PushSubscription
end AlertRelay
