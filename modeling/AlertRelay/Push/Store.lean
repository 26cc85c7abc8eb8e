import AlertRelay.Push.Subscription
import AlertRelay.Table.Attribute
import AlertRelay.Table.Client

/-!
# Stored push subscriptions

The subscription table is keyed by endpoint and indexed by user.  Subscriptions that cannot be
used are passed over.
-/

namespace AlertRelay

/-- The subscriptions in a table. -/
structure SubscriptionStore where
  tables : TableClient
  table : String

namespace SubscriptionStore

def component : String := "subscriptions"

/-- Read the data of a subscription; unusable data is logged. -/
def read (data : Json) : Program (Option PushSubscription) :=
  match PushSubscription.ofStored data with
  | .usable subscription => .done (some subscription)
  | .invalidJson => do
      Program.log .warning component "push_subscription_invalid_json" []
      pure none
  | .incomplete suffix hasAuth hasP256dh => do
      Program.log .warning component "push_subscription_incomplete"
        [("endpoint", suffix), ("has_auth", .bool hasAuth), ("has_p256dh", .bool hasP256dh)]
      pure none
  | .failure failure => .fail failure

/-- The options of the query for the items of a user. -/
def queryOptions (userId : String) : List (String × Json) :=
  [("IndexName", .text "user_id-index"),
    ("KeyConditionExpression", .text "user_id = :user_id"),
    ("ExpressionAttributeValues", .object [(":user_id", Attribute.ofText userId)])]

/-- Query the items of a user. -/
def queryUser (store : SubscriptionStore) (userId : String) : Program Outcome :=
  store.tables.query store.table (queryOptions userId)

/-- The items in the outcome of a query. -/
def itemsOf (outcome : Outcome) : List Json :=
  match outcome.data with
  | .list items => items
  | _ => []

/-- The usable subscriptions in items, in their order. -/
def readItems : List Json → Program (List PushSubscription)
  | [] => .done []
  | item :: rest => do
      let data ← Program.ofExcept (Attribute.textOr item "data" (.text ""))
      let subscription? ← read data
      let others ← readItems rest
      pure (subscription?.toList ++ others)

/-- The usable subscriptions of a user. -/
def findByUser (store : SubscriptionStore) (userId : String) : Program (List PushSubscription) := do
  let outcome ← store.queryUser userId
  if outcome.isSuccess then readItems (itemsOf outcome)
  else .fail (.unread "query push subscriptions" outcome.message)

/-- Delete the subscription with an endpoint, which need not exist.  Endpoints in stored items may
be of any kind. -/
def deleteEndpoint (store : SubscriptionStore) (endpoint : Json) : Program Outcome := do
  let key := Json.object [("endpoint", .object [("S", endpoint)])]
  let outcome ← store.tables.deleteItem store.table key []
  if outcome.isSuccess then do
    let suffix ← Program.ofExcept (PushSubscription.anySuffix endpoint)
    Program.log .info component "push_subscription_deleted" [("endpoint", suffix)]
    pure outcome
  else pure outcome

/-- Delete the subscription with an endpoint, which need not exist. -/
def deleteByEndpoint (store : SubscriptionStore) (endpoint : String) : Program Outcome :=
  store.deleteEndpoint (.text endpoint)

/-- Delete the subscriptions in items up to the first deletion that fails; `removed` counts the
deleted ones. -/
def removeItems (store : SubscriptionStore) (userId : String) (removed : Nat) :
    List Json → Program Outcome
  | [] => do
      Program.log .info component "push_subscriptions_removed"
        [("user_id", .text userId), ("count", .integer removed)]
      pure (.success (.object [("removed", .integer removed)]) "ok")
  | item :: rest => do
      let endpoint ← Program.ofExcept (Attribute.textOr item "endpoint" .null)
      if endpoint.isTruthy then
        let deleted ← store.deleteEndpoint endpoint
        if deleted.isSuccess then removeItems store userId (removed + 1) rest
        else pure deleted
      else removeItems store userId removed rest

/-- Delete all subscriptions of a user. -/
def removeUser (store : SubscriptionStore) (userId : String) : Program Outcome := do
  let outcome ← store.queryUser userId
  if outcome.isSuccess then store.removeItems userId 0 (itemsOf outcome) else pure outcome

end SubscriptionStore
end AlertRelay
