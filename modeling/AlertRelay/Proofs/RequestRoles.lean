import AlertRelay.Proofs.TableService

/-!
# Roles of requests

Requests are told apart by what they can do to the world outside: quiet ones do nothing that a
collaborator or a recipient notices, reading ones only look something up, and outbound ones reach a
recipient.
-/

namespace AlertRelay
namespace Request

/-- Reports, pauses, and questions about the own situation of a program. -/
def Quiet : Request → Prop
  | .closeConnection => True
  | .cancelled => True
  | .sleep _ => True
  | .now => True
  | .log _ => True
  | .context => True
  | .setContext _ => True
  | _ => False

/-- Reports, pauses and questions that leave the message context alone. -/
def Routine : Request → Prop
  | .closeConnection => True
  | .cancelled => True
  | .sleep _ => True
  | .now => True
  | .log _ => True
  | _ => False

/-- Look-ups of collaborators' records other than the contact methods of users. -/
def Consulting : Request → Prop
  | .serviceInfo _ => True
  | .alert _ => True
  | .alertMetadata _ => True
  | .logEntry _ => True
  | .schedule _ => True
  | .onCallUsers _ => True
  | .verificationCode _ => True
  | .signalParameters _ => True
  | _ => False

/-- Look-ups of collaborators' records and of stored items. -/
def Reading : Request → Prop
  | .serviceInfo _ => True
  | .alert _ => True
  | .alertMetadata _ => True
  | .logEntry _ => True
  | .contactMethods _ => True
  | .schedule _ => True
  | .onCallUsers _ => True
  | .verificationCode _ => True
  | .signalParameters _ => True
  | .service ⟨_, _, _, .getItem _ _ _⟩ => True
  | _ => False

/-- Calls of providers, which may reach a recipient. -/
def Outbound : Request → Prop
  | .telephone _ => True
  | .post _ => True
  | .push _ => True
  | .deliver _ _ => True
  | _ => False

/-- Notes in the logs of alerts. -/
def Noting : Request → Prop
  | .appendAlertSent _ _ => True
  | .appendServiceSent _ _ => True
  | _ => False

/-- Queries of stored subscriptions and deletions of single ones. -/
def Subscribing : Request → Prop
  | .service ⟨_, _, _, .query _ _⟩ => True
  | .service ⟨_, _, _, .deleteItem _ key _⟩ =>
      ∃ endpoint, key = .object [("endpoint", .object [("S", endpoint)])]
  | _ => False

/-- What channels do. -/
def Carrying (request : Request) : Prop :=
  request.Routine ∨ request.Outbound ∨ request.Subscribing

/-- Telephone calls, other than short messages. -/
def Rings : Request → Prop
  | .telephone call => ∃ script, call.content = .spoken script
  | _ => False

instance : DecidablePred Rings
  | .telephone ⟨_, _, _, _, _, .spoken script⟩ => isTrue ⟨script, rfl⟩
  | .telephone ⟨_, _, _, _, _, .written _⟩ => isFalse nofun
  | .serviceInfo _ | .alert _ | .alertMetadata _ | .logEntry _ | .contactMethods _ | .schedule _
  | .onCallUsers _ | .verificationCode _ | .signalParameters _ | .appendAlertSent ..
  | .appendServiceSent .. | .service _ | .post _ | .closeConnection | .push _ | .deliver ..
  | .cancelled | .sleep _ | .now | .log _ | .context | .setContext _ => isFalse id

/-- Writes of items. -/
def Stores : Request → Prop
  | .service ⟨_, _, _, .putItem _ _ _⟩ => True
  | _ => False

/-- The request leaves recorded deliveries alone. -/
def SparesDeliveries : Request → Prop
  | .service call => call.operation.SparesDeliveries
  | _ => True

theorem Routine.quiet {request : Request} (routine : request.Routine) : request.Quiet := by
  cases request <;> trivial

theorem Consulting.reading {request : Request} (consulting : request.Consulting) :
    request.Reading := by
  cases request <;> first | exact consulting.elim | trivial

theorem Quiet.spares {request : Request} (quiet : request.Quiet) : request.SparesDeliveries := by
  cases request <;> trivial

theorem Reading.spares {request : Request} (reading : request.Reading) :
    request.SparesDeliveries := by
  cases request with
  | service call =>
      obtain ⟨service, session, client, operation⟩ := call
      cases operation <;> trivial
  | _ => trivial

theorem Outbound.spares {request : Request} (outbound : request.Outbound) :
    request.SparesDeliveries := by
  cases request <;> trivial

theorem Noting.spares {request : Request} (noting : request.Noting) :
    request.SparesDeliveries := by
  cases request <;> trivial

theorem Subscribing.spares {request : Request} (subscribing : request.Subscribing) :
    request.SparesDeliveries := by
  cases request with
  | service call =>
      obtain ⟨service, session, client, operation⟩ := call
      cases operation <;> trivial
  | _ => exact subscribing.elim

theorem Carrying.spares {request : Request} (carrying : request.Carrying) :
    request.SparesDeliveries := by
  rcases carrying with routine | outbound | subscribing
  · exact routine.quiet.spares
  · exact outbound.spares
  · exact subscribing.spares

/-- Only calls of the table service store items. -/
theorem Stores.exists_call {request : Request} (stores : request.Stores) :
    ∃ call name item options, request = .service call ∧
      call.operation = .putItem name item options := by
  cases request with
  | service call =>
      obtain ⟨service, session, client, operation⟩ := call
      cases operation with
      | putItem name item options => exact ⟨_, name, item, options, rfl, rfl⟩
      | _ => exact stores.elim
  | _ => exact stores.elim

theorem stores_of_putItem {call : ServiceCall} {name : String} {item : Json}
    {options : List (String × Json)} (operation : call.operation = .putItem name item options) :
    (Request.service call).Stores := by
  obtain ⟨service, session, client, made⟩ := call
  subst operation
  trivial

theorem Quiet.not_stores {request : Request} (quiet : request.Quiet) : ¬ request.Stores := by
  intro stores
  obtain ⟨call, _, _, _, rfl, _⟩ := stores.exists_call
  exact quiet

theorem Outbound.not_stores {request : Request} (outbound : request.Outbound) :
    ¬ request.Stores := by
  intro stores
  obtain ⟨call, _, _, _, rfl, _⟩ := stores.exists_call
  exact outbound

theorem Noting.not_stores {request : Request} (noting : request.Noting) : ¬ request.Stores := by
  intro stores
  obtain ⟨call, _, _, _, rfl, _⟩ := stores.exists_call
  exact noting

theorem Reading.not_stores {request : Request} (reading : request.Reading) :
    ¬ request.Stores := by
  intro stores
  obtain ⟨⟨service, session, client, operation⟩, name, item, options, rfl, rfl⟩ :=
    stores.exists_call
  exact reading

theorem Subscribing.not_stores {request : Request} (subscribing : request.Subscribing) :
    ¬ request.Stores := by
  intro stores
  obtain ⟨⟨service, session, client, operation⟩, name, item, options, rfl, rfl⟩ :=
    stores.exists_call
  exact subscribing

theorem Carrying.not_stores {request : Request} (carrying : request.Carrying) :
    ¬ request.Stores := by
  rcases carrying with routine | outbound | subscribing
  · exact routine.quiet.not_stores
  · exact outbound.not_stores
  · exact subscribing.not_stores

theorem Quiet.not_outbound {request : Request} (quiet : request.Quiet) :
    ¬ request.Outbound := by
  cases request <;> first | exact quiet.elim | exact id

theorem Reading.not_outbound {request : Request} (reading : request.Reading) :
    ¬ request.Outbound := by
  cases request <;> first | exact reading.elim | exact id

theorem Noting.not_outbound {request : Request} (noting : request.Noting) :
    ¬ request.Outbound := by
  cases request <;> first | exact noting.elim | exact id

theorem Rings.outbound {request : Request} (rings : request.Rings) : request.Outbound := by
  cases request <;> trivial

end Request

namespace Store

variable {store after : Store} {exchange : Exchange} {name : String}

theorem Answers.keyName_eq (answers : store.Answers exchange after)
    (spares : exchange.request.SparesDeliveries) :
    (after.table name).keyName = (store.table name).keyName := by
  cases answers with
  | service served => exact served.keyName_eq spares
  | elsewhere => rfl

/-- An exchange keeps every row of a table of deliveries, and adds at most the item of a first
write. -/
theorem Answers.row?_eq (answers : store.Answers exchange after)
    (keyed : (store.table name).keyName = "delivery_key")
    (spares : exchange.request.SparesDeliveries) (key : String) :
    after.row? name key = store.row? name key ∨
      ∃ call item, exchange.request = .service call ∧
        call.operation = .putItem name item Ledger.firstWrite ∧
        key = Table.keyOf "delivery_key" item ∧ store.row? name key = none ∧
          after.row? name key = some item := by
  cases answers with
  | elsewhere => exact .inl rfl
  | @service call answer after served =>
      rcases served.row?_eq keyed spares key with same | ⟨item, operation, place, absent, stored⟩
      · exact .inl same
      · exact .inr ⟨call, item, rfl, operation, place, absent, stored⟩

end Store

/-- All calls of the service are the one call that a program may make. -/
theorem Program.Makes.call_eq {α : Type} {program : Program α} {expected call : ServiceCall}
    {exchanges : List Exchange} {outcome : Except Failure α} {answer : Except Failure Json}
    (makes : program.Makes fun request => request.Routine ∨ request = .service expected)
    (ended : program.Ends exchanges outcome) (made : ⟨.service call, answer⟩ ∈ exchanges) :
    call = expected := by
  rcases makes.of_mem ended made with routine | same
  · exact routine.elim
  · exact (Request.service.injEq _ _).mp same

end AlertRelay
