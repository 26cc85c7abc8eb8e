import AlertRelay.Proofs.Building
import AlertRelay.Proofs.ServiceFailures

/-!
# Failures while a message is built

Most of what goes wrong while a message is built is reported as a failure of the dispatch, with the
operation in which it came up.  The rest are the places where data is used after it was looked up: a
row of the delivery table, the parts of a service's record, the metadata of an alert, the id of a
contact method, and the fields of a payload.
-/

namespace AlertRelay

open Program Failure

namespace BuildOutcome

/-- The ways in which building a message can fail, each with the answer that shows it. -/
inductive Fault (ledger : Ledger) (message : Message) (exchanges : List Exchange) : Failure → Prop
  | wrapped {failure : Failure} (isDispatch : failure.isDispatch = true) :
      Fault ledger message exchanges failure
  /-- The table service raised what is none of its own failures. -/
  | raised {call : ServiceCall} {failure : Failure}
      (answered : ⟨.service call, .error failure⟩ ∈ exchanges)
      (foreign : failure.isServiceFailure = false) : Fault ledger message exchanges failure
  /-- The table service refused with a code that cannot be told from others. -/
  | unclassified {call : ServiceCall} {refusal failure : Failure}
      (answered : ⟨.service call, .error refusal⟩ ∈ exchanges)
      (failed : Outcome.ofServiceFailure refusal = .error failure) :
      Fault ledger message exchanges failure
  | unreadableAnswer {alertId : Int} {destination : DestinationId} {response : Json}
      {failure : Failure}
      (answered : ⟨.service (ledger.readCall alertId destination), .ok response⟩ ∈ exchanges)
      (failed : Attribute.itemOf response = .error failure) : Fault ledger message exchanges failure
  | unreadableRow {alertId : Int} {destination : DestinationId} {response item : Json}
      {failure : Failure}
      (answered : ⟨.service (ledger.readCall alertId destination), .ok response⟩ ∈ exchanges)
      (stored : Attribute.itemOf response = .ok (some item))
      (failed : DeliveryRecord.ofItem alertId destination item = .error failure) :
      Fault ledger message exchanges failure
  | serviceParts {parts : List Json} {failure : Failure}
      (answered : ⟨.serviceInfo message.serviceId, .ok parts⟩ ∈ exchanges)
      (failed : serviceParts parts = .error failure) : Fault ledger message exchanges failure
  | memberless {metadata : Json}
      (answered : ⟨.alertMetadata message.alertId, .ok metadata⟩ ∈ exchanges)
      (noObject : ∀ members, metadata ≠ .object members) :
      Fault ledger message exchanges (.shape (.noMembers metadata.typeName))
  | nameless {userId : String} {methods : List ContactMethod} {method : ContactMethod}
      {first : Issue} {more : List Issue}
      (answered : ⟨.contactMethods userId, .ok methods⟩ ∈ exchanges)
      (found : methods.find? (fun method => Priority.isVoice method.destination) = some method)
      (noName : method.id = "") :
      Fault ledger message exchanges (.invalid "DestinationID" first more)
  | alertContent {name count metadata : Json} {alert : Alert}
      {firstDelivery : Option DeliveryRecord} {first : Issue} {more : List Issue}
      (informed : ⟨.serviceInfo message.serviceId, .ok [name, count]⟩ ∈ exchanges)
      (answered : ⟨.alertMetadata message.alertId, .ok metadata⟩ ∈ exchanges)
      (failed : alertContent alert name metadata firstDelivery = .invalid first more) :
      Fault ledger message exchanges (.invalid "AlertPayload" first more)
  | bundleContent {name count : Json} {first : Issue} {more : List Issue}
      (isBundle : message.type = .alertBundle)
      (informed : ⟨.serviceInfo message.serviceId, .ok [name, count]⟩ ∈ exchanges)
      (failed : (BundleContent.mk
        <$> (Scalar.text (Json.ofText? message.serviceId)).within "service_id"
        <*> (Scalar.text name).within "service_name"
        <*> (Scalar.integer count).within "count") = .invalid first more) :
      Fault ledger message exchanges (.invalid "AlertBundlePayload" first more)
  | code {code : Json} {failure : Failure}
      (answered : ⟨.verificationCode message.verificationId, .ok code⟩ ∈ exchanges)
      (failed : codeText code = .error failure) : Fault ledger message exchanges failure

end BuildOutcome

open BuildOutcome

section Faults

variable {ledger : Ledger} {message : Message} {exchanges : List Exchange}

/-! ## The delivery table -/

/-- Data that does not fit its model. -/
theorem fails_ofChecked {α : Type} {model : String} {data : Checked α}
    {expected : Exchange → Prop} {holds : Failure → Prop}
    (unfit : ∀ first more, data = .invalid first more → holds (.invalid model first more)) :
    (ofChecked model data).Fails expected holds := by
  cases data with
  | valid value => exact Fails.done value
  | invalid first more => exact Fails.fail (unfit first more rfl)

theorem Ledger.fails_getItem (alertId : Int) (destination : DestinationId) :
    (ledger.tables.getItem ledger.table
      (.object [("delivery_key", Attribute.ofText (deliveryKey alertId destination))])
      [("ConsistentRead", .bool true)]).Fails (· ∈ exchanges)
      (Fault ledger message exchanges) :=
  TableClient.fails_getItem_usual rfl rfl (fun _ => .raised)
    fun _ answered _ => .unclassified answered

/-- A row is looked up with an answer of the service, or with a fault. -/
theorem Ledger.gives_getItem (alertId : Int) (destination : DestinationId) :
    (ledger.tables.getItem ledger.table
      (.object [("delivery_key", Attribute.ofText (deliveryKey alertId destination))])
      [("ConsistentRead", .bool true)]).Gives (· ∈ exchanges)
      (fun outcome => outcome.isSuccess →
        ⟨.service (ledger.readCall alertId destination), .ok outcome.data⟩ ∈ exchanges)
      (Fault ledger message exchanges) := by
  refine yields_of_forall_ends fun made result ended included => ?_
  cases result with
  | ok outcome =>
      intro success
      have answered := TableClient.answered_of_ends_getItem ended success
      rw [sent_read] at answered
      exact included _ answered
  | error failure => exact (Ledger.fails_getItem alertId destination).of_ends ended included

theorem Ledger.fails_firstDelivery (alertId : Int) (destination : DestinationId) :
    (ledger.firstDelivery alertId destination).Fails (· ∈ exchanges)
      (Fault ledger message exchanges) := by
  refine (Ledger.gives_getItem alertId destination).bind fun outcome told => ?_
  split
  · rename_i success
    have answered := told success
    refine (yields_eq (Attribute.itemOf outcome.data)).bind (fun found stored => ?_)
      fun _ failed => .unreadableAnswer answered failed.symm
    cases found with
    | none => exact Fails.done _
    | some item =>
        have read : (ofExcept (DeliveryRecord.ofItem alertId destination item)).Fails
            (· ∈ exchanges) (Fault ledger message exchanges) :=
          fails_ofExcept fun _ failed => .unreadableRow answered stored.symm failed
        exact read.bind fun record => .done _
  · exact Fails.fail (.wrapped rfl)

/-! ## The priority policy -/

namespace Priority

/-- A message is redirected to any contact method with a name. -/
theorem fails_redirect {userId : String} {methods : List ContactMethod} {method : ContactMethod}
    (answered : ⟨.contactMethods userId, .ok methods⟩ ∈ exchanges)
    (found : methods.find? (fun method => isVoice method.destination) = some method)
    (given : Message) :
    (redirect given method).Fails (· ∈ exchanges) (Fault ledger message exchanges) := by
  refine Fails.bind (fails_ofChecked fun first more unfit => ?_) fun id => .done _
  refine .nameless answered found ?_
  refine Decidable.byContradiction fun named => ?_
  rw [DestinationId.read_contactMethod.mpr ⟨named, rfl⟩] at unfit
  cases unfit

theorem fails_apply {key value : String} {metadata : Json} (given : Message)
    (answered : ⟨.alertMetadata message.alertId, .ok metadata⟩ ∈ exchanges) :
    (apply key value metadata given).Fails (· ∈ exchanges) (Fault ledger message exchanges) := by
  dsimp only [apply]
  split
  · exact Fails.done _
  · split
    · split
      · dsimp only [prefer]
        split
        · exact Fails.done _
        · refine Fails.bind (Yields.ask fun answer told => ?_) fun _ => .done _
          cases answer with
          | error failure => exact fails_log.bind fun _ => .done _
          | ok methods =>
              dsimp only
              split
              · rename_i found
                exact fails_log.bind fun _ => fails_redirect told found given
              · exact fails_log.bind fun _ => .done _
      · exact Fails.done _
    · rename_i noObject
      exact Fails.fail (.memberless answered noObject)

end Priority

/-! ## Messages -/

namespace BuildOutcome

theorem fails_lookup {α : Type} (operation : String) (program : Program α) :
    (lookup operation program).Fails (· ∈ exchanges) (Fault ledger message exchanges) :=
  fails_rescue fun _ => .fail (.wrapped rfl)

/-- The value of a look-up is what was found. -/
theorem gives_ask {α : Type} {operation : String} {program : Program (Except Failure α)}
    {holds : α → Prop}
    (yields : program.Yields (· ∈ exchanges)
      fun result => ∀ value, result = .ok (.ok value) → holds value) :
    (ask operation program).Gives (· ∈ exchanges) holds (Fault ledger message exchanges) := by
  have found : (program.bind ofExcept).Gives (· ∈ exchanges) holds fun _ => True := by
    refine Yields.bind yields (fun answer held => yields_ofExcept ?_) fun _ _ => trivial
    cases answer with
    | ok value => exact held value rfl
    | error failure => trivial
  exact Yields.rescue found (fun _ held => held) fun _ _ => Yields.fail (.wrapped rfl)

theorem gives_serviceInfo :
    (serviceInfo message).Gives (· ∈ exchanges)
      (fun parts => ⟨.serviceInfo message.serviceId, .ok [parts.1, parts.2]⟩ ∈ exchanges)
      (Fault ledger message exchanges) := by
  have asked : (ask "lookup service info"
      (Program.request (.serviceInfo message.serviceId))).Gives (· ∈ exchanges)
      (fun parts => ⟨.serviceInfo message.serviceId, .ok parts⟩ ∈ exchanges)
      (Fault ledger message exchanges) := by
    refine gives_ask (Yields.ask fun answer answered => .done ?_)
    rintro parts ⟨⟩
    exact answered
  refine Yields.bind asked (fun parts answered => yields_ofExcept ?_) fun _ fault => fault
  cases read : BuildOutcome.serviceParts parts with
  | error failure => exact .serviceParts answered read
  | ok pair =>
      dsimp only [BuildOutcome.serviceParts] at read
      split at read
      · cases read
        exact answered
      · cases read

theorem gives_metadata :
    (ask "lookup alert metadata" (Program.request (.alertMetadata message.alertId))).Gives
      (· ∈ exchanges) (fun metadata => ⟨.alertMetadata message.alertId, .ok metadata⟩ ∈ exchanges)
      (Fault ledger message exchanges) := by
  refine gives_ask (Yields.ask fun answer answered => .done ?_)
  rintro metadata ⟨⟩
  exact answered

theorem gives_code :
    (ask "lookup verification code"
      (Program.request (.verificationCode message.verificationId))).Gives (· ∈ exchanges)
      (fun code => ⟨.verificationCode message.verificationId, .ok code⟩ ∈ exchanges)
      (Fault ledger message exchanges) := by
  refine gives_ask (Yields.ask fun answer answered => .done ?_)
  rintro code ⟨⟩
  exact answered

theorem fails_ofAlert (site : Site) (config : Config) :
    (ofAlert site message config).Fails (· ∈ exchanges)
      (Fault site.ledger message exchanges) := by
  refine gives_serviceInfo.bind fun ⟨name, count⟩ informed => ?_
  refine Fails.bind (fails_lookup _ _) fun alert => ?_
  refine gives_metadata.bind fun metadata answered => ?_
  refine (Priority.fails_apply message answered).bind fun decision => ?_
  dsimp only
  split
  · exact fails_log.bind fun _ => .done _
  · refine (Ledger.fails_firstDelivery _ _).bind fun recorded => ?_
    refine (fails_ofChecked fun first more unfit => ?_).bind fun content => .done _
    exact .alertContent informed answered unfit

theorem fails_ofBundle (isBundle : message.type = .alertBundle) :
    (ofBundle message).Fails (· ∈ exchanges) (Fault ledger message exchanges) := by
  refine gives_serviceInfo.bind fun ⟨name, count⟩ informed => ?_
  dsimp only
  split
  · exact fails_log.bind fun _ => .done _
  · refine (fails_ofChecked fun first more unfit => ?_).bind fun content => .done _
    exact .bundleContent isBundle informed unfit

theorem fails_ofStatus (site : Site) :
    (ofStatus site message).Fails (· ∈ exchanges) (Fault site.ledger message exchanges) := by
  refine Fails.bind (fails_lookup _ _) fun entry => Fails.bind (fails_lookup _ _) fun alert => ?_
  refine (Ledger.fails_firstDelivery _ _).bind fun recorded => ?_
  cases recorded with
  | none => exact Fails.fail (.wrapped rfl)
  | some record => exact Fails.done _

theorem fails_ofVerification :
    (ofVerification message).Fails (· ∈ exchanges) (Fault ledger message exchanges) := by
  refine gives_code.bind fun code answered => ?_
  have worded : (Program.ofExcept (codeText code)).Fails (· ∈ exchanges)
      (Fault ledger message exchanges) :=
    fails_ofExcept fun _ failed => Fault.code answered failed
  exact worded.bind fun text => .done _

theorem fails_ofRoster (config : Config) :
    (ofRoster message config).Fails (· ∈ exchanges) (Fault ledger message exchanges) :=
  Fails.bind (fails_lookup _ _) fun _ => Fails.bind (fails_lookup _ _) fun _ => .done _

/-- An object without other members than texts is an object of texts. -/
theorem exists_texts_of_filter {members : List (String × Json)}
    (none : members.filter (fun member => !isText member.2) = []) :
    ∃ texts : List (String × String),
      members = texts.map fun entry => (entry.1, .text entry.2) := by
  induction members with
  | nil => exact ⟨[], rfl⟩
  | cons member rest ih =>
      obtain ⟨name, data⟩ := member
      cases data with
      | text value =>
          obtain ⟨texts, rfl⟩ := ih none
          exact ⟨(name, value) :: texts, rfl⟩
      | _ => cases none

theorem fails_signalParameters (data : Json) :
    (signalParameters data).Fails (· ∈ exchanges) (Fault ledger message exchanges) := by
  cases data with
  | object members =>
      dsimp only [signalParameters]
      split
      · rename_i noOthers
        obtain ⟨texts, rfl⟩ := exists_texts_of_filter (by simpa using noOthers)
        rw [Scalar.textMap_texts]
        exact Fails.done _
      · exact Fails.fail (.wrapped rfl)
  | _ => exact Fails.fail (.wrapped rfl)

theorem fails_ofSignal (site : Site) :
    (ofSignal site message).Fails (· ∈ exchanges) (Fault ledger message exchanges) := by
  refine (fails_lookup _ _).bind fun id => (fails_lookup _ _).bind fun raw => ?_
  refine (fails_lookup _ _).bind fun data => ?_
  exact (fails_signalParameters data).bind fun parameters => .done _

end BuildOutcome

end Faults

/-- A message that cannot be built has one of the faults. -/
theorem BuildOutcome.fault_of_ends {site : Site} {message : Message} {config : Config}
    {exchanges : List Exchange} {failure : Failure}
    (ended : (ofMessage site message config).Ends exchanges (.error failure)) :
    Fault site.ledger message exchanges failure := by
  -- The expected exchanges are those that were made, so a fault shows an answer that was given.
  have fails : (ofMessage site message config).Fails (· ∈ exchanges)
      (Fault site.ledger message exchanges) := by
    dsimp only [ofMessage]
    split
    · split
      · exact fails_ofAlert site config
      · rename_i isBundle
        exact fails_ofBundle isBundle
      · exact fails_ofStatus site
      · exact Fails.done _
      · exact fails_ofVerification
      · exact fails_ofRoster config
      · exact fails_ofSignal site
    · exact fails_log.bind fun _ => .done _
  exact fails.of_ends ended fun _ made => made

end AlertRelay
