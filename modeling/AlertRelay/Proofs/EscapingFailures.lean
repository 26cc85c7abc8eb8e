import AlertRelay.Proofs.Acceptance
import AlertRelay.Proofs.BuildFailures

/-!
# Failures that escape a dispatch

As long as every collaborator answers with values of the kind that it should give, a dispatch fails
with a failure of the dispatch or of the provider layer.  Three kinds of data are used without that
care: the row of a delivery, the id of the contact method that a message is promoted to, and the
service of a bundle.  What is wrong with them escapes raw.
-/

namespace AlertRelay

open Program Failure

/-- A collaborator answered with a value of the right kind, or the table service answered with an
object or failed in one of its own ways. -/
def Exchange.IsProper : Exchange → Prop
  | ⟨.serviceInfo _, .ok parts⟩ => ∃ name count, parts = [.text name, .integer count]
  | ⟨.alertMetadata _, .ok metadata⟩ =>
      ∃ texts : List (String × String),
        metadata = .object (texts.map fun entry => (entry.1, .text entry.2))
  | ⟨.verificationCode _, .ok code⟩ => ∃ value, code = .integer value
  | ⟨.service _, .ok response⟩ => ∃ members, response = .object members
  | ⟨.service call, .error failure⟩ => Exchange.IsServed ⟨.service call, .error failure⟩
  | _ => True

/-! ## Proper data -/

theorem Attribute.onlyFalse_itemOf (members : List (String × Json)) :
    Only (fun _ => False) (Attribute.itemOf (.object members)) := by
  rintro failure failed
  dsimp only [itemOf] at failed
  split at failed <;> cases failed

namespace BuildOutcome

/-- The failures that escape raw although every answer was proper, each with the data that it comes
from. -/
inductive Unwrapped (ledger : Ledger) (message : Message) (exchanges : List Exchange) :
    Failure → Prop
  | unreadableRow {alertId : Int} {destination : DestinationId} {response item : Json}
      {failure : Failure}
      (answered : ⟨.service (ledger.readCall alertId destination), .ok response⟩ ∈ exchanges)
      (stored : Attribute.itemOf response = .ok (some item))
      (failed : DeliveryRecord.ofItem alertId destination item = .error failure) :
      Unwrapped ledger message exchanges failure
  | nameless {userId : String} {methods : List ContactMethod} {method : ContactMethod}
      {first : Issue} {more : List Issue}
      (answered : ⟨.contactMethods userId, .ok methods⟩ ∈ exchanges)
      (found : methods.find? (fun method => Priority.isVoice method.destination) = some method)
      (noName : method.id = "") :
      Unwrapped ledger message exchanges (.invalid "DestinationID" first more)
  | serviceless {first : Issue} {more : List Issue} (isBundle : message.type = .alertBundle)
      (noService : message.serviceId = none) :
      Unwrapped ledger message exchanges (.invalid "AlertBundlePayload" first more)

variable {ledger : Ledger} {message : Message} {exchanges : List Exchange} {failure : Failure}

theorem Unwrapped.isRaw (unwrapped : Unwrapped ledger message exchanges failure) :
    failure.IsRaw := by
  cases unwrapped with
  | unreadableRow _ _ failed => exact DeliveryRecord.onlyRaw_ofItem _ _ _ _ failed
  | nameless => rfl
  | serviceless => rfl

theorem Unwrapped.mono {more : List Exchange}
    (unwrapped : Unwrapped ledger message exchanges failure) (included : exchanges ⊆ more) :
    Unwrapped ledger message more failure := by
  cases unwrapped with
  | unreadableRow answered stored failed =>
      exact .unreadableRow (included answered) stored failed
  | nameless answered found noName => exact .nameless (included answered) found noName
  | serviceless isBundle noService => exact .serviceless isBundle noService

theorem isLibrary_of_isDispatch (isDispatch : failure.isDispatch = true) :
    failure.isLibrary = true := by
  rw [isLibrary, isDispatch, Bool.true_or]

/-- With proper answers, the faults that are not wrapped are those of unwrapped data. -/
theorem Fault.isLibrary_or_unwrapped (fault : Fault ledger message exchanges failure)
    (proper : ∀ exchange ∈ exchanges, exchange.IsProper) :
    failure.isLibrary = true ∨ Unwrapped ledger message exchanges failure := by
  -- Where data was looked up, a proper answer rules the fault out.
  cases fault with
  | wrapped isDispatch => exact .inl (isLibrary_of_isDispatch isDispatch)
  | raised answered foreign =>
      have own : failure.isServiceFailure = true := (proper _ answered).1
      rw [own] at foreign
      cases foreign
  | @unclassified call refusal _ answered failed =>
      obtain ⟨outcome, classified⟩ :
          ∃ outcome, Outcome.ofServiceFailure refusal = .ok outcome := (proper _ answered).2
      rw [classified] at failed
      cases failed
  | @unreadableAnswer alertId destination response _ answered failed =>
      obtain ⟨members, rfl⟩ : ∃ members, response = .object members := proper _ answered
      exact (Attribute.onlyFalse_itemOf members _ failed).elim
  | unreadableRow answered stored failed => exact .inr (.unreadableRow answered stored failed)
  | @serviceParts parts _ answered failed =>
      obtain ⟨name, count, rfl⟩ : ∃ name count, parts = [.text name, .integer count] :=
        proper _ answered
      cases failed
  | @memberless metadata answered noObject =>
      obtain ⟨texts, rfl⟩ : ∃ texts : List (String × String),
        metadata = .object (texts.map fun entry => (entry.1, .text entry.2)) := proper _ answered
      exact (noObject _ rfl).elim
  | nameless answered found noName => exact .inr (.nameless answered found noName)
  | @alertContent name count metadata alert firstDelivery first more informed answered failed =>
      obtain ⟨_, _, parts⟩ : ∃ service alerts, [name, count] = [.text service, .integer alerts] :=
        proper _ informed
      obtain ⟨texts, rfl⟩ : ∃ texts : List (String × String),
        metadata = .object (texts.map fun entry => (entry.1, .text entry.2)) := proper _ answered
      cases parts
      rw [BuildOutcome.alertContent, Scalar.textMap_texts] at failed
      cases failed
  | @bundleContent name count first more isBundle informed failed =>
      obtain ⟨_, _, parts⟩ : ∃ service alerts, [name, count] = [.text service, .integer alerts] :=
        proper _ informed
      cases parts
      cases given : message.serviceId with
      | none => exact .inr (.serviceless isBundle given)
      | some id =>
          rw [given] at failed
          cases failed
  | @code code _ answered failed =>
      obtain ⟨value, rfl⟩ : ∃ value, code = .integer value := proper _ answered
      cases failed

end BuildOutcome

/-! ## Dispatches -/

/-- The registry fails with failures of the provider layer only. -/
theorem Registry.isLibrary_of_ends_send {registry : Registry} {payload : Payload}
    {config : Config} {exchanges : List Exchange} {failure : Failure}
    (ended : (registry.send payload config).Ends exchanges (.error failure)) :
    failure.isLibrary = true := by
  cases course_of_ends_send ended with
  | senderless => rfl
  | carried _ _ _ _ concluded =>
      obtain ⟨_, _, source, reason, rfl⟩ := ends_conclude_error concluded
      rfl

/-- When every answer is proper, the failures that escape a dispatch raw are those of the data that
it uses without wrapping what is wrong with it. -/
theorem Dispatch.raw_iff_unwrapped {site : Site} {registry : Registry} {config : Config}
    {message : Message} {exchanges : List Exchange} {failure : Failure}
    (ended : (send site registry config message).Ends exchanges (.error failure))
    (proper : ∀ exchange ∈ exchanges, exchange.IsProper) :
    failure.IsRaw ↔ BuildOutcome.Unwrapped site.ledger message exchanges failure := by
  refine ⟨fun raw => ?_, BuildOutcome.Unwrapped.isRaw⟩
  have notLibrary : failure.isLibrary ≠ true := by
    rw [raw]
    exact Bool.false_ne_true
  rcases outcome_of_ends_send ended with
    ⟨opening, building, closing, _, rfl, _, endedBuild, same⟩ | ⟨_, _, _, _, _, _, _, _, same⟩ |
    ⟨sent, payload, isFirst, given, later, built, endedCarry⟩
  · cases same
    have properBuilding : ∀ exchange ∈ building, exchange.IsProper :=
      fun exchange made => proper exchange (by simp [made])
    rcases (BuildOutcome.fault_of_ends endedBuild).isLibrary_or_unwrapped properBuilding with
      library | unwrapped
    · exact (notLibrary library).elim
    · exact unwrapped.mono fun exchange made => by simp [made]
  · cases same
  · exact (notLibrary (Registry.isLibrary_of_ends_send endedCarry)).elim

/-! ## A row without a message -/

namespace Sample

/-- The answers about the alert are proper. -/
theorem isProper_of_mem_exchanges {α : Type} {program : Program α} {store : Store}
    {exchange : Exchange} (made : exchange ∈ program.exchanges (answerWith answer) store) :
    exchange.IsProper := by
  obtain ⟨reached, given⟩ := answer_of_mem_exchanges made
  obtain ⟨request, answered⟩ := exchange
  cases request with
  | service call =>
      cases answered with
      | ok response => exact Store.isObject_of_respond given.symm
      | error failure => exact isServed_of_mem_exchanges made
  | serviceInfo id =>
      cases given
      exact ⟨_, _, rfl⟩
  | alertMetadata id =>
      cases given
      exact ⟨[("severity", "critical")], rfl⟩
  | verificationCode id =>
      cases given
      exact ⟨_, rfl⟩
  | _ => trivial

/-- The row of a delivery that does not tell which message was delivered. -/
def unreadableRow : Json :=
  .object [("delivery_key", Attribute.ofText (deliveryKey 7 hookId))]

def unreadableTables : Store :=
  ⟨[(deliveries, ⟨"delivery_key", [(deliveryKey 7 hookId, unreadableRow)]⟩)], 10⟩

theorem exists_rawRun :
    ∃ exchanges failure, hookedDispatch.Ends exchanges (.error failure) ∧
      (∀ exchange ∈ exchanges, exchange.IsProper) ∧ failure.IsRaw := by
  have failed : failsWith (fun failure => decide failure.IsRaw)
      (hookedDispatch.run (answerWith answer) unreadableTables).1 = true := by
    decide +kernel
  obtain ⟨failure, ended, raw⟩ := ends_of_failsWith failed
  exact ⟨_, failure, ended, fun _ => isProper_of_mem_exchanges, of_decide_eq_true raw⟩

end Sample

/-- A dispatch fails raw although every collaborator answered as it should. -/
theorem raw_although_proper :
    ∃ exchanges failure, Sample.hookedDispatch.Ends exchanges (.error failure) ∧
      (∀ exchange ∈ exchanges, exchange.IsProper) ∧ failure.isDispatch = false ∧
      failure.isProvider = false := by
  obtain ⟨exchanges, failure, ended, proper, raw⟩ := Sample.exists_rawRun
  exact ⟨exchanges, failure, ended, proper, Bool.or_eq_false_iff.mp raw⟩

/-- The failure comes from data that the dispatch uses without wrapping what is wrong with it. -/
theorem unwrapped_of_unreadableRow :
    ∃ exchanges failure, Sample.hookedDispatch.Ends exchanges (.error failure) ∧
      BuildOutcome.Unwrapped ⟨⟨[], [], 10⟩, Sample.deliveries⟩ Sample.hooked exchanges failure := by
  obtain ⟨exchanges, failure, ended, proper, raw⟩ := Sample.exists_rawRun
  exact ⟨exchanges, failure, ended, (Dispatch.raw_iff_unwrapped ended proper).mp raw⟩

end AlertRelay
