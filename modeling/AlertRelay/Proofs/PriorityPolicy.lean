import AlertRelay.Dispatch.Priority
import AlertRelay.Proofs.CheckedValues
import AlertRelay.Proofs.ServiceCalls

/-!
# Decisions of the priority policy

The policy decides in one of four ways: it is off, the alert lacks the label, a message about a
labelled alert stays as it is, or it is promoted to the first telephone contact of its user.
-/

namespace AlertRelay

open Program

/-- A value equals a text only when it is that text. -/
theorem Json.same_text {data : Json} {value : String} :
    data.same (.text value) = true ↔ data = .text value := by
  cases data with
  | text other => simp [Json.same]
  | null => simp [Json.same, Json.isNull]
  | _ => simp [Json.same, Json.sameNumber, Json.truthAsNumber]

/-- A destination identity that is made from the name of a contact method. -/
theorem DestinationId.read_contactMethod {name : String} {id : DestinationId} :
    DestinationId.read (.object [("cm_id", .text name)]) = .valid id ↔
      ∃ nonempty, id = .contactMethod name nonempty := by
  have names : (Prod.mk
      <$> Members.optional [("cm_id", .text name)] "cm_id" Scalar.text
      <*> Members.optional [("cm_id", .text name)] "channel_id" Scalar.text) =
        .valid (some name, none) := by
    rfl
  rw [read, Scalar.record, Checked.andThen, names]
  by_cases empty : name = ""
  · simp [Checked.andThen, ofNames?, empty, Checked.ofReading, Checked.issue]
  · simp [Checked.andThen, ofNames?, empty, Checked.ofReading, eq_comm]

namespace Priority

/-- Whether metadata holds the priority label. -/
def Labelled (key value : String) (metadata : Json) : Prop :=
  ∃ members, metadata = .object members ∧ members.lookup key = some (.text value)

theorem isVoice_eq_false_iff {destination : Destination} :
    isVoice destination = false ↔ destination.kind ≠ Voice.type := by
  simp [isVoice]

/-- The first telephone contact is a telephone. -/
theorem kind_of_find? {methods : List ContactMethod} {method : ContactMethod}
    (first : methods.find? (fun method => isVoice method.destination) = some method) :
    method.destination.kind = Voice.type := by
  simpa [isVoice] using List.find?_some first

/-- The ways in which the policy decides about a message, given what it was answered. -/
inductive Decides (key value : String) (metadata : Json) (message : Message)
    (exchanges : List Exchange) : Decision → Prop
  | off (unset : key = "" ∨ value = "") : Decides key value metadata message exchanges
      ⟨message, false⟩
  | unlabelled (keySet : key ≠ "") (valueSet : value ≠ "")
      (lacking : ¬ Labelled key value metadata) :
      Decides key value metadata message exchanges ⟨message, isVoice message.destination⟩
  | kept (keySet : key ≠ "") (valueSet : value ≠ "") (labelled : Labelled key value metadata) :
      Decides key value metadata message exchanges ⟨message, false⟩
  | promoted (keySet : key ≠ "") (valueSet : value ≠ "") (labelled : Labelled key value metadata)
      (elsewhere : isVoice message.destination = false) {userId : String}
      {methods : List ContactMethod} {method : ContactMethod}
      (ofUser : message.userId = some userId)
      (answered : ⟨.contactMethods userId, .ok methods⟩ ∈ exchanges)
      (first : methods.find? (fun method => isVoice method.destination) = some method)
      (nonempty : method.id ≠ "") :
      Decides key value metadata message exchanges
        ⟨{ message with
            destination := method.destination
            destinationId := .contactMethod method.id nonempty }, false⟩

variable {key value : String} {metadata : Json} {message : Message}

theorem Decides.mono {exchanges more : List Exchange} {decision : Decision}
    (decided : Decides key value metadata message exchanges decision)
    (included : exchanges ⊆ more) : Decides key value metadata message more decision := by
  cases decided with
  | off unset => exact .off unset
  | unlabelled keySet valueSet lacking => exact .unlabelled keySet valueSet lacking
  | kept keySet valueSet labelled => exact .kept keySet valueSet labelled
  | promoted keySet valueSet labelled elsewhere ofUser answered first nonempty =>
      exact .promoted keySet valueSet labelled elsewhere ofUser (included answered) first nonempty

theorem makes_apply {allowed : Request → Prop}
    (routine : ∀ request, request.Routine → allowed request)
    (looked : ∀ userId, allowed (.contactMethods userId)) :
    (apply key value metadata message).Makes allowed := by
  dsimp only [apply]
  split
  · exact .done _
  · split
    · split
      · dsimp only [prefer]
        split
        · exact .done _
        · refine makes_bind (.ask (looked _) fun answer => ?_) fun _ => .done _
          cases answer with
          | error failure =>
              exact makes_reported routine _ _ _ _ _
          | ok methods =>
              dsimp only
              split
              · refine makes_bind (makes_log_of_routine routine _ _ _ _) fun _ => ?_
                exact makes_bind makes_ofExcept fun _ => .done _
              · exact makes_reported routine _ _ _ _ _
      · exact .done _
    · exact .fail _

private theorem kept_or_promoted {exchanges : List Exchange} {userId : String}
    {promotedMessage : Message}
    (ended : (promote message userId).Ends exchanges (.ok promotedMessage)) :
    promotedMessage = message ∨ ∃ methods method nonempty,
      ⟨.contactMethods userId, .ok methods⟩ ∈ exchanges ∧
      methods.find? (fun method => isVoice method.destination) = some method ∧
      promotedMessage = { message with
        destination := method.destination
        destinationId := .contactMethod method.id nonempty } := by
  obtain ⟨answer, later, rfl, rest⟩ := ends_ask.mp ended
  cases answer with
  | error failure =>
      obtain ⟨_, _, _, _, _, last⟩ := ends_bind_ok.mp rest
      obtain ⟨_, same⟩ := ends_done.mp last
      cases same
      exact .inl rfl
  | ok methods =>
      dsimp only at rest
      split at rest
      · rename_i method found
        obtain ⟨_, _, _, _, _, redirected⟩ := ends_bind_ok.mp rest
        obtain ⟨_, _, id, _, read, last⟩ := ends_bind_ok.mp redirected
        obtain ⟨_, valid⟩ := ends_ofChecked_ok.mp read
        obtain ⟨nonempty, rfl⟩ := DestinationId.read_contactMethod.mp valid
        obtain ⟨_, same⟩ := ends_done.mp last
        cases same
        exact .inr ⟨methods, method, nonempty, List.mem_cons_self, found, rfl⟩
      · obtain ⟨_, _, _, _, _, last⟩ := ends_bind_ok.mp rest
        obtain ⟨_, same⟩ := ends_done.mp last
        cases same
        exact .inl rfl

/-- Every decision of the policy is made in one of the four ways. -/
theorem decides_of_ends_apply {exchanges : List Exchange} {decision : Decision}
    (ended : (apply key value metadata message).Ends exchanges (.ok decision)) :
    Decides key value metadata message exchanges decision := by
  unfold apply at ended
  split at ended
  · rename_i unset
    obtain ⟨_, same⟩ := ends_done.mp ended
    cases same
    exact .off unset
  · rename_i isSet
    obtain ⟨keySet, valueSet⟩ := not_or.mp isSet
    split at ended
    · rename_i members
      split at ended
      · rename_i same
        have labelled : Labelled key value (.object members) := by
          refine ⟨members, rfl, ?_⟩
          have held := Json.same_text.mp same
          cases found : members.lookup key with
          | none => simp [found] at held
          | some data => simpa [found] using held
        rw [prefer] at ended
        split at ended
        · obtain ⟨_, same⟩ := ends_done.mp ended
          cases same
          exact .kept keySet valueSet labelled
        · rename_i elsewhere
          obtain ⟨_, _, promotedMessage, rfl, promoted, last⟩ := ends_bind_ok.mp ended
          obtain ⟨rfl, same⟩ := ends_done.mp last
          cases same
          rcases kept_or_promoted promoted with
            rfl | ⟨methods, method, nonempty, answered, found, rfl⟩
          · exact .kept keySet valueSet labelled
          · simp only [Bool.or_eq_true, not_or, Bool.not_eq_true, decide_eq_true_eq] at elsewhere
            obtain ⟨noVoice, userSet⟩ := elsewhere
            have ofUser : message.userId = some (message.userId.getD "") := by
              cases found : message.userId with
              | none => exact (userSet (by rw [found]; rfl)).elim
              | some userId => rfl
            exact .promoted keySet valueSet labelled noVoice ofUser
              (List.mem_append_left _ answered) found nonempty
      · rename_i differs
        obtain ⟨_, same⟩ := ends_done.mp ended
        cases same
        refine .unlabelled keySet valueSet ?_
        rintro ⟨_, ⟨⟩, found⟩
        simp [found, Json.same_text] at differs
    · simp at ended

end Priority
end AlertRelay
