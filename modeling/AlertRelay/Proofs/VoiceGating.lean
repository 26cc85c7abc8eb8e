import AlertRelay.Proofs.StatusUpdates

/-!
# Telephone calls over whole runs

Telephone calls are reserved for alerts with the priority label.  Status updates do not ask the
priority policy: they follow the first delivery for their alert and destination, and a delivery to a
telephone is only recorded for an alert whose metadata held the label.
-/

namespace AlertRelay

open Program

namespace Dispatch

variable {site : Site} {config : Config} {message sent : Message} {payload : Payload}
  {isFirst : Bool} {past rest : List Exchange}

/-- A message about an alert for which no label was found is sent to its own destination, which is
no telephone. -/
theorem Built.foundLabel (built : Built site config message past sent payload isFirst rest)
    (isAlert : message.type = .alert) (keySet : config.priorityKey ≠ "")
    (valueSet : config.priorityValue ≠ "") :
    FoundLabel config.priorityKey config.priorityValue message.alertId past ∨
      sent.destination = message.destination ∧ sent.destinationId = message.destinationId ∧
        sent.destination.kind ≠ Voice.type := by
  obtain ⟨opening, building, inOrder, outcome⟩ := built.ofAlert isAlert
  cases outcome with
  | @carried metadata _ answered decided isCarried =>
      have inPast : ⟨.alertMetadata message.alertId, .ok metadata⟩ ∈ past := by
        simp [inOrder, answered]
      cases decided with
      | off unset =>
          rcases unset with keyUnset | valueUnset
          · exact (keySet keyUnset).elim
          · exact (valueSet valueUnset).elim
      | unlabelled => exact .inr ⟨rfl, rfl, Priority.isVoice_eq_false_iff.mp isCarried⟩
      | kept _ _ labelled => exact .inl (labelled.foundLabel inPast)
      | promoted _ _ labelled => exact .inl (labelled.foundLabel inPast)

end Dispatch

variable {table key value : String} {start final : Store} {earlier : List Attempt}
  {attempt : Attempt}

/-- When a telephone rang, the message had been built for a telephone. -/
theorem Attempt.Made.built_of_rings (made : attempt.Made table) {before after : List Exchange}
    {ring : Exchange} (inOrder : attempt.exchanges = before ++ ring :: after)
    (rings : ring.request.Rings) :
    ∃ sent payload isFirst given,
      Dispatch.Built (attempt.job.deployment.site table) attempt.job.config attempt.job.message
        before sent payload isFirst given ∧
      sent.destination.kind = Voice.type := by
  have leads := made.1
  rw [inOrder] at leads
  have stage := Dispatch.stage_of_asks_send (Leads.asks_of_append leads)
  obtain ⟨sent, payload, isFirst, given, built, toTelephone⟩ :=
    stage.built_of_outbound rings.outbound
  exact ⟨sent, payload, isFirst, given, built, built.payload_destination ▸ toTelephone rings⟩

/-- In a run from an empty delivery table, in which all configurations agree on a priority label
and a destination id stands for one destination, a telephone rings on behalf of an alert only after
metadata with the label was found for it, and on behalf of a status update only after an earlier
attempt at the same alert found such metadata. -/
theorem telephone_rings_follow_label {tables : TableClient} {signals : SignalSource}
    {providers : List Provider} {calls : List Call} {later : List Attempt}
    (empty : start.table table = ⟨"delivery_key", []⟩)
    (run : Run table (.complete tables signals providers) start calls
      (earlier ++ attempt :: later) final)
    (keySet : key ≠ "") (valueSet : value ≠ "")
    (sameLabel : ∀ other ∈ earlier ++ attempt :: later,
      other.job.config.priorityKey = key ∧ other.job.config.priorityValue = value)
    (places : DestinationId → Destination)
    (sameDestination : ∀ other ∈ earlier ++ attempt :: later,
      places other.job.message.destinationId = other.job.message.destination)
    {before after : List Exchange} {ring : Exchange}
    (inOrder : attempt.exchanges = before ++ ring :: after) (rings : ring.request.Rings) :
    (attempt.job.message.type = .alert →
      FoundLabel key value attempt.job.message.alertId before) ∧
    (attempt.job.message.type = .alertStatus →
      ∃ labelled ∈ earlier, labelled.job.message.type = .alert ∧
        labelled.job.message.alertId = attempt.job.message.alertId ∧
        FoundLabel key value attempt.job.message.alertId labelled.exchanges) := by
  have made := run.chain.until_attempt.2
  obtain ⟨sent, payload, isFirst, given, built, toTelephone⟩ := made.built_of_rings inOrder rings
  have inRun : attempt ∈ earlier ++ attempt :: later := by simp
  constructor
  · intro isAlert
    obtain ⟨rfl, rfl⟩ := sameLabel attempt inRun
    rcases built.foundLabel isAlert keySet valueSet with found | ⟨_, _, noTelephone⟩
    · exact found
    · exact (noTelephone toTelephone).elim
  · intro isStatus
    obtain ⟨original, member, ⟨isAlert, sameAlert, originalSent, _, _, _, provided, _, sameId, _⟩,
      _⟩ := run.original_of_built_status empty isStatus (inOrder ▸ built.append (ring :: after))
    obtain ⟨_, _, originalBuilt, _⟩ := provided
    have originalInRun : original ∈ earlier ++ attempt :: later :=
      List.mem_append_left _ member
    obtain ⟨sameKey, sameValue⟩ := sameLabel original originalInRun
    refine ⟨original, member, isAlert, sameAlert, ?_⟩
    rw [← sameKey, ← sameValue, ← sameAlert]
    rcases originalBuilt.foundLabel isAlert (sameKey ▸ keySet) (sameValue ▸ valueSet) with
      found | ⟨kept, keptId, noTelephone⟩
    · exact found
    · -- The status update goes to the destination that the original was for, which is no telephone.
      have noAlert : attempt.job.message.type ≠ .alert := by
        rw [isStatus]
        decide
      obtain ⟨rfl, _⟩ := built.plain noAlert
      have toSame : originalSent.destination = attempt.job.message.destination := by
        rw [kept, ← sameDestination original originalInRun,
          ← sameDestination attempt inRun, ← keptId, sameId]
      exact (noTelephone (toSame ▸ toTelephone)).elim

/-- A status update rings the telephone after a message about its alert found the label. -/
theorem telephone_rings_follow_first :
    FoundLabel "severity" "critical" 7 Sample.first.exchanges := by
  have rung : Sample.second.exchanges.any (fun exchange => exchange.request.Rings) = true := by
    decide +kernel
  obtain ⟨ring, member, rings⟩ := List.any_eq_true.mp rung
  obtain ⟨before, after, inOrder⟩ := List.append_of_mem member
  have sameLabel : ∀ other ∈ [Sample.first] ++ Sample.second :: [],
      other.job.config.priorityKey = "severity" ∧ other.job.config.priorityValue = "critical" := by
    intro other inRun
    rcases List.mem_cons.mp inRun with rfl | inRest
    · exact ⟨rfl, rfl⟩
    · rw [List.mem_singleton.mp inRest]
      exact ⟨rfl, rfl⟩
  let places (id : DestinationId) : Destination :=
    if id = Sample.telephoneId then Sample.telephone else Sample.inbox
  have samePlace : ∀ other ∈ [Sample.first] ++ Sample.second :: [],
      places other.job.message.destinationId = other.job.message.destination := by
    intro other inRun
    rcases List.mem_cons.mp inRun with rfl | inRest
    · decide +kernel
    · rw [List.mem_singleton.mp inRest]
      decide +kernel
  obtain ⟨labelled, inRun, _, _, found⟩ :=
    (telephone_rings_follow_label rfl Sample.run_first_second (by decide) (by decide) sameLabel
      places samePlace inOrder (of_decide_eq_true rings)).2 rfl
  rw [List.mem_singleton.mp inRun] at found
  exact found

end AlertRelay
