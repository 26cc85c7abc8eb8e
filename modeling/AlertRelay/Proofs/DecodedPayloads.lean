import AlertRelay.Proofs.CheckedValues
import AlertRelay.Proofs.EgressRouting
import AlertRelay.Proofs.ExchangedMoments
import AlertRelay.Proofs.Surroundings
import AlertRelay.Proofs.WrittenTexts

/-!
# Decoded payloads

Whoever receives the post of a webhook can decode the payload.  Every part of a payload is read
back from the way it is written, whatever members stand behind those of the part, so the name of
the application that a webhook adds does no harm.  Only halves of surrogate pairs in names of maps
are lost: they are replaced when the map is written.
-/

namespace AlertRelay

open Program

/-! ## Parts of payloads -/

theorem AlertState.read_toJson (state : AlertState) : read state.toJson = .valid state := by
  have distinct : name.Injective := by
    intro first second
    cases first <;> cases second <;> simp [name]
  exact Scalar.choice_name distinct (by cases state <;> decide)

theorem SendState.read_name (state : SendState) : read (.text state.name) = .valid state := by
  have distinct : name.Injective := by
    intro first second
    cases first <;> cases second <;> simp [name]
  exact Scalar.choice_name distinct (by cases state <;> decide)

theorem MessageType.ofName?_name (type : MessageType) : ofName? type.name = some type := by
  cases type <;> decide

namespace Destination

/-- The destination as it is written. -/
def written (destination : Destination) : Destination :=
  { destination with arguments := writtenTexts destination.arguments }

theorem read_toJson (destination : Destination) :
    read destination.toJson = .valid destination.written := by
  simp [read, toJson, Members.required, Members.withDefault, List.lookup_cons,
    Scalar.textMap_textMapJson, written]

theorem toJson_written (destination : Destination) :
    destination.written.toJson = destination.toJson := by
  rw [toJson, toJson, written, textMapJson_writtenTexts]

theorem written_eq_self_iff {destination : Destination} :
    destination.written = destination ↔ ArePlain destination.arguments := by
  obtain ⟨kind, arguments⟩ := destination
  simp [written, writtenTexts_eq_self_iff]

end Destination

theorem DestinationId.read_toJson (id : DestinationId) : read id.toJson = .valid id := by
  cases id with
  | contactMethod id nonempty =>
      simp [read, toJson, contactMethodId?, channelId?, Json.ofText?, Members.optional,
        List.lookup_cons, Checked.map, ofNames?, nonempty, Checked.ofReading]
  | channel id nonempty =>
      simp [read, toJson, contactMethodId?, channelId?, Json.ofText?, Members.optional,
        List.lookup_cons, Checked.map, ofNames?, nonempty, Checked.ofReading]

theorem OnCallUser.read_toJson (user : OnCallUser) : read user.toJson = .valid user := by
  simp [read, toJson, Members.required, List.lookup_cons]

/-- The moment of the record is one of universal time, if there is a moment. -/
def DeliveryRecord.IsUniversal (record : DeliveryRecord) : Prop :=
  ∀ moment ∈ record.recordedAt, moment.InCalendar

theorem DeliveryRecord.read_toJson {record : DeliveryRecord} (universal : record.IsUniversal) :
    read record.toJson = .valid record := by
  -- The members are not spelled out below: only what stands under each name is read.
  obtain ⟨members, written, messageId, alertId, destinationId, externalId, state, recordedAt⟩ :
      ∃ members : Members, record.toJson = .object members ∧
        members.lookup "message_id" = some (.text record.messageId) ∧
        members.lookup "alert_id" = some (.integer record.alertId) ∧
        members.lookup "dest_id" = some record.destinationId.toJson ∧
        members.lookup "external_id" = some (Json.ofText? record.externalId) ∧
        members.lookup "state" = some (.text record.state.name) ∧
        members.lookup "recorded_at" =
          some (Json.ofText? (record.recordedAt.map Moment.exchangeText)) :=
    ⟨_, rfl, rfl, rfl, rfl, rfl, rfl, rfl⟩
  rw [Json.ofText?_eq, Option.map_map] at recordedAt
  have moment := Members.optional_of_lookup recordedAt fun moment is =>
    ⟨Scalar.moment_exchangeText (universal moment is), nofun⟩
  rw [written, read, Scalar.record_object, Checked.valid_andThen,
    Members.required_of_lookup messageId (Scalar.text_text _),
    Members.required_of_lookup alertId (Scalar.integer_integer _),
    Members.required_of_lookup destinationId (DestinationId.read_toJson _),
    Members.optionalText_of_lookup externalId,
    Members.withDefault_of_lookup state (SendState.read_name _), moment]
  rfl

/-! ## Payloads -/

namespace Content

/-- The record of the first delivery that a content names. -/
def firstDelivery? : Content → Option DeliveryRecord
  | alert content => content.firstDelivery
  | alertStatus content => some content.firstDelivery
  | _ => none

/-- The content as it is written. -/
def written : Content → Content
  | alert content => alert { content with metadata := writtenTexts content.metadata }
  | signal parameters => signal (writtenTexts parameters)
  | content => content

/-- The maps of texts in a content. -/
def maps : Content → List (List (String × String))
  | alert content => [content.metadata]
  | signal parameters => [parameters]
  | _ => []

theorem members_written (content : Content) : content.written.members = content.members := by
  cases content with
  | alert content => simp only [written, members, textMapJson_writtenTexts]
  | signal parameters => simp only [written, members, textMapJson_writtenTexts]
  | _ => rfl

theorem messageType?_written (content : Content) :
    content.written.messageType? = content.messageType? := by
  cases content <;> rfl

theorem written_eq_self_iff {content : Content} :
    content.written = content ↔ ∀ texts ∈ content.maps, ArePlain texts := by
  cases content with
  | alert content =>
      obtain ⟨alertId, summary, details, serviceId, serviceName, metadata, first⟩ := content
      simp [written, maps, writtenTexts_eq_self_iff]
  | signal parameters => simp [written, maps, writtenTexts_eq_self_iff]
  | _ => simp [written, maps]

end Content

namespace Payload

/-- The content as it is written is read from all members that hold its own. -/
theorem readContent_of_holds {content : Content} {type : MessageType} {members : Members}
    (typed : content.messageType? = some type) (held : members.Holds content.members)
    (universal : ∀ record ∈ content.firstDelivery?, record.IsUniversal) :
    readContent type members = .valid content.written := by
  cases content with
  | alert content =>
      cases typed
      simp only [Members.Holds, Content.members, List.forall_mem_cons] at held
      obtain ⟨alertId, summary, details, serviceId, serviceName, metadata, original, _⟩ := held
      have record := Members.optional_of_lookup original fun record is =>
        ⟨DeliveryRecord.read_toJson (universal record is), nofun⟩
      rw [readContent, Members.required_of_lookup alertId (Scalar.integer_integer _),
        Members.required_of_lookup summary (Scalar.text_text _),
        Members.withDefault_of_lookup details (Scalar.text_text _),
        Members.required_of_lookup serviceId (Scalar.text_text _),
        Members.required_of_lookup serviceName (Scalar.text_text _),
        Members.withDefault_of_lookup metadata (Scalar.textMap_textMapJson _), record]
      rfl
  | alertBundle content =>
      cases typed
      simp only [Members.Holds, Content.members, List.forall_mem_cons] at held
      obtain ⟨serviceId, serviceName, count, _⟩ := held
      rw [readContent, Members.required_of_lookup serviceId (Scalar.text_text _),
        Members.required_of_lookup serviceName (Scalar.text_text _),
        Members.required_of_lookup count (Scalar.integer_integer _)]
      rfl
  | alertStatus content =>
      cases typed
      simp only [Members.Holds, Content.members, List.forall_mem_cons] at held
      obtain ⟨alertId, serviceId, logEntry, summary, details, newState, original, _⟩ := held
      have record := DeliveryRecord.read_toJson (universal content.firstDelivery rfl)
      rw [readContent, Members.required_of_lookup alertId (Scalar.integer_integer _),
        Members.required_of_lookup serviceId (Scalar.text_text _),
        Members.required_of_lookup logEntry (Scalar.text_text _),
        Members.required_of_lookup summary (Scalar.text_text _),
        Members.withDefault_of_lookup details (Scalar.text_text _),
        Members.required_of_lookup newState (AlertState.read_toJson _),
        Members.required_of_lookup original record]
      rfl
  | test =>
      cases typed
      rfl
  | verification code =>
      cases typed
      simp only [Members.Holds, Content.members, List.forall_mem_cons] at held
      rw [readContent, Members.required_of_lookup held.1 (Scalar.text_text _)]
      rfl
  | onCallUsers content =>
      cases typed
      simp only [Members.Holds, Content.members, List.forall_mem_cons] at held
      obtain ⟨scheduleId, scheduleName, scheduleUrl, users, _⟩ := held
      have roster := Scalar.list_map fun user (_ : user ∈ content.users) =>
        OnCallUser.read_toJson user
      rw [readContent, Members.required_of_lookup scheduleId (Scalar.text_text _),
        Members.required_of_lookup scheduleName (Scalar.text_text _),
        Members.required_of_lookup scheduleUrl (Scalar.text_text _),
        Members.withDefault_of_lookup users roster]
      rfl
  | signal parameters =>
      cases typed
      simp only [Members.Holds, Content.members, List.forall_mem_cons] at held
      rw [readContent, Members.withDefault_of_lookup held.1 (Scalar.textMap_textMapJson _)]
      rfl
  | bare => cases typed

variable {payload : Payload}

/-- The payload as it is written. -/
def written (payload : Payload) : Payload :=
  { payload with
    destination := payload.destination.written
    content := payload.content.written }

/-- The maps of texts in a payload. -/
def maps (payload : Payload) : List (List (String × String)) :=
  payload.destination.arguments :: payload.content.maps

theorem members_written (payload : Payload) : payload.written.members = payload.members := by
  simp only [members, written, Destination.toJson_written, Content.members_written,
    Content.messageType?_written]

theorem written_eq_self_iff :
    payload.written = payload ↔ ∀ texts ∈ payload.maps, ArePlain texts := by
  rw [maps, List.forall_mem_cons, ← Destination.written_eq_self_iff, ← Content.written_eq_self_iff]
  obtain ⟨id, destination, userId, content⟩ := payload
  simp [written]

/-- The members of a payload have different names, and none of them is that of the name of the
application. -/
theorem distinct_members (payload : Payload) :
    ("app_name" :: payload.members.map Prod.fst).Nodup := by
  obtain ⟨id, destination, userId, content⟩ := payload
  cases content <;> simp [members, Content.members, Content.messageType?, variantMember]

/-- A payload is read back as it is written from its members, whatever stands behind them. -/
theorem read_members_append (isVariant : payload.content ≠ .bare)
    (universal : ∀ record ∈ payload.content.firstDelivery?, record.IsUniversal) (more : Members) :
    read (.object (payload.members ++ more)) = .valid payload.written := by
  obtain ⟨type, typed⟩ : ∃ type, payload.content.messageType? = some type := by
    cases content : payload.content with
    | bare => exact absurd content isVariant
    | _ => exact ⟨_, rfl⟩
  have distinct := (List.nodup_cons.mp (distinct_members payload)).2
  have held := Members.holds_append distinct more
  -- What is found under the names is all that the reader sees of the members.
  generalize payload.members ++ more = members at held ⊢
  rw [Payload.members, typed] at held
  have content := readContent_of_holds typed held.right universal
  have general := held.left.left
  have variantHeld := held.left.right
  simp only [Members.Holds, List.forall_mem_cons] at general
  obtain ⟨id, destination, userId, _⟩ := general
  have variantName : members.lookup variantMember = some (.text type.name) :=
    variantHeld (variantMember, .text type.name) List.mem_cons_self
  simp only [read, variantName, MessageType.ofName?_name]
  rw [readWith, Members.required_of_lookup id (Scalar.text_text _),
    Members.required_of_lookup destination (Destination.read_toJson _),
    Members.optionalText_of_lookup userId, content]
  rfl

end Payload

/-! ## Posts of webhooks -/

namespace Webhook

variable {payload : Payload} {config : Config}

/-- The body is the written payload with the name of the application behind it. -/
theorem body_eq (payload : Payload) (config : Config) :
    body payload config =
      .object (payload.members ++ [("app_name", .text config.applicationName)]) := by
  rw [body, setEntry_of_not_mem _ (List.nodup_cons.mp (Payload.distinct_members payload)).1]

section Sends

variable {exchanges : List Exchange} {outcome : Except Failure SendResult}

/-- A webhook posts the payload and the name of the application, and what it posts is read as the
payload is written. -/
theorem read_of_ends_send (isVariant : payload.content ≠ .bare)
    (universal : ∀ record ∈ payload.content.firstDelivery?, record.IsUniversal)
    (ended : (send payload config).Ends exchanges outcome) :
    ∃ post posted, outbound exchanges = [.post post] ∧ post.content = .json (.object posted) ∧
      posted = payload.members ++ [("app_name", .text config.applicationName)] ∧
      Payload.read (.object posted) = .valid payload.written := by
  have posts : (send payload config).Sends fun requests =>
      ∃ post, requests = [.post post] ∧ post.content = .json (body payload config) :=
    sends_send fun post _ carries => ⟨post, rfl, carries⟩
  obtain ⟨post, sent, carries⟩ := posts exchanges outcome ended
  rw [body_eq] at carries
  exact ⟨post, _, sent, carries, rfl, Payload.read_members_append isVariant universal _⟩

/-- What a webhook posts decodes to the payload as it is written, which is the payload itself
exactly when the names in its maps of texts are plain.  The decoded payload is written as the
payload is, and the name of the application is all that the post adds. -/
theorem decoded_of_ends_send (isVariant : payload.content ≠ .bare)
    (universal : ∀ record ∈ payload.content.firstDelivery?, record.IsUniversal)
    (ended : (send payload config).Ends exchanges outcome) :
    ∃ post members posted, outbound exchanges = [.post post] ∧
      post.content = .json (.object posted) ∧
      Payload.read (.object posted) = .valid payload.written ∧
      (Payload.read (.object posted) = .valid payload ↔ ∀ texts ∈ payload.maps, ArePlain texts) ∧
      payload.toJson = .object members ∧ payload.written.toJson = .object members ∧
      posted = members ++ [("app_name", .text config.applicationName)] := by
  obtain ⟨post, posted, sent, carries, inOrder, decoded⟩ :=
    read_of_ends_send isVariant universal ended
  refine ⟨post, payload.members, posted, sent, carries, decoded, ?_, rfl, ?_, inOrder⟩
  · rw [decoded, Checked.valid.injEq]
    exact Payload.written_eq_self_iff
  · rw [Payload.toJson, Payload.members_written]

end Sends

end Webhook

/-! ## A status update -/

namespace Sample

/-- The first delivery of an alert, recorded at the end of a leap day. -/
def leapDelivery : DeliveryRecord where
  messageId := "m-1"
  alertId := 7
  destinationId := .channel "ops" (by decide)
  externalId := some "SM1"
  state := .failedTemporarily
  recordedAt := some ⟨⟨2024, 2, 29⟩, 23, 59, 59, 50, some 0⟩

def statusUpdate : Payload where
  id := "m-2"
  destination := ⟨Webhook.type, [(Webhook.urlField, "https://example.com/hook"), ("app_name", "")]⟩
  userId := none
  content := .alertStatus
    { alertId := 7
      serviceId := "svc"
      logEntry := "Acknowledged by Ann"
      summary := "Database unreachable"
      details := ""
      newState := .acknowledged
      firstDelivery := leapDelivery }

theorem universal_leapDelivery : leapDelivery.IsUniversal := by
  rintro moment ⟨⟩
  refine ⟨⟨?_, ?_, ?_⟩, ?_, ?_, ?_, ?_, rfl⟩ <;> decide

theorem arePlain_statusUpdate : ∀ texts ∈ statusUpdate.maps, ArePlain texts := by
  intro texts member
  obtain rfl := List.mem_singleton.mp member
  exact ⟨by decide, by decide⟩

end Sample

/-- The status update is decoded from the only post of a run. -/
theorem Webhook.decoded_of_ends_send_statusUpdate :
    ∃ exchanges outcome post posted, Sample.statusUpdate.content ≠ .bare ∧
      (∀ record ∈ Sample.statusUpdate.content.firstDelivery?, record.IsUniversal) ∧
      (send Sample.statusUpdate Sample.config).Ends exchanges outcome ∧
      outbound exchanges = [.post post] ∧ post.content = .json (.object posted) ∧
      Payload.read (.object posted) = .valid Sample.statusUpdate ∧
      posted.map Prod.fst =
        ["id", "dest", "user_id", "message_type", "alert_id", "service_id", "log_entry",
          "summary", "details", "new_alert_state", "original_status", "app_name"] := by
  have isVariant : Sample.statusUpdate.content ≠ .bare := nofun
  have universal : ∀ record ∈ Sample.statusUpdate.content.firstDelivery?, record.IsUniversal := by
    rintro record ⟨⟩
    exact Sample.universal_leapDelivery
  have ended := ends_run (answerWithin Sample.answer) (send Sample.statusUpdate Sample.config)
    (Sample.tables, [])
  obtain ⟨post, members, posted, sent, carries, _, decoded_iff, written, _, rfl⟩ :=
    decoded_of_ends_send isVariant universal ended
  cases written
  exact ⟨_, _, post, _, isVariant, universal, ended, sent, carries,
    decoded_iff.mpr Sample.arePlain_statusUpdate, rfl⟩

/-! ## A name with half of a surrogate pair -/

namespace Sample

/-- A name that consists of the first half of a surrogate pair. -/
def halfName : String := Surrogate.ofCodePoints [0xd83d]

/-- A signal with a parameter of this name. -/
def halfSignal : Payload where
  id := "m-3"
  destination := ⟨Webhook.type, [(Webhook.urlField, "https://example.com/hook")]⟩
  userId := none
  content := .signal [(halfName, "restart")]

end Sample

/-- The name of a parameter comes back as three replacements. -/
theorem renamed_although_posted :
    ∃ exchanges outcome post posted decoded,
      Sample.halfSignal.content = .signal [(Sample.halfName, "restart")] ∧
      Surrogate.codePoints Sample.halfName = [0xd83d] ∧
      (Webhook.send Sample.halfSignal Sample.config).Ends exchanges outcome ∧
      outbound exchanges = [.post post] ∧ post.content = .json (.object posted) ∧
      Payload.read (.object posted) = .valid decoded ∧
      decoded.content = .signal [("\ufffd\ufffd\ufffd", "restart")] ∧
      Payload.read (.object posted) ≠ .valid Sample.halfSignal := by
  have ended := ends_run (answerWithin Sample.answer) (Webhook.send Sample.halfSignal Sample.config)
    (Sample.tables, [])
  have isVariant : Sample.halfSignal.content ≠ .bare := nofun
  have universal : ∀ record ∈ Sample.halfSignal.content.firstDelivery?, record.IsUniversal := by
    rintro record ⟨⟩
  obtain ⟨post, posted, sent, carries, _, decoded⟩ :=
    Webhook.read_of_ends_send isVariant universal ended
  have halfCode : Surrogate.codePoints Sample.halfName = [0xd83d] :=
    Surrogate.codePoints_ofCodePoints (by decide)
  refine ⟨_, _, post, posted, _, rfl, halfCode, ended, sent, carries, decoded, ?_, ?_⟩
  · decide
  · rw [decoded, ne_eq, Checked.valid.injEq]
    decide

end AlertRelay
