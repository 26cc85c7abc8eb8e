import AlertRelay.Proofs.AlikePrograms
import AlertRelay.Proofs.DispatchRuns

/-!
# Phone numbers in the log

Two dispatches that differ only in phone numbers of the same length and with the same last digits
log the same, as far as numbers are logged under names that masking recognizes.  The text of a
destination holds its number too, and two reports put it under other names: the report on a delivery
that could not be recorded, and the report on a status update without a first delivery.
-/

namespace AlertRelay

open Program

/-! ## Masked records -/

namespace LogRecord

theorem maskStart_eq {first second : String} (alike : AlikeNumbers first second) :
    maskStart visibleDigits (Surrogate.points first) =
      maskStart visibleDigits (Surrogate.points second) := by
  obtain ⟨sameLength, sameEnd⟩ := alike
  simp only [visibleEnd, maskStart, sameLength] at sameEnd ⊢
  rw [sameEnd]

theorem mask_setDefault (hidden : Json) (record : LogRecord) (name : String) (value : Json) :
    (record.setDefault name value).mask hidden [] =
      (record.mask hidden []).setDefault name (maskValue hidden [] name value) := by
  have named : (record.mask hidden []).lookup name =
      (record.lookup name).map (maskValue hidden [] name) :=
    lookup_map (maskValue hidden []) record name
  rw [setDefault, setDefault, named, Option.isSome_map]
  split
  · rfl
  · simp [mask]

theorem mask_setDefaults (hidden : Json) (record defaults : LogRecord) :
    (record.setDefaults defaults).mask hidden [] =
      (record.mask hidden []).setDefaults (defaults.mask hidden []) := by
  induction defaults generalizing record with
  | nil => rfl
  | cons entry rest ih =>
      have first := ih (record.setDefault entry.1 entry.2)
      rw [mask_setDefault] at first
      exact first

end LogRecord

/-- Masking shows alike numbers alike. -/
theorem Telephony.shown_creationReport {first second : String} (alike : AlikeNumbers first second)
    (content : TelephonyContent) (id : Json) (context : Context) :
    ((creationReport content id first).record context).shown =
      ((creationReport content id second).record context).shown := by
  have masked : LogRecord.maskValue (.text LogRecord.maskText) [] "to_number" (.text first) =
      LogRecord.maskValue (.text LogRecord.maskText) [] "to_number" (.text second) := by
    have number : LogRecord.matchesAny "to_number" (LogRecord.credentialNames ++ []) = false ∧
        LogRecord.matchesAny "to_number" LogRecord.phoneNames = true := by
      decide +kernel
    simp only [LogRecord.maskValue, number, Json.display, if_true, Bool.false_eq_true, if_false]
    rw [LogRecord.maskStart_eq alike]
  rw [LogRecord.shown, LogRecord.shown, LogEvent.record, LogEvent.record,
    LogRecord.mask_setDefaults, LogRecord.mask_setDefaults]
  simp only [creationReport, LogRecord.mask, List.map_cons, masked]

/-- The log of an execution as it is shown, with the message context that it starts in. -/
def shownLog : Context → List Exchange → List LogRecord
  | _, [] => []
  | context, ⟨.log event, _⟩ :: later => (event.record context).shown :: shownLog context later
  | _, ⟨.setContext context, _⟩ :: later => shownLog context later
  | context, _ :: later => shownLog context later

/-- The same record, or two records of one of the reports that show the text of a destination, for
destinations that are alike. -/
inductive SameUnlessNamed : LogRecord → LogRecord → Prop
  | same (record : LogRecord) : SameUnlessNamed record record
  | unrecorded {first second : Destination} (alertId : Int) (reason : String) (context : Context)
      (alike : first.Alike second) :
      SameUnlessNamed ((Dispatch.unrecordedReport alertId first reason).record context).shown
        ((Dispatch.unrecordedReport alertId second reason).record context).shown
  | unsent {first second : Destination} (message : Message) (alertId : Int) (context : Context)
      (alike : first.Alike second) :
      SameUnlessNamed
        ((Dispatch.failureReport message
          (.firstDeliveryMissing alertId first.text)).record context).shown
        ((Dispatch.failureReport message
          (.firstDeliveryMissing alertId second.text)).record context).shown

theorem LogEvent.Alike.shown {first second : LogEvent} (alike : first.Alike second)
    (context : Context) :
    SameUnlessNamed (first.record context).shown (second.record context).shown := by
  cases alike with
  | same => exact .same _
  | created content id numbers =>
      rw [Telephony.shown_creationReport numbers]
      exact .same _
  | unrecorded alertId reason destinations => exact .unrecorded alertId reason context destinations
  | unsent message failures =>
      cases failures with
      | same => exact .same _
      | missing alertId destinations => exact .unsent message alertId context destinations

/-- Alike exchanges show the same, except for the text of a destination in two reports. -/
theorem forall₂_shownLog {first second : List Exchange}
    (alike : List.Forall₂ Exchange.Alike first second) (context : Context) :
    List.Forall₂ SameUnlessNamed (shownLog context first) (shownLog context second) := by
  induction alike generalizing context with
  | nil => exact .nil
  | @cons exchange other later others exchanged _ ih =>
      obtain ⟨request, answer⟩ := exchange
      obtain ⟨counterpart, given⟩ := other
      cases exchanged.requests_alike with
      | same =>
          cases request with
          | log event => exact .cons (.same _) (ih context)
          | setContext entered => exact ih entered
          | _ => exact ih context
      | telephone | post | deliver => exact ih context
      | log events => exact .cons (events.shown context) (ih context)

/-! ## Channels -/

theorem noContacts_of_routine (request : Request) (routine : request.Routine) :
    ∀ userId, request ≠ .contactMethods userId := by
  rintro userId rfl
  exact routine

theorem Telephony.alike_deliver {number other : String} (alike : AlikeNumbers number other)
    (kind messageId : String) (config : Config) (content : TelephonyContent) :
    (deliver kind messageId (call config number content)).Alike Eq Eq
      (deliver kind messageId (call config other content)) := by
  have created : (create (call config number content)).Alike Eq Eq
      (create (call config other content)) := by
    refine Alike.bind_eq (.ask (.telephone alike) fun answer given exchanged => ?_) fun id => ?_
    · obtain rfl : answer = given := eq_of_heq (exchanged.answers_heq nofun)
      exact alike_self makes_ofExcept
    · exact (alike_report (.created content id alike)).bind_eq fun _ => .done rfl
  refine (created.bind_eq fun id => alike_self makes_ofExcept).rescue_eq fun failure => ?_
  exact alike_self (makes_failed noContacts_of_routine kind messageId failure)

theorem Voice.alike_send {first second : Payload} (alike : first.Alike second) (config : Config) :
    (send first config).Alike Eq Eq (send second config) := by
  obtain ⟨destination, alike, rfl⟩ := alike
  refine (alike_self makes_ofExcept).bind_eq fun text => ?_
  refine (alike_self makes_ofExcept).bind_eq fun _ => ?_
  exact Telephony.alike_deliver alike.phoneNumber _ _ config _

theorem Sms.alike_sendThroughGateway {number other : String} (alike : AlikeNumbers number other)
    (gateway : Gateway) (messageId text : String) :
    (sendThroughGateway gateway messageId number text).Alike Eq Eq
      (sendThroughGateway gateway messageId other text) := by
  -- The number stands in the first request only.
  have makes := makes_sendThroughGateway noContacts_of_routine (fun _ => nofun) gateway messageId
    number text
  refine .ask (.post gateway text alike) fun answer given exchanged => ?_
  obtain rfl : answer = given := eq_of_heq (exchanged.answers_heq nofun)
  exact alike_self ((makes_ask.mp makes).2 answer)

theorem Sms.alike_send (given : Option Gateway) {first second : Payload}
    (alike : first.Alike second) (config : Config) :
    (send given first config).Alike Eq Eq (send given second config) := by
  obtain ⟨destination, alike, rfl⟩ := alike
  refine (alike_self makes_ofExcept).bind_eq fun text => ?_
  dsimp only
  split
  · split
    · exact .fail rfl
    · exact alike_sendThroughGateway alike.phoneNumber _ _ _
  · refine (alike_self makes_ofExcept).bind_eq fun _ => ?_
    exact Telephony.alike_deliver alike.phoneNumber _ _ config _

/-- A channel sends alike payloads for its own type of destination alike. -/
theorem Provider.alike_send {provider : Provider}
    {sendPayload : Payload → Config → Program SendResult}
    (sends : provider.channel.send = some sendPayload) {first second : Payload}
    (alike : first.Alike second) (own : first.destination.kind = provider.channel.id)
    (config : Config) : (sendPayload first config).Alike Eq Eq (sendPayload second config) := by
  -- Alike destinations of any type other than the two for telephones are the same.
  have plain (notVoice : first.destination.kind ≠ Voice.type)
      (notSms : first.destination.kind ≠ Sms.type) :
      (sendPayload first config).Alike Eq Eq (sendPayload second config) := by
    obtain ⟨destination, alike, rfl⟩ := alike
    rw [alike.eq_of_kind notVoice notSms]
    refine alike_self ((makes_send sends first config).mono ?_)
    rintro request ⟨carrying, _⟩ userId rfl
    rcases carrying with routine | outbound | subscribing
    · exact routine
    · exact outbound
    · exact subscribing
  cases provider with
  | voice =>
      cases sends
      exact Voice.alike_send alike config
  | sms gateway =>
      cases sends
      exact Sms.alike_send gateway alike config
  | browserPush store =>
      rw [show first.destination.kind = BrowserPush.type from own] at plain
      exact plain (by decide) (by decide)
  | webhook =>
      rw [show first.destination.kind = Webhook.type from own] at plain
      exact plain (by decide) (by decide)
  | outside id info validate canSend =>
      cases canSend with
      | false => cases sends
      | true =>
          cases sends
          refine Alike.bind_eq (.ask (.deliver id alike) fun answer given exchanged => ?_)
            fun outcome => alike_self makes_ofExcept
          obtain rfl : answer = given := eq_of_heq (exchanged.answers_heq nofun)
          exact .done rfl

theorem Registry.alike_send (providers : List Provider) {first second : Payload}
    (alike : first.Alike second) (config : Config) :
    ((ofProviders providers).send first config).Alike Eq Eq
      ((ofProviders providers).send second config) := by
  have carried {channel : Channel} {sendPayload : Payload → Config → Program SendResult}
      (found : (ofProviders providers).find? first.destination.kind = some channel)
      (sends : channel.send = some sendPayload) :
      (sendPayload first config).Alike Eq Eq (sendPayload second config) := by
    obtain ⟨provider, _, rfl⟩ := List.mem_map.mp (List.mem_of_find?_eq_some found)
    exact Provider.alike_send sends alike (id_of_find? found).symm config
  obtain ⟨destination, alike, rfl⟩ := alike
  have kind := alike.kind_eq
  dsimp only [send]
  rw [kind]
  split
  · exact .fail rfl
  · rename_i channel found
    split
    · exact .fail rfl
    · rename_i sendPayload sends
      split
      · exact alike_self (makes_bind (makes_log.mpr nofun) fun _ => .done _)
      · refine .after nofun fun stop => ?_
        cases stop with
        | true => exact alike_self (makes_bind (makes_log.mpr nofun) fun _ => .done _)
        | false =>
            refine (carried found sends).attempt_eq.bind_eq fun outcome => ?_
            cases outcome with
            | ok result =>
                dsimp only [report]
                rw [kind]
                exact alike_self (makes_bind (makes_log.mpr nofun) fun _ => .done _)
            | error failure =>
                have same : failed { first with destination } failure = failed first failure := by
                  simp only [failed, kind]
                dsimp only
                rw [same]
                exact alike_self (makes_failed noContacts_of_routine first failure)

/-! ## Building -/

/-- Decisions that are the same about alike messages. -/
def Priority.Decision.Alike (first second : Decision) : Prop :=
  first.message.Alike second.message ∧ first.isSuppressed = second.isSuppressed

namespace Priority

/-- Of alike contact methods, the first telephones are alike. -/
theorem forall₂_find? {methods others : List ContactMethod}
    (alike : List.Forall₂ ContactMethod.Alike methods others) :
    (methods.find? (fun method => isVoice method.destination) = none ∧
        others.find? (fun method => isVoice method.destination) = none) ∨
      ∃ method other, methods.find? (fun method => isVoice method.destination) = some method ∧
        others.find? (fun method => isVoice method.destination) = some other ∧
        method.Alike other := by
  induction alike with
  | nil => exact .inl ⟨rfl, rfl⟩
  | @cons method other rest later alike _ ih =>
      obtain ⟨destination, destinations, rfl⟩ := alike
      have same : isVoice destination = isVoice method.destination := by
        rw [isVoice, isVoice, destinations.kind_eq]
      rw [List.find?_cons, List.find?_cons]
      dsimp only
      rw [same]
      cases isVoice method.destination with
      | true => exact .inr ⟨method, _, rfl, rfl, destination, destinations, rfl⟩
      | false => exact ih

theorem alike_promote {first second : Message} (alike : first.Alike second) (userId : String) :
    (promote first userId).Alike Message.Alike Failure.Alike (promote second userId) := by
  obtain ⟨destination, alike, rfl⟩ := alike
  refine .ask (.same _) fun answer given exchanged => ?_
  rcases exchanged.contacts_cases with ⟨failure, rfl, rfl⟩ | ⟨methods, others, rfl, rfl, contacts⟩
  · exact (alike_report (.same _)).bind_eq fun _ => .done ⟨destination, alike, rfl⟩
  · dsimp only
    rcases forall₂_find? contacts with
      ⟨none, noneOther⟩ | ⟨method, other, found, foundOther, methodAlike⟩
    · rw [none, noneOther]
      exact (alike_report (.same _)).bind_eq fun _ => .done ⟨destination, alike, rfl⟩
    · rw [found, foundOther]
      obtain ⟨telephone, telephones, rfl⟩ := methodAlike
      dsimp only
      rw [alike.kind_eq]
      refine (alike_report (.same _)).bind_eq fun _ => ?_
      refine (alike_self makes_ofExcept).bind_eq fun id => .done ⟨telephone, telephones, rfl⟩

theorem alike_apply (key value : String) (metadata : Json) {first second : Message}
    (alike : first.Alike second) :
    (apply key value metadata first).Alike Decision.Alike Failure.Alike
      (apply key value metadata second) := by
  have promoted := alike_promote alike
  obtain ⟨destination, alike, rfl⟩ := alike
  have kept (isSuppressed : Bool) : Decision.Alike ⟨first, isSuppressed⟩
      ⟨{ first with destination }, isSuppressed⟩ :=
    ⟨⟨destination, alike, rfl⟩, rfl⟩
  have voice : isVoice destination = isVoice first.destination := by
    rw [isVoice, isVoice, alike.kind_eq]
  dsimp only [apply]
  split
  · exact .done (kept false)
  · split
    · split
      · dsimp only [prefer]
        rw [voice]
        split
        · exact .done (kept false)
        · exact (promoted _).bind fun message other messages => .done ⟨messages, rfl⟩
      · rw [voice]
        exact .done (kept _)
    · exact .fail (.same _)

end Priority

/-- Outcomes that are built the same way from alike messages. -/
inductive BuildOutcome.Alike : BuildOutcome → BuildOutcome → Prop
  | refused {first second : Message} (alike : first.Alike second) (detail : String) :
      Alike (refuse first detail) (refuse second detail)
  | carried {first second : Message} (alike : first.Alike second) (content : Content)
      (isFirst : Bool) : Alike (carry first content isFirst) (carry second content isFirst)

namespace BuildOutcome

theorem noContacts_of_consulting (request : Request) (consulting : request.Consulting) :
    ∀ userId, request ≠ .contactMethods userId := by
  rintro userId rfl
  exact consulting

section

variable {first second : Message} (alike : first.Alike second)

include alike

theorem alike_ofBundle :
    (ofBundle first).Alike Alike Failure.Alike (ofBundle second) := by
  obtain ⟨destination, alike, rfl⟩ := alike
  have messages : first.Alike { first with destination } := ⟨destination, alike, rfl⟩
  refine (alike_self (makes_serviceInfo noContacts_of_consulting first)).bind_eq
    fun ⟨name, count⟩ => ?_
  dsimp only
  split
  · exact (alike_report (.same _)).bind_eq fun _ => .done (.refused messages _)
  · exact (alike_self makes_ofExcept).bind_eq fun content => .done (.carried messages _ _)

theorem alike_ofAlert (site : Site) (config : Config) :
    (ofAlert site first config).Alike Alike Failure.Alike (ofAlert site second config) := by
  have applied (metadata : Json) :=
    Priority.alike_apply config.priorityKey config.priorityValue metadata alike
  obtain ⟨destination, alike, rfl⟩ := alike
  refine (alike_self (makes_serviceInfo noContacts_of_consulting first)).bind_eq fun parts => ?_
  refine (alike_self (makes_alert noContacts_of_consulting first)).bind_eq fun alert => ?_
  refine (alike_self (makes_asked (makes_request.mpr nofun))).bind_eq fun metadata => ?_
  refine (applied metadata).bind ?_
  rintro ⟨sent, isSuppressed⟩ ⟨other, _⟩ ⟨messages, rfl⟩
  obtain ⟨reached, destinations, rfl⟩ := messages
  have messages : sent.Alike { sent with destination := reached } := ⟨reached, destinations, rfl⟩
  dsimp only
  split
  · exact (alike_report (.same _)).bind_eq fun _ => .done (.refused messages _)
  · refine (alike_self (Ledger.makes_firstDelivery noContacts_of_routine nofun)).bind_eq
      fun recorded => ?_
    exact (alike_self makes_ofExcept).bind_eq fun content => .done (.carried messages _ _)

theorem alike_ofStatus (site : Site) :
    (ofStatus site first).Alike Alike Failure.Alike (ofStatus site second) := by
  obtain ⟨destination, alike, rfl⟩ := alike
  refine (alike_self (makes_asked (makes_request.mpr nofun))).bind_eq fun entry => ?_
  refine (alike_self (makes_alert noContacts_of_consulting first)).bind_eq fun alert => ?_
  refine (alike_self (Ledger.makes_firstDelivery noContacts_of_routine nofun)).bind_eq
    fun recorded => ?_
  cases recorded with
  | none => exact .fail (.missing _ alike)
  | some record => exact .done (.carried ⟨destination, alike, rfl⟩ _ _)

theorem alike_ofVerification :
    (ofVerification first).Alike Alike Failure.Alike (ofVerification second) := by
  obtain ⟨destination, alike, rfl⟩ := alike
  refine (alike_self (makes_asked (makes_request.mpr nofun))).bind_eq fun code => ?_
  exact (alike_self makes_ofExcept).bind_eq fun text =>
    .done (.carried ⟨destination, alike, rfl⟩ _ _)

theorem alike_ofRoster (config : Config) :
    (ofRoster first config).Alike Alike Failure.Alike (ofRoster second config) := by
  obtain ⟨destination, alike, rfl⟩ := alike
  refine (alike_self (makes_asked (makes_request.mpr nofun))).bind_eq fun users => ?_
  exact (alike_self (makes_asked (makes_request.mpr nofun))).bind_eq fun schedule =>
    .done (.carried ⟨destination, alike, rfl⟩ _ _)

theorem alike_ofSignal (site : Site) :
    (ofSignal site first).Alike Alike Failure.Alike (ofSignal site second) := by
  obtain ⟨destination, alike, rfl⟩ := alike
  refine (alike_self (makes_lookup makes_ofExcept)).bind_eq fun id => ?_
  refine (alike_self (makes_lookup (makes_parameters noContacts_of_routine
    noContacts_of_consulting (fun _ _ _ => nofun) _))).bind_eq fun raw => ?_
  refine (alike_self (makes_lookup makes_ofExcept)).bind_eq fun data => ?_
  exact (alike_self (makes_signalParameters data)).bind_eq fun parameters =>
    .done (.carried ⟨destination, alike, rfl⟩ _ _)

theorem alike_ofMessage (site : Site) (config : Config) :
    (ofMessage site first config).Alike Alike Failure.Alike (ofMessage site second config) := by
  have type : second.type = first.type := by
    obtain ⟨_, _, rfl⟩ := alike
    rfl
  dsimp only [ofMessage]
  rw [type]
  split
  · split
    · exact alike_ofAlert alike site config
    · exact alike_ofBundle alike
    · exact alike_ofStatus alike site
    · exact .done (.carried alike _ _)
    · exact alike_ofVerification alike
    · exact alike_ofRoster alike config
    · exact alike_ofSignal alike site
  · exact (alike_report (.same _)).bind_eq fun _ => .done (.refused alike _)

end
end BuildOutcome

/-! ## Dispatches -/

/-- Batches with the same results, and with alike failures and held messages in the same places. -/
structure Batch.Alike (first second : Batch) : Prop where
  results : first.results = second.results
  failures : List.Forall₂ (fun entry other => entry.1 = other.1 ∧ entry.2.Alike other.2)
    first.failures second.failures
  held : List.Forall₂ Message.Alike first.held second.held

theorem forall₂_setEntry {α : Type} {related : α → α → Prop} {entries others : List (String × α)}
    (alike : List.Forall₂ (fun entry other => entry.1 = other.1 ∧ related entry.2 other.2)
      entries others) (key : String) {value other : α} (values : related value other) :
    List.Forall₂ (fun entry other => entry.1 = other.1 ∧ related entry.2 other.2)
      (setEntry entries key value) (setEntry others key other) := by
  induction alike with
  | nil => exact .cons ⟨rfl, values⟩ .nil
  | @cons entry counterpart rest later both others ih =>
      rw [setEntry, setEntry, ← both.1]
      split
      · exact .cons ⟨rfl, values⟩ others
      · exact .cons both ih

namespace Dispatch

variable (site : Site) (providers : List Provider) (config : Config)

theorem alike_track (ledger : Ledger) {first second : Message} (alike : first.Alike second)
    (result : SendResult) :
    (track ledger first result).Alike Eq Failure.Alike (track ledger second result) := by
  obtain ⟨destination, alike, rfl⟩ := alike
  have reported (reason : String) : (reportUnrecorded first reason).Alike Eq Failure.Alike
      (reportUnrecorded { first with destination } reason) :=
    alike_report (.unrecorded first.alertId reason alike)
  refine (alike_self (makes_attempt.mpr
    (Ledger.makes_record noContacts_of_routine fun _ _ _ => nofun))).bind_eq fun recorded => ?_
  cases recorded with
  | error failure => exact reported failure.text
  | ok outcome =>
      dsimp only
      split
      · exact .done rfl
      · exact reported outcome.message

theorem alike_sendSteps {first second : Message} (alike : first.Alike second) :
    (sendSteps site (.ofProviders providers) config first).Alike Eq Failure.Alike
      (sendSteps site (.ofProviders providers) config second) := by
  have built := BuildOutcome.alike_ofMessage alike site config
  obtain ⟨destination, alike, rfl⟩ := alike
  rw [sendSteps_eq, sendSteps_eq]
  refine (alike_report (.same _)).bind_eq fun _ => built.bind ?_
  rintro outcome other (⟨messages, detail⟩ | ⟨messages, content, isFirst⟩)
  · obtain ⟨reached, _, rfl⟩ := messages
    exact (alike_report (.same _)).bind_eq fun _ => .done rfl
  · rename_i sent _
    have tracked := alike_track site.ledger messages
    obtain ⟨reached, destinations, rfl⟩ := messages
    refine (Registry.alike_send providers ⟨reached, destinations, rfl⟩ config).mono.bind_eq
      fun result => ?_
    refine (alike_report (.same _)).bind_eq fun _ => ?_
    refine (alike_self (makes_noteSent noContacts_of_routine ?_ sent)).bind_eq fun _ => ?_
    · rintro request noting userId rfl
      exact noting
    · refine Alike.bind_eq ?_ fun _ => .done rfl
      dsimp only [BuildOutcome.carry]
      split
      · exact tracked result
      · exact .done rfl

theorem alike_send {first second : Message} (alike : first.Alike second) :
    (send site (.ofProviders providers) config first).Alike Eq Failure.Alike
      (send site (.ofProviders providers) config second) := by
  have steps := alike_sendSteps site providers config alike
  have contexts : contextOf second = contextOf first := by
    obtain ⟨destination, alike, rfl⟩ := alike
    simp only [contextOf, alike.kind_eq]
  rw [send, send, contexts, withContext_eq, withContext_eq]
  refine .after nofun fun previous => .after nofun fun _ => steps.attempt.bind ?_
  intro outcome other outcomes
  exact .after nofun fun current => .after nofun fun _ => alike_ofExcept outcomes

theorem alike_sendAll {messages others : List Message}
    (alike : List.Forall₂ Message.Alike messages others) {batch other : Batch}
    (batches : batch.Alike other) :
    (sendAll site (.ofProviders providers) config batch messages).Alike Batch.Alike Failure.Alike
      (sendAll site (.ofProviders providers) config other others) := by
  induction alike generalizing batch other with
  | nil => exact .done batches
  | @cons first second rest later messageAlike _ ih =>
      rw [sendAll, sendAll]
      refine (alike_send site providers config messageAlike).attempt.bind ?_
      obtain ⟨destination, alike, rfl⟩ := messageAlike
      rintro _ _ (same | failures)
      · rw [same]
        refine ih ⟨?_, batches.failures, batches.held⟩
        dsimp only
        rw [batches.results]
      · refine (alike_report (.unsent first failures)).bind_eq fun _ => ih ?_
        exact ⟨batches.results, forall₂_setEntry batches.failures _ failures, batches.held⟩

theorem forall₂_split (types : List MessageType) {messages others : List Message}
    (alike : List.Forall₂ Message.Alike messages others) :
    List.Forall₂ Message.Alike (Backlog.split types messages).1 (Backlog.split types others).1 ∧
      List.Forall₂ Message.Alike (Backlog.split types messages).2
        (Backlog.split types others).2 := by
  rw [Backlog.split, Backlog.split, List.partition_eq_filter_filter,
    List.partition_eq_filter_filter]
  constructor
  · refine List.rel_filter ?_ alike
    rintro first _ ⟨destination, _, rfl⟩
    exact Iff.rfl
  · refine List.rel_filter ?_ alike
    rintro first _ ⟨destination, _, rfl⟩
    exact Iff.rfl

theorem alike_sendPending (types : List MessageType) {messages others : List Message}
    (alike : List.Forall₂ Message.Alike messages others) :
    (sendPending site (.ofProviders providers) config types messages).Alike Batch.Alike
      Failure.Alike (sendPending site (.ofProviders providers) config types others) := by
  have parts := forall₂_split types alike
  rw [sendPending, sendPending]
  generalize Backlog.split types messages = first at parts
  generalize Backlog.split types others = second at parts
  obtain ⟨readyAlike, heldAlike⟩ := parts
  obtain ⟨ready, held⟩ := first
  obtain ⟨readyOthers, heldOthers⟩ := second
  have start : Batch.Alike ⟨[], [], held⟩ ⟨[], [], heldOthers⟩ := ⟨rfl, .nil, heldAlike⟩
  refine (alike_sendAll site providers config readyAlike start).bind ?_
  intro batch other batches
  rw [batches.results, batches.failures.length_eq, readyAlike.length_eq, heldAlike.length_eq]
  exact (alike_report (.same _)).bind_eq fun _ => .done batches

end Dispatch

namespace Call

/-- The same call for messages that are alike. -/
inductive Alike : Call → Call → Prop
  | send {first second : Message} (config : Config) (alike : first.Alike second) :
      Alike (.send config first) (.send config second)
  | sendPending {messages others : List Message} (config : Config) (types : List MessageType)
      (alike : List.Forall₂ Message.Alike messages others) :
      Alike (.sendPending config types messages) (.sendPending config types others)

variable (table : String) (deployment : Deployment)

theorem Alike.program {call other : Call} (alike : call.Alike other) :
    (call.program table deployment).Alike Eq Failure.Alike (other.program table deployment) := by
  cases alike with
  | send config messages =>
      exact (Dispatch.alike_send _ _ config messages).attempt.bind fun _ _ _ => .done rfl
  | sendPending config types messages =>
      exact (Dispatch.alike_sendPending _ _ config types messages).bind fun _ _ _ => .done rfl

/-- Sending a message or a backlog, and the same with alike phone numbers, in surroundings that
answer alike requests alike: the logs show the same, except for the text of the destination in
reports on a delivery that could not be recorded and on a status update without a first delivery. -/
theorem log_sameUnlessNamed {σ τ : Type} {answer : (request : Request) → σ → request.Answer × σ}
    {counterpart : (request : Request) → τ → request.Answer × τ} {related : σ → τ → Prop}
    (surroundings : AlikeSurroundings answer counterpart related) {call other : Call}
    (calls : call.Alike other) {state : σ} {partner : τ} (start : related state partner)
    (context : Context) :
    List.Forall₂ SameUnlessNamed
      (shownLog context ((call.program table deployment).exchanges answer state))
      (shownLog context ((other.program table deployment).exchanges counterpart partner)) :=
  forall₂_shownLog ((calls.program table deployment).exchanges surroundings start) context

end Call

/-! ## Two telephones -/

namespace Sample

/-- A telephone with another number that is as long and ends in the same digits. -/
def otherTelephone : Destination := ⟨Voice.type, [(Telephony.phoneField, "+15555990222")]⟩

theorem alike_telephones : telephone.Alike otherTelephone :=
  .numbers (.inl rfl) (.cons ⟨rfl, .inr ⟨rfl, by decide⟩⟩ .nil)

/-- The answers about the alert, except that the user has the other telephone. -/
def otherAnswer : (request : Request) → request.Answer
  | .contactMethods userId => .ok [⟨"cm-voice", userId, otherTelephone⟩]
  | request => answer request

/-- A backlog of a status update, which has no first delivery yet, and of its alert. -/
def pending (destination : Destination) : Call :=
  .sendPending config MessageType.all [{ update with destination }, alert "1"]

theorem alike_pending : (pending telephone).Alike (pending otherTelephone) :=
  .sendPending config MessageType.all
    (.cons ⟨otherTelephone, alike_telephones, rfl⟩ (.cons ⟨inbox, .same _, rfl⟩ .nil))

/-- What is logged about the backlog, and how it is shown. -/
def pendingLog (answer : (request : Request) → request.Answer) (destination : Destination) :
    List LogRecord :=
  shownLog []
    (((pending destination).program deliveries deployment).exchanges (answerWithin answer)
      (tables, []))

theorem alikeSurroundings_answer :
    AlikeSurroundings (answerWithin answer) (answerWithin answer) Eq := by
  rintro request other state _ rfl requests
  refine ⟨.told requests ?_, ?_⟩
  · cases requests with
    | deliver channel payloads =>
        obtain ⟨_, _, rfl⟩ := payloads
        rfl
    | _ => rfl
  · cases requests <;> rfl

theorem alikeSurroundings_otherAnswer :
    AlikeSurroundings (answerWithin answer) (answerWithin otherAnswer) Eq := by
  rintro request other state _ rfl requests
  cases requests with
  | same =>
      cases request with
      | contactMethods userId =>
          exact ⟨.contacts userId (.cons ⟨otherTelephone, alike_telephones, rfl⟩ .nil), rfl⟩
      | _ => exact ⟨.told (.same _) .rfl, rfl⟩
  | telephone numbers => exact ⟨.told (.telephone numbers) .rfl, rfl⟩
  | post gateway text numbers => exact ⟨.told (.post gateway text numbers) .rfl, rfl⟩
  | @deliver payload _ channel payloads =>
      obtain ⟨destination, alike, rfl⟩ := payloads
      exact ⟨.told (.deliver channel ⟨destination, alike, rfl⟩) .rfl, rfl⟩
  | log events => exact ⟨.told (.log events) .rfl, rfl⟩

end Sample

/-- In the same surroundings, a status update without a first delivery tells in the log which of two
alike telephones it was meant for. -/
theorem log_tells_telephones :
    AlikeSurroundings (answerWithin Sample.answer) (answerWithin Sample.answer) Eq ∧
      (Sample.pending Sample.telephone).Alike (Sample.pending Sample.otherTelephone) ∧
      Sample.pendingLog Sample.answer Sample.telephone ≠
        Sample.pendingLog Sample.answer Sample.otherTelephone := by
  refine ⟨Sample.alikeSurroundings_answer, Sample.alike_pending, fun same => ?_⟩
  let errors (log : List LogRecord) : List (Option String) :=
    log.map fun record => (record.lookup "error").map Json.display
  have sameErrors := congrArg errors same
  revert sameErrors
  decide +kernel

/-- For a user whose telephone is another one that is alike, the backlog logs the same apart from
the report on the status update. -/
theorem pendingLog_sameUnlessNamed :
    AlikeSurroundings (answerWithin Sample.answer) (answerWithin Sample.otherAnswer) Eq ∧
      (Sample.pending Sample.telephone).Alike (Sample.pending Sample.otherTelephone) ∧
      List.Forall₂ SameUnlessNamed (Sample.pendingLog Sample.answer Sample.telephone)
        (Sample.pendingLog Sample.otherAnswer Sample.otherTelephone) :=
  ⟨Sample.alikeSurroundings_otherAnswer, Sample.alike_pending,
    Call.log_sameUnlessNamed Sample.deliveries Sample.deployment
      Sample.alikeSurroundings_otherAnswer Sample.alike_pending rfl []⟩

end AlertRelay
