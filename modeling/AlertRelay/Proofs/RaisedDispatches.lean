import AlertRelay.Proofs.Acceptance
import AlertRelay.Proofs.ChannelFailures
import AlertRelay.Proofs.MessageContext
import AlertRelay.Proofs.Surroundings

/-!
# Dispatches that fail

A dispatch that ends with a failure has noted nothing and recorded nothing, and every variable of
the message context has its earlier value.  It has not even reached a recipient or changed a table:
everything that can fail comes before the first outbound call.  There is one exception.  The
registry passes a lack of configuration on, whoever reports it, so such a failure may also come out
of an outbound call, or out of the deletion of a push subscription that is gone.
-/

namespace AlertRelay

open Program Failure

/-! ## Requests without a trace -/

namespace Request

variable {request : Request}

/-- Queries of stored items. -/
def Querying : Request → Prop
  | .service ⟨_, _, _, .query _ _⟩ => True
  | _ => False

/-- The request only reports, looks something up or queries stored items. -/
def Traceless (request : Request) : Prop := request.Quiet ∨ request.Reading ∨ request.Querying

theorem Routine.traceless (routine : request.Routine) : request.Traceless :=
  .inl routine.quiet

theorem Reading.traceless (reading : request.Reading) : request.Traceless :=
  .inr (.inl reading)

theorem Querying.subscribing (querying : request.Querying) : request.Subscribing := by
  cases request with
  | service call =>
      obtain ⟨service, session, client, operation⟩ := call
      cases operation <;> first | exact querying.elim | trivial
  | _ => exact querying.elim

theorem Querying.not_outbound (querying : request.Querying) : ¬ request.Outbound := by
  cases request <;> first | exact querying.elim | exact id

theorem Traceless.not_outbound (traceless : request.Traceless) : ¬ request.Outbound := by
  rcases traceless with quiet | reading | querying
  · exact quiet.not_outbound
  · exact reading.not_outbound
  · exact querying.not_outbound

/-- The request belongs to the stages of a dispatch before it notes and records what was sent. -/
def Preliminary (request : Request) : Prop := request.Quiet ∨ request.Reading ∨ request.Carrying

theorem Traceless.preliminary (traceless : request.Traceless) : request.Preliminary := by
  rcases traceless with quiet | reading | querying
  · exact .inl quiet
  · exact .inr (.inl reading)
  · exact .inr (.inr (.inr (.inr querying.subscribing)))

theorem Preliminary.not_noting (preliminary : request.Preliminary) : ¬ request.Noting := by
  intro noting
  cases request <;> first
    | exact noting.elim
    | rcases preliminary with quiet | reading | routine | outbound | subscribing <;> contradiction

theorem Preliminary.not_stores (preliminary : request.Preliminary) : ¬ request.Stores := by
  rcases preliminary with quiet | reading | carrying
  · exact quiet.not_stores
  · exact reading.not_stores
  · exact carrying.not_stores

theorem Preliminary.spares (preliminary : request.Preliminary) : request.SparesDeliveries := by
  rcases preliminary with quiet | reading | carrying
  · exact quiet.spares
  · exact reading.spares
  · exact carrying.spares

instance : DecidablePred Outbound
  | .telephone _ | .post _ | .push _ | .deliver .. => isTrue trivial
  | .serviceInfo _ | .alert _ | .alertMetadata _ | .logEntry _ | .contactMethods _ | .schedule _
  | .onCallUsers _ | .verificationCode _ | .signalParameters _ | .appendAlertSent ..
  | .appendServiceSent .. | .service _ | .closeConnection | .cancelled | .sleep _ | .now | .log _
  | .context | .setContext _ => isFalse id

end Request

namespace Store

variable {store after : Store}

theorem Answers.eq_of_traceless {exchange : Exchange} (answers : store.Answers exchange after)
    (traceless : exchange.request.Traceless) : after = store := by
  cases answers with
  | elsewhere => rfl
  | @service call answer after served =>
      obtain ⟨service, session, client, operation⟩ := call
      cases operation with
      | getItem name key options => cases served <;> rfl
      | query name options => cases served <;> rfl
      | putItem name item options =>
          rcases traceless with quiet | reading | querying <;> contradiction
      | deleteItem name key options =>
          rcases traceless with quiet | reading | querying <;> contradiction
      | other method arguments => rcases traceless with quiet | reading | querying <;> contradiction

theorem Through.eq_of_traceless {exchanges : List Exchange}
    (through : store.Through exchanges after)
    (traceless : ∀ exchange ∈ exchanges, exchange.request.Traceless) : after = store := by
  induction through with
  | nil => rfl
  | cons answers _ ih =>
      rw [ih fun exchange member => traceless exchange (List.mem_cons_of_mem _ member)]
      exact answers.eq_of_traceless (traceless _ List.mem_cons_self)

/-- Without writes, every row of a table of deliveries is kept. -/
theorem Through.row?_eq_of_not_stores {exchanges : List Exchange} {name : String}
    (through : store.Through exchanges after)
    (spares : ∀ exchange ∈ exchanges, exchange.request.SparesDeliveries)
    (unstored : ∀ exchange ∈ exchanges, ¬ exchange.request.Stores)
    (keyed : (store.table name).keyName = "delivery_key") (key : String) :
    after.row? name key = store.row? name key := by
  induction through with
  | nil => rfl
  | @cons store middle after exchange exchanges answers _ ih =>
      have sparesFirst := spares exchange List.mem_cons_self
      have keyedNext : (middle.table name).keyName = "delivery_key" :=
        (answers.keyName_eq sparesFirst).trans keyed
      rw [ih (fun other member => spares other (List.mem_cons_of_mem _ member))
        (fun other member => unstored other (List.mem_cons_of_mem _ member)) keyedNext]
      rcases answers.row?_eq keyed sparesFirst key with same | ⟨call, item, made, operation, _⟩
      · exact same
      · refine (unstored exchange List.mem_cons_self ?_).elim
        rw [made]
        exact Request.stores_of_putItem operation

end Store

/-! ## Failures that leave no trace, or come from outside -/

/-- An outbound call or the deletion of an item raised the failure. -/
def Exchange.Raises (failure : Failure) : Exchange → Prop
  | ⟨.telephone _, .error raised⟩ => raised = failure
  | ⟨.post _, .error raised⟩ => raised = failure
  | ⟨.push _, .error raised⟩ => raised = failure
  | ⟨.service ⟨_, _, _, .deleteItem _ _ _⟩, .error raised⟩ => raised = failure
  | _ => False

/-- A program that ends with the failure has left no trace, or one of its calls raised the
failure. -/
def FailsClean {α : Type} (failure : Failure) (program : Program α) : Prop :=
  ∀ exchanges, program.Ends exchanges (.error failure) →
    (∀ exchange ∈ exchanges, exchange.request.Traceless) ∨
      ∃ exchange ∈ exchanges, exchange.Raises failure

section FailsClean

variable {α β : Type} {failure : Failure}

theorem FailsClean.of_makes {program : Program α} (makes : program.Makes Request.Traceless) :
    FailsClean failure program :=
  fun _ ended => .inl fun _ made => makes.of_mem ended made

theorem FailsClean.of_fails {program : Program α}
    (fails : program.Fails (fun exchange => ¬ exchange.Raises failure) (· ≠ failure)) :
    FailsClean failure program := by
  intro exchanges ended
  by_cases raised : ∃ exchange ∈ exchanges, exchange.Raises failure
  · exact .inr raised
  · have unraised : ∀ exchange ∈ exchanges, ¬ exchange.Raises failure :=
      fun exchange made raises => raised ⟨exchange, made, raises⟩
    exact (fails.of_ends ended unraised rfl).elim

/-- What leaves no trace may come first. -/
theorem FailsClean.bind {program : Program α} {next : α → Program β}
    (makes : program.Makes Request.Traceless) (later : ∀ value, FailsClean failure (next value)) :
    FailsClean failure (program.bind next) := by
  intro exchanges ended
  rcases ends_bind.mp ended with
    ⟨_, endedFirst, _⟩ | ⟨first, second, value, rfl, endedFirst, endedSecond⟩
  · exact .inl fun exchange made => makes.of_mem endedFirst made
  rcases later value second endedSecond with traceless | ⟨exchange, made, raises⟩
  · refine .inl fun exchange made => ?_
    rcases List.mem_append.mp made with inFirst | inSecond
    · exact makes.of_mem endedFirst inFirst
    · exact traceless exchange inSecond
  · exact .inr ⟨exchange, List.mem_append_right _ made, raises⟩

end FailsClean

/-! ## Channels -/

section Channels

variable {source reason : Json}

theorem ne_configuration_of_isRaw (failure : Failure) (raw : failure.IsRaw) :
    failure ≠ .configuration source reason :=
  raw.ne_of_isLibrary rfl

theorem Telephony.failsClean_deliver (kind messageId : String) (call : TelephonyCall) :
    FailsClean (.configuration source reason) (deliver kind messageId call) :=
  .of_fails (fails_deliver ne_configuration_of_isRaw fun _ unraised => unraised)

theorem Voice.failsClean_send (payload : Payload) (config : Config) :
    FailsClean (.configuration source reason) (send payload config) := by
  refine .bind makes_ofExcept fun text => .bind makes_ofExcept fun _ => ?_
  exact Telephony.failsClean_deliver _ _ _

theorem Sms.failsClean_send (given : Option Gateway) (payload : Payload) (config : Config) :
    FailsClean (.configuration source reason) (send given payload config) := by
  refine .bind makes_ofExcept fun text => ?_
  dsimp only
  split
  · split
    · exact .of_makes (.fail _)
    · exact .of_fails
        (fails_sendThroughGateway ne_configuration_of_isRaw fun _ _ unraised => unraised)
  · exact .bind makes_ofExcept fun _ => Telephony.failsClean_deliver _ _ _

theorem Webhook.failsClean_send (payload : Payload) (config : Config) :
    FailsClean (.configuration source reason) (send payload config) :=
  .of_fails (fails_send ne_configuration_of_isRaw fun _ _ unraised => unraised)

theorem BrowserPush.failsClean_send (store : SubscriptionStore) (payload : Payload)
    (config : Config) : FailsClean (.configuration source reason) (send store payload config) := by
  refine .bind makes_ofExcept fun userId => .bind makes_ofExcept fun message => ?_
  have found : (store.findByUser userId).Makes Request.Traceless :=
    SubscriptionStore.makes_findByUser (fun _ => Request.Routine.traceless) fun _ _ =>
      .inr (.inr trivial)
  refine .bind found fun subscriptions => ?_
  split
  · exact .of_makes (makes_bind (makes_log.mpr (.inl trivial)) fun _ => .done _)
  · -- After the address is known, pushes are made, and what fails has to come from a call.
    have addressed := makes_subscriberAddress (fun _ => Request.Routine.traceless)
      config.push.subscriberEmail config.publicUrl
    refine .bind addressed fun subscriber => .of_fails ?_
    refine Fails.bind (fails_deliverAll ?_ (fun _ _ unraised => unraised) _ _ _) fun delivered => ?_
    · refine fun endpoint => TableClient.fails_deleteItem_usual rfl rfl
        (fun failure unraised _ => unraised) fun refusal _ failure failed => ?_
      have raw := Outcome.onlyRaw_ofServiceFailure refusal failure failed
      exact ne_configuration_of_isRaw failure raw
    · cases delivered with
      | none => exact Fails.done _
      | some delivered =>
          refine fails_log.bind fun _ => ?_
          split
          · exact Fails.done _
          · exact Fails.done _

/-- Every channel of the standard deployment checks its configuration before it reaches a
recipient. -/
theorem Registry.failsClean_of_find?_standard {subscriptions : SubscriptionStore} {type : String}
    {channel : Channel} {sendPayload : Payload → Config → Program SendResult}
    (found : (Registry.standard subscriptions).find? type = some channel)
    (sends : channel.send = some sendPayload) (payload : Payload) (config : Config) :
    FailsClean (.configuration source reason) (sendPayload payload config) := by
  rcases send_of_find?_standard found sends with rfl | rfl | rfl | rfl
  · exact Voice.failsClean_send payload config
  · exact Sms.failsClean_send none payload config
  · exact BrowserPush.failsClean_send subscriptions payload config
  · exact Webhook.failsClean_send payload config

end Channels

/-! ## Dispatches -/

namespace Registry

variable {payload : Payload} {config : Config} {exchanges : List Exchange} {failure : Failure}

/-- A payload that could not be sent had no sender, or its channel raised a lack of
configuration. -/
theorem carried_of_failed {registry : Registry}
    (ended : (registry.send payload config).Ends exchanges (.error failure)) :
    exchanges = [] ∨
      ∃ channel sendPayload provided source reason,
        registry.find? payload.destination.kind = some channel ∧
        channel.send = some sendPayload ∧ exchanges = ⟨.cancelled, false⟩ :: provided ∧
        (sendPayload payload config).Ends provided (.error failure) ∧
        failure = .configuration source reason := by
  cases course_of_ends_send ended with
  | senderless => exact .inl rfl
  | @carried channel sendPayload provided reporting given _ found sends on endedSend concluded =>
      obtain ⟨rfl, rfl, source, reason, rfl⟩ := ends_conclude_error concluded
      rw [List.append_nil]
      exact .inr ⟨channel, sendPayload, provided, source, reason, found, sends, rfl, endedSend,
        rfl⟩

/-- A payload that could not be sent left no trace, or a call raised a lack of configuration. -/
theorem traceless_or_raised {subscriptions : SubscriptionStore}
    (ended : ((Registry.standard subscriptions).send payload config).Ends exchanges
      (.error failure)) :
    (∀ exchange ∈ exchanges, exchange.request.Traceless) ∨
      (∃ source reason, failure = .configuration source reason) ∧
        ∃ exchange ∈ exchanges, exchange.Raises failure := by
  rcases carried_of_failed ended with
    rfl | ⟨channel, sendPayload, provided, source, reason, found, sends, rfl, endedSend, rfl⟩
  · exact .inl fun _ none => (List.not_mem_nil none).elim
  rcases failsClean_of_find?_standard found sends payload config provided endedSend with
    traceless | ⟨exchange, made, raises⟩
  · exact .inl (List.forall_mem_cons.mpr ⟨.inl trivial, traceless⟩)
  · exact .inr ⟨⟨source, reason, rfl⟩, exchange, List.mem_cons_of_mem _ made, raises⟩

end Registry

namespace Dispatch

variable {site : Site} {config : Config} {message : Message} {exchanges : List Exchange}
  {failure : Failure}

theorem traceless_of_building {building : List Exchange} {outcome : Except Failure BuildOutcome}
    (ended : (BuildOutcome.ofMessage site message config).Ends building outcome)
    {exchange : Exchange} (made : exchange ∈ building) : exchange.request.Traceless := by
  have makes : (BuildOutcome.ofMessage site message config).Makes Request.Traceless :=
    BuildOutcome.makes_ofMessage (fun _ => Request.Routine.traceless)
      (fun _ => Request.Reading.traceless) site message config
  exact makes.of_mem ended made

/-- All that a failed dispatch may have done besides tracelessly building its message is to hand the
payload to the registry, which failed. -/
theorem carrying_of_failed {registry : Registry}
    (ended : (send site registry config message).Ends exchanges (.error failure)) :
    ∃ carrying, carrying ⊆ exchanges ∧
      (∀ exchange ∈ exchanges, exchange.request.Traceless ∨ exchange ∈ carrying) ∧
      (carrying = [] ∨
        ∃ payload, (registry.send payload config).Ends carrying (.error failure)) := by
  obtain ⟨previous, inner, current, rfl, endedSteps⟩ := exchanges_of_ends_withContext ended
  cases course_of_ends_sendSteps endedSteps with
  | @unbuilt building _ endedBuild =>
      refine ⟨[], List.nil_subset _, fun exchange made => .inl ?_, .inl rfl⟩
      simp only [List.cons_append, List.mem_cons, List.mem_append, List.not_mem_nil,
        or_false] at made
      rcases made with rfl | rfl | rfl | inBuilding | rfl | rfl
      · exact .inl trivial
      · exact .inl trivial
      · exact .inl trivial
      · exact traceless_of_building endedBuild inBuilding
      · exact .inl trivial
      · exact .inl trivial
  | @unsent building carrying sent payload isFirst _ built endedCarry =>
      refine ⟨carrying, ?_, fun exchange made => ?_, .inr ⟨payload, endedCarry⟩⟩
      · intro exchange made
        simp [made]
      simp only [List.cons_append, List.mem_cons, List.mem_append, List.not_mem_nil,
        or_false] at made
      rcases made with rfl | rfl | rfl | (inBuilding | inCarrying) | rfl | rfl
      · exact .inl (.inl trivial)
      · exact .inl (.inl trivial)
      · exact .inl (.inl trivial)
      · exact .inl (traceless_of_building built inBuilding)
      · exact .inr inCarrying
      · exact .inl (.inl trivial)
      · exact .inl (.inl trivial)

/-- A failed dispatch noted and recorded nothing. -/
theorem preliminary_of_failed {providers : List Provider}
    (ended : (send site (.ofProviders providers) config message).Ends exchanges (.error failure))
    {exchange : Exchange} (made : exchange ∈ exchanges) : exchange.request.Preliminary := by
  obtain ⟨carrying, _, besides, carried⟩ := carrying_of_failed ended
  rcases besides exchange made with traceless | inCarrying
  · exact traceless.preliminary
  · rcases carried with rfl | ⟨payload, endedCarry⟩
    · exact (List.not_mem_nil inCarrying).elim
    · exact .inr (.inr ((Registry.makes_send _ payload config).of_mem endedCarry inCarrying).1)

theorem traceless_or_raised_of_failed {subscriptions : SubscriptionStore}
    (ended : (send site (.standard subscriptions) config message).Ends exchanges
      (.error failure)) :
    (∀ exchange ∈ exchanges, exchange.request.Traceless) ∨
      (∃ source reason, failure = .configuration source reason) ∧
        ∃ exchange ∈ exchanges, exchange.Raises failure := by
  obtain ⟨carrying, included, besides, carried⟩ := carrying_of_failed ended
  rcases carried with rfl | ⟨payload, endedCarry⟩
  · refine .inl fun exchange made => (besides exchange made).elim id fun none => ?_
    exact (List.not_mem_nil none).elim
  · rcases Registry.traceless_or_raised endedCarry with
      traceless | ⟨configured, exchange, made, raises⟩
    · exact .inl fun exchange made => (besides exchange made).elim id (traceless exchange)
    · exact .inr ⟨configured, exchange, included made, raises⟩

/-- What a dispatch that failed leaves behind: nothing was noted and nothing was stored, the rows of
deliveries and the variables of the context are the earlier ones, and either no recipient was
reached and no table changed, or a lack of configuration was raised by a call of a provider or by
the deletion of an item. -/
structure Withdrawn (exchanges : List Exchange) (failure : Failure) : Prop where
  unnoted : ∀ exchange ∈ exchanges, ¬ exchange.request.Noting
  unstored : ∀ exchange ∈ exchanges, ¬ exchange.request.Stores
  deliveries_kept : ∀ {store after : Store} {name : String}, store.Through exchanges after →
    (store.table name).keyName = "delivery_key" →
      ∀ key, after.row? name key = store.row? name key
  context_kept : ∀ {before after : Context}, before.Distinct → before.Through exchanges after →
    ∀ name, after.lookup name = before.lookup name
  traceless_or_raised :
    ((∀ exchange ∈ exchanges, ¬ exchange.request.Outbound) ∧
      ∀ {store after : Store}, store.Through exchanges after → after = store) ∨
    (∃ source reason, failure = .configuration source reason) ∧
      ∃ exchange ∈ exchanges, exchange.Raises failure

/-- A dispatch through the standard channels that failed is withdrawn. -/
theorem withdrawn_of_failed {subscriptions : SubscriptionStore}
    (ended : (send site (.standard subscriptions) config message).Ends exchanges
      (.error failure)) : Withdrawn exchanges failure where
  unnoted _ made := (preliminary_of_failed ended made).not_noting
  unstored _ made := (preliminary_of_failed ended made).not_stores
  deliveries_kept through := through.row?_eq_of_not_stores
    (fun _ made => (preliminary_of_failed ended made).spares)
    fun _ made => (preliminary_of_failed ended made).not_stores
  context_kept distinct through := context_restored ended distinct through
  traceless_or_raised := by
    rcases traceless_or_raised_of_failed ended with traceless | raised
    · exact .inl ⟨fun exchange made => (traceless exchange made).not_outbound,
        fun through => through.eq_of_traceless traceless⟩
    · exact .inr raised

end Dispatch

/-! ## Failed dispatches of one alert -/

namespace Sample

/-- Answers in which a post fails for a lack of configuration. -/
def proxyAnswer : (request : Request) → request.Answer
  | .post _ => .error (.configuration "proxy" "not configured")
  | request => answer request

/-- The dispatch of a labelled alert under a configuration without the account that telephone calls
need. -/
def unconfiguredDispatch : Program SendResult :=
  Dispatch.send (.complete ⟨⟨[], [], 10⟩, deliveries⟩ .supplied)
    (.standard ⟨⟨[], [], 10⟩, "subscriptions"⟩)
    { config with telephony := { config.telephony with accountSid := "" } } (alert "unconfigured")

def nightly : Context := [("job", .text "nightly")]

end Sample

/-- A dispatch fails although it has made a post. -/
theorem failed_although_posted :
    ∃ exchanges failure, Sample.hookedDispatch.Ends exchanges (.error failure) ∧
      ∃ exchange ∈ exchanges, exchange.request.Outbound := by
  have failed : failsWith (fun _ => true)
      (Sample.hookedDispatch.run (answerWith Sample.proxyAnswer) Sample.tables).1 = true := by
    decide +kernel
  have posted : (Sample.hookedDispatch.exchanges (answerWith Sample.proxyAnswer)
      Sample.tables).any (fun exchange => decide exchange.request.Outbound) = true := by
    decide +kernel
  obtain ⟨failure, ended, _⟩ := ends_of_failsWith failed
  obtain ⟨exchange, made, outbound⟩ := List.any_eq_true.mp posted
  exact ⟨_, failure, ended, exchange, made, of_decide_eq_true outbound⟩

/-- Without an account for telephone calls, an alert that is promoted to the telephone fails, and
the dispatch is withdrawn from the tables and the context that it started from. -/
theorem withdrawn_of_unconfigured :
    ∃ exchanges failure after left,
      Sample.unconfiguredDispatch.Ends exchanges (.error failure) ∧
      Sample.tables.Through exchanges after ∧ Sample.nightly.Through exchanges left ∧
      Dispatch.Withdrawn exchanges failure := by
  have failed : failsWith (fun _ => true) (Sample.unconfiguredDispatch.run
      (answerWithin Sample.answer) (Sample.tables, Sample.nightly)).1 = true := by
    decide +kernel
  obtain ⟨failure, ended, _⟩ := ends_of_failsWith failed
  have tables := Store.through_run Prod.fst (tables_answerWithin Sample.answer)
    Sample.unconfiguredDispatch (Sample.tables, Sample.nightly)
  have context := Context.through_run Prod.snd (context_answerWithin Sample.answer)
    Sample.unconfiguredDispatch (Sample.tables, Sample.nightly)
  exact ⟨_, failure, _, _, ended, tables, context, Dispatch.withdrawn_of_failed ended⟩

end AlertRelay
