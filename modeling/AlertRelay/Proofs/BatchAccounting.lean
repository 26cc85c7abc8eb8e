import AlertRelay.Proofs.PushDeliveries
import AlertRelay.Proofs.RaisedDispatches
import AlertRelay.Proofs.ResultIds
import Mathlib.Data.List.Nodup

/-!
# Accounting for a backlog

Every message of a backlog is held, or has a result, or has a failure, and never two of these.  The
messages that are due are tried once each, in their order, and each trial is the dispatch of its
message in the state that the trials before it left.  A trial that failed has used up answers to
look-ups and changed nothing else, with the exception that a lack of configuration may come from
outside, after an outbound call.
-/

namespace AlertRelay

open Program

namespace Backlog

variable (types : List MessageType) (message : Message)

/-- The message is unsent and of an admissible type, and it is not about an alert that had been
acknowledged or closed when it was queued. -/
def Due : Prop :=
  message.sentAt = none ∧ message.type ∈ types ∧
    ¬ (message.type = .alert ∧
      (message.alertStatus = some .acknowledged ∨ message.alertStatus = some .closed))

instance : Decidable (Due types message) :=
  inferInstanceAs (Decidable (_ ∧ _))

theorem isReady_iff : isReady types message = true ↔ Due types message := by
  simp [isReady, isResolved, Message.isSent, Due, and_assoc, Decidable.imp_iff_not_or]

theorem split_eq (messages : List Message) :
    split types messages =
      (messages.filter fun message => Due types message,
        messages.filter fun message => ¬ Due types message) := by
  have ready : isReady types = fun message => decide (Due types message) := by
    funext message
    rw [Bool.eq_iff_iff, isReady_iff, decide_eq_true_iff]
  rw [split, List.partition_eq_filter_filter, ready]
  simp [Function.comp_def]

end Backlog

namespace Dispatch

/-- One dispatch of a series, with the states before and after it. -/
structure Trial (σ : Type) where
  message : Message
  before : σ
  outcome : Except Failure SendResult
  after : σ

/-- The report on a message of a backlog that could not be sent. -/
def failureReport (message : Message) (failure : Failure) : LogEvent :=
  ⟨.error, component, "send_message_failed",
    [("message_id", .text message.id), ("message_type", .text message.type.name),
      ("error", .text failure.text)]⟩

section Trials

variable {σ : Type} (site : Site) (registry : Registry) (config : Config)
  (answer : (request : Request) → σ → request.Answer × σ)

namespace Trial

/-- The exchanges of a trial. -/
def exchanges (trial : Trial σ) : List Exchange :=
  (send site registry config trial.message).exchanges answer trial.before

/-- The trial is the dispatch of its message alone, in the state before it. -/
def Made (trial : Trial σ) : Prop :=
  (send site registry config trial.message).run answer trial.before =
    (trial.outcome, trial.after)

/-- What the trials contribute to a table under the ids of their messages. -/
def entries {α : Type} (part : Except Failure SendResult → Option α) (trials : List (Trial σ)) :
    List (String × α) :=
  trials.filterMap fun trial => (part trial.outcome).map fun value => (trial.message.id, value)

end Trial

/-- Trials one after the other, with a report on each of them that failed. -/
inductive Trials : σ → List (Trial σ) → σ → Prop
  | nil (state : σ) : Trials state [] state
  | sent {trial : Trial σ} {trials : List (Trial σ)} {final : σ} {result : SendResult}
      (made : trial.Made site registry config answer) (outcome : trial.outcome = .ok result)
      (later : Trials trial.after trials final) : Trials trial.before (trial :: trials) final
  | failed {trial : Trial σ} {trials : List (Trial σ)} {final : σ} {failure : Failure}
      (made : trial.Made site registry config answer) (outcome : trial.outcome = .error failure)
      (later : Trials (answer (.log (failureReport trial.message failure)) trial.after).2 trials
        final) :
      Trials trial.before (trial :: trials) final

end Trials

/-- The failure of an outcome that is one. -/
def failureOf? : Except Failure SendResult → Option Failure
  | .ok _ => none
  | .error failure => some failure

section Entries

variable {σ α : Type} {part : Except Failure SendResult → Option α} {trials : List (Trial σ)}

theorem Trial.entries_cons (trial : Trial σ) :
    entries part (trial :: trials) =
      ((part trial.outcome).map fun value => (trial.message.id, value)).toList ++
        entries part trials := by
  rw [entries, List.filterMap_cons]
  cases part trial.outcome <;> rfl

variable (part) in
theorem lookup_entries_of_not_mem {id : String}
    (absent : id ∉ trials.map fun trial => trial.message.id) :
    (Trial.entries part trials).lookup id = none := by
  induction trials with
  | nil => rfl
  | cons trial rest ih =>
      rw [List.map_cons, List.mem_cons, not_or] at absent
      have differs : (id == trial.message.id) = false := beq_eq_false_iff_ne.mpr absent.1
      rw [Trial.entries_cons]
      cases part trial.outcome <;> simp [List.lookup_cons, differs, ih absent.2]

variable (part) in
/-- Under the id of a message stands what its own trial contributed. -/
theorem lookup_entries_of_mem (distinct : (trials.map fun trial => trial.message.id).Nodup)
    {trial : Trial σ} (member : trial ∈ trials) :
    (Trial.entries part trials).lookup trial.message.id = part trial.outcome := by
  induction trials with
  | nil => cases member
  | cons first rest ih =>
      obtain ⟨fresh, distinctRest⟩ := List.nodup_cons.mp distinct
      rcases List.mem_cons.mp member with rfl | later
      · have absent := lookup_entries_of_not_mem part fresh
        rw [Trial.entries_cons]
        cases part trial.outcome <;> simp [absent]
      · have other : trial.message.id ≠ first.message.id := by
          intro same
          exact fresh (List.mem_map.mpr ⟨trial, later, same⟩)
        have differs : (trial.message.id == first.message.id) = false :=
          beq_eq_false_iff_ne.mpr other
        rw [Trial.entries_cons]
        cases part first.outcome <;> simp [List.lookup_cons, differs, ih distinctRest later]

end Entries

/-! ## The series of trials -/

section Series

variable {σ : Type} {site : Site} {registry : Registry} {config : Config}
  {answer : (request : Request) → σ → request.Answer × σ}

theorem Trials.made_of_mem {state final : σ} {trials : List (Trial σ)}
    (series : Trials site registry config answer state trials final) {trial : Trial σ}
    (member : trial ∈ trials) : trial.Made site registry config answer := by
  induction series with
  | nil => cases member
  | sent made _ _ ih | failed made _ _ ih =>
      rcases List.mem_cons.mp member with rfl | later
      · exact made
      · exact ih later

/-- A trial that was made is an execution with the outcome of the trial. -/
theorem Trial.Made.ends {trial : Trial σ} (made : trial.Made site registry config answer) :
    (send site registry config trial.message).Ends
      (trial.exchanges site registry config answer) trial.outcome := by
  have ended := ends_run answer (send site registry config trial.message) trial.before
  rw [Trial.Made] at made
  rw [made] at ended
  exact ended

variable (site registry config answer) in
/-- Messages with new ids are tried one after the other, and every trial contributes its outcome. -/
theorem run_sendAll {messages : List Message} (batch : Batch) (state : σ)
    (distinct : (messages.map Message.id).Nodup)
    (fresh : ∀ message ∈ messages,
      message.id ∉ batch.results.map Prod.fst ∧ message.id ∉ batch.failures.map Prod.fst) :
    ∃ trials final, Trials site registry config answer state trials final ∧
      trials.map Trial.message = messages ∧
      (sendAll site registry config batch messages).run answer state =
        (.ok
          { results := batch.results ++ Trial.entries Except.toOption trials
            failures := batch.failures ++ Trial.entries failureOf? trials
            held := batch.held }, final) := by
  -- By induction on the messages, for every batch so far: each trial adds one entry to it under an
  -- id that none of the later messages has.
  induction messages generalizing batch state with
  | nil => exact ⟨[], state, .nil state, rfl, by simp [sendAll, Trial.entries, run]⟩
  | cons message rest ih =>
      obtain ⟨newId, distinctRest⟩ := List.nodup_cons.mp distinct
      obtain ⟨freshHere, freshRest⟩ := List.forall_mem_cons.mp fresh
      have newTo {other : Message} (member : other ∈ rest) : other.id ≠ message.id := by
        intro same
        rw [← same] at newId
        exact newId (List.mem_map_of_mem member)
      obtain ⟨outcome, after, made⟩ : ∃ outcome after,
          (send site registry config message).run answer state = (outcome, after) :=
        ⟨_, _, rfl⟩
      rw [sendAll, run_bind, run_attempt, made]
      cases outcome with
      | ok result =>
          obtain ⟨trials, final, series, tried, ran⟩ :=
            ih { batch with results := setEntry batch.results message.id result } after
              distinctRest fun other member => by
                rw [setEntry_of_not_mem _ freshHere.1]
                simp [freshRest other member, newTo member]
          let trial : Trial σ := ⟨message, state, .ok result, after⟩
          have madeTrial : trial.Made site registry config answer := made
          refine ⟨trial :: trials, final, .sent madeTrial rfl series, by simp [trial, tried], ?_⟩
          dsimp only
          rw [ran, setEntry_of_not_mem _ freshHere.1]
          simp [trial, Trial.entries_cons, Except.toOption, failureOf?]
      | error failure =>
          obtain ⟨trials, final, series, tried, ran⟩ :=
            ih { batch with failures := setEntry batch.failures message.id failure }
              (answer (.log (failureReport message failure)) after).2 distinctRest
              fun other member => by
                rw [setEntry_of_not_mem _ freshHere.2]
                simp [freshRest other member, newTo member]
          let trial : Trial σ := ⟨message, state, .error failure, after⟩
          have madeTrial : trial.Made site registry config answer := made
          refine ⟨trial :: trials, final, .failed madeTrial rfl series, by simp [trial, tried], ?_⟩
          dsimp only
          rw [monad_bind_eq, run_bind]
          dsimp only [log, run]
          rw [← failureReport, ran, setEntry_of_not_mem _ freshHere.2]
          simp [trial, Trial.entries_cons, Except.toOption, failureOf?]

/-! ## What a failed trial leaves behind -/

/-- From one state to the other, at most the answers to reports, look-ups and queries were used up:
whatever such requests leave alone is the same. -/
def OnlyConsumes (answer : (request : Request) → σ → request.Answer × σ) (before after : σ) :
    Prop :=
  ∀ {τ : Type} (held : σ → τ),
    (∀ request state, request.Traceless → held (answer request state).2 = held state) →
      held after = held before

end Series
end Dispatch

/-- A channel outside of this library answered with the failure. -/
def Exchange.Declines (failure : Failure) : Exchange → Prop
  | ⟨.deliver _ _, .error raised⟩ => raised = failure
  | _ => False

/-- A channel that lacks its configuration left no trace, or the lack was reported from outside. -/
theorem Provider.traceless_or_raised (provider : Provider)
    {sendPayload : Payload → Config → Program SendResult}
    (sends : provider.channel.send = some sendPayload) {payload : Payload} {config : Config}
    {exchanges : List Exchange} {source reason : Json}
    (ended : (sendPayload payload config).Ends exchanges (.error (.configuration source reason))) :
    (∀ exchange ∈ exchanges, exchange.request.Traceless) ∨
      ∃ exchange ∈ exchanges, exchange.Raises (.configuration source reason) ∨
        exchange.Declines (.configuration source reason) := by
  have ofClean (clean : FailsClean (.configuration source reason) (sendPayload payload config)) :
      (∀ exchange ∈ exchanges, exchange.request.Traceless) ∨
        ∃ exchange ∈ exchanges, exchange.Raises (.configuration source reason) ∨
          exchange.Declines (.configuration source reason) := by
    rcases clean exchanges ended with traceless | ⟨exchange, made, raises⟩
    · exact .inl traceless
    · exact .inr ⟨exchange, made, .inl raises⟩
  cases provider with
  | voice =>
      cases sends
      exact ofClean (Voice.failsClean_send payload config)
  | sms gateway =>
      cases sends
      exact ofClean (Sms.failsClean_send gateway payload config)
  | browserPush store =>
      cases sends
      exact ofClean (BrowserPush.failsClean_send store payload config)
  | webhook =>
      cases sends
      exact ofClean (Webhook.failsClean_send payload config)
  | outside id info validate canSend =>
      cases canSend with
      | false => cases sends
      | true =>
          cases sends
          obtain ⟨answer, later, rfl, endedAnswer⟩ := ends_ask.mp ended
          obtain ⟨_, rfl⟩ := ends_ofExcept.mp endedAnswer
          exact .inr ⟨_, List.mem_cons_self, .inr rfl⟩

namespace Dispatch

variable {σ : Type} {site : Site} {providers : List Provider} {config : Config}
  {answer : (request : Request) → σ → request.Answer × σ}

/-- A dispatch that failed left no trace, or a lack of configuration was reported from outside. -/
theorem traceless_or_reported {message : Message} {exchanges : List Exchange} {failure : Failure}
    (ended : (send site (.ofProviders providers) config message).Ends exchanges
      (.error failure)) :
    (∀ exchange ∈ exchanges, exchange.request.Traceless) ∨
      (∃ source reason, failure = .configuration source reason) ∧
        ∃ exchange ∈ exchanges, exchange.Raises failure ∨ exchange.Declines failure := by
  obtain ⟨carrying, included, besides, carried⟩ := carrying_of_failed ended
  have ofTraceless (traceless : ∀ exchange ∈ carrying, exchange.request.Traceless) :
      ∀ exchange ∈ exchanges, exchange.request.Traceless :=
    fun exchange made => (besides exchange made).elim id (traceless exchange)
  rcases carried with rfl | ⟨payload, endedCarry⟩
  · exact .inl (ofTraceless (by simp))
  rcases Registry.carried_of_failed endedCarry with
    rfl | ⟨channel, sendPayload, provided, source, reason, found, sends, rfl, endedSend, rfl⟩
  · exact .inl (ofTraceless (by simp))
  obtain ⟨provider, _, rfl⟩ := List.mem_map.mp (List.mem_of_find?_eq_some found)
  rcases provider.traceless_or_raised sends endedSend with traceless | ⟨exchange, made, raised⟩
  · exact .inl (ofTraceless (List.forall_mem_cons.mpr ⟨.inl trivial, traceless⟩))
  · exact .inr ⟨⟨source, reason, rfl⟩, exchange,
      included (List.mem_cons_of_mem _ made), raised⟩

/-- A trial that failed used up answers only, or a lack of configuration was reported from
outside. -/
theorem Trial.Made.onlyConsumes_or_reported {trial : Trial σ} {failure : Failure}
    (made : trial.Made site (.ofProviders providers) config answer)
    (failed : trial.outcome = .error failure) :
    OnlyConsumes answer trial.before trial.after ∨
      (∃ source reason, failure = .configuration source reason) ∧
        ∃ exchange ∈ trial.exchanges site (.ofProviders providers) config answer,
          exchange.Raises failure ∨ exchange.Declines failure := by
  have ended := made.ends
  rw [failed] at ended
  rcases traceless_or_reported ended with traceless | reported
  · refine .inl fun held spares => ?_
    have kept : held ((send site (.ofProviders providers) config trial.message).run answer
        trial.before).2 = held trial.before :=
      run_kept answer held spares traceless
    rw [Trial.Made] at made
    rwa [made] at kept
  · exact .inr reported

end Dispatch

/-! ## The account -/

/-- Where a message of a backlog is: it is held, or the outcome of its trial stands under its id.
Each place excludes the others. -/
inductive Batch.Places (batch : Batch) (message : Message) :
    Option (Except Failure SendResult) → Prop
  | held (holds : message ∈ batch.held) (noResult : batch.results.lookup message.id = none)
      (noFailure : batch.failures.lookup message.id = none) : Places batch message none
  | result {result : SendResult} (unheld : message ∉ batch.held)
      (found : batch.results.lookup message.id = some result)
      (noFailure : batch.failures.lookup message.id = none) :
      Places batch message (some (.ok result))
  | failure {failure : Failure} (unheld : message ∉ batch.held)
      (noResult : batch.results.lookup message.id = none)
      (found : batch.failures.lookup message.id = some failure) :
      Places batch message (some (.error failure))

namespace Dispatch

variable {σ : Type}

/-- The batch accounts for every message of the backlog by the trials. -/
structure Accounted (types : List MessageType) (messages : List Message) (trials : List (Trial σ))
    (batch : Batch) : Prop where
  tried : trials.map Trial.message = messages.filter fun message => Backlog.Due types message
  held : batch.held = messages.filter fun message => ¬ Backlog.Due types message
  results : batch.results = Trial.entries Except.toOption trials
  failures : batch.failures = Trial.entries failureOf? trials
  placed_due : ∀ message ∈ messages, Backlog.Due types message →
    ∃ trial ∈ trials, trial.message = message ∧ batch.Places message (some trial.outcome)
  placed_held : ∀ message ∈ messages, ¬ Backlog.Due types message → batch.Places message none

/-- Trials of the messages that are due account for a backlog of different messages. -/
theorem accounted_of_tried {types : List MessageType} {messages : List Message}
    (distinct : (messages.map Message.id).Nodup) {trials : List (Trial σ)}
    (tried : trials.map Trial.message = messages.filter fun message => Backlog.Due types message) :
    Accounted types messages trials
      { results := Trial.entries Except.toOption trials
        failures := Trial.entries failureOf? trials
        held := messages.filter fun message => ¬ Backlog.Due types message } := by
  have ids : (trials.map fun trial => trial.message.id) =
      (messages.filter fun message => Backlog.Due types message).map Message.id := by
    rw [← tried, List.map_map]
    rfl
  have distinctTrials : (trials.map fun trial => trial.message.id).Nodup := by
    rw [ids]
    exact distinct.sublist (List.filter_sublist.map Message.id)
  refine ⟨tried, rfl, rfl, rfl, fun message member due => ?_, fun message member notDue => ?_⟩
  · have unheld : message ∉ messages.filter fun message => ¬ Backlog.Due types message := by
      simp [due]
    have among : message ∈ trials.map Trial.message := by
      rw [tried]
      simp [member, due]
    obtain ⟨trial, isTrial, rfl⟩ := List.mem_map.mp among
    have result := lookup_entries_of_mem Except.toOption distinctTrials isTrial
    have failure := lookup_entries_of_mem failureOf? distinctTrials isTrial
    refine ⟨trial, isTrial, rfl, ?_⟩
    cases outcome : trial.outcome with
    | ok value =>
        rw [outcome] at result failure
        exact .result unheld result failure
    | error raised =>
        rw [outcome] at result failure
        exact .failure unheld result failure
  · -- Another message with this id would be a second one among the messages.
    have untried : message.id ∉ trials.map fun trial => trial.message.id := by
      rw [ids]
      intro sameId
      obtain ⟨other, isDue, same⟩ := List.mem_map.mp sameId
      obtain ⟨otherMember, due⟩ := List.mem_filter.mp isDue
      have equal := List.inj_on_of_nodup_map distinct otherMember member same
      rw [equal] at due
      exact notDue (by simpa using due)
    exact .held (by simp [member, notDue]) (lookup_entries_of_not_mem _ untried)
      (lookup_entries_of_not_mem _ untried)

/-- Sending a backlog of different messages never fails and accounts for all of them.  Each trial
is the dispatch of its message alone in the state that the trials before it left.  A result is
about the message that it stands under, unless a channel outside of this library said otherwise, and
a trial that failed used up answers only, unless a lack of configuration was reported from
outside. -/
theorem backlog_accounted (site : Site) (providers : List Provider) (config : Config)
    (types : List MessageType) (messages : List Message)
    (answer : (request : Request) → σ → request.Answer × σ) (state : σ)
    (distinct : (messages.map Message.id).Nodup) :
    ∃ batch trials last report,
      (sendPending site (.ofProviders providers) config types messages).run answer state =
        (.ok batch, (answer (.log report) last).2) ∧
      Trials site (.ofProviders providers) config answer state trials last ∧
      Accounted types messages trials batch ∧
      (∀ trial ∈ trials, ∀ result, trial.outcome = .ok result →
        (∀ exchange ∈ trial.exchanges site (.ofProviders providers) config answer,
          exchange.KeepsId) →
          result.messageId = trial.message.id) ∧
      ∀ trial ∈ trials, ∀ failure, trial.outcome = .error failure →
        OnlyConsumes answer trial.before trial.after ∨
          (∃ source reason, failure = .configuration source reason) ∧
            ∃ exchange ∈ trial.exchanges site (.ofProviders providers) config answer,
              exchange.Raises failure ∨ exchange.Declines failure := by
  obtain ⟨details, steps⟩ := sendPending_eq site (.ofProviders providers) config types messages
  rw [Backlog.split_eq] at steps
  obtain ⟨trials, last, series, tried, ran⟩ :=
    run_sendAll site (.ofProviders providers) config answer
      ⟨[], [], messages.filter fun message => ¬ Backlog.Due types message⟩ state
      (distinct.sublist (List.filter_sublist.map Message.id)) (by simp)
  rw [List.nil_append, List.nil_append] at ran
  let batch : Batch :=
    ⟨Trial.entries Except.toOption trials, Trial.entries failureOf? trials,
      messages.filter fun message => ¬ Backlog.Due types message⟩
  refine ⟨batch, trials, last,
    ⟨.info, component, "send_pending_completed", details batch⟩, ?_, series,
    accounted_of_tried distinct tried, ?_, ?_⟩
  · rw [steps, run_bind, ran]
    rfl
  · intro trial member result outcome kept
    have ended := (series.made_of_mem member).ends
    rw [outcome] at ended
    exact isAbout_of_ends_send ended kept
  · intro trial member failure failed
    exact (series.made_of_mem member).onlyConsumes_or_reported failed

end Dispatch

/-! ## A lack of configuration that a push service reports -/

namespace Sample

/-- The answers that are left for pushes to each endpoint. -/
abbrev Script := List (String × List (Except Failure Unit))

/-- Surroundings with tables in which pushes are answered by a script, and accepted at its end. -/
def answerScripted (request : Request) (state : Store × Script) :
    request.Answer × (Store × Script) :=
  match request with
  | .service call =>
      let (given, store) := state.1.respond call.operation
      (given, (store, state.2))
  | .push request =>
      let endpoint := request.subscription.endpoint
      match state.2.lookup endpoint with
      | some (given :: later) => (given, (state.1, setEntry state.2 endpoint later))
      | _ => (.ok (), state)
  | request => (answer request, state)

/-- The first browser is gone once, and the second reports a lack of configuration and is out of
order after that. -/
def script : Script :=
  [("/1", [.error (.push "gone" (some 410))]),
    ("/2", [.error (.configuration BrowserPush.type "key rejected"),
      .error (.push "out of order" (some 500))])]

def twoBrowsers : Store :=
  ⟨[("subscriptions", ⟨"endpoint", (browsers.take 2).map browserRow⟩)], 10⟩

/-- A test message for the browsers of the user. -/
def test (id : String) : Message :=
  { alert id with
    type := .test
    destination := ⟨BrowserPush.type, []⟩ }

def backlog : List Message := [test "first", test "second"]

/-- The backlog is sent from a state of tables and answers. -/
def sentBacklog (state : Store × Script) : Except Failure Batch × (Store × Script) :=
  (Dispatch.sendPending site (.standard browserStore) pushConfig [.test] backlog).run
    answerScripted state

/-- A message is sent alone from a state of tables and answers. -/
def sentAlone (id : String) (state : Store × Script) :
    Except Failure SendResult × (Store × Script) :=
  (Dispatch.send site (.standard browserStore) pushConfig (test id)).run answerScripted state

/-- A channel of others, which answers about another message. -/
def stranger : Provider := .outside "stranger" (fun _ => ⟨"stranger", "", "", "", true, false,
  false, false, false, false, false, [], ""⟩) none true

def strangeAnswer : (request : Request) → request.Answer
  | .deliver _ _ => .ok (.sent "other" none)
  | request => answer request

end Sample

/-- The first message of the backlog fails after it has deleted a subscription, and the second one
is lost.  With the same answers left, it would be sent from the tables that the first one found.  A
channel outside of this library can give a result that names another message. -/
theorem lost_after_failed :
    passes (fun batch => batch.failures.map Prod.fst == ["first"] &&
        batch.results.map (fun entry => (entry.1, entry.2.state)) ==
          [("second", .failedPermanently)])
      (Sample.sentBacklog (Sample.twoBrowsers, Sample.script)).1 = true ∧
    passes (fun result => result.state == .sent)
      (Sample.sentAlone "second" (Sample.twoBrowsers,
        (Sample.sentAlone "first" (Sample.twoBrowsers, Sample.script)).2.2)).1 = true ∧
    passes (fun batch => batch.results.map (fun entry => (entry.1, entry.2.messageId)) ==
        [("first", "other")])
      ((Dispatch.sendPending Sample.site (.ofProviders [Sample.stranger]) Sample.config [.test]
        [{ Sample.test "first" with destination := ⟨"stranger", []⟩ }]).run
        (answerWith Sample.strangeAnswer) Sample.tables).1 = true := by
  refine ⟨?_, ?_, ?_⟩
  · decide +kernel
  · decide +kernel
  · decide +kernel

/-- The backlog of two messages is accounted for. -/
theorem accounted_of_two :
    (Sample.backlog.map Message.id).Nodup ∧
      ∃ (batch : Batch) (trials : List (Dispatch.Trial (Store × Sample.Script)))
        (last : Store × Sample.Script) (report : LogEvent),
        Sample.sentBacklog (Sample.twoBrowsers, Sample.script) =
          (.ok batch, (Sample.answerScripted (.log report) last).2) ∧
        Dispatch.Accounted [.test] Sample.backlog trials batch := by
  have distinct : (Sample.backlog.map Message.id).Nodup := by decide
  obtain ⟨batch, trials, last, report, ran, _, accounted, _⟩ :=
    Dispatch.backlog_accounted Sample.site (Provider.standard Sample.browserStore)
      Sample.pushConfig [.test] Sample.backlog Sample.answerScripted
      (Sample.twoBrowsers, Sample.script) distinct
  exact ⟨distinct, batch, trials, last, report, ran, accounted⟩

end AlertRelay
