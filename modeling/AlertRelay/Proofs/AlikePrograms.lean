import AlertRelay.Log.Masking
import AlertRelay.Proofs.BatchAccounting
import Mathlib.Data.List.Forall2

/-!
# Programs that differ in phone numbers

Phone numbers are alike when they have the same length and end in the same visible digits.
Messages, requests and whole programs are alike when they differ only in phone numbers that are
alike, and in reports and failures that name such numbers.  Alike programs that run in surroundings
which answer alike requests alike make alike requests one after the other.
-/

namespace AlertRelay

open Program

/-! ## Alike data -/

/-- The last points of a text, as many as stay visible of a number. -/
def visibleEnd (number : String) : List Surrogate.Point :=
  let points := Surrogate.points number
  points.drop (points.length - LogRecord.visibleDigits)

/-- Numbers of the same length that end in the same visible digits. -/
def AlikeNumbers (first second : String) : Prop :=
  (Surrogate.points first).length = (Surrogate.points second).length ∧
    visibleEnd first = visibleEnd second

instance (first second : String) : Decidable (AlikeNumbers first second) :=
  inferInstanceAs (Decidable (_ ∧ _))

theorem AlikeNumbers.refl (number : String) : AlikeNumbers number number :=
  ⟨rfl, rfl⟩

namespace Destination

/-- The same argument, or the phone number with a number that is alike. -/
def AlikeArgument (first second : String × String) : Prop :=
  first.1 = second.1 ∧
    (first.2 = second.2 ∨ first.1 = Telephony.phoneField ∧ AlikeNumbers first.2 second.2)

/-- The same destination, or destinations of the telephony provider that differ only in phone
numbers which are alike. -/
inductive Alike : Destination → Destination → Prop
  | same (destination : Destination) : Alike destination destination
  | numbers {kind : String} {arguments others : List (String × String)}
      (telephonic : kind = Voice.type ∨ kind = Sms.type)
      (alike : List.Forall₂ AlikeArgument arguments others) :
      Alike ⟨kind, arguments⟩ ⟨kind, others⟩

namespace Alike

variable {first second : Destination}

theorem kind_eq (alike : first.Alike second) : second.kind = first.kind := by
  cases alike <;> rfl

/-- Only destinations of the telephony provider can be alike and differ. -/
theorem eq_of_kind (alike : first.Alike second) (notVoice : first.kind ≠ Voice.type)
    (notSms : first.kind ≠ Sms.type) : second = first := by
  cases alike with
  | same => rfl
  | numbers telephonic _ =>
      rcases telephonic with isVoice | isSms
      · exact (notVoice isVoice).elim
      · exact (notSms isSms).elim

theorem phoneNumber (alike : first.Alike second) :
    AlikeNumbers (first.argument Telephony.phoneField) (second.argument Telephony.phoneField) := by
  cases alike with
  | same => exact .refl _
  | numbers _ alike =>
      dsimp only [argument]
      induction alike with
      | nil => exact .refl _
      | @cons argument other rest others both _ ih =>
          obtain ⟨name, value⟩ := argument
          obtain ⟨otherName, otherValue⟩ := other
          obtain ⟨rfl, values⟩ := both
          by_cases named : name = Telephony.phoneField
          · rw [List.lookup_cons, List.lookup_cons, named, beq_self_eq_true]
            rcases values with same | ⟨_, alike⟩
            · rw [show value = otherValue from same]
              exact .refl _
            · exact alike
          · have differs : (Telephony.phoneField == name) = false := by
              simpa using Ne.symm named
            rw [List.lookup_cons, List.lookup_cons, differs]
            exact ih

end Alike
end Destination

/-- The same message for a destination that is alike. -/
def Message.Alike (first second : Message) : Prop :=
  ∃ destination, first.destination.Alike destination ∧ second = { first with destination }

/-- The same payload for a destination that is alike. -/
def Payload.Alike (first second : Payload) : Prop :=
  ∃ destination, first.destination.Alike destination ∧ second = { first with destination }

/-- The same contact method with a destination that is alike. -/
def ContactMethod.Alike (first second : ContactMethod) : Prop :=
  ∃ destination, first.destination.Alike destination ∧ second = { first with destination }

/-- The same failure, or the lack of a first delivery for destinations that are alike. -/
inductive Failure.Alike : Failure → Failure → Prop
  | same (failure : Failure) : Alike failure failure
  | missing {first second : Destination} (alertId : Int) (alike : first.Alike second) :
      Alike (.firstDeliveryMissing alertId first.text) (.firstDeliveryMissing alertId second.text)

instance : Std.Refl Failure.Alike := ⟨.same⟩

/-- The report on a call or a message that was created. -/
def Telephony.creationReport (content : TelephonyContent) (id : Json) (toNumber : String) :
    LogEvent :=
  ⟨.debug, clientComponent, createdEvent content, [("sid", id), ("to_number", .text toNumber)]⟩

/-- The report on a delivery that could not be recorded. -/
def Dispatch.unrecordedReport (alertId : Int) (destination : Destination) (reason : String) :
    LogEvent :=
  ⟨.error, component, "track_status_failed",
    [("alert_id", .integer alertId), ("dest", .text destination.text), ("error", .text reason)]⟩

/-- The same event, or reports of one kind that name alike numbers or destinations. -/
inductive LogEvent.Alike : LogEvent → LogEvent → Prop
  | same (event : LogEvent) : Alike event event
  | created {first second : String} (content : TelephonyContent) (id : Json)
      (alike : AlikeNumbers first second) :
      Alike (Telephony.creationReport content id first) (Telephony.creationReport content id second)
  | unrecorded {first second : Destination} (alertId : Int) (reason : String)
      (alike : first.Alike second) :
      Alike (Dispatch.unrecordedReport alertId first reason)
        (Dispatch.unrecordedReport alertId second reason)
  | unsent {first second : Failure} (message : Message) (alike : first.Alike second) :
      Alike (Dispatch.failureReport message first) (Dispatch.failureReport message second)

/-- The same request, or requests that differ only in phone numbers which are alike. -/
inductive Request.Alike : Request → Request → Prop
  | same (request : Request) : Alike request request
  | telephone {call : TelephonyCall} {number : String} (alike : AlikeNumbers call.toNumber number) :
      Alike (.telephone call) (.telephone { call with toNumber := number })
  | post {first second : String} (gateway : Gateway) (text : String)
      (alike : AlikeNumbers first second) :
      Alike (.post (gateway.request first text)) (.post (gateway.request second text))
  | deliver {first second : Payload} (channel : String) (alike : first.Alike second) :
      Alike (.deliver channel first) (.deliver channel second)
  | log {first second : LogEvent} (alike : first.Alike second) : Alike (.log first) (.log second)

/-- Alike requests with the same answer, or one request for contact methods that are alike. -/
inductive Exchange.Alike : Exchange → Exchange → Prop
  | told {first second : Exchange} (requests : first.request.Alike second.request)
      (answers : HEq first.answer second.answer) : Alike first second
  | contacts {methods others : List ContactMethod} (userId : String)
      (alike : List.Forall₂ ContactMethod.Alike methods others) :
      Alike ⟨.contactMethods userId, .ok methods⟩ ⟨.contactMethods userId, .ok others⟩

namespace Exchange.Alike

theorem requests_alike {first second : Exchange} (alike : first.Alike second) :
    first.request.Alike second.request := by
  cases alike with
  | told requests _ => exact requests
  | contacts => exact .same _

theorem answers_heq {first second : Exchange} (alike : first.Alike second)
    (others : ∀ userId, first.request ≠ .contactMethods userId) :
    HEq first.answer second.answer := by
  cases alike with
  | told _ answers => exact answers
  | contacts userId => exact (others userId rfl).elim

/-- Answers about the contact methods of a user are the same failure, or alike methods. -/
theorem contacts_cases {userId : String} {answer given : Except Failure (List ContactMethod)}
    (alike : Exchange.Alike ⟨.contactMethods userId, answer⟩ ⟨.contactMethods userId, given⟩) :
    (∃ failure, answer = .error failure ∧ given = .error failure) ∨
      ∃ methods others, answer = .ok methods ∧ given = .ok others ∧
        List.Forall₂ ContactMethod.Alike methods others := by
  cases alike with
  | told _ answers =>
      obtain rfl : answer = given := eq_of_heq answers
      cases answer with
      | error failure => exact .inl ⟨failure, rfl, rfl⟩
      | ok methods =>
          exact .inr ⟨methods, methods, rfl, rfl,
            List.forall₂_same.mpr fun method _ => ⟨_, .same _, rfl⟩⟩
  | contacts _ alike => exact .inr ⟨_, _, rfl, rfl, alike⟩

end Exchange.Alike

/-! ## Alike programs -/

/-- Values that are related, or failures that are. -/
inductive AlikeOutcomes {α β : Type} (values : α → β → Prop)
    (failures : Failure → Failure → Prop) : Except Failure α → Except Failure β → Prop
  | ok {value : α} {other : β} (alike : values value other) :
      AlikeOutcomes values failures (.ok value) (.ok other)
  | error {failure other : Failure} (alike : failures failure other) :
      AlikeOutcomes values failures (.error failure) (.error other)

namespace Program

variable {α β γ δ : Type}

/-- The programs make alike requests as long as the answers are alike, and end with related values
or related failures. -/
inductive Alike (values : α → β → Prop) (failures : Failure → Failure → Prop) :
    Program α → Program β → Prop
  | done {value : α} {other : β} (alike : values value other) :
      Alike values failures (.done value) (.done other)
  | fail {failure other : Failure} (alike : failures failure other) :
      Alike values failures (.fail failure) (.fail other)
  | ask {request other : Request} {next : request.Answer → Program α}
      {onward : other.Answer → Program β} (alike : request.Alike other)
      (later : ∀ answer given, Exchange.Alike ⟨request, answer⟩ ⟨other, given⟩ →
        Alike values failures (next answer) (onward given)) :
      Alike values failures (.ask request next) (.ask other onward)

section Rules

variable {values : α → β → Prop} {failures others : Failure → Failure → Prop}
  {first : Program α} {second : Program β}

/-- A request that is not about contact methods may come first. -/
theorem Alike.after {request : Request} {next : request.Answer → Program α}
    {onward : request.Answer → Program β} (noContacts : ∀ userId, request ≠ .contactMethods userId)
    (later : ∀ answer, (next answer).Alike values failures (onward answer)) :
    (Program.ask request next).Alike values failures (.ask request onward) := by
  refine .ask (.same request) fun answer given exchanged => ?_
  obtain rfl : answer = given := eq_of_heq (exchanged.answers_heq noContacts)
  exact later answer

/-- A program that does not ask for contact methods is alike itself. -/
theorem alike_self [Std.Refl failures] {program : Program α}
    (makes : program.Makes fun request => ∀ userId, request ≠ .contactMethods userId) :
    program.Alike Eq failures program := by
  induction makes with
  | done value => exact .done rfl
  | fail failure => exact .fail (Std.Refl.refl failure)
  | ask noContacts _ ih => exact .after noContacts ih

theorem Alike.bind {wanted : γ → δ → Prop} {next : α → Program γ} {onward : β → Program δ}
    (alike : first.Alike values failures second)
    (later : ∀ value other, values value other →
      (next value).Alike wanted failures (onward other)) :
    (first.bind next).Alike wanted failures (second.bind onward) := by
  induction alike with
  | done related => exact later _ _ related
  | fail related => exact .fail related
  | ask requests _ ih => exact .ask requests ih

/-- Programs with the same values go on from each of them. -/
theorem Alike.bind_eq {first second : Program α} {wanted : γ → δ → Prop} {next : α → Program γ}
    {onward : α → Program δ} (alike : first.Alike Eq failures second)
    (later : ∀ value, (next value).Alike wanted failures (onward value)) :
    (first.bind next).Alike wanted failures (second.bind onward) := by
  refine alike.bind ?_
  rintro value _ rfl
  exact later value

theorem Alike.attempt (alike : first.Alike values failures second) :
    first.attempt.Alike (AlikeOutcomes values failures) others second.attempt := by
  induction alike with
  | done related => exact .done (.ok related)
  | fail related => exact .done (.error related)
  | ask requests _ ih => exact .ask requests ih

/-- Programs with the same values and failures can be handled alike. -/
theorem Alike.attempt_eq {first second : Program α} (alike : first.Alike Eq Eq second) :
    first.attempt.Alike Eq others second.attempt := by
  induction alike with
  | done related => exact .done (related ▸ rfl)
  | fail related => exact .done (related ▸ rfl)
  | ask requests _ ih => exact .ask requests ih

theorem Alike.rescue_eq {first second : Program α} {handle : Failure → Program α}
    (alike : first.Alike Eq Eq second)
    (handled : ∀ failure, (handle failure).Alike Eq others (handle failure)) :
    (first.rescue handle).Alike Eq others (second.rescue handle) := by
  refine alike.attempt_eq.bind_eq fun result => ?_
  cases result with
  | ok value => exact .done rfl
  | error failure => exact handled failure

theorem alike_ofExcept {outcome : Except Failure α} {other : Except Failure β}
    (alike : AlikeOutcomes values failures outcome other) :
    (ofExcept outcome).Alike values failures (ofExcept other) := by
  cases alike with
  | ok related => exact .done related
  | error related => exact .fail related

theorem Alike.mono {first second : Program α} (alike : first.Alike Eq Eq second)
    [Std.Refl failures] : first.Alike Eq failures second := by
  induction alike with
  | done related => exact .done related
  | fail related => exact .fail (related ▸ Std.Refl.refl _)
  | ask requests _ ih => exact .ask requests ih

/-- Alike reports may come next. -/
theorem alike_report {event other : LogEvent} (alike : event.Alike other) :
    (Program.ask (.log event) Program.done).Alike Eq failures (.ask (.log other) .done) :=
  .ask (.log alike) fun _ _ _ => .done rfl

end Rules

/-! ## Runs of alike programs -/

/-- Surroundings whose states are related answer alike requests alike, and their states stay
related. -/
def AlikeSurroundings {σ τ : Type} (answer : (request : Request) → σ → request.Answer × σ)
    (counterpart : (request : Request) → τ → request.Answer × τ) (related : σ → τ → Prop) : Prop :=
  ∀ {request other : Request} {state : σ} {partner : τ}, related state partner →
    request.Alike other →
      Exchange.Alike ⟨request, (answer request state).1⟩ ⟨other, (counterpart other partner).1⟩ ∧
        related (answer request state).2 (counterpart other partner).2

/-- Alike programs run through alike exchanges. -/
theorem Alike.exchanges {σ τ : Type} {answer : (request : Request) → σ → request.Answer × σ}
    {counterpart : (request : Request) → τ → request.Answer × τ} {related : σ → τ → Prop}
    (surroundings : AlikeSurroundings answer counterpart related) {values : α → β → Prop}
    {failures : Failure → Failure → Prop} {first : Program α} {second : Program β}
    (alike : first.Alike values failures second) {state : σ} {partner : τ}
    (start : related state partner) :
    List.Forall₂ Exchange.Alike (first.exchanges answer state)
      (second.exchanges counterpart partner) := by
  induction alike generalizing state partner with
  | done => exact .nil
  | fail => exact .nil
  | ask requests _ ih =>
      obtain ⟨exchanged, still⟩ := surroundings start requests
      exact .cons exchanged (ih _ _ exchanged still)

end Program
end AlertRelay
