import AlertRelay.Proofs.BuildContract

/-!
# The law of the priority policy

The label, the destination and the user of a message decide whether its contact methods are looked
up, and the first telephone among them is where it is promoted to.  A message that went through the
policy comes through it again as it is; once it is promoted, whatever the contact methods are by
then.
-/

namespace AlertRelay

open Program

namespace Priority

/-- A store of contact methods: what it answers about each user. -/
abbrev Contacts := String → Except Failure (List ContactMethod)

namespace Contacts

def AreNamed (contacts : Contacts) : Prop :=
  ∀ userId methods, contacts userId = .ok methods → ∀ method ∈ methods, method.id ≠ ""

/-- Questions about contact methods are answered from the store. -/
def Answer (contacts : Contacts) (exchanges : List Exchange) : Prop :=
  ∀ userId answer, ⟨.contactMethods userId, answer⟩ ∈ exchanges → answer = contacts userId

end Contacts

/-- The user that an exchange asks about the contact methods of. -/
def askedUser? : Exchange → Option String
  | ⟨.contactMethods userId, _⟩ => some userId
  | _ => none

/-- The message of a user is about a labelled alert and would go elsewhere than to a telephone. -/
structure Promotable (key value : String) (metadata : List (String × Json)) (message : Message)
    (userId : String) : Prop where
  keySet : key ≠ ""
  valueSet : value ≠ ""
  labelled : metadata.lookup key = some (.text value)
  elsewhere : message.destination.kind ≠ Voice.type
  owned : message.userId = some userId
  named : userId ≠ ""

/-- The contact method is a telephone, and none before it is. -/
def IsFirstTelephone (methods : List ContactMethod) (method : ContactMethod) : Prop :=
  ∃ before after, methods = before ++ method :: after ∧ method.destination.kind = Voice.type ∧
    ∀ other ∈ before, other.destination.kind ≠ Voice.type

def towards (message : Message) (method : ContactMethod) (nonempty : method.id ≠ "") : Message :=
  { message with
    destination := method.destination
    destinationId := .contactMethod method.id nonempty }

section Search

variable {contacts : Contacts} {message : Message} {userId : String} {exchanges : List Exchange}

theorem find?_isVoice_eq_some_iff {methods : List ContactMethod} {method : ContactMethod} :
    methods.find? (fun method => isVoice method.destination) = some method ↔
      IsFirstTelephone methods method := by
  rw [List.find?_eq_some_iff_append]
  constructor
  · rintro ⟨voice, before, after, split, others⟩
    exact ⟨before, after, split, by simpa [isVoice] using voice, by simpa [isVoice] using others⟩
  · rintro ⟨before, after, split, voice, others⟩
    exact ⟨by simpa [isVoice] using voice, before, after, split, by simpa [isVoice] using others⟩

theorem IsFirstTelephone.mem_and_voice {methods : List ContactMethod} {method : ContactMethod}
    (first : IsFirstTelephone methods method) :
    method ∈ methods ∧ method.destination.kind = Voice.type := by
  obtain ⟨before, after, rfl, voice, _⟩ := first
  exact ⟨by simp, voice⟩

/-- What a search for a telephone comes to: the message goes to the first one, or there is none. -/
inductive Sought (contacts : Contacts) (message : Message) (userId : String) : Message → Prop
  | found {methods : List ContactMethod} {method : ContactMethod}
      (told : contacts userId = .ok methods) (first : IsFirstTelephone methods method)
      (nonempty : method.id ≠ "") : Sought contacts message userId (towards message method nonempty)
  | kept (none : ∀ methods, contacts userId = .ok methods →
      ∀ method ∈ methods, method.destination.kind ≠ Voice.type) :
      Sought contacts message userId message

theorem ends_keep {level : LogLevel} {name : String} {details : List (String × Json)}
    {outcome : Except Failure Message}
    (ended : ((Program.log level component name details).bind fun _ => .done message).Ends exchanges
      outcome) : exchanges.filterMap askedUser? = [] ∧ outcome = .ok message := by
  obtain ⟨later, rfl, last⟩ := ends_log_bind.mp ended
  obtain ⟨rfl, same⟩ := ends_done.mp last
  exact ⟨rfl, same⟩

theorem ends_redirect {method : ContactMethod} {outcome : Except Failure Message}
    (nonempty : method.id ≠ "") (ended : (redirect message method).Ends exchanges outcome) :
    exchanges = [] ∧ outcome = .ok (towards message method nonempty) := by
  have read := DestinationId.read_contactMethod.mpr ⟨nonempty, rfl⟩
  rw [redirect, read] at ended
  exact ends_done.mp ended

theorem sought_of_ends_promote {outcome : Except Failure Message} (named : contacts.AreNamed)
    (answered : contacts.Answer exchanges) (ended : (promote message userId).Ends exchanges outcome) :
    exchanges.filterMap askedUser? = [userId] ∧
      ∃ promoted, outcome = .ok promoted ∧ Sought contacts message userId promoted := by
  obtain ⟨answer, later, rfl, rest⟩ := ends_ask.mp ended
  have told := answered userId answer List.mem_cons_self
  cases answer with
  | error failure =>
      obtain ⟨quiet, rfl⟩ := ends_keep rest
      refine ⟨congrArg (userId :: ·) quiet, message, rfl, .kept ?_⟩
      intro methods found
      rw [← told] at found
      cases found
  | ok methods =>
      dsimp only at rest
      split at rest
      · rename_i method found
        have first := find?_isVoice_eq_some_iff.mp found
        have nonempty := named userId methods told.symm method (List.mem_of_find?_eq_some found)
        obtain ⟨reported, rfl, redirected⟩ := ends_log_bind.mp rest
        obtain ⟨rfl, rfl⟩ := ends_redirect nonempty redirected
        exact ⟨rfl, _, rfl, .found told.symm first nonempty⟩
      · rename_i none
        obtain ⟨quiet, rfl⟩ := ends_keep rest
        refine ⟨congrArg (userId :: ·) quiet, message, rfl, .kept ?_⟩
        intro others found method member
        rw [← told] at found
        cases found
        simpa [isVoice] using List.find?_eq_none.mp none method member

end Search

section Applications

variable {key value : String} {metadata : List (String × Json)} {contacts : Contacts}
  {message : Message} {userId : String} {exchanges : List Exchange}

theorem same_lookup_iff :
    ((metadata.lookup key).getD .null).same (.text value) = true ↔
      metadata.lookup key = some (.text value) := by
  rw [Json.same_text]
  cases metadata.lookup key <;> simp

theorem apply_of_promotable (promotable : Promotable key value metadata message userId) :
    apply key value (.object metadata) message =
      (promote message userId).bind fun promoted => .done ⟨promoted, false⟩ := by
  obtain ⟨keySet, valueSet, labelled, elsewhere, owned, named⟩ := promotable
  have noVoice := isVoice_eq_false_iff.mpr elsewhere
  simp [apply, keySet, valueSet, same_lookup_iff.mpr labelled, prefer, noVoice, owned, named]

/-- A message that cannot be promoted is kept without any question. -/
theorem apply_of_not_promotable (none : ∀ userId, ¬ Promotable key value metadata message userId) :
    ∃ isSuppressed, apply key value (.object metadata) message = .done ⟨message, isSuppressed⟩ ∧
      (isSuppressed = true ↔ key ≠ "" ∧ value ≠ "" ∧
        metadata.lookup key ≠ some (.text value) ∧ message.destination.kind = Voice.type) := by
  by_cases unset : key = "" ∨ value = ""
  · refine ⟨false, by rw [apply, if_pos unset], nofun, ?_⟩
    rintro ⟨keySet, valueSet, _⟩
    exact (unset.elim keySet valueSet).elim
  obtain ⟨keySet, valueSet⟩ := not_or.mp unset
  by_cases labelled : metadata.lookup key = some (.text value)
  · refine ⟨false, ?_, nofun, fun ⟨_, _, lacking, _⟩ => (lacking labelled).elim⟩
    have kept : isVoice message.destination = true ∨ message.userId.getD "" = "" := by
      refine Decidable.byContradiction fun promoted => ?_
      obtain ⟨elsewhere, named⟩ := not_or.mp promoted
      cases owned : message.userId with
      | none => exact named (by rw [owned]; rfl)
      | some userId =>
          rw [owned] at named
          exact none userId ⟨keySet, valueSet, labelled,
            isVoice_eq_false_iff.mp (Bool.not_eq_true _ ▸ elsewhere), owned, named⟩
    simp [apply, keySet, valueSet, same_lookup_iff.mpr labelled, prefer, kept]
  · refine ⟨isVoice message.destination, ?_, ?_⟩
    · have differs := Bool.not_eq_true _ ▸ mt same_lookup_iff.mp labelled
      simp [apply, keySet, valueSet, differs]
    · simp [keySet, valueSet, labelled, isVoice]

/-- What the policy does with a message, given the metadata of its alert and a store of contact
methods. -/
structure Law (key value : String) (metadata : List (String × Json)) (contacts : Contacts)
    (message : Message) (exchanges : List Exchange) (decision : Decision) : Prop where
  suppressed : decision.isSuppressed = true ↔ key ≠ "" ∧ value ≠ "" ∧
    metadata.lookup key ≠ some (.text value) ∧ message.destination.kind = Voice.type
  untouched : decision.isSuppressed = true → decision.message = message
  changed : decision.message ≠ message ↔ ∃ userId methods,
    Promotable key value metadata message userId ∧ contacts userId = .ok methods ∧
      ∃ method ∈ methods, method.destination.kind = Voice.type
  promoted : decision.message ≠ message → ∃ userId methods method nonempty,
    message.userId = some userId ∧ contacts userId = .ok methods ∧
      IsFirstTelephone methods method ∧ decision.message = towards message method nonempty
  asked : ∀ userId, Promotable key value metadata message userId →
    exchanges.filterMap askedUser? = [userId]
  silent : (∀ userId, ¬ Promotable key value metadata message userId) →
    exchanges.filterMap askedUser? = []
  /-- The policy keeps its own decisions as long as the contact methods are the same. -/
  again : ∀ later outcome, contacts.Answer later →
    (apply key value (.object metadata) decision.message).Ends later outcome →
      outcome = .ok decision
  /-- It keeps a promotion whatever became of the contact methods. -/
  lasting : decision.message ≠ message → ∀ later outcome,
    (apply key value (.object metadata) decision.message).Ends later outcome →
      outcome = .ok decision

theorem Promotable.unique {other : String}
    (promotable : Promotable key value metadata message userId)
    (promotableOther : Promotable key value metadata message other) : userId = other :=
  Option.some.inj (promotable.owned.symm.trans promotableOther.owned)

theorem towards_ne {method : ContactMethod} (nonempty : method.id ≠ "")
    (elsewhere : message.destination.kind ≠ Voice.type)
    (voice : method.destination.kind = Voice.type) : towards message method nonempty ≠ message := by
  intro same
  have kinds := congrArg (fun message => message.destination.kind) same
  exact elsewhere (kinds.symm.trans voice)

theorem apply_towards {method : ContactMethod} {nonempty : method.id ≠ ""}
    (labelled : metadata.lookup key = some (.text value))
    (voice : method.destination.kind = Voice.type) :
    apply key value (.object metadata) (towards message method nonempty) =
      .done ⟨towards message method nonempty, false⟩ := by
  obtain ⟨isSuppressed, kept, suppressed⟩ :=
    @apply_of_not_promotable key value metadata (towards message method nonempty)
      fun _ promotable => promotable.elsewhere voice
  have passed : isSuppressed = false := by
    rw [← Bool.not_eq_true, suppressed]
    rintro ⟨_, _, lacking, _⟩
    exact lacking labelled
  rw [kept, passed]

theorem Law.of_kept {isSuppressed : Bool}
    (suppressed : isSuppressed = true ↔ key ≠ "" ∧ value ≠ "" ∧
      metadata.lookup key ≠ some (.text value) ∧ message.destination.kind = Voice.type)
    (noTelephone : ∀ userId methods, Promotable key value metadata message userId →
      contacts userId = .ok methods → ∀ method ∈ methods, method.destination.kind ≠ Voice.type)
    (asked : ∀ userId, Promotable key value metadata message userId →
      exchanges.filterMap askedUser? = [userId])
    (silent : (∀ userId, ¬ Promotable key value metadata message userId) →
      exchanges.filterMap askedUser? = [])
    (again : ∀ later outcome, contacts.Answer later →
      (apply key value (.object metadata) message).Ends later outcome →
        outcome = .ok ⟨message, isSuppressed⟩) :
    Law key value metadata contacts message exchanges ⟨message, isSuppressed⟩ where
  suppressed := suppressed
  untouched _ := rfl
  changed := by
    refine iff_of_false (fun moved => moved rfl) ?_
    rintro ⟨userId, methods, promotable, told, method, member, voice⟩
    exact noTelephone userId methods promotable told method member voice
  promoted moved := (moved rfl).elim
  asked := asked
  silent := silent
  again := again
  lasting moved := (moved rfl).elim

theorem law_of_not_promotable {outcome : Except Failure Decision}
    (none : ∀ userId, ¬ Promotable key value metadata message userId)
    (ended : (apply key value (.object metadata) message).Ends exchanges outcome) :
    ∃ decision, outcome = .ok decision ∧
      Law key value metadata contacts message exchanges decision := by
  obtain ⟨isSuppressed, kept, suppressed⟩ := apply_of_not_promotable none
  rw [kept] at ended
  obtain ⟨rfl, rfl⟩ := ends_done.mp ended
  refine ⟨_, rfl, .of_kept suppressed (fun userId _ promotable => (none userId promotable).elim)
    (fun userId promotable => (none userId promotable).elim) (fun _ => rfl) ?_⟩
  intro later outcome _ again
  rw [kept] at again
  exact (ends_done.mp again).2

/-- What is decided about a message that can be promoted is what the search comes to. -/
theorem sought_of_ends_apply {outcome : Except Failure Decision} (named : contacts.AreNamed)
    (promotable : Promotable key value metadata message userId)
    (answered : contacts.Answer exchanges)
    (ended : (apply key value (.object metadata) message).Ends exchanges outcome) :
    exchanges.filterMap askedUser? = [userId] ∧ ∃ promoted, outcome = .ok ⟨promoted, false⟩ ∧
      Sought contacts message userId promoted := by
  rw [apply_of_promotable promotable] at ended
  rcases ends_bind.mp ended with ⟨failure, failed, _⟩ | ⟨first, last, promoted, rfl, sought, rest⟩
  · obtain ⟨_, _, noFailure, _⟩ := sought_of_ends_promote named answered failed
    cases noFailure
  · obtain ⟨rfl, rfl⟩ := ends_done.mp rest
    rw [List.append_nil] at answered ⊢
    obtain ⟨asked, _, same, search⟩ := sought_of_ends_promote named answered sought
    cases same
    exact ⟨asked, promoted, rfl, search⟩

theorem Promotable.passes (promotable : Promotable key value metadata message userId) :
    false = true ↔ key ≠ "" ∧ value ≠ "" ∧ metadata.lookup key ≠ some (.text value) ∧
      message.destination.kind = Voice.type :=
  ⟨nofun, fun ⟨_, _, lacking, _⟩ => (lacking promotable.labelled).elim⟩

theorem law_of_found {methods : List ContactMethod} {method : ContactMethod}
    {nonempty : method.id ≠ ""} (promotable : Promotable key value metadata message userId)
    (asked : exchanges.filterMap askedUser? = [userId]) (told : contacts userId = .ok methods)
    (first : IsFirstTelephone methods method) :
    Law key value metadata contacts message exchanges ⟨towards message method nonempty, false⟩ := by
  obtain ⟨member, voice⟩ := first.mem_and_voice
  have moved := towards_ne nonempty promotable.elsewhere voice
  have kept (later : List Exchange) (outcome : Except Failure Decision)
      (ended : (apply key value (.object metadata) (towards message method nonempty)).Ends later
        outcome) : outcome = .ok ⟨towards message method nonempty, false⟩ := by
    rw [apply_towards promotable.labelled voice] at ended
    exact (ends_done.mp ended).2
  constructor
  case suppressed => exact promotable.passes
  case untouched => nofun
  case changed =>
    exact ⟨fun _ => ⟨userId, methods, promotable, told, method, member, voice⟩, fun _ => moved⟩
  case promoted =>
    exact fun _ => ⟨userId, methods, method, nonempty, promotable.owned, told, first, rfl⟩
  case asked => exact fun other also => promotable.unique also ▸ asked
  case silent => exact fun none => (none userId promotable).elim
  case again => exact fun later outcome _ => kept later outcome
  case lasting => exact fun _ => kept

theorem law_of_kept (named : contacts.AreNamed)
    (promotable : Promotable key value metadata message userId)
    (asked : exchanges.filterMap askedUser? = [userId])
    (none : ∀ methods, contacts userId = .ok methods →
      ∀ method ∈ methods, method.destination.kind ≠ Voice.type) :
    Law key value metadata contacts message exchanges ⟨message, false⟩ := by
  refine .of_kept promotable.passes ?_ (fun other also => promotable.unique also ▸ asked)
    (fun noOne => (noOne userId promotable).elim) ?_
  · intro other methods also told
    obtain rfl := promotable.unique also
    exact none methods told
  · intro later outcome answered ended
    obtain ⟨_, promoted, rfl, search⟩ := sought_of_ends_apply named promotable answered ended
    cases search with
    | kept => rfl
    | found told first =>
        obtain ⟨member, voice⟩ := first.mem_and_voice
        exact (none _ told _ member voice).elim

/-- The policy always decides, and its decisions follow the law. -/
theorem law_of_ends_apply {outcome : Except Failure Decision} (named : contacts.AreNamed)
    (answered : contacts.Answer exchanges)
    (ended : (apply key value (.object metadata) message).Ends exchanges outcome) :
    ∃ decision, outcome = .ok decision ∧
      Law key value metadata contacts message exchanges decision := by
  by_cases promotable : ∃ userId, Promotable key value metadata message userId
  · obtain ⟨userId, promotable⟩ := promotable
    obtain ⟨asked, promoted, rfl, search⟩ := sought_of_ends_apply named promotable answered ended
    refine ⟨_, rfl, ?_⟩
    cases search with
    | found told first nonempty => exact law_of_found promotable asked told first
    | kept none => exact law_of_kept named promotable asked none
  · exact law_of_not_promotable (fun userId also => promotable ⟨userId, also⟩) ended

end Applications
end Priority

namespace Sample

/-- The contact methods of every user: short messages, and telephones after them. -/
def contacts : Priority.Contacts := fun userId =>
  .ok [⟨"cm-sms", userId, inbox⟩, ⟨"cm-voice", userId, telephone⟩, ⟨"cm-spare", userId, telephone⟩]

/-- Answers with these contact methods. -/
def answerContacts (request : Request) : request.Answer :=
  match request with
  | .contactMethods userId => contacts userId
  | request => answer request

end Sample

/-- An alert for the user's short messages goes to the first of two telephones, and stays there. -/
theorem Priority.law_of_two_telephones :
    let urgent := [("severity", Json.text "critical")]
    let decision : Priority.Decision :=
      ⟨{ Sample.alert "first" with
          destination := Sample.telephone
          destinationId := Sample.telephoneId }, false⟩
    ∃ exchanges, Sample.contacts.AreNamed ∧ Sample.contacts.Answer exchanges ∧
      (Priority.apply "severity" "critical" (.object urgent) (Sample.alert "first")).Ends exchanges
        (.ok decision) ∧
      Priority.Law "severity" "critical" urgent Sample.contacts (Sample.alert "first") exchanges
        decision := by
  intro urgent decision
  have named : Sample.contacts.AreNamed := by
    rintro userId methods ⟨⟩
    simp
  let program := Priority.apply "severity" "critical" (.object urgent) (Sample.alert "first")
  let answering (request : Request) (state : Unit) := (Sample.answerContacts request, state)
  have answered : Sample.contacts.Answer (program.exchanges answering ()) := by
    intro userId answer made
    obtain ⟨_, given⟩ := answer_of_mem_exchanges made
    exact given
  have ended : program.Ends (program.exchanges answering ()) (.ok decision) :=
    ends_run answering program ()
  obtain ⟨_, same, law⟩ := Priority.law_of_ends_apply named answered ended
  cases same
  exact ⟨_, named, answered, ended, law⟩

end AlertRelay
