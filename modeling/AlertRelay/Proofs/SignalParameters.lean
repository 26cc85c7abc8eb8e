import AlertRelay.Proofs.BuildFailures
import AlertRelay.Proofs.DeliveryRows
import AlertRelay.Proofs.ReadMembers
import AlertRelay.Proofs.Surroundings

/-!
# Parameters of signals

A signal is built from the row of its id when this row holds the text of an object of texts, and
then these texts are its parameters.  In every other case the failure names the stage that it comes
from: the id, the look-up, or the reading of what was looked up.
-/

namespace AlertRelay

open Program

/-- The text that a row holds as its parameters. -/
def SignalStore.textOfRow? (row : Json) : Option Json :=
  (row.member? "params").bind (Json.member? "S")

/-! ## Reading a row -/

namespace Attribute

theorem getOr_eq_ok {data default value : Json} {name : String} :
    getOr data name default = .ok value ↔
      ∃ members, data = .object members ∧ value = (members.lookup name).getD default := by
  cases data <;> simp [getOr, eq_comm]

variable {item : Json} {raw : String}

theorem textOr_of_textOfRow? (held : SignalStore.textOfRow? item = some (.text raw)) :
    textOr item "params" (.text "") = .ok (.text raw) := by
  obtain ⟨field, inRow, inField⟩ := Option.bind_eq_some_iff.mp held
  cases item with
  | object members =>
      cases field with
      | object parts =>
          have member : members.lookup "params" = some (.object parts) := inRow
          have part : parts.lookup "S" = some (.text raw) := inField
          refine except_bind_eq_ok.mpr ⟨.object parts, getOr_eq_ok.mpr ⟨members, rfl, ?_⟩,
            getOr_eq_ok.mpr ⟨parts, rfl, ?_⟩⟩
          · rw [member, Option.getD_some]
          · rw [part, Option.getD_some]
      | _ => cases inField
  | _ => cases inRow

theorem textOfRow?_of_textOr (nonempty : raw ≠ "")
    (read : textOr item "params" (.text "") = .ok (.text raw)) :
    SignalStore.textOfRow? item = some (.text raw) := by
  obtain ⟨field, inRow, inField⟩ := except_bind_eq_ok.mp read
  obtain ⟨members, rfl, attributed⟩ := getOr_eq_ok.mp inRow
  obtain ⟨parts, rfl, valued⟩ := getOr_eq_ok.mp inField
  cases part : parts.lookup "S" with
  | none =>
      rw [part] at valued
      cases valued
      exact (nonempty rfl).elim
  | some data =>
      rw [part, Option.getD_some] at valued
      cases member : members.lookup "params" with
      | none =>
          rw [member] at attributed
          cases attributed
          cases part
      | some found =>
          rw [member, Option.getD_some] at attributed
          rw [SignalStore.textOfRow?, Json.member?, member, ← attributed, valued]
          exact part

end Attribute

theorem Json.ne_empty_of_parse {raw : String} {data : Json} (parsed : Json.parse raw = .ok data) :
    raw ≠ "" := by
  rintro rfl
  cases parsed

/-! ## Reading the text -/

namespace SignalStore

variable {store : SignalStore} {tables : Store} {exchanges : List Exchange} {raw : String}

/-- The text is found in a row and is JSON, or there is a failure. -/
theorem checkedText_cases {messageId : String} {item : Json} {result : Except Failure String}
    (ended : (checkedText messageId item).Ends exchanges result) :
    (∃ raw data, result = .ok raw ∧ textOfRow? item = some (.text raw) ∧
      Json.parse raw = .ok data) ∨
    ((∃ failure, result = .error failure) ∧ ∀ raw data, textOfRow? item = some (.text raw) →
      Json.parse raw ≠ .ok data) := by
  rcases ends_bind.mp ended with
    ⟨failure, unread, rfl⟩ | ⟨_, rest, found, rfl, reading, checked⟩
  · refine .inr ⟨⟨failure, rfl⟩, fun raw data held _ => ?_⟩
    rw [Attribute.textOr_of_textOfRow? held] at unread
    cases (ends_ofExcept.mp unread).2
  · have read := (ends_ofExcept.mp reading).2.symm
    have only (other : String) (held : textOfRow? item = some (.text other)) :
        found = .text other := by
      rw [Attribute.textOr_of_textOfRow? held] at read
      exact (Except.ok.inj read).symm
    cases found with
    | text raw =>
        dsimp only at checked
        split at checked
        · rename_i data parsed
          refine .inl ⟨raw, data, (ends_done.mp checked).2, ?_, parsed⟩
          exact Attribute.textOfRow?_of_textOr (Json.ne_empty_of_parse parsed) read
        · rename_i container tooDeep
          refine .inr ⟨⟨_, (ends_fail.mp checked).2⟩, fun other data held parsed => ?_⟩
          obtain rfl := Json.text.inj (only other held)
          cases tooDeep.symm.trans parsed
        · rename_i fault _ malformed
          obtain ⟨later, _, failed⟩ := ends_log_bind.mp checked
          refine .inr ⟨⟨_, (ends_fail.mp failed).2⟩, fun other data held parsed => ?_⟩
          obtain rfl := Json.text.inj (only other held)
          cases malformed.symm.trans parsed
    | _ =>
        refine .inr ⟨⟨_, (ends_fail.mp checked).2⟩, fun other data held _ => ?_⟩
        cases only other held

/-- Every answer to a read tells the row of the table, consistent or not. -/
def IsCurrent (store : SignalStore) (tables : Store) (exchanges : List Exchange) : Prop :=
  ∀ messageId response, ⟨.service (store.readCall messageId), .ok response⟩ ∈ exchanges →
    response = Store.told (tables.row? store.table messageId)

/-- The read of the row of the message succeeds, and the row holds the text. -/
structure Finds (store : SignalStore) (tables : Store) (exchanges : List Exchange)
    (messageId raw : String) : Prop where
  answered : ∃ response, ⟨.service (store.readCall messageId), .ok response⟩ ∈ exchanges
  held : ∃ row, tables.row? store.table messageId = some row ∧
    textOfRow? row = some (.text raw)

theorem isTruthy_of_textOfRow? {row data : Json} (held : textOfRow? row = some data) :
    row.isTruthy = true := by
  cases row with
  | object members =>
      cases members with
      | nil => cases held
      | cons => rfl
  | _ => cases held

theorem checked_of_told {messageId : String} {row : Option Json} {result : Except Failure String}
    (ended : ((Program.ofExcept (Attribute.itemOf (Store.told row))).bind fun
      | some item => checkedText messageId item
      | none => .fail (.signalMissing messageId)).Ends exchanges result) :
    (∃ item, row = some item ∧ (checkedText messageId item).Ends exchanges result) ∨
    ((∃ failure, result = .error failure) ∧
      ∀ item raw, row = some item → textOfRow? item ≠ some (.text raw)) := by
  cases row with
  | none => exact .inr ⟨⟨_, (ends_fail.mp ended).2⟩, nofun⟩
  | some item =>
      have read : Attribute.itemOf (Store.told (some item)) =
          .ok (if item.isTruthy then some item else none) :=
        Attribute.itemOf_item item
      rw [read, ofExcept_ok_bind] at ended
      by_cases truthy : item.isTruthy = true
      · rw [if_pos truthy] at ended
        exact .inl ⟨item, rfl, ended⟩
      · rw [if_neg truthy] at ended
        refine .inr ⟨⟨_, (ends_fail.mp ended).2⟩, ?_⟩
        rintro _ raw ⟨⟩ text
        exact truthy (isTruthy_of_textOfRow? text)

/-- What a read tells is passed on when it is JSON, and in all other cases there is a failure. -/
theorem parameters_cases {messageId : String} {result : Except Failure String}
    (current : store.IsCurrent tables exchanges)
    (ended : (store.parameters messageId).Ends exchanges result) :
    (∃ raw data, result = .ok raw ∧ store.Finds tables exchanges messageId raw ∧
      Json.parse raw = .ok data) ∨
    ((∃ failure, result = .error failure) ∧
      ∀ raw data, store.Finds tables exchanges messageId raw → Json.parse raw ≠ .ok data) := by
  rcases ends_bind.mp ended with
    ⟨failure, failed, rfl⟩ | ⟨first, second, outcome, rfl, got, rest⟩
  · refine .inr ⟨⟨failure, rfl⟩, fun raw data finds _ => ?_⟩
    obtain ⟨response, made⟩ := finds.answered
    obtain ⟨_, ⟨⟩⟩ := TableClient.outcome_of_answered_getItem failed made
  split at rest
  · rename_i success
    have made : ⟨.service (store.readCall messageId), .ok outcome.data⟩ ∈ first ++ second :=
      List.mem_append_left _ (TableClient.answered_of_ends_getItem got success)
    rw [current messageId outcome.data made] at rest
    rcases checked_of_told rest with ⟨row, held, checked⟩ | ⟨failed, noText⟩
    · rcases checkedText_cases checked with ⟨raw, data, rfl, text, parsed⟩ | ⟨failed, noText⟩
      · exact .inl ⟨raw, data, rfl, ⟨⟨_, made⟩, row, held, text⟩, parsed⟩
      · refine .inr ⟨failed, fun raw data finds => ?_⟩
        obtain ⟨other, heldOther, text⟩ := finds.held
        cases held.symm.trans heldOther
        exact noText raw data text
    · refine .inr ⟨failed, fun raw data finds _ => ?_⟩
      obtain ⟨row, held, text⟩ := finds.held
      exact noText row raw held text
  · rename_i failing
    obtain ⟨rfl, rfl⟩ := ends_fail.mp rest
    refine .inr ⟨⟨_, rfl⟩, fun raw data finds _ => ?_⟩
    obtain ⟨response, made⟩ := finds.answered
    rw [List.append_nil] at made
    obtain ⟨_, same⟩ := TableClient.outcome_of_answered_getItem got made
    cases same
    exact failing rfl

theorem Finds.append {messageId : String} (finds : store.Finds tables exchanges messageId raw)
    (more : List Exchange) : store.Finds tables (exchanges ++ more) messageId raw where
  answered := finds.answered.imp fun _ made => List.mem_append_left _ made
  held := finds.held

theorem Finds.unique {messageId other : String} (finds : store.Finds tables exchanges messageId raw)
    (findsOther : store.Finds tables exchanges messageId other) : raw = other := by
  obtain ⟨row, held, text⟩ := finds.held
  obtain ⟨otherRow, heldOther, textOther⟩ := findsOther.held
  cases held.symm.trans heldOther
  cases text.symm.trans textOther
  rfl

end SignalStore

/-! ## Building a signal -/

def Json.ofTexts (texts : List (String × String)) : Json :=
  .object (texts.map fun entry => (entry.1, .text entry.2))

namespace BuildOutcome

theorem signalParameters_ofTexts (texts : List (String × String)) :
    signalParameters (.ofTexts texts) = .done texts := by
  have noOthers : ((texts.map fun entry => (entry.1, Json.text entry.2)).filter
      fun member => !isText member.2) = [] := by
    simp [List.filter_map, isText]
  rw [Json.ofTexts, signalParameters, noOthers]
  simp only [List.map_nil, List.isEmpty_nil, if_true, Scalar.textMap_texts]
  rfl

theorem signalParameters_of_ne {data : Json} (unfit : ∀ texts, data ≠ .ofTexts texts) :
    ∃ cause, signalParameters data = .fail (.lookup (.text parametersOperation) cause) := by
  cases data with
  | object members =>
      rw [signalParameters]
      split
      · rename_i noOthers
        obtain ⟨texts, rfl⟩ := exists_texts_of_filter (by simpa using noOthers)
        exact (unfit texts rfl).elim
      · exact ⟨_, rfl⟩
  | _ => exact ⟨_, rfl⟩

section Signals

variable {site : Site} {store : SignalStore} {tables : Store} {message : Message}
  {config : Config} {exchanges : List Exchange} {outcome : Except Failure BuildOutcome}

/-- The ways in which building a signal ends. -/
inductive SignalCourse (store : SignalStore) (tables : Store) (message : Message)
    (exchanges : List Exchange) : Except Failure BuildOutcome → Prop
  | unnamed {fault : IdentifierFault} (unread : Identifier.parse message.id = .error fault)
      (cause : Json) :
      SignalCourse store tables message exchanges
        (.error (.lookup (.text "parse signal message id") cause))
  | unfound {id : Identifier} (named : Identifier.parse message.id = .ok id)
      (none : ∀ raw data, store.Finds tables exchanges id.text raw → Json.parse raw ≠ .ok data)
      (cause : Json) :
      SignalCourse store tables message exchanges
        (.error (.lookup (.text "lookup signal params") cause))
  | unfit {id : Identifier} {raw : String} {data : Json}
      (named : Identifier.parse message.id = .ok id)
      (finds : store.Finds tables exchanges id.text raw) (parsed : Json.parse raw = .ok data)
      (other : ∀ texts, data ≠ .ofTexts texts) (cause : Json) :
      SignalCourse store tables message exchanges
        (.error (.lookup (.text parametersOperation) cause))
  | built {id : Identifier} {raw : String} {texts : List (String × String)}
      (named : Identifier.parse message.id = .ok id)
      (finds : store.Finds tables exchanges id.text raw)
      (parsed : Json.parse raw = .ok (.ofTexts texts)) :
      SignalCourse store tables message exchanges
        (.ok (carry message (.signal texts) false))

/-- Data that was read is carried when it is an object of texts, and refused by name when not. -/
theorem carried_or_unfit {data : Json}
    (ended : ((lookup parametersOperation (Program.ofExcept (.ok data))).bind fun data =>
      (signalParameters data).bind fun parameters =>
        .done (carry message (.signal parameters) false)).Ends exchanges outcome) :
    exchanges = [] ∧
      ((∃ texts, data = .ofTexts texts ∧ outcome = .ok (carry message (.signal texts) false)) ∨
      ((∀ texts, data ≠ .ofTexts texts) ∧
        ∃ cause, outcome = .error (.lookup (.text parametersOperation) cause))) := by
  rcases ends_bind.mp ended with
    ⟨failure, failed, _⟩ | ⟨_, building, given, rfl, reread, endedBuild⟩
  · obtain ⟨_, unread, _⟩ := ends_lookup_error.mp failed
    cases (ends_ofExcept.mp unread).2
  obtain ⟨rfl, same⟩ := ends_ofExcept.mp (ends_lookup_ok.mp reread)
  obtain rfl := Except.ok.inj same
  by_cases fits : ∃ texts, given = .ofTexts texts
  · obtain ⟨texts, rfl⟩ := fits
    rw [signalParameters_ofTexts] at endedBuild
    obtain ⟨rfl, rfl⟩ := ends_done.mp endedBuild
    exact ⟨rfl, .inl ⟨texts, rfl, rfl⟩⟩
  · have other : ∀ texts, given ≠ .ofTexts texts := fun texts same => fits ⟨texts, same⟩
    obtain ⟨cause, fails⟩ := signalParameters_of_ne other
    rw [fails] at endedBuild
    obtain ⟨rfl, rfl⟩ := ends_fail.mp endedBuild
    exact ⟨rfl, .inr ⟨other, cause, rfl⟩⟩

theorem named_of_read {id : Identifier}
    (read : .ok id = (Identifier.parse message.id).mapError fun fault =>
      Failure.malformed fault.message) : Identifier.parse message.id = .ok id := by
  cases parsed : Identifier.parse message.id with
  | error fault =>
      rw [parsed] at read
      cases read
  | ok other =>
      rw [parsed] at read
      cases read
      rfl

theorem course_of_ends_ofSignal (source : site.signals = .stored store)
    (current : store.IsCurrent tables exchanges)
    (ended : (ofSignal site message).Ends exchanges outcome) :
    SignalCourse store tables message exchanges outcome := by
  -- The first stage reads the id.
  rcases ends_bind.mp ended with
    ⟨failure, failed, rfl⟩ | ⟨first, second, id, rfl, naming, endedLookUp⟩
  · obtain ⟨cause, unread, rfl⟩ := ends_lookup_error.mp failed
    have read := (ends_ofExcept.mp unread).2
    cases parsed : Identifier.parse message.id with
    | error fault => exact .unnamed parsed _
    | ok id =>
        rw [parsed] at read
        cases read
  obtain ⟨rfl, read⟩ := ends_ofExcept.mp (ends_lookup_ok.mp naming)
  have named := named_of_read read
  rw [List.nil_append] at current ⊢
  rw [source] at endedLookUp
  -- The second one looks the parameters up.
  rcases ends_bind.mp endedLookUp with
    ⟨failure, failed, rfl⟩ | ⟨reading, rest, raw, rfl, found, endedReading⟩
  · obtain ⟨cause, unfound, rfl⟩ := ends_lookup_error.mp failed
    rcases ends_bind.mp unfound with ⟨failure, looking, _⟩ | ⟨_, _, raw, _, _, wrapped⟩
    · rcases SignalStore.parameters_cases current looking with ⟨_, _, ⟨⟩, _⟩ | ⟨_, none⟩
      exact .unfound named none _
    · cases (ends_done.mp wrapped).2
  obtain ⟨looking, _, text, rfl, looked, wrapped⟩ := ends_bind_ok.mp (ends_lookup_ok.mp found)
  obtain ⟨rfl, same⟩ := ends_done.mp wrapped
  obtain rfl := Except.ok.inj same
  have currentHere : store.IsCurrent tables looking := fun messageId response made =>
    current messageId response (by simp [made])
  rcases SignalStore.parameters_cases currentHere looked with
    ⟨_, data, ⟨⟩, finds, parsed⟩ | ⟨⟨_, ⟨⟩⟩, _⟩
  -- The third one reads the same text again, so it cannot be the JSON that is at fault.
  have readAgain : parseText (.text text) = .ok data := by
    rw [parseText, parsed]
    rfl
  rw [readAgain] at endedReading
  rw [List.append_nil]
  obtain ⟨rfl, ⟨texts, rfl, rfl⟩ | ⟨other, cause, rfl⟩⟩ := carried_or_unfit endedReading
  · exact .built named (finds.append _) parsed
  · exact .unfit named (finds.append _) parsed other cause

/-- The texts are those of the object in which the members are written; of the members with one name
the last counts. -/
structure LastWritten (texts : List (String × String)) (written : List (String × Json)) : Prop where
  once : (texts.map Prod.fst).Nodup
  last : ∀ name, (texts.lookup name).map Json.text = written.reverse.lookup name

theorem lookup_map_text (texts : List (String × String)) (name : String) :
    (texts.map fun entry => (entry.1, Json.text entry.2)).lookup name =
      (texts.lookup name).map Json.text :=
  lookup_map (fun _ => Json.text) texts name

theorem lastWritten_of_parse {raw : String} {texts : List (String × String)}
    (parsed : Json.parse raw = .ok (.ofTexts texts)) :
    ∃ written, Json.IsWritten raw written ∧ LastWritten texts written := by
  obtain ⟨written, isWritten, same⟩ := Json.isWritten_of_parse parsed
  refine ⟨written, isWritten, ?_, fun name => ?_⟩
  · have once : ((setEntries [] written).map Prod.fst).Nodup :=
      nodup_names_setEntries (by simp) written
    rw [← same, List.map_map] at once
    exact once
  · rw [← lookup_map_text, same, lookup_setEntries]
    exact Option.or_none

/-- What building a signal comes to. -/
structure SignalLaw (store : SignalStore) (tables : Store) (message : Message)
    (exchanges : List Exchange) (outcome : Except Failure BuildOutcome) : Prop where
  built : (∃ given, outcome = .ok given) ↔
    ∃ id raw texts, Identifier.parse message.id = .ok id ∧
      store.Finds tables exchanges id.text raw ∧ Json.parse raw = .ok (.ofTexts texts)
  carried : ∀ given, outcome = .ok given →
    ∃ id raw texts written, Identifier.parse message.id = .ok id ∧
      store.Finds tables exchanges id.text raw ∧ Json.parse raw = .ok (.ofTexts texts) ∧
      Json.IsWritten raw written ∧ LastWritten texts written ∧
      given = carry message (.signal texts) false
  failed : ∀ failure, outcome = .error failure →
    ∃ operation cause, failure = .lookup (.text operation) cause ∧
      operation ∈ ["parse signal message id", "lookup signal params", "parse signal params"] ∧
      (operation = "parse signal message id" ↔ ∀ id, Identifier.parse message.id ≠ .ok id) ∧
      (operation = "parse signal params" ↔
        ∃ id raw data, Identifier.parse message.id = .ok id ∧
          store.Finds tables exchanges id.text raw ∧ Json.parse raw = .ok data ∧
          ∀ texts, data ≠ .ofTexts texts)

theorem SignalLaw.of_error {operation : String} {cause : Json}
    (listed : operation ∈
      ["parse signal message id", "lookup signal params", "parse signal params"])
    (ofId : operation = "parse signal message id" ↔ ∀ id, Identifier.parse message.id ≠ .ok id)
    (ofParameters : operation = "parse signal params" ↔
      ∃ id raw data, Identifier.parse message.id = .ok id ∧
        store.Finds tables exchanges id.text raw ∧ Json.parse raw = .ok data ∧
        ∀ texts, data ≠ .ofTexts texts)
    (unbuilt : ∀ id raw texts, Identifier.parse message.id = .ok id →
      store.Finds tables exchanges id.text raw → Json.parse raw ≠ .ok (.ofTexts texts)) :
    SignalLaw store tables message exchanges (.error (.lookup (.text operation) cause)) := by
  constructor
  case built =>
    constructor
    · rintro ⟨_, ⟨⟩⟩
    · rintro ⟨id, raw, texts, named, finds, parsed⟩
      exact (unbuilt id raw texts named finds parsed).elim
  case carried => rintro _ ⟨⟩
  case failed =>
    rintro _ ⟨⟩
    exact ⟨operation, cause, rfl, listed, ofId, ofParameters⟩

theorem SignalCourse.law (course : SignalCourse store tables message exchanges outcome) :
    SignalLaw store tables message exchanges outcome := by
  cases course with
  | unnamed unread cause =>
      have nameless (id : Identifier) : Identifier.parse message.id ≠ .ok id := by
        simp [unread]
      refine .of_error (by decide) (iff_of_true rfl nameless) (iff_of_false (by decide) ?_)
        fun id _ _ named => (nameless id named).elim
      rintro ⟨id, _, _, named, _⟩
      exact nameless id named
  | @unfound id named none cause =>
      have unread (other : Identifier) (raw : String) (data : Json)
          (namedOther : Identifier.parse message.id = .ok other)
          (finds : store.Finds tables exchanges other.text raw) : Json.parse raw ≠ .ok data := by
        cases named.symm.trans namedOther
        exact none raw data finds
      refine .of_error (by decide) (iff_of_false (by decide) fun nameless => nameless id named)
        (iff_of_false (by decide) ?_) fun other raw texts => unread other raw (.ofTexts texts)
      rintro ⟨other, raw, data, namedOther, finds, parsed, _⟩
      exact unread other raw data namedOther finds parsed
  | @unfit id raw data named finds parsed other cause =>
      refine .of_error (by decide) (iff_of_false (by decide) fun nameless => nameless id named)
        (iff_of_true rfl ⟨id, raw, data, named, finds, parsed, other⟩) ?_
      intro otherId otherRaw texts namedOther findsOther parsedOther
      cases named.symm.trans namedOther
      cases finds.unique findsOther
      cases parsed.symm.trans parsedOther
      exact other texts rfl
  | @built id raw texts named finds parsed =>
      obtain ⟨written, isWritten, last⟩ := lastWritten_of_parse parsed
      constructor
      case built => exact iff_of_true ⟨_, rfl⟩ ⟨id, raw, texts, named, finds, parsed⟩
      case carried =>
        rintro _ ⟨⟩
        exact ⟨id, raw, texts, written, named, finds, parsed, isWritten, last, rfl⟩
      case failed => nofun

/-- Every signal is built from the texts that its row holds, or fails by name. -/
theorem signalLaw_of_ends (registered : site.types.contains .signal = true)
    (signal : message.type = .signal) (source : site.signals = .stored store)
    (current : store.IsCurrent tables exchanges)
    (ended : (ofMessage site message config).Ends exchanges outcome) :
    SignalLaw store tables message exchanges outcome := by
  rw [ofMessage, signal, if_pos registered] at ended
  exact (course_of_ends_ofSignal source current ended).law

end Signals

end BuildOutcome

/-- A service that never fails tells the row that is asked for. -/
theorem Store.told_of_respond {store : Store} {name : String} {key response : Json}
    {options : List (String × Json)}
    (answered : (store.respond (.getItem name key options)).1 = .ok response) :
    response = told (store.row? name (Table.askedKey key)) := by
  rw [respond] at answered
  split at answered
  · rw [perform] at answered
    rw [row?]
    split at answered
    · rename_i item found
      cases answered
      rw [found]
      rfl
    · rename_i absent
      cases answered
      rw [absent]
      rfl
  · cases answered

namespace Sample

def signalTables : Store :=
  let row := Json.object
    [("message_id", Attribute.ofText "12345678-1234-5678-1234-567812345678"),
      ("params", Attribute.ofText "\x7b\"step\": 1, \"step\": \"restart\"\x7d")]
  ⟨[("signals", .ofItems "message_id" [row])], 10⟩

def signals : SignalStore := ⟨⟨[], [], 10⟩, "signals"⟩

def signalSite : Site := .complete site.ledger (.stored signals)

def signal : Message :=
  { alert "12345678123456781234567812345678" with type := .signal }

def answerSignals (request : Request) (state : Unit) : request.Answer × Unit :=
  match request with
  | .service call => ((signalTables.respond call.operation).1, state)
  | request => (answer request, state)

def carriesStep (built : BuildOutcome) : Bool :=
  match built.build with
  | .payload ⟨_, _, _, .signal [("step", "restart")]⟩ false => true
  | _ => false

end Sample

/-- The parameters of a signal pass through, and the one written last counts. -/
theorem BuildOutcome.signalLaw_of_restart :
    ∃ exchanges given, Sample.signals.IsCurrent Sample.signalTables exchanges ∧
      (ofMessage Sample.signalSite Sample.signal Sample.config).Ends exchanges (.ok given) ∧
      Sample.carriesStep given = true ∧
      SignalLaw Sample.signals Sample.signalTables Sample.signal exchanges (.ok given) := by
  let program := ofMessage Sample.signalSite Sample.signal Sample.config
  have current : Sample.signals.IsCurrent Sample.signalTables
      (program.exchanges Sample.answerSignals ()) := by
    intro messageId response made
    obtain ⟨_, given⟩ := answer_of_mem_exchanges made
    have answered : .ok response =
        (Sample.signalTables.respond (Sample.signals.readCall messageId).operation).1 :=
      given
    exact Store.told_of_respond answered.symm
  have passed : passes Sample.carriesStep (program.run Sample.answerSignals ()).1 = true := by
    decide +kernel
  obtain ⟨given, ended, carries⟩ := ends_of_passes passed
  exact ⟨_, given, current, ended, carries, signalLaw_of_ends rfl rfl rfl current ended⟩

end AlertRelay
