import AlertRelay.Proofs.MessageFootprints
import AlertRelay.Proofs.PushDeliveries

/-!
# Stored subscriptions

Reading the data of a row gives the subscription that it describes, and passes over most data that
describes none.  Some of this data is not passed over but breaks the reading, and with it the
reading of all rows of the user.
-/

namespace AlertRelay

open Program

namespace PushSubscription

/-- A text that is not empty stands in the data under a name. -/
def HasText (data : Json) (name value : String) : Prop :=
  data.member? name = some (.text value) ∧ value ≠ ""

/-- The object with the keys of a subscription. -/
def keysOf (data : Json) : Json := (data.member? "keys").getD .null

/-- The data has the three texts of a subscription. -/
structure Describes (data : Json) (subscription : PushSubscription) : Prop where
  endpoint : HasText data "endpoint" subscription.endpoint
  auth : HasText (keysOf data) "auth" subscription.auth
  p256dh : HasText (keysOf data) "p256dh" subscription.p256dh

/-- The raw data is a JSON object with the three texts of a subscription. -/
def Holds (raw : String) (subscription : PushSubscription) : Prop :=
  ∃ members, Json.parse raw = .ok (.object members) ∧ Describes (.object members) subscription

/-- A value that does not count as absent stands in the data under a name. -/
def Given (data : Json) (name : String) (value : Json) : Prop :=
  data.member? name = some value ∧ value.isTruthy = true

def IsText (value : Json) : Prop := ∃ text, value = .text text

def IsList (value : Json) : Prop := ∃ items, value = .list items

/-- An object in which something else stands where a subscription has a text, so that reading it
fails.  Beside an incomplete pair of keys this takes an endpoint without a last part; beside
complete keys and an endpoint, any value that is no text will do. -/
inductive Odd (data : Json) : Prop
  | endpoint {endpoint : Json} (given : Given data "endpoint" endpoint) (noText : ¬ IsText endpoint)
      (noList : ¬ IsList endpoint)
      (incomplete : ∀ auth p256dh, Given (keysOf data) "auth" auth →
        ¬ Given (keysOf data) "p256dh" p256dh)
  | values {endpoint auth p256dh : Json} (givenEndpoint : Given data "endpoint" endpoint)
      (givenAuth : Given (keysOf data) "auth" auth)
      (givenP256dh : Given (keysOf data) "p256dh" p256dh)
      (noTexts : ¬ (IsText endpoint ∧ IsText auth ∧ IsText p256dh))

/-- Raw data that is not passed over although it holds no subscription. -/
inductive Breaks (raw : String) : Prop
  | tooDeep {container : String} (parsed : Json.parse raw = .error (.tooDeep container))
  | odd {members : List (String × Json)} (parsed : Json.parse raw = .ok (.object members))
      (odd : Odd (.object members))

/-! ## Members -/

section Members

variable {data value : Json} {name text : String}

theorem hasText_iff_given : HasText data name text ↔ Given data name (.text text) := by
  simp [HasText, Given, Json.isTruthy]

theorem Given.unique {other : Json} (given : Given data name value)
    (again : Given data name other) : value = other :=
  Option.some.inj (given.1.symm.trans again.1)

/-- A member that counts as absent is read as an empty text. -/
theorem given_or_absent (data : Json) (name : String) :
    Given data name (present data name) ∨
      (∀ value, ¬ Given data name value) ∧ present data name = .text "" := by
  rw [present]
  split
  · rename_i value found
    by_cases counts : value.isTruthy = true
    · rw [if_pos counts]
      exact .inl ⟨found, counts⟩
    · rw [if_neg counts]
      refine .inr ⟨?_, rfl⟩
      rintro other ⟨alsoFound, truthy⟩
      rw [found] at alsoFound
      cases alsoFound
      exact counts truthy
  · rename_i lacking
    refine .inr ⟨?_, rfl⟩
    rintro other ⟨found, _⟩
    rw [lacking] at found
    cases found

theorem Given.present_eq (given : Given data name value) : present data name = value := by
  rcases given_or_absent data name with read | ⟨absent, _⟩
  · exact read.unique given
  · exact (absent value given).elim

theorem isTruthy_present_iff :
    (present data name).isTruthy = true ↔ Given data name (present data name) := by
  constructor
  · intro truthy
    rcases given_or_absent data name with read | ⟨_, empty⟩
    · exact read
    · rw [empty] at truthy
      cases truthy
  · exact And.right

theorem anySuffix_eq_error_iff :
    (∃ failure, anySuffix value = .error failure) ↔ ¬ IsText value ∧ ¬ IsList value := by
  cases value <;> simp [anySuffix, IsText, IsList]

theorem ofValues_eq_valid_iff {endpoint auth p256dh : Json} {subscription : PushSubscription} :
    ofValues endpoint auth p256dh = .valid subscription ↔
      endpoint = .text subscription.endpoint ∧ auth = .text subscription.auth ∧
        p256dh = .text subscription.p256dh := by
  obtain ⟨givenEndpoint, givenAuth, givenP256dh⟩ := subscription
  constructor
  · intro valid
    cases endpoint <;> cases auth <;> cases p256dh <;> cases valid
    exact ⟨rfl, rfl, rfl⟩
  · rintro ⟨rfl, rfl, rfl⟩
    rfl

theorem exists_ofValues_eq_invalid_iff {endpoint auth p256dh : Json} :
    (∃ first more, ofValues endpoint auth p256dh = .invalid first more) ↔
      ¬ (IsText endpoint ∧ IsText auth ∧ IsText p256dh) := by
  constructor
  · rintro ⟨first, more, invalid⟩ ⟨⟨_, rfl⟩, ⟨_, rfl⟩, ⟨_, rfl⟩⟩
    cases invalid
  · intro noTexts
    cases read : ofValues endpoint auth p256dh with
    | valid subscription =>
        obtain ⟨isEndpoint, isAuth, isP256dh⟩ := ofValues_eq_valid_iff.mp read
        exact (noTexts ⟨⟨_, isEndpoint⟩, ⟨_, isAuth⟩, ⟨_, isP256dh⟩⟩).elim
    | invalid first more => exact ⟨first, more, rfl⟩

end Members

/-! ## Objects -/

section Objects

variable {data endpoint auth p256dh : Json}

/-- What reading the three values of an object gives. -/
theorem ofObject_of_given (givenEndpoint : Given data "endpoint" endpoint)
    (givenAuth : Given (keysOf data) "auth" auth)
    (givenP256dh : Given (keysOf data) "p256dh" p256dh) :
    ofObject data =
      match ofValues endpoint auth p256dh with
      | .valid subscription => .usable subscription
      | .invalid first more => .failure (.invalid "PushSubscription" first more) := by
  have hasEndpoint := givenEndpoint.present_eq
  have hasAuth := givenAuth.present_eq
  have hasP256dh := givenP256dh.present_eq
  rw [keysOf] at hasAuth hasP256dh
  rw [ofObject, hasEndpoint, hasAuth, hasP256dh, givenEndpoint.2, givenAuth.2, givenP256dh.2]
  rfl

/-- An object without one of the values is read for the last part of its endpoint only. -/
theorem ofObject_of_incomplete
    (incomplete : ∀ endpoint auth p256dh, Given data "endpoint" endpoint →
      Given (keysOf data) "auth" auth → ¬ Given (keysOf data) "p256dh" p256dh) :
    ∃ hasAuth hasP256dh, ofObject data =
      match anySuffix (present data "endpoint") with
      | .ok suffix => .incomplete suffix hasAuth hasP256dh
      | .error failure => .failure failure := by
  have notAll : ¬ ((present data "endpoint").isTruthy && (present (keysOf data) "auth").isTruthy &&
      (present (keysOf data) "p256dh").isTruthy) = true := by
    rw [Bool.and_eq_true, Bool.and_eq_true]
    rintro ⟨⟨isEndpoint, isAuth⟩, isP256dh⟩
    exact incomplete _ _ _ (isTruthy_present_iff.mp isEndpoint) (isTruthy_present_iff.mp isAuth)
      (isTruthy_present_iff.mp isP256dh)
  exact ⟨_, _, if_neg notAll⟩

theorem complete_or_incomplete (data : Json) :
    (∃ endpoint auth p256dh, Given data "endpoint" endpoint ∧ Given (keysOf data) "auth" auth ∧
      Given (keysOf data) "p256dh" p256dh) ∨
    ∀ endpoint auth p256dh, Given data "endpoint" endpoint →
      Given (keysOf data) "auth" auth → ¬ Given (keysOf data) "p256dh" p256dh := by
  by_cases complete : ∃ endpoint auth p256dh, Given data "endpoint" endpoint ∧
      Given (keysOf data) "auth" auth ∧ Given (keysOf data) "p256dh" p256dh
  · exact .inl complete
  · refine .inr fun endpoint auth p256dh isEndpoint isAuth isP256dh => complete ?_
    exact ⟨endpoint, auth, p256dh, isEndpoint, isAuth, isP256dh⟩

theorem ofObject_eq_usable_iff {subscription : PushSubscription} :
    ofObject data = .usable subscription ↔ Describes data subscription := by
  rcases complete_or_incomplete data with
    ⟨endpoint, auth, p256dh, isEndpoint, isAuth, isP256dh⟩ | incomplete
  · rw [ofObject_of_given isEndpoint isAuth isP256dh]
    constructor
    · intro usable
      split at usable
      · rename_i read
        cases usable
        obtain ⟨rfl, rfl, rfl⟩ := ofValues_eq_valid_iff.mp read
        exact ⟨hasText_iff_given.mpr isEndpoint, hasText_iff_given.mpr isAuth,
          hasText_iff_given.mpr isP256dh⟩
      · cases usable
    · intro describes
      have sameEndpoint := isEndpoint.unique (hasText_iff_given.mp describes.endpoint)
      have sameAuth := isAuth.unique (hasText_iff_given.mp describes.auth)
      have sameP256dh := isP256dh.unique (hasText_iff_given.mp describes.p256dh)
      rw [ofValues_eq_valid_iff.mpr ⟨sameEndpoint, sameAuth, sameP256dh⟩]
  · constructor
    · intro usable
      obtain ⟨_, _, read⟩ := ofObject_of_incomplete incomplete
      rw [read] at usable
      split at usable <;> cases usable
    · intro describes
      exact (incomplete _ _ _ (hasText_iff_given.mp describes.endpoint)
        (hasText_iff_given.mp describes.auth) (hasText_iff_given.mp describes.p256dh)).elim

theorem exists_ofObject_eq_failure_iff :
    (∃ failure, ofObject data = .failure failure) ↔ Odd data := by
  rcases complete_or_incomplete data with
    ⟨endpoint, auth, p256dh, isEndpoint, isAuth, isP256dh⟩ | incomplete
  · rw [ofObject_of_given isEndpoint isAuth isP256dh]
    constructor
    · rintro ⟨failure, failed⟩
      split at failed
      · cases failed
      · rename_i first more read
        exact .values isEndpoint isAuth isP256dh
          (exists_ofValues_eq_invalid_iff.mp ⟨first, more, read⟩)
    · intro odd
      cases odd with
      | endpoint _ _ _ incomplete => exact (incomplete _ _ isAuth isP256dh).elim
      | values alsoEndpoint alsoAuth alsoP256dh noTexts =>
          obtain rfl := isEndpoint.unique alsoEndpoint
          obtain rfl := isAuth.unique alsoAuth
          obtain rfl := isP256dh.unique alsoP256dh
          obtain ⟨first, more, read⟩ := exists_ofValues_eq_invalid_iff.mpr noTexts
          exact ⟨_, by rw [read]⟩
  · obtain ⟨hasAuth, hasP256dh, read⟩ := ofObject_of_incomplete incomplete
    rw [read]
    constructor
    · rintro ⟨failure, failed⟩
      split at failed
      · cases failed
      · rename_i fault unsliced
        obtain ⟨noText, noList⟩ := anySuffix_eq_error_iff.mp ⟨fault, unsliced⟩
        rcases given_or_absent data "endpoint" with given | ⟨_, empty⟩
        · exact .endpoint given noText noList fun auth p256dh => incomplete _ auth p256dh given
        · exact (noText ⟨"", empty⟩).elim
    · intro odd
      cases odd with
      | endpoint given noText noList _ =>
          obtain ⟨failure, unsliced⟩ := anySuffix_eq_error_iff.mpr ⟨noText, noList⟩
          rw [given.present_eq, unsliced]
          exact ⟨failure, rfl⟩
      | values isEndpoint isAuth isP256dh _ =>
          exact (incomplete _ _ _ isEndpoint isAuth isP256dh).elim

end Objects

/-! ## Raw data -/

section Raw

variable {raw : String}

/-- Only objects are looked into. -/
theorem ofText_cases (raw : String) :
    (∃ members, Json.parse raw = .ok (.object members) ∧
      ofText raw = ofObject (.object members)) ∨
    ((∀ members, Json.parse raw ≠ .ok (.object members)) ∧
      ((∃ container failure, Json.parse raw = .error (.tooDeep container) ∧
        ofText raw = .failure failure) ∨
      (∀ container, Json.parse raw ≠ .error (.tooDeep container)) ∧
        ofText raw = .invalidJson)) := by
  rw [ofText]
  split
  · rename_i members parsed
    exact .inl ⟨members, parsed, rfl⟩
  · rename_i data noObject parsed
    refine .inr ⟨?_, .inr ⟨by simp [parsed], rfl⟩⟩
    intro members same
    exact noObject members (Except.ok.inj (parsed.symm.trans same))
  · rename_i container parsed
    exact .inr ⟨by simp [parsed], .inl ⟨container, _, parsed, rfl⟩⟩
  · rename_i fault shallow parsed
    refine .inr ⟨by simp [parsed], .inr ⟨?_, rfl⟩⟩
    intro container same
    exact shallow container (Except.error.inj (parsed.symm.trans same))

theorem ofText_eq_usable_iff {subscription : PushSubscription} :
    ofText raw = .usable subscription ↔ Holds raw subscription := by
  rcases ofText_cases raw with
    ⟨members, parsed, read⟩ | ⟨noObject, ⟨_, _, _, read⟩ | ⟨_, read⟩⟩
  · rw [read, ofObject_eq_usable_iff]
    constructor
    · exact fun describes => ⟨members, parsed, describes⟩
    · rintro ⟨_, again, describes⟩
      cases parsed.symm.trans again
      exact describes
  · rw [read]
    exact ⟨nofun, fun ⟨members, parsed, _⟩ => (noObject members parsed).elim⟩
  · rw [read]
    exact ⟨nofun, fun ⟨members, parsed, _⟩ => (noObject members parsed).elim⟩

theorem exists_ofText_eq_failure_iff : (∃ failure, ofText raw = .failure failure) ↔ Breaks raw := by
  rcases ofText_cases raw with
    ⟨members, parsed, read⟩ | ⟨noObject, ⟨container, failure, tooDeep, read⟩ | ⟨shallow, read⟩⟩
  · rw [read, exists_ofObject_eq_failure_iff]
    constructor
    · exact fun odd => .odd parsed odd
    · rintro (tooDeep | ⟨again, odd⟩)
      · cases parsed.symm.trans tooDeep
      · cases parsed.symm.trans again
        exact odd
  · exact ⟨fun _ => .tooDeep tooDeep, fun _ => ⟨failure, read⟩⟩
  · rw [read]
    constructor
    · rintro ⟨_, ⟨⟩⟩
    · rintro (tooDeep | ⟨parsed, _⟩)
      · exact (shallow _ tooDeep).elim
      · exact (noObject _ parsed).elim

end Raw

/-- What a reader of the data gets. -/
def Reading.value : Reading → Except Failure (Option PushSubscription)
  | .usable subscription => .ok (some subscription)
  | .invalidJson => .ok none
  | .incomplete .. => .ok none
  | .failure fault => .error fault

theorem Reading.value_eq_some_iff {reading : Reading} {subscription : PushSubscription} :
    reading.value = .ok (some subscription) ↔ reading = .usable subscription := by
  cases reading <;> simp [value]

theorem Reading.value_eq_error_iff {reading : Reading} {failure : Failure} :
    reading.value = .error failure ↔ reading = .failure failure := by
  cases reading <;> simp [value]

end PushSubscription

namespace SubscriptionStore

open PushSubscription

theorem ends_read {data : Json} {exchanges : List Exchange}
    {outcome : Except Failure (Option PushSubscription)}
    (ended : (read data).Ends exchanges outcome) : outcome = (ofStored data).value := by
  rw [read] at ended
  split at ended
  · rename_i subscription usable
    rw [usable]
    exact (ends_done.mp ended).2
  · rename_i invalid
    rw [invalid]
    obtain ⟨_, _, endedDone⟩ := ends_log_bind.mp ended
    exact (ends_done.mp endedDone).2
  · rename_i suffix hasAuth hasP256dh incomplete
    rw [incomplete]
    obtain ⟨_, _, endedDone⟩ := ends_log_bind.mp ended
    exact (ends_done.mp endedDone).2
  · rename_i failure failed
    rw [failed]
    exact (ends_fail.mp ended).2

def dataOf (item : Json) : Except Failure Json := Attribute.textOr item "data" (.text "")

/-- A row that is not passed over although it holds no subscription: the row or its data is no
object, or the text of the data breaks the reading. -/
inductive Spoils (item : Json) : Prop
  | shape {failure : Failure} (unheld : dataOf item = .error failure)
  | data {raw : String} (held : dataOf item = .ok (.text raw)) (breaks : Breaks raw)

theorem exists_ofStored_eq_failure_iff {data : Json} :
    (∃ failure, ofStored data = .failure failure) ↔ ∃ raw, data = .text raw ∧ Breaks raw := by
  cases data with
  | text raw => simp [ofStored, exists_ofText_eq_failure_iff]
  | _ => simp [ofStored]

theorem usable?_eq_some_iff {item : Json} {subscription : PushSubscription} :
    usable? item = some subscription ↔
      ∃ raw, dataOf item = .ok (.text raw) ∧ Holds raw subscription := by
  rw [usable?, ← dataOf]
  cases held : dataOf item with
  | error failure => simp [Except.toOption]
  | ok data =>
      cases data with
      | text raw =>
          simp only [Except.toOption, Option.bind_some, ofStored, ← ofText_eq_usable_iff,
            Except.ok.injEq, Json.text.injEq, exists_eq_left']
          cases ofText raw <;> simp
      | _ => simp [Except.toOption, ofStored]

/-- How reading rows comes out: with the usable subscriptions in the order of the rows when no row
spoils it, and otherwise with a failure at the first row that does. -/
inductive Readings : List Json → Except Failure (List PushSubscription) → Prop
  | all {items : List Json} (sound : ∀ item ∈ items, ¬ Spoils item) :
      Readings items (.ok (items.filterMap usable?))
  | broken {before after : List Json} {item : Json} {failure : Failure}
      (sound : ∀ other ∈ before, ¬ Spoils other) (spoils : Spoils item) :
      Readings (before ++ item :: after) (.error failure)

theorem Readings.cons {item : Json} {rest : List Json}
    {others : Except Failure (List PushSubscription)} (sound : ¬ Spoils item)
    (readings : Readings rest others) :
    Readings (item :: rest) (others.map ((usable? item).toList ++ ·)) := by
  cases readings with
  | all soundRest =>
      have same : (usable? item).toList ++ rest.filterMap usable? =
          (item :: rest).filterMap usable? := by
        cases held : usable? item <;> simp [held]
      rw [Except.map, same]
      exact .all (List.forall_mem_cons.mpr ⟨sound, soundRest⟩)
  | @broken before after other failure soundBefore spoils =>
      have soundUpTo : ∀ earlier ∈ item :: before, ¬ Spoils earlier :=
        List.forall_mem_cons.mpr ⟨sound, soundBefore⟩
      exact @Readings.broken (item :: before) after other failure soundUpTo spoils

theorem Readings.eq_of_sound {items : List Json}
    {outcome : Except Failure (List PushSubscription)} (readings : Readings items outcome)
    (sound : ∀ item ∈ items, ¬ Spoils item) : outcome = .ok (items.filterMap usable?) := by
  cases readings with
  | all _ => rfl
  | broken _ spoils => exact (sound _ (List.mem_append_right _ List.mem_cons_self) spoils).elim

/-- A row that its reader gets anything from does not spoil the others. -/
theorem not_spoils_of_value {item data : Json} {found : Option PushSubscription}
    (held : dataOf item = .ok data) (read : (ofStored data).value = .ok found) :
    ¬ Spoils item ∧ usable? item = found := by
  have noFailure (failure : Failure) : ofStored data ≠ .failure failure := by
    intro failed
    rw [failed] at read
    cases read
  constructor
  · rintro (unheld | ⟨again, breaks⟩)
    · cases held.symm.trans unheld
    · cases held.symm.trans again
      obtain ⟨failure, failed⟩ := exists_ofStored_eq_failure_iff.mpr ⟨_, rfl, breaks⟩
      exact noFailure failure failed
  · rw [usable?, ← dataOf, held, Except.toOption, Option.bind_some]
    cases reading : ofStored data with
    | failure failure => exact (noFailure failure reading).elim
    | _ =>
        rw [reading] at read
        cases read
        rfl

def readingOf (item : Json) : Except Failure (Option PushSubscription) :=
  (dataOf item).bind fun data => (ofStored data).value

theorem not_spoils_of_readingOf {item : Json} (read : (readingOf item).isOk = true) :
    ¬ Spoils item := by
  rw [readingOf] at read
  cases held : dataOf item with
  | error failure =>
      rw [held] at read
      cases read
  | ok data =>
      rw [held, Except.bind] at read
      cases value : (ofStored data).value with
      | error failure =>
          rw [value] at read
          cases read
      | ok found => exact (not_spoils_of_value held value).1

/-- Reading rows gives the usable subscriptions among them, unless a row spoils it. -/
theorem readings_of_ends_readItems {items : List Json} {exchanges : List Exchange}
    {outcome : Except Failure (List PushSubscription)}
    (ended : (readItems items).Ends exchanges outcome) : Readings items outcome := by
  induction items generalizing exchanges outcome with
  | nil =>
      obtain ⟨_, rfl⟩ := ends_done.mp ended
      exact .all nofun
  | cons item rest ih =>
      -- The row fails to hold data, fails to be read, or is passed to the reading of the others.
      rcases ends_bind.mp ended with ⟨failure, unheld, rfl⟩ | ⟨_, reading, data, _, held, endedRead⟩
      · exact @Readings.broken [] rest item failure nofun (.shape (ends_ofExcept.mp unheld).2.symm)
      have isHeld : dataOf item = .ok data := (ends_ofExcept.mp held).2.symm
      rcases ends_bind.mp endedRead with
        ⟨failure, failed, rfl⟩ | ⟨_, later, found, _, wasRead, endedRest⟩
      · obtain ⟨raw, rfl, breaks⟩ := exists_ofStored_eq_failure_iff.mp
          ⟨failure, Reading.value_eq_error_iff.mp (ends_read failed).symm⟩
        exact @Readings.broken [] rest item failure nofun (.data isHeld breaks)
      obtain ⟨sound, rfl⟩ := not_spoils_of_value isHeld (ends_read wasRead).symm
      rcases ends_bind.mp endedRest with ⟨failure, failed, rfl⟩ | ⟨_, _, others, _, more, endedDone⟩
      · exact (ih failed).cons sound
      · obtain ⟨_, rfl⟩ := ends_done.mp endedDone
        exact (ih more).cons sound

variable (store : SubscriptionStore) (userId : String)

/-- Reading raw data gives the subscription that it holds.  Everything else is passed over, except
for the data that breaks the reading.  Likewise the subscriptions of a user are the usable ones in
the order of the rows, as long as no row spoils the reading of all of them. -/
theorem usable_unless_broken :
    (∀ raw exchanges outcome, (read (.text raw)).Ends exchanges outcome →
      (∀ subscription, outcome = .ok (some subscription) ↔ Holds raw subscription) ∧
      ((∃ failure, outcome = .error failure) ↔ Breaks raw)) ∧
    (∀ item subscription, usable? item = some subscription ↔
      ∃ raw, dataOf item = .ok (.text raw) ∧ Holds raw subscription) ∧
    ∀ querying queried reading outcome, (store.queryUser userId).Ends querying (.ok queried) →
      queried.isSuccess = true → (store.findByUser userId).Ends (querying ++ reading) outcome →
      Readings (itemsOf queried) outcome := by
  refine ⟨fun raw exchanges outcome ended => ?_, fun _ _ => usable?_eq_some_iff, ?_⟩
  · rw [ends_read ended, ofStored]
    refine ⟨fun subscription => ?_, ?_⟩
    · rw [Reading.value_eq_some_iff, ofText_eq_usable_iff]
    · simp only [Reading.value_eq_error_iff]
      exact exists_ofText_eq_failure_iff
  · intro querying queried reading outcome found success ended
    obtain ⟨read, _, rfl, endedItems⟩ := found.onward ended (List.append_nil _).symm
    rw [if_pos success] at endedItems
    exact readings_of_ends_readItems endedItems

end SubscriptionStore

/-! ## A row that spoils the others -/

namespace Sample

/-- The tables with a row for each of the data that browsers of the user have left. -/
def leftTables (left : List (String × String)) : Store :=
  ⟨[("subscriptions", ⟨"endpoint", left.map fun row =>
    (row.1, .object
      [("endpoint", Attribute.ofText row.1), ("user_id", Attribute.ofText "u"),
        ("data", Attribute.ofText row.2)])⟩)], 10⟩

def leftBy (endpoint : String) : String × String :=
  (endpoint, (PushSubscription.exchangeJson ⟨endpoint, "a", "k"⟩).encode)

def numbered : String := "\x7b\"endpoint\": 5\x7d"

/-- The row of a browser, and one with a number for an endpoint. -/
def spoiltTables : Store := leftTables [leftBy "/1", ("/2", numbered)]

end Sample

/-- Data with a number for an endpoint holds no subscription, yet it is not passed over: reading it
fails.  The usable subscription in the row before it is not found either. -/
theorem spoilt_by_number :
    (∃ failure, (SubscriptionStore.read (.text Sample.numbered)).Ends [] (.error failure)) ∧
    ((Sample.spoiltTables.table "subscriptions").items.filterMap fun row =>
      (SubscriptionStore.usable? row.2).map PushSubscription.endpoint) = ["/1"] ∧
    failsWith (fun _ => true) ((Sample.browserStore.findByUser "u").run (answerWith Sample.answer)
      Sample.spoiltTables).1 = true := by
  refine ⟨⟨.shape (.notIndexed "int"), .start _⟩, ?_, ?_⟩
  · decide +kernel
  · decide +kernel

/-- A row that is no JSON does not keep the rows around it from being found. -/
theorem found_around_garbage :
    ∃ querying queried reading found,
      (Sample.browserStore.queryUser "u").Ends querying (.ok queried) ∧
      queried.isSuccess = true ∧
      (Sample.browserStore.findByUser "u").Ends (querying ++ reading) (.ok found) ∧
      found.map PushSubscription.endpoint = ["/1", "/3"] ∧
      SubscriptionStore.Readings (SubscriptionStore.itemsOf queried) (.ok found) := by
  have passed : passes (fun found => found.map PushSubscription.endpoint == ["/1", "/3"])
      ((Sample.browserStore.findByUser "u").run (answerWith Sample.answer)
        (Sample.leftTables [Sample.leftBy "/1", ("/2", "garbage"), Sample.leftBy "/3"])).1 =
        true := by
    decide +kernel
  obtain ⟨found, ended, endpoints⟩ := ends_of_passes passed
  obtain ⟨querying, reading, queried, split, queriedEnds, endedItems⟩ := ends_bind_ok.mp ended
  rw [split] at ended
  have success : queried.isSuccess = true := by
    by_cases success : queried.isSuccess = true
    · exact success
    · rw [if_neg success] at endedItems
      cases (ends_fail.mp endedItems).2
  refine ⟨querying, queried, reading, found, queriedEnds, success, ended, by simpa using endpoints,
    ?_⟩
  exact (SubscriptionStore.usable_unless_broken Sample.browserStore "u").2.2 querying queried
    reading _ queriedEnds success ended

end AlertRelay
