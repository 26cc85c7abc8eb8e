import AlertRelay.Proofs.CheckedValues
import AlertRelay.Proofs.DeliveryKeys

/-!
# Accepted destinations

Raw data is accepted as the identity of a destination when it names exactly one owner, where an
empty name counts as absent.  Deliveries of the same alert to two accepted destinations have one
key only when the two have the same owner.
-/

namespace AlertRelay
namespace DestinationId

/-- The name of an owner among raw members: none when the member is absent, null or empty. -/
inductive Named (members : Members) (member : String) : Option String → Prop
  | absent (found : members.lookup member = none) : Named members member none
  | null (found : members.lookup member = some .null) : Named members member none
  | unset (found : members.lookup member = some (.text "")) : Named members member none
  | set {name : String} (found : members.lookup member = some (.text name))
      (nonempty : name ≠ "") : Named members member (some name)

/-- The name that is left when an empty text counts as absent. -/
def present (given : Option String) : Option String := given.filter (· != "")

/-- The raw data names the owner of a destination, and no other one. -/
def Describes (id : DestinationId) (data : Json) : Prop :=
  ∃ members, data = .object members ∧ Named members "cm_id" id.contactMethodId? ∧
    Named members "channel_id" id.channelId?

/-- One of the two names is there and not empty, and the other one is null. -/
inductive HasOneName (id : DestinationId) : Prop
  | contactMethod {name : String} (named : id.contactMethodId? = some name) (nonempty : name ≠ "")
      (alone : id.channelId? = none)
  | channel {name : String} (named : id.channelId? = some name) (nonempty : name ≠ "")
      (alone : id.contactMethodId? = none)

theorem hasOneName (id : DestinationId) : id.HasOneName := by
  cases id with
  | contactMethod name nonempty => exact .contactMethod rfl nonempty rfl
  | channel name nonempty => exact .channel rfl nonempty rfl

theorem eq_iff_names {id other : DestinationId} :
    id = other ↔
      id.contactMethodId? = other.contactMethodId? ∧ id.channelId? = other.channelId? := by
  constructor
  · rintro rfl
    exact ⟨rfl, rfl⟩
  · rintro ⟨methods, channels⟩
    cases id <;> cases other <;> simp_all [contactMethodId?, channelId?]

section Reading

variable {members : Members} {member : String} {name : Option String} {id : DestinationId}

theorem named_iff :
    Named members member name ↔
      ∃ given, members.optional member Scalar.text = .valid given ∧ present given = name := by
  constructor
  · intro named
    cases named with
    | absent found => exact ⟨none, by simp [Members.optional, found], rfl⟩
    | null found => exact ⟨none, by simp [Members.optional, found], rfl⟩
    | unset found => exact ⟨some "", by simp [Members.optional, found, Checked.map], rfl⟩
    | @set text found nonempty =>
        exact ⟨some text, by simp [Members.optional, found, Checked.map],
          by simp [present, nonempty]⟩
  · rintro ⟨given, read, rfl⟩
    rw [Members.optional] at read
    split at read
    · rename_i found
      cases read
      exact .null found
    · rename_i data _ found
      obtain ⟨text, valid, rfl⟩ := Checked.map_eq_valid.mp (Checked.within_eq_valid.mp read)
      cases data <;> cases valid
      by_cases empty : text = ""
      · rw [empty] at found ⊢
        exact .unset found
      · have kept : present (some text) = some text := by simp [present, empty]
        rw [kept]
        exact .set found empty
    · rename_i found
      cases read
      exact .absent found

theorem present_eq (given : Option String) :
    present given = if given.getD "" = "" then none else some (given.getD "") := by
  cases given with
  | none => rfl
  | some text => by_cases empty : text = "" <;> simp [present, empty]

theorem ofNames?_eq_some_iff {method channel : Option String} :
    ofNames? method channel = some id ↔
      present method = id.contactMethodId? ∧ present channel = id.channelId? := by
  rw [present_eq, present_eq, ofNames?]
  by_cases noMethod : method.getD "" = "" <;> by_cases noChannel : channel.getD "" = "" <;>
    cases id <;> simp [noMethod, noChannel, contactMethodId?, channelId?]

/-- Raw data is accepted as an identity exactly when it describes the identity. -/
theorem read_eq_valid_iff {data : Json} : read data = .valid id ↔ id.Describes data := by
  constructor
  · intro accepted
    obtain ⟨members, isRecord, named⟩ := Checked.andThen_eq_valid.mp accepted
    obtain ⟨names, given, chosen⟩ := Checked.andThen_eq_valid.mp named
    simp only [Checked.seq_eq_valid, Checked.map_eq_valid] at given
    obtain ⟨_, channel, ⟨method, readMethod, rfl⟩, readChannel, rfl⟩ := given
    have described : data = .object members := by
      cases data <;> cases isRecord
      rfl
    have kept : ofNames? method channel = some id := by
      have reading := Checked.ofReading_eq_valid.mp chosen
      split at reading
      · rename_i found
        cases reading
        exact found
      · cases reading
    obtain ⟨isMethod, isChannel⟩ := ofNames?_eq_some_iff.mp kept
    exact ⟨members, described, named_iff.mpr ⟨method, readMethod, isMethod⟩,
      named_iff.mpr ⟨channel, readChannel, isChannel⟩⟩
  · rintro ⟨members, rfl, method, channel⟩
    obtain ⟨givenMethod, readMethod, isMethod⟩ := named_iff.mp method
    obtain ⟨givenChannel, readChannel, isChannel⟩ := named_iff.mp channel
    have chosen := ofNames?_eq_some_iff.mpr ⟨isMethod, isChannel⟩
    rw [read, Scalar.record_object, Checked.valid_andThen, readMethod, readChannel]
    simp [chosen, Checked.ofReading]

end Reading

end DestinationId

/-- The delivery keys of two accepted destinations are the same only for the same alert and the
same names, and each of the two has exactly one name, the one that its raw data gives. -/
theorem deliveryKey_eq_iff_of_accepted {data otherData : Json} {id other : DestinationId}
    (accepted : DestinationId.read data = .valid id)
    (otherAccepted : DestinationId.read otherData = .valid other) (alertId otherAlertId : Int) :
    (deliveryKey alertId id = deliveryKey otherAlertId other ↔
      alertId = otherAlertId ∧ id.contactMethodId? = other.contactMethodId? ∧
        id.channelId? = other.channelId?) ∧
      (id.Describes data ∧ id.HasOneName) ∧ (other.Describes otherData ∧ other.HasOneName) := by
  refine ⟨?_, ⟨?_, id.hasOneName⟩, ⟨?_, other.hasOneName⟩⟩
  · rw [deliveryKey_inj, DestinationId.eq_iff_names]
  · exact DestinationId.read_eq_valid_iff.mp accepted
  · exact DestinationId.read_eq_valid_iff.mp otherAccepted

/-- A contact method whose name looks like a key has another key than the channel of that name. -/
theorem deliveryKey_ne_of_separators :
    ∃ id other,
      DestinationId.read (.object [("cm_id", .text "nc:8#nc:9"), ("channel_id", .text "")]) =
          .valid id ∧
        DestinationId.read (.object [("cm_id", .null), ("channel_id", .text "8#nc:9")]) =
          .valid other ∧
        deliveryKey (-7) id ≠ deliveryKey (-7) other := by
  have accepted :
      DestinationId.read (.object [("cm_id", .text "nc:8#nc:9"), ("channel_id", .text "")]) =
        .valid (.contactMethod "nc:8#nc:9" (by decide)) := rfl
  have otherAccepted :
      DestinationId.read (.object [("cm_id", .null), ("channel_id", .text "8#nc:9")]) =
        .valid (.channel "8#nc:9" (by decide)) := rfl
  refine ⟨_, _, accepted, otherAccepted, fun same => ?_⟩
  obtain ⟨keys, _⟩ := deliveryKey_eq_iff_of_accepted accepted otherAccepted (-7) (-7)
  cases (keys.mp same).2.1

end AlertRelay
