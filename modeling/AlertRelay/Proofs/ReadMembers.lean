import AlertRelay.Json.Reader
import AlertRelay.Proofs.Entries

/-!
# Members of objects that are read

An object that is read has the members that are written in its text.  Where a name is written more
than once, the member written last counts, so the object has each name once.
-/

namespace AlertRelay

/-! ## Members that are written -/

namespace Json.Reader

/-- A member is written in the input: its name between quotes, a colon and its value. -/
inductive WrittenMember (depth : Nat) (input : Input) : String × Json → Input → Prop
  | read {fuel : Nat} {quoted separated : List Char} {name : String} {member : Json}
      {afterName after : Input} (opened : input.rest = '"' :: quoted)
      (named : stringTail fuel input.position [] (input.advance 1) = .ok (name, afterName))
      (colon : (skipSpaces afterName).rest = ':' :: separated)
      (valued : value fuel depth (skipSpaces ((skipSpaces afterName).advance 1)) =
        .ok (member, after)) :
      WrittenMember depth input (name, member) (skipSpaces after)

/-- Members are written in the input, with commas between them and a brace after the last. -/
inductive WrittenMembers (depth : Nat) : Input → List (String × Json) → Input → Prop
  | last {input after : Input} {entry : String × Json} {rest : List Char}
      (member : WrittenMember depth input entry after) (closed : after.rest = '}' :: rest) :
      WrittenMembers depth input [entry] (after.advance 1)
  | more {input after last : Input} {entry : String × Json} {entries : List (String × Json)}
      {rest : List Char} (member : WrittenMember depth input entry after)
      (separated : after.rest = ',' :: rest)
      (later : WrittenMembers depth (skipSpaces (after.advance 1)) entries last) :
      WrittenMembers depth input (entry :: entries) last

theorem writtenMembers_of_objectTail {fuel depth : Nat} {collected : List (String × Json)}
    {input last : Input} {data : Json}
    (read : objectTail fuel depth collected input = .ok (data, last)) :
    ∃ entries, WrittenMembers depth input entries last ∧
      data = .object (setEntries collected entries) := by
  induction fuel generalizing collected input with
  | zero => cases read
  | succ fuel ih =>
      rw [objectTail] at read
      split at read
      · rename_i opened
        split at read
        · cases read
        · rename_i named
          dsimp only at read
          split at read
          · rename_i colon
            split at read
            · cases read
            · rename_i valued
              have member := WrittenMember.read opened named colon valued
              split at read
              · rename_i closed
                cases read
                exact ⟨_, .last member closed, rfl⟩
              · rename_i separated
                obtain ⟨entries, later, rfl⟩ := ih read
                exact ⟨_, .more member separated later, rfl⟩
              · cases read
          · cases read
      · cases read

/-- What the braces at the start of the input enclose: no member, or members up to the last. -/
inductive WrittenObject (depth : Nat) (input : Input) : List (String × Json) → Input → Prop
  | empty {inner rest : List Char} (opened : input.rest = '\x7b' :: inner)
      (closed : (skipSpaces (input.advance 1)).rest = '\x7d' :: rest) :
      WrittenObject depth input [] ((skipSpaces (input.advance 1)).advance 1)
  | members {inner : List Char} {entries : List (String × Json)} {last : Input}
      (opened : input.rest = '\x7b' :: inner)
      (written : WrittenMembers depth (skipSpaces (input.advance 1)) entries last) :
      WrittenObject depth input entries last

theorem ne_object_of_word {word : String} {data : Json} (listed : (word, data) ∈ words)
    (members : List (String × Json)) : data ≠ .object members := by
  rintro rfl
  simp [words] at listed

theorem ne_object_of_value {number : NumberText} {data : Json} (valued : number.value = .ok data)
    (members : List (String × Json)) : data ≠ .object members := by
  rintro rfl
  simp only [NumberText.value] at valued
  split at valued
  · split at valued <;> cases valued
  · cases valued

theorem exists_list_of_listTail {fuel depth : Nat} {collected : List Json} {input last : Input}
    {data : Json} (read : listTail fuel depth collected input = .ok (data, last)) :
    ∃ items, data = .list items := by
  induction fuel generalizing collected input with
  | zero => cases read
  | succ fuel ih =>
      rw [listTail] at read
      split at read
      · cases read
      · dsimp only at read
        split at read
        · cases read
          exact ⟨_, rfl⟩
        · exact ih read
        · cases read

/-- An object that is read has the members that are written in it, of which the last with a name
counts. -/
theorem writtenObject_of_value {fuel depth : Nat} {input last : Input}
    {members : List (String × Json)} (read : value fuel depth input = .ok (.object members, last)) :
    ∃ entries, WrittenObject (depth - 1) input entries last ∧ members = setEntries [] entries := by
  cases fuel with
  | zero => cases read
  | succ fuel =>
      rw [value] at read
      split at read
      · split at read <;> cases read
      · rename_i opened
        split at read
        · cases read
        · dsimp only at read
          split at read
          · rename_i closed
            cases read
            exact ⟨[], .empty opened closed, rfl⟩
          · obtain ⟨entries, written, same⟩ := writtenMembers_of_objectTail read
            exact ⟨entries, .members opened written, Json.object.inj same⟩
      · split at read
        · cases read
        · dsimp only at read
          split at read
          · cases read
          · obtain ⟨_, ⟨⟩⟩ := exists_list_of_listTail read
      · split at read
        · rename_i found
          cases read
          exact absurd rfl (ne_object_of_word (List.mem_of_find?_eq_some found) _)
        · split at read
          · cases read
          · split at read
            · cases read
            · rename_i valued
              cases read
              exact absurd rfl (ne_object_of_value valued _)

end Json.Reader

/-- The text is an object in which the members are written, and nothing else but spaces. -/
def Json.IsWritten (text : String) (entries : List (String × Json)) : Prop :=
  ∃ last, Json.Reader.WrittenObject (JsonFault.depthLimit - 1)
    (Json.Reader.skipSpaces ⟨text.toList, 0⟩) entries last ∧
      (Json.Reader.skipSpaces last).rest = []

theorem Json.isWritten_of_parse {text : String} {members : List (String × Json)}
    (read : Json.parse text = .ok (.object members)) :
    ∃ entries, Json.IsWritten text entries ∧ members = setEntries [] entries := by
  rw [parse] at read
  dsimp only at read
  split at read
  · cases read
  · split at read
    · cases read
    · rename_i valued
      split at read
      · rename_i ended
        cases read
        obtain ⟨entries, written, same⟩ := Reader.writtenObject_of_value valued
        exact ⟨entries, ⟨_, written, List.isEmpty_iff.mp ended⟩, same⟩
      · cases read

end AlertRelay
