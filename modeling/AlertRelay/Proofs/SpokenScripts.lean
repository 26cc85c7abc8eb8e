import AlertRelay.Wording.Voice

/-!
# The tags of a call script

Whatever text a call speaks, a reader of its script finds the tags of the script and no others, and
the text again in the character data of every reading.  So scripts of different texts differ.
-/

namespace AlertRelay
namespace Markup

/-! ## Character data -/

theorem decodeFrom?_escapeChar (c : Char) (rest : List Char) :
    decodeFrom? none (escapeChar c ++ rest) = (decodeFrom? none rest).map (c :: ·) := by
  by_cases ampersand : c = '&'
  · subst ampersand
    rfl
  by_cases opening : c = '<'
  · subst opening
    rfl
  by_cases closing : c = '>'
  · subst closing
    rfl
  simp [escapeChar, decodeFrom?, ampersand, opening, closing]

/-- Decoding gives back the text. -/
theorem decode?_escapeList (text : List Char) : decode? (escapeList text) = some text := by
  rw [decode?]
  induction text with
  | nil => rfl
  | cons c rest ih =>
      have step : escapeList (c :: rest) = escapeChar c ++ escapeList rest := rfl
      rw [step, decodeFrom?_escapeChar, ih]
      rfl

/-- A text that looks like references is not decoded twice. -/
example : decode? (escapeList "&lt;&#x41;".toList) = some "&lt;&#x41;".toList := by
  decide

theorem toList_escape (text : String) : (escape text).toList = escapeList text.toList :=
  String.toList_ofList

theorem opening_not_mem_escapeChar (c : Char) : '<' ∉ escapeChar c := by
  rw [escapeChar]
  split
  · decide
  split
  · decide
  split
  · decide
  · rename_i other _
    intro member
    exact other (List.mem_singleton.mp member).symm

theorem opening_not_mem_escapeList (text : List Char) : '<' ∉ escapeList text := by
  intro member
  obtain ⟨c, _, written⟩ := List.mem_flatMap.mp member
  exact opening_not_mem_escapeChar c written

/-! ## Tokens -/

/-- The tokens of a stretch of character data; an empty one has none. -/
def charactersOf (data : List Char) : List Token :=
  if data.isEmpty then [] else [.characters data]

theorem tokensFrom_tag {content : List Char} (unclosed : '>' ∉ content)
    (collected rest : List Char) :
    tokensFrom true collected (content ++ '>' :: rest) =
      .tag (collected.reverse ++ content) :: tokens rest := by
  induction content generalizing collected with
  | nil => simp [tokensFrom, tokens]
  | cons c content ih =>
      have inside : c ≠ '>' := (List.ne_of_not_mem_cons unclosed).symm
      simp [tokensFrom, inside, ih (List.not_mem_of_not_mem_cons unclosed)]

/-- A tag ends at the next closing bracket. -/
theorem tokens_tag {content : List Char} (unclosed : '>' ∉ content) (rest : List Char) :
    tokens ('<' :: (content ++ '>' :: rest)) = .tag content :: tokens rest :=
  tokensFrom_tag unclosed [] rest

theorem tokensFrom_data {data : List Char} (plain : '<' ∉ data) (collected rest : List Char) :
    tokensFrom false collected (data ++ '<' :: rest) =
      charactersOf (collected.reverse ++ data) ++ tokens ('<' :: rest) := by
  induction data generalizing collected with
  | nil => cases collected <;> simp [tokensFrom, tokens, charactersOf]
  | cons c data ih =>
      have inside : c ≠ '<' := (List.ne_of_not_mem_cons plain).symm
      simp [tokensFrom, inside, ih (List.not_mem_of_not_mem_cons plain)]

/-- Character data ends at the next opening bracket. -/
theorem tokens_data {data : List Char} (plain : '<' ∉ data) (rest : List Char) :
    tokens (data ++ '<' :: rest) = charactersOf data ++ tokens ('<' :: rest) :=
  tokensFrom_data plain [] rest

end Markup

namespace Wording

open Markup

/-! ## Scripts -/

/-- The tokens of one reading of character data. -/
def readingTokens (data : List Char) : List Token :=
  .tag "Say voice=\"alice\"".toList ::
    (charactersOf data ++ [.tag "/Say".toList, .tag "Pause length=\"1\"/".toList])

/-- The tokens of a script that reads character data a number of times. -/
def scriptTokens (data : List Char) (times : Nat) : List Token :=
  .tag "Response".toList ::
    ((List.replicate times (readingTokens data)).flatten ++
      [.tag "Hangup/".toList, .tag "/Response".toList])

theorem toList_reading (text : String) (rest : List Char) :
    (reading text).toList ++ rest =
      '<' :: ("Say voice=\"alice\"".toList ++ '>' :: (escapeList text.toList ++
        '<' :: ("/Say".toList ++ '>' ::
          '<' :: ("Pause length=\"1\"/".toList ++ '>' :: rest)))) := by
  have opening : "<Say voice=\"alice\">".toList =
      '<' :: ("Say voice=\"alice\"".toList ++ ['>']) := by
    decide
  have closing : "</Say><Pause length=\"1\"/>".toList =
      '<' :: ("/Say".toList ++ '>' :: '<' :: ("Pause length=\"1\"/".toList ++ ['>'])) := by
    decide
  unfold reading
  rw [String.toList_append, String.toList_append, toList_escape, opening, closing]
  simp only [List.cons_append, List.append_assoc, List.nil_append]

theorem tokens_reading (text : String) (rest : List Char) :
    tokens ((reading text).toList ++ rest) =
      readingTokens (escapeList text.toList) ++ tokens rest := by
  rw [toList_reading, tokens_tag (by decide), tokens_data (opening_not_mem_escapeList _),
    tokens_tag (by decide), tokens_tag (by decide), readingTokens]
  simp only [List.cons_append, List.append_assoc, List.nil_append]

theorem tokens_readings (text : String) (times : Nat) (rest : List Char) :
    tokens ((List.replicate times (reading text)).flatMap String.toList ++ rest) =
      (List.replicate times (readingTokens (escapeList text.toList))).flatten ++ tokens rest := by
  induction times with
  | zero => rfl
  | succ times ih =>
      rw [List.replicate_succ, List.flatMap_cons, List.append_assoc, tokens_reading, ih,
        List.replicate_succ, List.flatten_cons, List.append_assoc]

theorem tokens_callScript (text : String) (times : Int) :
    tokens (callScript text times).toList =
      scriptTokens (escapeList text.toList) times.toNat := by
  have opening : "<Response>".toList = '<' :: ("Response".toList ++ ['>']) := by
    decide
  have closing : "<Hangup/></Response>".toList =
      '<' :: ("Hangup/".toList ++ '>' :: '<' :: ("/Response".toList ++ ['>'])) := by
    decide
  rw [callScript, String.toList_append, String.toList_append, String.toList_join, opening,
    List.append_assoc, List.cons_append, List.append_assoc, List.singleton_append,
    tokens_tag (by decide), tokens_readings, closing, tokens_tag (by decide),
    tokens_tag (by decide), scriptTokens]
  rfl

/-- What stands before a tag shows which character data it is, also where there is none. -/
theorem charactersOf_injective {data other : List Char} {tag : List Char} {rest others : List Token}
    (same : charactersOf data ++ .tag tag :: rest = charactersOf other ++ .tag tag :: others) :
    data = other := by
  cases data <;> cases other <;> simp_all [charactersOf]

/-- A script that reads character data tells which. -/
theorem scriptTokens_injective {data other : List Char} {times : Nat} (reads : 1 ≤ times)
    (same : scriptTokens data times = scriptTokens other times) : data = other := by
  obtain ⟨more, rfl⟩ := Nat.exists_eq_add_of_le' reads
  simp only [scriptTokens, readingTokens, List.replicate_succ, List.flatten_cons,
    List.cons_append, List.append_assoc, List.cons.injEq, true_and] at same
  exact charactersOf_injective same

/-- A call script has the tags of its readings and no others, its character data says the text, and
a script that reads a text tells which one. -/
theorem callScript_says (text : String) (times : Int) :
    (∃ data, decode? data = some text.toList ∧
      tokens (callScript text times).toList = scriptTokens data times.toNat) ∧
    (1 ≤ times → ∀ other, callScript other times = callScript text times → other = text) := by
  refine ⟨⟨_, decode?_escapeList _, tokens_callScript text times⟩, ?_⟩
  intro reads other same
  -- The tokens of a script show its character data, and decoding shows the text.
  have tokensSame := congrArg (fun script => tokens script.toList) same
  simp only [tokens_callScript] at tokensSame
  have dataSame := scriptTokens_injective (by omega) tokensSame
  have decoded := congrArg decode? dataSame
  rw [decode?_escapeList, decode?_escapeList] at decoded
  exact String.toList_inj.mp (Option.some.inj decoded)

end Wording
end AlertRelay
