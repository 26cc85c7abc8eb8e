import AlertRelay.Address.Url
import AlertRelay.Proofs.TextParts

/-!
# Parts of URLs

Reading a URL finds the scheme and the authority that its characters name, and fails exactly on an
authority that is not sound: one with brackets that do not enclose a numeric address, or with a
character that disguises a delimiter.
-/

namespace AlertRelay

/-! ## Numeric hosts -/

namespace Host

variable {host : List Char}

/-- A numeric address that may stand in brackets. -/
def IsBracketable (host : List Char) : Prop :=
  isVersion6 host = true ∨ isLaterVersion host = true

theorem isDigit_of_isVersion4 (version4 : isVersion4 host = true) {c : Char}
    (member : c ∈ host) (other : c ≠ '.') : c.isDigit = true := by
  rw [isVersion4, Bool.and_eq_true, List.all_eq_true] at version4
  obtain ⟨octet, among, inOctet⟩ := exists_part_of_mem member other
  have fits := version4.2 octet among
  simp only [isOctet, Bool.and_eq_true, List.all_eq_true] at fits
  exact fits.1.1.1.2 c inOctet

theorem exists_groups_of_fits {address : List Char} {zoneFits : Bool}
    (fits : (zoneFits && decide (3 ≤ (splitEvery ':' address).length) &&
      match groups? address with
      | some groups => decide (groups.length ≤ 9) && areGroups groups
      | none => false) = true) :
    3 ≤ (splitEvery ':' address).length ∧
      ∃ groups, groups? address = some groups ∧ areGroups groups = true := by
  simp only [Bool.and_eq_true, decide_eq_true_eq] at fits
  obtain ⟨⟨_, several⟩, grouped⟩ := fits
  cases found : groups? address with
  | none => simp [found] at grouped
  | some groups =>
      simp only [found, Bool.and_eq_true] at grouped
      exact ⟨several, groups, rfl, grouped.2⟩

/-- An address of version six consists of groups, possibly with a zone behind them. -/
theorem exists_groups_of_isVersion6 (version6 : isVersion6 host = true) :
    ∃ address, (address = host ∨ ∃ zone, host = address ++ '%' :: zone) ∧
      3 ≤ (splitEvery ':' address).length ∧
      ∃ groups, groups? address = some groups ∧ areGroups groups = true := by
  unfold isVersion6 at version6
  cases split : splitFirst? '%' host with
  | none =>
      rw [split] at version6
      exact ⟨host, .inl rfl, exists_groups_of_fits version6⟩
  | some parts =>
      obtain ⟨address, zone⟩ := parts
      rw [split] at version6
      have whole := (splitFirst?_eq_some_iff.mp split).1
      exact ⟨address, .inr ⟨zone, whole⟩, exists_groups_of_fits version6⟩

theorem isGroup_of_areGroups {group : List Char} {groups : List (List Char)}
    (fits : areGroups (group :: groups) = true) (nonempty : group ≠ []) :
    isGroup group = true := by
  rw [areGroups] at fits
  split at fits
  · simp only [List.all_cons, Bool.and_eq_true] at fits
    exact fits.2.1
  · rename_i gap gaps
    have inner : gap ∈ innerGaps (group :: groups) := gaps ▸ List.mem_cons_self
    have positive : 0 < gap := by
      simp only [innerGaps, List.mem_filter, Bool.and_eq_true, decide_eq_true_eq] at inner
      exact inner.2.1
    -- The gap is not at the first group, which is therefore checked among those before it.
    obtain ⟨place, rfl⟩ := Nat.exists_eq_add_one_of_ne_zero (Nat.ne_of_gt positive)
    simp only [List.take_succ_cons, List.head?_cons, Option.any_some,
      List.isEmpty_eq_false_iff.mpr nonempty, Bool.false_eq_true, if_false, List.all_cons,
      Bool.and_eq_true] at fits
    exact fits.1.2.1
  · cases fits

theorem groups?_cons {c : Char} {rest : List Char} {groups : List (List Char)} (other : c ≠ ':')
    (several : 3 ≤ (splitEvery ':' (c :: rest)).length)
    (found : groups? (c :: rest) = some groups) :
    ∃ part parts, groups = (c :: part) :: parts := by
  obtain ⟨part, parts, split⟩ := splitEvery_cons_of_ne other rest
  rw [split] at several
  rw [groups?, split] at found
  split at found
  · split at found
    · split at found
      · cases found
        cases parts with
        | nil => simp at several
        | cons second more => exact ⟨part, _, rfl⟩
      · cases found
    · cases found
      exact ⟨part, parts, rfl⟩
  · cases found

theorem head?_ne_of_isVersion6 (version6 : isVersion6 host = true) : host.head? ≠ some 'v' := by
  intro begins
  obtain ⟨address, inHost, several, groups, found, fits⟩ := exists_groups_of_isVersion6 version6
  cases address with
  | nil => simp [splitEvery] at several
  | cons c rest =>
      have first : host.head? = some c := by
        rcases inHost with rfl | ⟨zone, rfl⟩
        · rfl
        · rfl
      obtain rfl : c = 'v' := Option.some.inj (first.symm.trans begins)
      obtain ⟨part, parts, rfl⟩ := groups?_cons (by decide) several found
      have group := isGroup_of_areGroups fits (List.cons_ne_nil _ _)
      have notHexadecimal : hexValue? 'v' = none := by decide
      simp [isGroup, notHexadecimal] at group

theorem not_isVersion4_of_isVersion6 (version6 : isVersion6 host = true) :
    isVersion4 host = false := by
  obtain ⟨address, inHost, several, _⟩ := exists_groups_of_isVersion6 version6
  have inAddress : ':' ∈ address := by
    by_cases member : ':' ∈ address
    · exact member
    · rw [splitEvery_of_not_mem member] at several
      simp at several
  have member : ':' ∈ host := by
    rcases inHost with rfl | ⟨zone, rfl⟩
    · exact inAddress
    · exact List.mem_append_left _ inAddress
  rw [Bool.eq_false_iff]
  intro version4
  exact absurd (isDigit_of_isVersion4 version4 member (by decide)) (by decide)

theorem head?_eq_of_isLaterVersion (later : isLaterVersion host = true) :
    host.head? = some 'v' := by
  unfold isLaterVersion at later
  split at later
  · rfl
  · cases later

end Host

namespace Url

/-! ## Schemes and authorities -/

/-- The characters of a text that count: without those at its start up to the space, and without
tabs and line ends. -/
def counted (text : String) : List Char :=
  (text.toList.dropWhile (·.toNat ≤ 0x20)).filter fun c => c != '\t' && c != '\r' && c != '\n'

/-- A scheme is a letter with letters, digits and some signs behind it. -/
def IsScheme (scheme : List Char) : Prop :=
  scheme.head?.any Char.isAlpha = true ∧ ∀ c ∈ scheme, isSchemeChar c = true

/-- Whether a character belongs to an authority that began before it. -/
def isInside (c : Char) : Bool := c != '/' && c != '?' && c != '#'

/-- A text names an authority behind two slashes, at its start or after a scheme and a colon. -/
inductive Names : List Char → List Char → List Char → Prop
  | bare {rest authority tail : List Char} (cut : Cut isInside rest authority tail) :
      Names ('/' :: '/' :: rest) [] authority
  | schemed {scheme rest authority tail : List Char} (isScheme : IsScheme scheme)
      (cut : Cut isInside rest authority tail) :
      Names (scheme ++ ':' :: '/' :: '/' :: rest) (scheme.map Char.toLower) authority

section Parts

variable {chars scheme authority rest : List Char} {text : String}

theorem IsScheme.colon_not_mem (isScheme : IsScheme scheme) : ':' ∉ scheme := by
  intro member
  exact absurd (isScheme.2 _ member) (by decide)

theorem splitScheme_of_isScheme (isScheme : IsScheme scheme) :
    splitScheme (scheme ++ ':' :: rest) = (scheme.map Char.toLower, rest) := by
  rw [splitScheme, splitFirst?_append isScheme.colon_not_mem]
  simp [isScheme.1, List.all_eq_true.mpr isScheme.2]

theorem splitScheme_slash : splitScheme ('/' :: rest) = ([], '/' :: rest) := by
  rw [splitScheme]
  split
  · rename_i before after split
    obtain ⟨whole, _⟩ := splitFirst?_eq_some_iff.mp split
    cases before with
    | nil => rfl
    | cons c more =>
        obtain rfl : '/' = c := (List.cons.inj whole).1
        rfl
  · rfl

theorem splitScheme_cases (chars : List Char) :
    splitScheme chars = ([], chars) ∨
      ∃ scheme rest, IsScheme scheme ∧ chars = scheme ++ ':' :: rest ∧
        splitScheme chars = (scheme.map Char.toLower, rest) := by
  cases split : splitFirst? ':' chars with
  | none => exact .inl (by simp [splitScheme, split])
  | some parts =>
      obtain ⟨scheme, rest⟩ := parts
      obtain ⟨whole, _⟩ := splitFirst?_eq_some_iff.mp split
      by_cases isScheme : IsScheme scheme
      · exact .inr ⟨scheme, rest, isScheme, whole, whole ▸ splitScheme_of_isScheme isScheme⟩
      · refine .inl ?_
        rw [IsScheme, ← List.all_eq_true, ← Bool.and_eq_true] at isScheme
        rw [splitScheme, split]
        exact if_neg isScheme

theorem names_iff :
    Names chars scheme authority ↔
      ∃ rest, splitScheme chars = (scheme, '/' :: '/' :: rest) ∧
        rest.takeWhile isInside = authority := by
  constructor
  · intro names
    cases names with
    | bare cut => exact ⟨_, splitScheme_slash, cut.takeWhile_eq⟩
    | schemed isScheme cut => exact ⟨_, splitScheme_of_isScheme isScheme, cut.takeWhile_eq⟩
  · rintro ⟨rest, split, rfl⟩
    rcases splitScheme_cases chars with whole | ⟨written, behind, isScheme, rfl, whole⟩
    · rw [whole] at split
      cases split
      exact .bare (cut_takeWhile _ _)
    · rw [whole] at split
      cases split
      exact .schemed isScheme (cut_takeWhile _ _)

end Parts

/-! ## Authorities -/

/-- The place of an authority is what stands behind its last at sign. -/
def IsPlace (authority place : List Char) : Prop :=
  '@' ∉ place ∧ (authority = place ∨ ∃ user, authority = user ++ '@' :: place)

/-- The host of a place: what stands in its brackets, or before its colon when it has none.  Only a
port may stand behind the brackets, and nothing before them; they need not be closed. -/
inductive IsHost : List Char → List Char → Prop
  | bracketed {host port : List Char} (closed : ']' ∉ host) (isPort : ∀ c ∈ port.head?, c = ':') :
      IsHost ('[' :: (host ++ ']' :: port)) host
  | unclosed {host : List Char} (notClosed : ']' ∉ host) : IsHost ('[' :: host) host
  | plain {place host port : List Char} (bare : '[' ∉ place) (cut : Cut (· != ':') place host port) :
      IsHost place host

/-- Brackets in an authority are of both kinds, and then its host is a numeric address. -/
inductive BracketsFit (authority : List Char) : Prop
  | absent (noOpening : '[' ∉ authority) (noClosing : ']' ∉ authority)
  | numeric {place host : List Char} (opening : '[' ∈ authority) (closing : ']' ∈ authority)
      (isPlace : IsPlace authority place) (isHost : IsHost place host)
      (address : Host.IsBracketable host)

/-- An authority is sound when its brackets fit and none of its characters disguises a
delimiter. -/
structure IsSound (authority : List Char) : Prop where
  brackets : BracketsFit authority
  plain : ∀ c ∈ authority, isDisguised c = false

/-- A character below those that have compatible parts disguises nothing. -/
theorem isDisguised_of_lt {c : Char} (small : c.toNat < 0xa0) : isDisguised c = false := by
  have alone : compatibleParts c = [c] := by
    simp [compatibleParts, decompositionDepth, partsWith, compatibilityStep?, small]
  simp [isDisguised, alone]

theorem hostFault?_eq_none_iff {host : List Char} :
    hostFault? host = none ↔ Host.IsBracketable host := by
  rw [hostFault?, Host.IsBracketable]
  by_cases later : host.head? = some 'v'
  · have not6 : Host.isVersion6 host ≠ true :=
      fun version6 => Host.head?_ne_of_isVersion6 version6 later
    simp [later, not6]
  · have notLater : Host.isLaterVersion host ≠ true :=
      fun isLater => later (Host.head?_eq_of_isLaterVersion isLater)
    by_cases version6 : Host.isVersion6 host = true
    · simp [later, version6, Host.not_isVersion4_of_isVersion6 version6]
    · refine iff_of_false ?_ (by simp [version6, notLater])
      rw [if_neg later, if_neg version6]
      split
      · simp
      · simp

section Authorities

variable {authority place host : List Char}

theorem isPlace_iff : IsPlace authority place ↔ afterLast '@' authority = place := by
  constructor
  · rintro ⟨free, whole⟩
    have free' : '@' ∉ place.reverse := by simpa using free
    obtain ⟨user, cut⟩ : ∃ user, Cut (· != '@') authority.reverse place.reverse user := by
      rcases whole with rfl | ⟨user, rfl⟩
      · exact ⟨[], cut_self free'⟩
      · exact ⟨'@' :: user.reverse, by simpa using cut_before free'⟩
    rw [afterLast, cut.takeWhile_eq, List.reverse_reverse]
  · rintro rfl
    have cut := cut_takeWhile (· != '@') authority.reverse
    refine ⟨by simpa [afterLast] using cut.not_mem, ?_⟩
    have whole := congrArg List.reverse cut.whole
    rw [List.reverse_reverse, List.reverse_append] at whole
    rcases cut.after_cases with none | ⟨user, some⟩
    · rw [none] at whole
      exact .inl whole
    · rw [some, List.reverse_cons, List.append_assoc] at whole
      exact .inr ⟨user.reverse, whole⟩

theorem isHost_iff_of_not_mem (bare : '[' ∉ place) :
    IsHost place host ↔ beforeFirst ':' place = host := by
  constructor
  · intro isHost
    cases isHost with
    | bracketed => exact (bare List.mem_cons_self).elim
    | unclosed => exact (bare List.mem_cons_self).elim
    | plain _ cut => exact cut.takeWhile_eq
  · rintro rfl
    exact .plain bare (cut_takeWhile _ _)

theorem isHost_cons_iff {bracketed : List Char} :
    IsHost ('[' :: bracketed) host ↔
      beforeFirst ']' bracketed = host ∧
        ∀ c ∈ (bracketed.drop (host.length + 1)).head?, c = ':' := by
  constructor
  · intro isHost
    cases isHost with
    | bracketed closed isPort =>
        refine ⟨(cut_before closed).takeWhile_eq, ?_⟩
        simpa using isPort
    | unclosed notClosed =>
        refine ⟨(cut_self notClosed).takeWhile_eq, ?_⟩
        simp
    | plain bare => exact (bare List.mem_cons_self).elim
  · rintro ⟨rfl, isPort⟩
    have cut := cut_takeWhile (· != ']') bracketed
    rw [beforeFirst] at isPort ⊢
    generalize bracketed.takeWhile (· != ']') = host at cut isPort ⊢
    generalize bracketed.dropWhile (· != ']') = rest at cut
    obtain rfl := cut.whole
    rcases cut.after_cases with rfl | ⟨port, rfl⟩
    · rw [List.append_nil]
      exact .unclosed cut.not_mem
    · exact .bracketed cut.not_mem (by simpa using isPort)

/-- Nothing stands before the brackets of a host. -/
theorem IsHost.exists_eq_cons (isHost : IsHost place host) (opening : '[' ∈ place) :
    ∃ bracketed, place = '[' :: bracketed := by
  cases isHost with
  | bracketed => exact ⟨_, rfl⟩
  | unclosed => exact ⟨_, rfl⟩
  | plain bare => exact (bare opening).elim

/-- Where brackets of both kinds are, the host has to be a numeric address. -/
theorem bracketFault?_eq_none_iff_of_mem (opening : '[' ∈ authority) (closing : ']' ∈ authority)
    (isPlace : IsPlace authority place) :
    bracketFault? authority = none ↔
      ∃ host, IsHost place host ∧ Host.IsBracketable host := by
  simp only [bracketFault?, List.contains_iff_mem.mpr opening, List.contains_iff_mem.mpr closing,
    isPlace_iff.mp isPlace, bne_self_eq_false, Bool.not_true, Bool.false_eq_true, if_false]
  cases split : splitFirst? '[' place with
  | none =>
      have bare := splitFirst?_eq_none_iff.mp split
      simp [isHost_iff_of_not_mem bare, hostFault?_eq_none_iff]
  | some parts =>
      obtain ⟨before, bracketed⟩ := parts
      obtain ⟨rfl, absent⟩ := splitFirst?_eq_some_iff.mp split
      cases before with
      | nil =>
          simp only [List.nil_append, isHost_cons_iff, and_assoc, exists_eq_left',
            ← hostFault?_eq_none_iff]
          cases bracketed.drop ((beforeFirst ']' bracketed).length + 1) with
          | nil => simp
          | cons c port => by_cases colon : c = ':' <;> simp [colon]
      | cons c more =>
          refine iff_of_false nofun ?_
          rintro ⟨host, isHost, _⟩
          obtain ⟨behind, whole⟩ := isHost.exists_eq_cons (by simp)
          obtain rfl : c = '[' := (List.cons.inj whole).1
          exact absent List.mem_cons_self

theorem BracketsFit.paired (fits : BracketsFit authority) :
    '[' ∈ authority ↔ ']' ∈ authority := by
  cases fits with
  | absent noOpening noClosing => exact iff_of_false noOpening noClosing
  | numeric opening closing => exact iff_of_true opening closing

theorem contains_eq_false {c : Char} (absent : c ∉ authority) : authority.contains c = false := by
  rw [Bool.eq_false_iff, ne_eq, List.contains_iff_mem]
  exact absent

theorem bracketFault?_of_not_mem (noOpening : '[' ∉ authority) (noClosing : ']' ∉ authority) :
    bracketFault? authority = none := by
  simp only [bracketFault?, contains_eq_false noOpening, contains_eq_false noClosing,
    bne_self_eq_false, Bool.false_eq_true, Bool.not_false, if_false, if_true]

/-- A bracket without its counterpart is misplaced wherever it stands. -/
theorem bracketFault?_of_unpaired (unpaired : ¬ ('[' ∈ authority ↔ ']' ∈ authority)) :
    bracketFault? authority = some .misplacedBracket := by
  have differ : (authority.contains '[' != authority.contains ']') = true := by
    rw [bne_iff_ne, ne_eq, Bool.eq_iff_iff, List.contains_iff_mem, List.contains_iff_mem]
    exact unpaired
  simp only [bracketFault?, differ, if_true]

theorem bracketFault?_eq_none_iff : bracketFault? authority = none ↔ BracketsFit authority := by
  by_cases paired : '[' ∈ authority ↔ ']' ∈ authority
  · by_cases opening : '[' ∈ authority
    · have closing := paired.mp opening
      have isPlace : IsPlace authority (afterLast '@' authority) := isPlace_iff.mpr rfl
      rw [bracketFault?_eq_none_iff_of_mem opening closing isPlace]
      constructor
      · rintro ⟨host, isHost, address⟩
        exact .numeric opening closing isPlace isHost address
      · intro fits
        cases fits with
        | absent noOpening => exact (noOpening opening).elim
        | numeric _ _ other isHost address =>
            rw [isPlace_iff.mp other]
            exact ⟨_, isHost, address⟩
    · have closing : ']' ∉ authority := fun closing => opening (paired.mpr closing)
      exact iff_of_true (bracketFault?_of_not_mem opening closing) (.absent opening closing)
  · refine iff_of_false ?_ fun fits => paired fits.paired
    rw [bracketFault?_of_unpaired paired]
    simp

theorem authorityFault?_eq_none_iff : authorityFault? authority = none ↔ IsSound authority := by
  rw [authorityFault?]
  cases faulty : bracketFault? authority with
  | some fault =>
      have misfit : ¬ BracketsFit authority := by
        rw [← bracketFault?_eq_none_iff, faulty]
        exact Option.some_ne_none fault
      exact iff_of_false (Option.some_ne_none fault) fun sound => misfit sound.brackets
  | none =>
      have fits := bracketFault?_eq_none_iff.mp faulty
      rw [Option.orElse_none]
      cases disguised : authority.any isDisguised with
      | true =>
          obtain ⟨c, member, isDisguised⟩ := List.any_eq_true.mp disguised
          rw [if_pos rfl]
          refine iff_of_false (Option.some_ne_none _) fun sound => ?_
          exact Bool.eq_false_iff.mp (sound.plain c member) isDisguised
      | false =>
          have plain := List.any_eq_false.mp disguised
          rw [if_neg Bool.false_ne_true]
          exact iff_of_true rfl ⟨fits, fun c member => Bool.eq_false_iff.mpr (plain c member)⟩

end Authorities

/-! ## Reading -/

section Reading

variable {scheme authority : List Char} {text : String}

theorem parse_of_names (names : Names (counted text) scheme authority) :
    parse text =
      match authorityFault? authority with
      | some fault => .error fault
      | none => .ok ⟨String.ofList scheme, String.ofList authority⟩ := by
  obtain ⟨rest, split, rfl⟩ := names_iff.mp names
  rw [counted] at split
  simp only [parse, split]
  rfl

theorem parse_of_nameless
    (nameless : ∀ scheme authority, ¬ Names (counted text) scheme authority) :
    ∃ scheme, parse text = .ok ⟨scheme, ""⟩ := by
  cases divided : splitScheme (counted text) with
  | mk scheme rest =>
      have alone : ∀ behind, rest ≠ '/' :: '/' :: behind := by
        rintro behind rfl
        exact nameless _ _ (names_iff.mpr ⟨behind, divided, rfl⟩)
      rw [counted] at divided
      refine ⟨String.ofList scheme, ?_⟩
      simp only [parse, divided]

end Reading

end Url
end AlertRelay
