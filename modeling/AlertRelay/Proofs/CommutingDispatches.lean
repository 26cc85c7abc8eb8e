import AlertRelay.Proofs.MessageFootprints
import AlertRelay.Proofs.PushDeliveries

/-!
# Commuting dispatches

Programs with footprints apart commute: in either order they end in the same ways, and leave the
same tables and the same notes.  So do the dispatches of messages that differ in their deliveries
and do not go to the browsers of one user.
-/

namespace AlertRelay

open Program

/-! ## Programs with footprints apart -/

namespace World

variable (world : World) {α β : Type}

/-- What a program ends with in the world. -/
def outcome (program : Program α) (situation : Situation) : Except Failure α :=
  (program.run world.respond situation).1

/-- The situation after a program has run in the world. -/
def after (program : Program α) (situation : Situation) : Situation :=
  (program.run world.respond situation).2

/-- A program that does the same in situations that agree on a footprint. -/
def Keeps (footprint : Footprint) (ledger : Ledger) (subscriptions : SubscriptionStore)
    (start : Store) (program : Program α) : Prop :=
  ∀ situation partner : Situation,
    Footprint.Grounded ledger subscriptions start situation.store →
    Footprint.Grounded ledger subscriptions start partner.store →
    footprint.Agree ledger subscriptions situation.store partner.store →
      world.outcome program situation = world.outcome program partner ∧
        Alongside footprint ledger subscriptions start situation (world.after program situation)
          partner (world.after program partner)

/-- In either order, the two programs end in the same ways, and leave the same tables and the same
notes. -/
structure Commutes (first : Program α) (second : Program β) (situation : Situation) : Prop where
  outcomeFirst : world.outcome first situation = world.outcome first (world.after second situation)
  outcomeSecond :
    world.outcome second situation = world.outcome second (world.after first situation)
  tables : (world.after second (world.after first situation)).store.Same
    (world.after first (world.after second situation)).store
  notes : (world.after second (world.after first situation)).notes.Perm
    (world.after first (world.after second situation)).notes

section Keeping

variable {world} {footprint : Footprint} {ledger : Ledger} {subscriptions : SubscriptionStore}
  {start : Store} {program : Program α}

/-- A program that makes no other requests than those of a footprint does the same in situations
that agree on it. -/
theorem keeps_of_within {holds : Except Failure α → Prop}
    (within : program.Within (world.Expects start) (footprint.Allows ledger subscriptions start)
      holds) :
    world.Keeps footprint ledger subscriptions start program :=
  fun _ _ grounded groundedPartner agree =>
    alongside_run grounded groundedPartner agree within

/-- A program in a context runs as it does without, up to the context before and after it. -/
theorem run_withContext (world : World) (bound : Context) (program : Program α)
    (situation : Situation) :
    ∃ entered left : Context,
      (withContext bound program).run world.respond situation =
        ((program.run world.respond { situation with context := entered }).1,
          { (program.run world.respond { situation with context := entered }).2 with
            context := left }) := by
  let entered := Context.bind situation.context bound
  let ended := program.run world.respond { situation with context := entered }
  refine ⟨entered, Context.leave ended.2.context situation.context bound, ?_⟩
  rw [Dispatch.withContext_eq]
  change (program.attempt.bind _).run world.respond { situation with context := entered } = _
  rw [run_bind, run_attempt]
  change (ofExcept ended.1).run world.respond _ = _
  cases ended.1 <;> rfl

/-- The context of a program does not matter to what it does otherwise. -/
theorem Keeps.withContext (keeps : world.Keeps footprint ledger subscriptions start program)
    (bound : Context) :
    world.Keeps footprint ledger subscriptions start (withContext bound program) := by
  intro situation partner grounded groundedPartner agree
  obtain ⟨entered, left, ran⟩ := run_withContext world bound program situation
  obtain ⟨enteredPartner, leftPartner, ranPartner⟩ := run_withContext world bound program partner
  obtain ⟨same, alongside⟩ := keeps { situation with context := entered }
    { partner with context := enteredPartner } grounded groundedPartner agree
  rw [outcome, outcome, after, after, ran, ranPartner]
  exact ⟨same, alongside.grounded, alongside.groundedPartner, alongside.frame, alongside.agree,
    alongside.notes⟩

end Keeping
end World

namespace Footprint

variable {first second : Footprint} {ledger : Ledger} {subscriptions : SubscriptionStore}
  {start before after : Store}

theorem Agree.mem_iff (agree : first.Agree ledger subscriptions before after)
    {row : String × Json} (own : first.owns row = true) :
    row ∈ (before.table subscriptions.table).items ↔
      row ∈ (after.table subscriptions.table).items := by
  have same : row ∈ (before.table subscriptions.table).items.filter first.owns ↔
      row ∈ (after.table subscriptions.table).items.filter first.owns := by
    rw [agree.browsers]
  simpa [List.mem_filter, own] using same

/-- What stays within one footprint keeps what lies within another one that is apart. -/
theorem Frame.agree_of_apart (frame : second.Frame ledger subscriptions before after)
    (apart : first.Apart second)
    (remaining : (after.table subscriptions.table).items.Sublist
      (before.table subscriptions.table).items)
    (distinct : ((before.table subscriptions.table).items.map Prod.fst).Nodup) :
    first.Agree ledger subscriptions before after := by
  refine ⟨fun key own => (frame.deliveries key (apart.not_hasKey own)).symm, ?_,
    fun name notLedger notBrowsers => (frame.others name notLedger notBrowsers).symm⟩
  have kept := remaining.filter first.owns
  have nodup := distinct.of_map.filter first.owns
  have same : ((before.table subscriptions.table).items.filter first.owns).Perm
      ((after.table subscriptions.table).items.filter first.owns) := by
    refine (List.perm_ext_iff_of_nodup nodup (nodup.sublist kept)).mpr fun row => ?_
    rw [List.mem_filter, List.mem_filter, and_congr_left fun own =>
      (frame.browsers row (apart.owns_eq_false own)).symm]
  exact (kept.eq_of_length same.length_eq.symm).symm

section Orders

/-! The first program leads from the start to `one`, and the second one on to `both`; in the other
order, the second program leads to `other`, and the first one on to `swapped`. -/

variable {one both other swapped : Store} (apart : first.Apart second)
  (toOne : first.Frame ledger subscriptions start one)
  (toBoth : second.Frame ledger subscriptions one both)
  (toOther : second.Frame ledger subscriptions start other)
  (toSwapped : first.Frame ledger subscriptions other swapped)
  (sameFirst : first.Agree ledger subscriptions one swapped)
  (sameSecond : second.Agree ledger subscriptions other both)

include apart toOne toBoth toOther toSwapped sameFirst sameSecond

theorem delivery_of_orders (key : String) :
    both.row? ledger.table key = swapped.row? ledger.table key := by
  by_cases ofFirst : first.HasKey key
  · calc
      both.row? ledger.table key = one.row? ledger.table key :=
        toBoth.deliveries key (apart.not_hasKey ofFirst)
      _ = swapped.row? ledger.table key := sameFirst.deliveries key ofFirst
  · rw [toSwapped.deliveries key ofFirst]
    by_cases ofSecond : second.HasKey key
    · exact (sameSecond.deliveries key ofSecond).symm
    · rw [toBoth.deliveries key ofSecond, toOne.deliveries key ofFirst,
        toOther.deliveries key ofSecond]

theorem browser_of_orders (row : String × Json) :
    row ∈ (both.table subscriptions.table).items ↔
      row ∈ (swapped.table subscriptions.table).items := by
  by_cases ofFirst : first.owns row = true
  · rw [toBoth.browsers row (apart.owns_eq_false ofFirst)]
    exact sameFirst.mem_iff ofFirst
  · rw [Bool.not_eq_true] at ofFirst
    rw [toSwapped.browsers row ofFirst]
    by_cases ofSecond : second.owns row = true
    · exact (sameSecond.mem_iff ofSecond).symm
    · rw [Bool.not_eq_true] at ofSecond
      rw [toBoth.browsers row ofSecond, toOne.browsers row ofFirst, toOther.browsers row ofSecond]

omit apart sameFirst sameSecond in
theorem table_of_orders {name : String} (notLedger : name ≠ ledger.table)
    (notBrowsers : name ≠ subscriptions.table) : both.table name = swapped.table name := by
  rw [toBoth.others name notLedger notBrowsers, toOne.others name notLedger notBrowsers,
    toSwapped.others name notLedger notBrowsers, toOther.others name notLedger notBrowsers]

/-- Both orders lead to the same tables. -/
theorem same_of_orders (groundedBoth : Grounded ledger subscriptions start both)
    (groundedSwapped : Grounded ledger subscriptions start swapped)
    (distinct : ((start.table subscriptions.table).items.map Prod.fst).Nodup) :
    both.Same swapped := by
  intro name
  by_cases isLedger : name = ledger.table
  · subst isLedger
    exact ⟨groundedBoth.deliveries.trans groundedSwapped.deliveries.symm,
      delivery_of_orders apart toOne toBoth toOther toSwapped sameFirst sameSecond⟩
  · by_cases isBrowsers : name = subscriptions.table
    · subst isBrowsers
      refine ⟨groundedBoth.browsers.trans groundedSwapped.browsers.symm, ?_⟩
      exact Table.get?_eq_of_mem_iff (distinct.sublist (groundedBoth.remaining.map Prod.fst))
        (distinct.sublist (groundedSwapped.remaining.map Prod.fst))
        (browser_of_orders apart toOne toBoth toOther toSwapped sameFirst sameSecond)
    · have same := table_of_orders toOne toBoth toOther toSwapped isLedger isBrowsers
      exact ⟨by rw [same], fun key => by rw [Store.row?, Store.row?, same]⟩

end Orders
end Footprint

namespace World

variable {world : World} {α β : Type} {first second : Footprint} {ledger : Ledger}
  {subscriptions : SubscriptionStore} {situation : Situation}

/-- Programs with footprints apart commute. -/
theorem Keeps.commutes {programFirst : Program α} {programSecond : Program β}
    (keepsFirst : world.Keeps first ledger subscriptions situation.store programFirst)
    (keepsSecond : world.Keeps second ledger subscriptions situation.store programSecond)
    (apart : first.Apart second)
    (grounded : Footprint.Grounded ledger subscriptions situation.store situation.store)
    (distinct : ((situation.store.table subscriptions.table).items.map Prod.fst).Nodup) :
    world.Commutes programFirst programSecond situation := by
  -- Each program alone stays within its footprint, so the other one finds its own part unchanged.
  have aloneFirst := (keepsFirst _ _ grounded grounded (.refl _)).2
  have aloneSecond := (keepsSecond _ _ grounded grounded (.refl _)).2
  have agreeFirst := aloneSecond.frame.agree_of_apart apart aloneSecond.grounded.remaining distinct
  have agreeSecond :=
    aloneFirst.frame.agree_of_apart apart.symm aloneFirst.grounded.remaining distinct
  obtain ⟨outcomeFirst, sameFirst⟩ := keepsFirst _ _ grounded aloneSecond.grounded agreeFirst
  obtain ⟨outcomeSecond, sameSecond⟩ := keepsSecond _ _ grounded aloneFirst.grounded agreeSecond
  have swapped := (keepsFirst _ _ aloneSecond.grounded grounded agreeFirst.symm).2
  have both := (keepsSecond _ _ aloneFirst.grounded grounded agreeSecond.symm).2
  refine ⟨outcomeFirst, outcomeSecond, ?_, ?_⟩
  · exact Footprint.same_of_orders apart aloneFirst.frame both.frame aloneSecond.frame
      swapped.frame sameFirst.agree sameSecond.agree both.grounded swapped.grounded distinct
  · obtain ⟨addedFirst, notesFirst, notesFirstLater⟩ := sameFirst.notes
    obtain ⟨addedSecond, notesSecond, notesSecondLater⟩ := sameSecond.notes
    rw [notesFirstLater, notesSecondLater, notesFirst, notesSecond, List.append_assoc,
      List.append_assoc]
    exact List.perm_append_comm.append_left _

end World

/-! ## Dispatches of unrelated messages -/

/-- The tables of a deployment: deliveries under their keys, and subscriptions under their
endpoints, each of them once. -/
structure Store.IsDeployed (store : Store) (ledger : Ledger) (subscriptions : SubscriptionStore) :
    Prop where
  deliveries : (store.table ledger.table).keyName = "delivery_key"
  browsers : (store.table subscriptions.table).keyName = "endpoint"
  distinct : ((store.table subscriptions.table).items.map Prod.fst).Nodup
  keyed : (store.table subscriptions.table).KeyedByEndpoint

theorem Store.IsDeployed.grounded {store : Store} {ledger : Ledger}
    {subscriptions : SubscriptionStore} (deployed : store.IsDeployed ledger subscriptions) :
    Footprint.Grounded ledger subscriptions store store :=
  ⟨deployed.deliveries, deployed.browsers, .refl _⟩

namespace Dispatch

variable {world : World} {site : Site} {subscriptions : SubscriptionStore} {start : Store}
  {config : Config} {message : Message}

/-- A dispatch does the same in situations that agree on the footprint of its message. -/
theorem keeps_send
    (distinct : ((start.table subscriptions.table).items.map Prod.fst).Nodup)
    (keyed : (start.table subscriptions.table).KeyedByEndpoint) :
    world.Keeps (world.footprint config message) site.ledger subscriptions start
      (send site (.standard subscriptions) config message) :=
  (World.keeps_of_within (within_sendSteps distinct keyed)).withContext _

/-- Unrelated dispatches commute.  In a world where the outcome of every request depends on its
arguments and the rows that it addresses, the dispatches of two messages that differ in their
deliveries as they are sent, and do not both go to the browsers of one user, end in the same ways
in either order, and leave the same tables and the same notes. -/
theorem send_comm {situation : Situation}
    (deployed : situation.store.IsDeployed site.ledger subscriptions) {first second : Message}
    (apart : (world.footprint config first).Apart (world.footprint config second)) :
    world.Commutes (send site (.standard subscriptions) config first)
      (send site (.standard subscriptions) config second) situation :=
  (keeps_send deployed.distinct deployed.keyed).commutes
    (keeps_send deployed.distinct deployed.keyed) apart deployed.grounded deployed.distinct

end Dispatch

/-! ## A service that never fails -/

namespace Table

/-- A page holds items of the table. -/
theorem mem_of_page {table : Table} {user : Json} {start : Option String} {size : Nat}
    {items : List Json} (read : TableClient.pageItems (table.page user start size) = .ok items)
    {item : Json} (member : item ∈ items) : ∃ key, (key, item) ∈ table.items := by
  have onPage : TableClient.pageItems (table.page user start size) =
      .ok (((after start (table.ofUser user)).take size).map Prod.snd) := by
    dsimp only [page]
    split
    · split <;> rfl
    · rfl
  rw [onPage] at read
  cases read
  obtain ⟨⟨key, _⟩, taken, rfl⟩ := List.mem_map.mp member
  have remaining : (after start (table.ofUser user)).Sublist (table.ofUser user) := by
    cases start with
    | none => exact .refl _
    | some place => exact (List.drop_sublist 1 _).trans (List.dropWhile_sublist _)
  exact ⟨key, List.mem_of_mem_filter (remaining.subset (List.mem_of_mem_take taken))⟩

end Table

namespace World

/-- What a service that never fails answers from the addressed rows. -/
def served (pageSize : Nat) (call : ServiceCall) (rows : List (String × Json)) :
    Except Failure Json :=
  match call.operation with
  | .getItem .. => .ok (.object (rows.head?.map fun row => ("Item", row.2)).toList)
  | .putItem .. => if rows.isEmpty then .ok (.object []) else .error (Store.conflict call.method)
  | .query _ options =>
      .ok ((Table.mk "" rows).page (Store.queriedUser options) (Store.startKey options) pageSize)
  | _ => .ok (.object [])

/-- A world with given answers, whose table service never fails and whose notes are taken. -/
def reliable (answer : (request : Request) → request.Answer) (pageSize : Nat) : World where
  answer
  serve call rows := (served pageSize call rows, true)
  takes _ := true
  tells := by
    intro call name options rows page items operation answered read item member
    simp only [served, operation] at answered
    cases answered
    exact Table.mem_of_page read member

end World

namespace Sample

/-- The row of a browser of a user. -/
def rowOf (user endpoint : String) : String × Json :=
  (endpoint, .object
    [("endpoint", Attribute.ofText endpoint), ("user_id", Attribute.ofText user),
      ("data", Attribute.ofText (PushSubscription.mk endpoint "a" "k").exchangeJson.encode)])

/-- Three browsers of two users, and no deliveries. -/
def shared : Situation where
  store :=
    ⟨[(deliveries, ⟨"delivery_key", []⟩),
      ("subscriptions", ⟨"endpoint", [rowOf "u" "/1", rowOf "v" "/2", rowOf "v" "/3"]⟩)], 10⟩
  context := []
  notes := []

/-- A world in which one of the browsers is gone, and only one of the users has a telephone. -/
def world : World :=
  .reliable
    (fun
      | .push request =>
          if request.subscription.endpoint = "/3" then .error (.push "gone" (some 410)) else .ok ()
      | .contactMethods userId =>
          .ok (if userId = "u" then [⟨"cm-voice", userId, telephone⟩] else [])
      | request => answer request)
    10

/-- A message about the alert for the browsers of the user without a telephone. -/
def browsed : Message :=
  { alert "browsed" with
    userId := some "v"
    destination := ⟨BrowserPush.type, []⟩
    destinationId := .contactMethod "cm-browser" (by decide) }

end Sample

/-- Two messages about one alert, of which one is promoted to a telephone and the other one goes to
two browsers, one of which is gone. -/
theorem send_comm_of_alert :
    Sample.shared.store.IsDeployed Sample.site.ledger Sample.browserStore ∧
      (Sample.world.footprint Sample.pushConfig (Sample.alert "promoted")).Apart
        (Sample.world.footprint Sample.pushConfig Sample.browsed) ∧
      Sample.world.Commutes
        (Dispatch.send Sample.site (.standard Sample.browserStore) Sample.pushConfig
          (Sample.alert "promoted"))
        (Dispatch.send Sample.site (.standard Sample.browserStore) Sample.pushConfig
          Sample.browsed)
        Sample.shared := by
  have deployed : Sample.shared.store.IsDeployed Sample.site.ledger Sample.browserStore :=
    ⟨by decide +kernel, by decide +kernel, by decide +kernel, by decide +kernel⟩
  have promoted : Sample.world.footprint Sample.pushConfig (Sample.alert "promoted") =
      ⟨some (7, Sample.telephoneId), none⟩ := by
    decide +kernel
  have pushed : Sample.world.footprint Sample.pushConfig Sample.browsed =
      ⟨some (7, Sample.browsed.destinationId), some "v"⟩ := by
    decide +kernel
  have apart : (Sample.world.footprint Sample.pushConfig (Sample.alert "promoted")).Apart
      (Sample.world.footprint Sample.pushConfig Sample.browsed) := by
    rw [promoted, pushed]
    refine ⟨?_, nofun⟩
    rintro _ ⟨⟩
    decide
  exact ⟨deployed, apart, Dispatch.send_comm deployed apart⟩

end AlertRelay
