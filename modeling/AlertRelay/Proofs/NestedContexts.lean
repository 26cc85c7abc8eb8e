import AlertRelay.Proofs.MessageContext
import AlertRelay.Proofs.Surroundings
import Mathlib.Data.List.Forall2

/-!
# Nested message contexts

Blocks of messages may be entered within each other, with variables that hide those of the blocks
around them, and be left normally or by a failure.  At every point the bound variables are the
initial ones under those of the blocks that are still open, the innermost on top.
-/

namespace AlertRelay

open Program

namespace Context

variable {context previous bound : Context} {name : String}

theorem Distinct.bind (distinct : context.Distinct) (bound : Context) :
    Distinct (Context.bind context bound) :=
  nodup_names_setEntries distinct bound

theorem Distinct.leave (distinct : context.Distinct) (previous bound : Context) :
    Distinct (Context.leave context previous bound) :=
  (distinct.filter _).bind _

end Context

/-! ## Blocks -/

/-- A block of a message, by what is told about the message when the block is entered. -/
structure MessageBlock where
  messageId : Json
  messageType : Json
  destinationType : Json
  userId : Json
  extra : Context

namespace MessageBlock

/-- The variables of a block. -/
def bound (block : MessageBlock) : Context :=
  Context.ofMessage block.messageId block.messageType block.destinationType block.userId
    block.extra

/-- The id of a block: the one among the additional variables, or else the one of the message. -/
def callbackId (block : MessageBlock) : Json :=
  (block.extra.reverse.lookup Context.callbackVariable).getD block.messageId

theorem distinct_bound (block : MessageBlock) : block.bound.Distinct := by
  refine Context.Distinct.bind ?_ block.extra
  have named : [Context.callbackVariable, "message_type", "dest_type", "user_id"].Nodup := by
    decide
  exact ((List.filter_sublist.map Prod.fst).cons_cons _).nodup named

theorem lookup_callbackVariable (block : MessageBlock) :
    block.bound.lookup Context.callbackVariable = some block.callbackId := by
  rw [bound, Context.ofMessage, Context.lookup_bind, callbackId]
  cases block.extra.reverse.lookup Context.callbackVariable with
  | none => simp
  | some id => rfl

end MessageBlock

/-- What goes on with the message context: it is looked at, blocks are entered and left, and in the
end the block around it is left, normally or by a failure.  A failure that leaves a block is caught
around it; to pass it on is to raise it again. -/
inductive Nesting where
  | finish
  | raise (failure : Failure)
  | look (later : Nesting)
  | block (entered : MessageBlock) (inside later : Nesting)

namespace Nesting

def program : Nesting → Program Unit
  | finish => .done ()
  | raise failure => .fail failure
  | look later => (request .context).bind fun _ => later.program
  | block entered inside later =>
      (withContext entered.bound inside.program).attempt.bind fun _ => later.program

/-- The blocks that are open, the innermost first, at each point at which the context is asked for:
where it is looked at, and where a block is entered or left. -/
def points (opened : List MessageBlock) : Nesting → List (List MessageBlock)
  | finish => []
  | raise _ => []
  | look later => opened :: later.points opened
  | block entered inside later =>
      opened :: (inside.points (entered :: opened) ++ (entered :: opened) :: later.points opened)

end Nesting

/-- The contexts that were told in an execution. -/
def toldContexts : List Exchange → List Context
  | [] => []
  | ⟨.context, told⟩ :: later => told :: toldContexts later
  | _ :: later => toldContexts later

theorem toldContexts_append (first second : List Exchange) :
    toldContexts (first ++ second) = toldContexts first ++ toldContexts second := by
  induction first with
  | nil => rfl
  | cons exchange rest ih =>
      obtain ⟨request, answer⟩ := exchange
      cases request <;> simp [toldContexts, ih]

namespace Context

/-- The value of a variable under blocks, the innermost first, over an initial context. -/
def valueUnder (initial : Context) (opened : List MessageBlock) (name : String) : Option Json :=
  (opened.findSome? fun block => block.bound.lookup name).or (initial.lookup name)

/-- The context binds what blocks bind over an initial context. -/
def Stacks (initial : Context) (opened : List MessageBlock) (context : Context) : Prop :=
  ∀ name, context.lookup name = initial.valueUnder opened name

variable {initial context previous after : Context} {opened : List MessageBlock}
  {block : MessageBlock}

theorem valueUnder_cons (initial : Context) (block : MessageBlock) (opened : List MessageBlock)
    (name : String) :
    initial.valueUnder (block :: opened) name =
      (block.bound.lookup name).or (initial.valueUnder opened name) := by
  rw [valueUnder, List.findSome?_cons]
  cases block.bound.lookup name <;> rfl

/-- Entering a block puts its variables on top. -/
theorem Stacks.enter (held : initial.Stacks opened context) (block : MessageBlock) :
    initial.Stacks (block :: opened) (context.bind block.bound) := by
  intro name
  rw [lookup_bind, lookup_reverse block.distinct_bound, held name, valueUnder_cons]

/-- Leaving a block gives back what was bound before it. -/
theorem Stacks.leave (held : initial.Stacks (block :: opened) context)
    (before : initial.Stacks opened previous) (distinct : previous.Distinct) :
    initial.Stacks opened (context.leave previous block.bound) := by
  intro name
  rw [lookup_leave distinct]
  split
  · exact before name
  · rename_i unbound
    have absent : block.bound.lookup name = none :=
      lookup_of_not_mem (by simpa using unbound)
    rw [held name, valueUnder_cons, absent, Option.none_or]

/-- The id is that of the innermost block, or the initial one. -/
theorem Stacks.callbackId_eq (held : initial.Stacks opened context) :
    context.callbackId = (opened.head?.map MessageBlock.callbackId).getD initial.callbackId := by
  rw [callbackId, held callbackVariable]
  cases opened with
  | nil => rfl
  | cons block opened =>
      rw [valueUnder_cons, block.lookup_callbackVariable]
      rfl

end Context

namespace Nesting

variable {initial context after : Context} {opened : List MessageBlock}
  {exchanges : List Exchange} {outcome : Except Failure Unit}

/-- What goes on within open blocks keeps to the stack, and leaves the blocks as they were. -/
theorem stacks_of_ends {nesting : Nesting} (distinct : context.Distinct)
    (held : initial.Stacks opened context)
    (ended : nesting.program.Ends exchanges outcome) (through : context.Through exchanges after) :
    List.Forall₂ initial.Stacks (nesting.points opened) (toldContexts exchanges) ∧
      initial.Stacks opened after ∧ after.Distinct := by
  induction nesting generalizing context after opened exchanges outcome with
  | finish =>
      obtain ⟨rfl, _⟩ := ends_done.mp ended
      obtain rfl := Context.through_nil.mp through
      exact ⟨.nil, held, distinct⟩
  | raise failure =>
      obtain ⟨rfl, _⟩ := ends_fail.mp ended
      obtain rfl := Context.through_nil.mp through
      exact ⟨.nil, held, distinct⟩
  | look later ih =>
      obtain ⟨told, rest, rfl, endedLater⟩ := ends_ask.mp ended
      obtain ⟨_, asked, throughLater⟩ := Context.through_cons.mp through
      obtain ⟨rfl, rfl⟩ := Context.answers_context.mp asked
      obtain ⟨points, stacked, distinctAfter⟩ := ih distinct held endedLater throughLater
      exact ⟨.cons held points, stacked, distinctAfter⟩
  | block entered inside later ihInside ihLater =>
      -- A failure of the block is caught, so what stands behind it goes on in either case.
      rcases ends_bind.mp ended with
        ⟨_, noEnd, _⟩ | ⟨first, second, _, rfl, attempted, endedLater⟩
      · simp at noEnd
      obtain ⟨_, endedBlock, _⟩ := ends_attempt.mp attempted
      obtain ⟨left, throughBlock, throughLater⟩ := through.split
      obtain ⟨inner, middle, rfl, endedInside, throughInside, rfl⟩ :=
        throughBlock.withContext endedBlock
      obtain ⟨within, stacked, distinctMiddle⟩ :=
        ihInside (distinct.bind _) (held.enter entered) endedInside throughInside
      have restored := stacked.leave held distinct
      obtain ⟨points, stackedAfter, distinctAfter⟩ :=
        ihLater (distinctMiddle.leave _ _) restored endedLater throughLater
      refine ⟨?_, stackedAfter, distinctAfter⟩
      simp only [Nesting.points, toldContexts, toldContexts_append, List.cons_append,
        List.append_assoc, List.nil_append]
      exact .cons held (List.rel_append within (.cons stacked points))

/-- What is told at a point with open blocks, over an initial context. -/
structure Told (initial : Context) (opened : List MessageBlock) (context : Context) : Prop where
  bound : initial.Stacks opened context
  callbackId : context.callbackId =
    (opened.head?.map MessageBlock.callbackId).getD initial.callbackId

/-- The message context is a stack: at every point it binds what the open blocks bind over the
initial context, and its id is that of the innermost one; when all blocks are left, everything is
bound as it was. -/
theorem context_is_stack {nesting : Nesting} {initial after : Context} {exchanges : List Exchange}
    {outcome : Except Failure Unit} (distinct : initial.Distinct)
    (ended : nesting.program.Ends exchanges outcome) (through : initial.Through exchanges after) :
    List.Forall₂ (Told initial) (nesting.points []) (toldContexts exchanges) ∧
      (∀ name, after.lookup name = initial.lookup name) ∧
      after.callbackId = initial.callbackId := by
  have unopened : initial.Stacks [] initial := fun _ => rfl
  obtain ⟨points, stacked, _⟩ := stacks_of_ends distinct unopened ended through
  refine ⟨points.imp fun _ _ held => ⟨held, held.callbackId_eq⟩, stacked, ?_⟩
  exact stacked.callbackId_eq

end Nesting

/-! ## Two blocks -/

namespace Sample

/-- A context that binds an id already. -/
def outerContext : Context := [("callback_id", .text "m-0"), ("attempt", .integer 0)]

def outerBlock : MessageBlock :=
  ⟨.text "m-1", .text "alert_notification", .null, .text "u", [("attempt", .integer 1)]⟩

/-- A block with an id among its additional variables. -/
def innerBlock : MessageBlock :=
  ⟨.text "m-2", .null, .text "builtin-webhook", .text "v", [("callback_id", .text "m-3")]⟩

/-- Two blocks within each other, of which the inner one is left by a failure that the outer one
passes on. -/
def twoBlocks : Nesting :=
  let failure := Failure.foreign "KeyError" "'k'"
  .block outerBlock (.block innerBlock (.look (.raise failure)) (.look (.raise failure)))
    (.look .finish)

end Sample

/-- Through two blocks and a failure that leaves both, the id is that of the innermost block. -/
theorem Nesting.context_is_stack_through_failure :
    ∃ exchanges outcome after, Sample.outerContext.Distinct ∧
      Sample.twoBlocks.program.Ends exchanges outcome ∧
      Sample.outerContext.Through exchanges after ∧
      List.Forall₂ (Told Sample.outerContext) (Sample.twoBlocks.points [])
        (toldContexts exchanges) ∧
      (∀ name, after.lookup name = Sample.outerContext.lookup name) ∧
      after.callbackId = .text "m-0" ∧
      (toldContexts exchanges).map Context.callbackId =
        ["m-0", "m-1", "m-3", "m-3", "m-1", "m-1", "m-0"].map Json.text := by
  let program := Sample.twoBlocks.program
  have distinct : (Sample.outerContext.map Prod.fst).Nodup := by
    decide
  have ended := ends_run (answerWithin Sample.answer) program (Sample.tables, Sample.outerContext)
  have through := Context.through_run Prod.snd (context_answerWithin Sample.answer) program
    (Sample.tables, Sample.outerContext)
  obtain ⟨told, restored, callbackId⟩ := context_is_stack distinct ended through
  exact ⟨_, _, _, distinct, ended, through, told, restored, callbackId, rfl⟩

end AlertRelay
