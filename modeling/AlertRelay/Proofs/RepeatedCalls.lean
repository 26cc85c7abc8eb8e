import AlertRelay.Proofs.ExactNumbers
import AlertRelay.Proofs.Surroundings
import Mathlib.Data.ENat.Lattice

/-!
# Calls that are repeated

A call of the table service is made until an answer is final or its repetitions are used up.  The
answers alone decide how often that is, and the pauses between the attempts are the first one times
the powers of two.
-/

namespace AlertRelay

open Program

namespace Repetition

end Repetition

/-! ## Answers that come in turn -/

/-- Answers to all requests but the calls of the service, which gives the answers of a sequence one
after the other; the state counts the calls. -/
def answerInTurn (answer : (request : Request) → request.Answer)
    (answers : ℕ → Except Failure Json) (request : Request) (made : ℕ) : request.Answer × ℕ :=
  match request with
  | .service _ => (answers made, made + 1)
  | request => (answer request, made)

namespace ServiceCall

inductive Turn where
  | attempt (call : ServiceCall)
  | pause (seconds : Option ℚ)

namespace Turn

def isAttempt : Turn → Bool
  | attempt _ => true
  | pause _ => false

def ofExchange? : Exchange → Option Turn
  | ⟨.service call, _⟩ => some (attempt call)
  | ⟨.sleep seconds, _⟩ => some (pause seconds.value?)
  | _ => none

def round (call : ServiceCall) (factor : ℚ) (made : ℕ) : List Turn :=
  [attempt call, pause (some (factor * 2 ^ made))]

/-- Attempts, from a count of them on, with a pause between each two. -/
def schedule (call : ServiceCall) (factor : ℚ) (made repeats : ℕ) : List Turn :=
  (List.range' made repeats).flatMap (round call factor) ++ [attempt call]

end Turn

/-- What a call comes to whose last answer is given. -/
def conclude (call : ServiceCall) : Except Failure Json → Except Failure Outcome
  | .ok response => .ok (.success response s!"{call.name} succeeded")
  | .error failure =>
      if failure.isServiceFailure then Outcome.ofServiceFailure failure else .error failure

/-! ## One attempt -/

/-- The turns of a program, and what it comes to, when the answers of the service come in turn. -/
def course (answer : (request : Request) → request.Answer) (answers : ℕ → Except Failure Json)
    (program : Program Outcome) (made : ℕ) : List Turn × Except Failure Outcome :=
  ((program.exchanges (answerInTurn answer answers) made).filterMap Turn.ofExchange?,
    (program.run (answerInTurn answer answers) made).1)

section Course

variable (answer : (request : Request) → request.Answer) {answers : ℕ → Except Failure Json}
  {call : ServiceCall} {repetition : Repetition} {attempt remaining : ℕ}

end Course

/-! ## The law of repetition -/

end ServiceCall
end AlertRelay
