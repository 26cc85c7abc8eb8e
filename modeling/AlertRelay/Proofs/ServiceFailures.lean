import AlertRelay.Proofs.RawFailures
import AlertRelay.Proofs.ServiceCalls

/-!
# Failures of the table service

A call of the table service fails raw or with what the service raised.  A service that only fails
in its own ways makes no call fail that is repeated as a matter of course: its failures are
reported as outcomes.
-/

namespace AlertRelay

open Program Failure

/-- The table service answered, or it failed in one of its own ways with a code that can be told
apart from others. -/
def Exchange.IsServed : Exchange → Prop
  | ⟨.service _, .error failure⟩ =>
      failure.isServiceFailure = true ∧
        ∃ outcome, Outcome.ofServiceFailure failure = .ok outcome
  | _ => True

section Fails

variable {α : Type} {expected : Exchange → Prop} {holds : Failure → Prop}

theorem Failure.Only.fails {given : Except Failure α} (only : Only holds given) :
    (ofExcept given).Fails expected holds :=
  fails_ofExcept only

theorem fails_log {level : LogLevel} {component name : String} {details : List (String × Json)} :
    (log level component name details).Fails expected holds :=
  Yields.ask fun _ _ => Fails.done _

/-- A program that never fails ends with a value. -/
theorem not_ends_error_of_fails {program : Program α} {exchanges : List Exchange}
    {failure : Failure} (fails : program.Fails expected fun _ => False)
    (answered : ∀ exchange ∈ exchanges, expected exchange) :
    ¬ program.Ends exchanges (.error failure) := by
  intro ended
  exact fails.of_ends ended answered

/-- Attempts of a call fail as waiting between them does, as what the service raised, or for want
of a classification. -/
theorem ServiceCall.fails_attempts {call : ServiceCall} {repetition : Repetition} {limit : Nat}
    (waits : ∀ attempt < limit, ∀ failure,
      (call.waitAfter repetition attempt failure).Fails expected holds)
    (raised : ∀ failure, expected ⟨.service call, .error failure⟩ →
      failure.isServiceFailure = false → holds failure)
    (unclassified : ∀ failure, expected ⟨.service call, .error failure⟩ →
      Only holds (Outcome.ofServiceFailure failure))
    (attempt remaining : Nat) (within : attempt + remaining ≤ limit) :
    (call.attempts repetition attempt remaining).Fails expected holds := by
  induction remaining generalizing attempt with
  | zero => exact .done _
  | succ remaining ih =>
      refine Yields.ask fun answer expectedAnswer => ?_
      cases answer with
      | ok response => exact Fails.done _
      | error failure =>
          dsimp only
          split
          · split
            · rename_i fault failed
              exact Fails.fail (unclassified failure expectedAnswer fault failed)
            · split
              · exact (waits attempt (by omega) failure).bind fun _ => ih _ (by omega)
              · exact fails_log.bind fun _ => .done _
          · rename_i other
            exact Fails.fail (raised failure expectedAnswer (by simpa using other))

end Fails

theorem Failure.Only.fails_of_raw {α : Type} {expected : Exchange → Prop} {holds : Failure → Prop}
    {given : Except Failure α} (raw : ∀ failure, failure.IsRaw → holds failure)
    (only : Only IsRaw given) : (ofExcept given).Fails expected holds :=
  fails_ofExcept fun failure failed => raw failure (only failure failed)

/-! ## Calls that are repeated as usual -/

namespace Repetition

/-- How a call is repeated unless its options say otherwise. -/
def usual : Repetition := ofOptions []

/-- The pauses between usual repetitions are numbers of seconds. -/
theorem pause_usual {attempt : Nat} (within : attempt < powerLimit) :
    ∃ seconds, usual.pause attempt = .ok (.real seconds) :=
  ⟨_, if_pos within⟩

theorem fails_waitAfter_usual {expected : Exchange → Prop} {holds : Failure → Prop}
    (call : ServiceCall) (attempt : Nat) (within : attempt < powerLimit) (failure : Failure) :
    (call.waitAfter usual attempt failure).Fails expected holds := by
  obtain ⟨pause, paused⟩ := pause_usual within
  rw [ServiceCall.waitAfter, paused]
  refine fails_log.bind fun _ => ?_
  exact Yields.ask fun _ _ => Fails.done _

end Repetition

namespace TableClient

variable {tables : TableClient} {expected : Exchange → Prop} {holds : Failure → Prop}

/-- An operation that is repeated as usual fails with what the service raised, or for want of a
classification. -/
theorem fails_perform_usual {operation : Operation}
    (fits : checkOptions operation.options = .ok ())
    (repeated : Repetition.ofOptions operation.options = .usual)
    (raised : ∀ failure, expected ⟨.service (tables.sent operation), .error failure⟩ →
      failure.isServiceFailure = false → holds failure)
    (unclassified : ∀ failure, expected ⟨.service (tables.sent operation), .error failure⟩ →
      Only holds (Outcome.ofServiceFailure failure)) :
    (tables.perform operation).Fails expected holds := by
  rw [perform, fits]
  dsimp only
  rw [repeated]
  have attempted : ((tables.sent operation).attempts .usual 0 3).Fails expected holds :=
    ServiceCall.fails_attempts (Repetition.fails_waitAfter_usual _) raised unclassified 0 3
      (by decide)
  exact attempted

theorem fails_getItem_usual {table : String} {key : Json} {options : List (String × Json)}
    (fits : checkOptions options = .ok ()) (repeated : Repetition.ofOptions options = .usual)
    (raised : ∀ failure,
      expected ⟨.service (tables.sent (.getItem table key options)), .error failure⟩ →
        failure.isServiceFailure = false → holds failure)
    (unclassified : ∀ failure,
      expected ⟨.service (tables.sent (.getItem table key options)), .error failure⟩ →
        Only holds (Outcome.ofServiceFailure failure)) :
    (tables.getItem table key options).Fails expected holds :=
  fails_log.bind fun _ => fails_perform_usual fits repeated raised unclassified

theorem fails_deleteItem_usual {table : String} {key : Json} {options : List (String × Json)}
    (fits : checkOptions options = .ok ()) (repeated : Repetition.ofOptions options = .usual)
    (raised : ∀ failure,
      expected ⟨.service (tables.sent (.deleteItem table key options)), .error failure⟩ →
        failure.isServiceFailure = false → holds failure)
    (unclassified : ∀ failure,
      expected ⟨.service (tables.sent (.deleteItem table key options)), .error failure⟩ →
        Only holds (Outcome.ofServiceFailure failure)) :
    (tables.deleteItem table key options).Fails expected holds :=
  fails_log.bind fun _ => fails_perform_usual fits repeated raised unclassified

/-- An operation that is repeated as usual does not fail unless the service leaves its own ways. -/
theorem fails_perform_of_served {operation : Operation}
    (fits : checkOptions operation.options = .ok ())
    (repeated : Repetition.ofOptions operation.options = .usual) :
    (tables.perform operation).Fails Exchange.IsServed holds := by
  refine fails_perform_usual fits repeated ?_ ?_
  · intro failure served other
    have own : failure.isServiceFailure = true := served.1
    rw [own] at other
    cases other
  · intro failure served
    obtain ⟨outcome, classified⟩ : ∃ outcome, Outcome.ofServiceFailure failure = .ok outcome :=
      served.2
    rw [classified]
    exact only_ok _

theorem fails_deleteItem_of_served {table : String} {key : Json} {options : List (String × Json)}
    (fits : checkOptions options = .ok ()) (repeated : Repetition.ofOptions options = .usual) :
    (tables.deleteItem table key options).Fails Exchange.IsServed holds :=
  fails_log.bind fun _ => fails_perform_of_served fits repeated

end TableClient
end AlertRelay
