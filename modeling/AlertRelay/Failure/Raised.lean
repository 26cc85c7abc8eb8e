import AlertRelay.Failure.Foreign

/-!
# Raised failures

Failures of the library and of the table service by the name and the arguments that they are
raised with.  Raising a failure can itself fail: when arguments are missing or too many, or when
an argument does not have the shape that the failure needs.
-/

namespace AlertRelay
namespace Failure

/-! ## Failures of the dispatch and of the provider layer -/

/-- What a kind of failure is raised with: names that have to be given, and how many arguments may
follow them. -/
structure Signature where
  owner : String
  required : List String
  optional : Nat

/-- What the kinds of failures with named details are raised with. -/
def signature? : String → Option Signature
  | "DispatchError" => some ⟨"DispatchError", ["operation"], 1⟩
  | "TrackingError" => some ⟨"DispatchError", ["operation"], 1⟩
  | "LookupFailedError" => some ⟨"LookupFailedError", ["operation"], 1⟩
  | "OriginalNotificationNotFoundError" =>
      some ⟨"OriginalNotificationNotFoundError", ["alert_id", "dest"], 0⟩
  | "ProviderConfigurationError" =>
      some ⟨"ProviderConfigurationError", ["provider", "message"], 0⟩
  | "UnsupportedMessageError" =>
      some ⟨"UnsupportedMessageError", ["provider", "message_type"], 0⟩
  | "UnknownDestinationTypeError" => some ⟨"UnknownDestinationTypeError", ["dest_type"], 0⟩
  | "FieldValidationError" => some ⟨"FieldValidationError", ["field_id", "reason"], 1⟩
  | _ => none

/-- Check the count of arguments; what is being raised counts as one. -/
def Signature.check (signature : Signature) (arguments : List Json) : Except Failure Unit :=
  let callable := signature.owner ++ ".__init__"
  let least := signature.required.length
  if arguments.length < least then
    .error (.wrongArguments (.missing callable (signature.required.drop arguments.length)))
  else if least + signature.optional < arguments.length then
    .error (.wrongArguments
      (.tooMany callable (least + 1) (least + signature.optional + 1) (arguments.length + 1)))
  else .ok ()

/-- The failure with the given details. -/
def ofDetails (name : String) (arguments : List Json) : Failure :=
  let part (index : Nat) : Json := arguments[index]?.getD .null
  match name with
  | "DispatchError" => .dispatch (part 0) (part 1)
  | "TrackingError" => .tracking (part 0) (part 1)
  | "LookupFailedError" => .lookup (part 0) (part 1)
  | "OriginalNotificationNotFoundError" => .firstDeliveryMissing (part 0) (part 1)
  | "ProviderConfigurationError" => .configuration (part 0) (part 1)
  | "UnsupportedMessageError" => .unsupportedPayload (part 0) (part 1)
  | "UnknownDestinationTypeError" => .unknownDestination (part 0)
  | "FieldValidationError" => .invalidField (part 0) (part 1) (part 2)
  | _ => .provider (argumentsText arguments)

/-- A failure of the dispatch or of the provider layer. -/
def ofLibrary (name : String) (arguments : List Json) : Except Failure Failure := do
  match signature? name with
  | some signature => signature.check arguments
  | none => pure ()
  pure (ofDetails name arguments)

/-! ## Refusals of the table service -/

/-- The part of a refusal that tells of the client's own attempts. -/
def metadataName : String := "ResponseMetadata"

/-- The notes of the client in an answer, when it has any. -/
def metadataOf (response : Json) : Except Failure (Option Json) :=
  match response with
  | .object members => .ok (members.lookup metadataName)
  | .list items =>
      if items.any fun item => item.literal == quoted metadataName then
        .error (.shape .listIndexed)
      else .ok none
  | .text value =>
      if 1 < (value.splitOn metadataName).length then .error (.shape .textIndexed) else .ok none
  | _ => .error (.wrongKind s!"argument of type '{response.typeName}' is not iterable")

/-- A value that must have members. -/
def requireMembers (value : Json) : Except Failure Unit :=
  match value with
  | .object _ => .ok ()
  | _ => .error (.shape (.noMembers value.typeName))

/-- The refusal of an operation with an answer, whose parts must have the right shapes. -/
def ofServiceAnswer (response : Json) (operation : String) : Except Failure Failure := do
  match ← metadataOf response with
  | some metadata => requireMembers metadata
  | none => pure ()
  requireMembers response
  requireMembers ((response.member? "Error").getD (.object []))
  pure (.service ⟨response, operation⟩)

end Failure
end AlertRelay
