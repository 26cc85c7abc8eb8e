import AlertRelay.Failure.Basic
import AlertRelay.Schema.Scalar
import AlertRelay.Text.Split

/-!
# Failures of the surroundings

Failures from outside of the library by the name and the arguments that they are raised with.  Most
of them just show their arguments; those of the operating system, of reading source text and of
encoding text have forms of their own, and cannot be raised when their arguments do not fit.
-/

namespace AlertRelay
namespace Failure

/-- The text of a failure raised with arguments: the single argument, or all of them in
parentheses. -/
def argumentsText (arguments : List Json) : String :=
  match arguments with
  | [] => ""
  | [argument] => argument.display
  | arguments => "(" ++ String.intercalate ", " (arguments.map Json.literal) ++ ")"

/-- The failure that a value cannot be looked up. -/
def unhashable (value : Json) : Failure := .wrongKind s!"unhashable type: '{value.typeName}'"

/-- The failure that a value is no index. -/
def notIndex (value : Json) : Failure :=
  .wrongKind s!"'{value.typeName}' object cannot be interpreted as an integer"

/-- The integer that a value is; a flag counts as zero or one. -/
def wholeOf? : Json → Option Int
  | .integer number => some number
  | .bool flag => some (if flag then 1 else 0)
  | _ => none

/-- The index that a value denotes, which has to fit into a word. -/
def index (value : Json) : Except Failure Int :=
  match wholeOf? value with
  | none => .error (notIndex value)
  | some number =>
      if Scalar.fitsWord number then .ok number
      else .error (.foreign "OverflowError" "Python int too large to convert to C ssize_t")

/-- The failure that the argument at a place is no text. -/
def notTextAt (place : Nat) (value : Json) : String :=
  let kind := if value.isNull then value.display else value.typeName
  s!"argument {place} must be str, not {kind}"

/-- The text in the argument at a place. -/
def textAt (place : Nat) (value : Json) : Except Failure String :=
  match value with
  | .text text => .ok text
  | _ => .error (.wrongKind (notTextAt place value))

/-- The failure that the count of arguments is wrong. -/
def wrongCount (callable range : String) (given : Nat) : Failure :=
  .wrongKind s!"{callable} takes {range} arguments ({given} given)"

/-! ## Failures of the operating system -/

/-- The name of a failure of the operating system of no special kind. -/
def systemName : String := "OSError"

/-- The kinds of failures of the operating system by their numbers. -/
def systemKinds : List (Int × String) :=
  [(1, "PermissionError"), (2, "FileNotFoundError"), (3, "ProcessLookupError"),
    (4, "InterruptedError"), (10, "ChildProcessError"), (11, "BlockingIOError"),
    (13, "PermissionError"), (17, "FileExistsError"), (20, "NotADirectoryError"),
    (21, "IsADirectoryError"), (32, "BrokenPipeError"), (103, "ConnectionAbortedError"),
    (104, "ConnectionResetError"), (108, "BrokenPipeError"), (110, "TimeoutError"),
    (111, "ConnectionRefusedError"), (114, "BlockingIOError"), (115, "BlockingIOError")]

/-- Whether a failure of the operating system goes by the name. -/
def isSystemName (name : String) : Bool :=
  [systemName, "IOError", "EnvironmentError", "ConnectionError"].contains name ||
    systemKinds.any fun kind => kind.2 == name

/-- The kind of a failure by its number, which is no real; a flag counts as zero or one. -/
def systemKind (number : Json) : String :=
  ((wholeOf? number).bind (systemKinds.lookup ·)).getD systemName

/-- The name of a failure of the operating system; the general one takes the name of its kind when
it is raised with a number and a reason. -/
def systemNameOf (name : String) (arguments : List Json) : String :=
  if ["OSError", "IOError", "EnvironmentError"].contains name then
    match arguments with
    | number :: _ :: rest => if rest.length ≤ 3 then systemKind number else systemName
    | _ => systemName
  else name

/-- The files that a failure names: the first and the third argument after number and reason.
Where an operation would block, a number in the first place counts what was written. -/
def systemFiles (name : String) (rest : List Json) : Except Failure (List Json) :=
  match rest with
  | [] => .ok []
  | .null :: _ => .ok []
  | file :: others =>
      let files := file :: (others[1]?.toList.filter fun other => !other.isNull)
      if name = "BlockingIOError" then
        match file with
        | .integer count =>
            if Scalar.fitsWord count then .ok []
            else .error (.malformed "cannot fit 'int' into an index-sized integer")
        | .bool _ => .ok []
        | .real _ => .error (notIndex file)
        | _ => .ok files
      else .ok files

/-- The text of a failure of the operating system: a number and a reason, and the files, when they
are given. -/
def systemText (name : String) (arguments : List Json) : Except Failure String :=
  match arguments with
  | number :: reason :: rest =>
      if rest.length ≤ 3 then
        (systemFiles name rest).map fun files =>
          let shown := String.intercalate " -> " (files.map Json.literal)
          s!"[Errno {number.display}] {reason.display}" ++
            (if files.isEmpty then "" else ": " ++ shown)
      else .ok (argumentsText arguments)
  | _ => .ok (argumentsText arguments)

/-! ## Failures of reading source text -/

/-- The names of failures of reading source text. -/
def sourceNames : List String := ["SyntaxError", "IndentationError", "TabError"]

/-- Where a failure lies, as far as it is known: the last part of the path of the file, and the
line, which is shown as -1 when it does not fit into a word. -/
def sourcePlace (file line : Json) : String :=
  let fileName := match file with
    | .text path => [String.ofList (afterLast '/' path.toList)]
    | _ => []
  let lineName := match line with
    | .integer number => ["line " ++ toString (if Scalar.fitsWord number then number else -1)]
    | _ => []
  let known := fileName ++ lineName
  if known.isEmpty then "" else " (" ++ String.intercalate ", " known ++ ")"

/-- The text of a failure of reading source text: a message and, when it is the only other
argument, a place of four or six parts. -/
def sourceText (arguments : List Json) : Except Failure String :=
  let message := (arguments.head?.getD .null).display
  match arguments with
  | [_, place] =>
      match place.elements? with
      | none => .error (.shape (.noItems place.typeName))
      | some parts =>
          if parts.length < 4 then .error (wrongCount "function" "at least 4" parts.length)
          else if 6 < parts.length then .error (wrongCount "function" "at most 6" parts.length)
          else if parts.length = 5 then
            .error (.wrongKind "end_offset must be provided when end_lineno is provided")
          else .ok (message ++ sourcePlace (parts[0]?.getD .null) (parts[1]?.getD .null))
  | _ => .ok message

/-! ## Failures of encoding text -/

/-- The code points from one place of a text up to another one: a single one by its code, and
several by their places. -/
def spanText (text : String) (start stop : Int) : String :=
  let codes := Surrogate.codePoints text
  match (if 0 ≤ start ∧ stop = start + 1 then codes[start.toNat]? else none) with
  | some code => "character '" ++ String.ofList (codeEscape code) ++ s!"' in position {start}"
  | none => s!"characters in position {start}-{stop - 1}"

/-- The text of a failure to encode a part of a text. -/
def encodingText (arguments : List Json) : Except Failure String :=
  match arguments with
  | [encoding, text, start, stop, reason] => do
      let encoding ← textAt 1 encoding
      let text ← textAt 2 text
      let span := spanText text (← index start) (← index stop)
      let reason ← textAt 5 reason
      pure s!"'{encoding}' codec can't encode {span}: {reason}"
  | _ => .error (wrongCount "function" "exactly 5" arguments.length)

/-- A failure to decode cannot be raised here, because its second argument is never bytes. -/
def decodingText (arguments : List Json) : Except Failure String :=
  match arguments with
  | [encoding, bytes, start, stop, reason] => do
      let _ ← textAt 1 encoding
      let _ ← index start
      let _ ← index stop
      let _ ← textAt 5 reason
      .error (.wrongKind s!"a bytes-like object is required, not '{bytes.typeName}'")
  | _ => .error (wrongCount "function" "exactly 5" arguments.length)

/-- The text of a failure to translate a part of a text. -/
def translationText (arguments : List Json) : Except Failure String :=
  match arguments with
  | [text, start, stop, reason] => do
      let text ← textAt 1 text
      let span := spanText text (← index start) (← index stop)
      let reason ← textAt 4 reason
      pure s!"can't translate {span}: {reason}"
  | _ => .error (wrongCount "function" "exactly 4" arguments.length)

/-! ## Groups of failures -/

/-- The names of groups of failures. -/
def groupNames : List String := ["ExceptionGroup", "BaseExceptionGroup"]

/-- A group of failures cannot be raised here, because none of its members can be an argument. -/
def groupFault (arguments : List Json) : Failure :=
  let callable := "BaseExceptionGroup.__new__()"
  let members := "second argument (exceptions)"
  match arguments with
  | [message, failures] =>
      match textAt 1 message, failures with
      | .error _, _ => .wrongKind s!"{callable} {notTextAt 1 message}"
      | .ok _, .object _ => .wrongKind s!"{members} must be a sequence"
      | .ok _, _ =>
          match failures.elements? with
          | none => .wrongKind s!"{members} must be a sequence"
          | some [] => .malformed s!"{members} must be a non-empty sequence"
          | some _ => .malformed s!"Item 0 of {members} is not an exception"
  | _ => wrongCount callable "exactly 2" arguments.length

/-! ## All failures of the surroundings -/

/-- A failure of the surroundings; a missing key is shown in its literal form. -/
def ofSurroundings (name : String) (arguments : List Json) : Except Failure Failure :=
  let named (text : Except Failure String) : Except Failure Failure := text.map (.foreign name)
  if isSystemName name then
    let kind := systemNameOf name arguments
    (systemText kind arguments).map (.foreign kind)
  else if sourceNames.contains name then named (sourceText arguments)
  else if groupNames.contains name then .error (groupFault arguments)
  else
    match name, arguments with
    | "KeyError", [key] => named (.ok key.literal)
    | "UnicodeEncodeError", _ => named (encodingText arguments)
    | "UnicodeDecodeError", _ => named (decodingText arguments)
    | "UnicodeTranslateError", _ => named (translationText arguments)
    | _, _ => named (.ok (argumentsText arguments))

/-! ## Failed HTTP exchanges -/

/-- A place in a text, which may lie outside of it. -/
def textPlace (place : Json) : Except Failure Int :=
  match wholeOf? place with
  | some number => .ok number
  | none =>
      .error (.wrongKind
        (if place.isNull then "unsupported operand type(s) for -: 'NoneType' and 'int'"
        else "slice indices must be integers or None or have an __index__ method"))

/-- The text of a failure to read an answer: a message, and a place in the text of the answer. -/
def contentText (arguments : List Json) : Except Failure String :=
  let callable := "JSONDecodeError.__init__"
  match arguments with
  | [message, .text text, place] => do
      let place ← textPlace place
      let before := startOf place (Surrogate.codePoints text)
      let line := before.count '\n'.toNat + 1
      let lineStart : Int := before.length - (afterLast '\n'.toNat before).length
      let column := place - lineStart + 1
      pure s!"{message.display}: line {line} column {column} (char {place})"
  | [_, .list _, _] => .error (.wrongKind "list.count() takes exactly one argument (3 given)")
  | [_, text, _] =>
      .error (.foreign "AttributeError" s!"'{text.typeName}' object has no attribute 'count'")
  | _ =>
      if arguments.length < 3 then
        .error (.wrongArguments
          (.missing callable (["msg", "doc", "pos"].drop arguments.length)))
      else .error (.wrongArguments (.tooMany callable 4 4 (arguments.length + 1)))

/-- A failed HTTP exchange, possibly with an answer. -/
def ofExchange (name : String) (arguments : List Json) (response : Option HttpResponse) :
    Except Failure Failure :=
  let text :=
    if name = "JSONDecodeError" then contentText arguments else systemText name arguments
  text.map fun text => .transport ⟨name, text, response⟩

end Failure
end AlertRelay
