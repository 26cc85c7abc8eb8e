import AlertRelay.Json.Writer

/-!
# Issues of data

What can be wrong with a part of the data, and how reports show it: by a code, or in words with
the path to the part and an excerpt of what was found there.
-/

namespace AlertRelay

/-- What is wrong with one part of the data. -/
inductive IssueKind where
  | missing
  | notText
  | notCharacters
  | notInteger
  | notIntegerText
  | tooLarge
  | notWhole
  | notFinite
  | notNumber
  | notNumberText
  | notTruth
  | notTruthText
  | unknownChoice (names : List String)
  | notObject
  | notList
  | notRecord (model : String)
  | notVariantRecord
  | variantMissing
  | variantUnknown
  | notMoment
  | notMomentText
  | momentOutOfRange
  | ruleBroken (message : String)

namespace IssueKind

/-- The code of an issue in reports. -/
def code : IssueKind → String
  | missing => "missing"
  | notText => "string_type"
  | notCharacters => "string_unicode"
  | notInteger => "int_type"
  | notIntegerText => "int_parsing"
  | tooLarge => "int_parsing_size"
  | notWhole => "int_from_float"
  | notFinite => "finite_number"
  | notNumber => "float_type"
  | notNumberText => "float_parsing"
  | notTruth => "bool_type"
  | notTruthText => "bool_parsing"
  | unknownChoice _ => "enum"
  | notObject => "dict_type"
  | notList => "list_type"
  | notRecord _ => "model_type"
  | notVariantRecord => "model_attributes_type"
  | variantMissing => "union_tag_not_found"
  | variantUnknown => "union_tag_invalid"
  | notMoment => "datetime_type"
  | notMomentText => "datetime_from_date_parsing"
  | momentOutOfRange => "datetime_parsing"
  | ruleBroken _ => "value_error"

/-- Names in quotes, with the word `or` before the last one. -/
def alternatives (names : List String) : String :=
  let shown := names.map quoted
  match shown.getLast? with
  | none => ""
  | some last =>
      let others := shown.dropLast
      if others.isEmpty then last else String.intercalate ", " others ++ " or " ++ last

/-- What is wrong, in words. -/
def message : IssueKind → String
  | missing => "Field required"
  | notText => "Input should be a valid string"
  | notCharacters =>
      "Input should be a valid string, unable to parse raw data as a unicode string"
  | notInteger => "Input should be a valid integer"
  | notIntegerText =>
      "Input should be a valid integer, unable to parse string as an integer"
  | tooLarge => "Unable to parse input string as an integer, exceeded maximum size"
  | notWhole => "Input should be a valid integer, got a number with a fractional part"
  | notFinite => "Input should be a finite number"
  | notNumber => "Input should be a valid number"
  | notNumberText => "Input should be a valid number, unable to parse string as a number"
  | notTruth => "Input should be a valid boolean"
  | notTruthText => "Input should be a valid boolean, unable to interpret input"
  | unknownChoice names => s!"Input should be {alternatives names}"
  | notObject => "Input should be a valid dictionary"
  | notList => "Input should be a valid list"
  | notRecord model => s!"Input should be a valid dictionary or instance of {model}"
  | notVariantRecord => "Input should be a valid dictionary or object to extract fields from"
  | variantMissing => "Unable to extract tag"
  | variantUnknown => "Input tag does not match any of the expected tags"
  | notMoment => "Input should be a valid datetime"
  | notMomentText => "Input should be a valid datetime or date"
  | momentOutOfRange => "Input should be a valid datetime"
  | ruleBroken message => "Value error, " ++ message

end IssueKind

/-- An issue with the path to the part of the data that it concerns, and that part; where a member
is missing, the record without it stands for the part. -/
structure Issue where
  path : List String
  kind : IssueKind
  input : Json

namespace Issue

/-- The longest start of a text within a number of bytes. -/
def leading (limit : Nat) : List Char → List Char
  | [] => []
  | c :: rest => if c.utf8Size ≤ limit then c :: leading (limit - c.utf8Size) rest else []

/-- A text of up to fifty bytes, or the start and the end of a longer one. -/
def excerpt (text : String) : String :=
  if text.utf8ByteSize ≤ 50 then text
  else
    String.ofList (leading 25 text.toList) ++ "..." ++
      String.ofList (leading 24 text.toList.reverse).reverse

/-- A part of a path; one with a point in it is quoted. -/
def pathPart (name : String) : String :=
  if name.contains '.' then s!"`{name}`" else name

/-- Where reports say that issues are explained. -/
def explanations : String := "https://errors.pydantic.dev/2.14/v/"

/-- The issue in words, on lines of its own. -/
def text (issue : Issue) : String :=
  let place :=
    if issue.path.isEmpty then ""
    else "\n" ++ String.intercalate "." (issue.path.map pathPart)
  s!"{place}\n  {issue.kind.message} [type={issue.kind.code}, " ++
    s!"input_value={excerpt issue.input.literal}, input_type={issue.input.typeName}]\n" ++
    s!"    For further information visit {explanations}{issue.kind.code}"

end Issue
end AlertRelay
