import AlertRelay.Address.LabelCharacters
import AlertRelay.Address.LabelContext
import AlertRelay.Address.LabelDirection
import AlertRelay.Address.LabelFolding
import AlertRelay.Address.Punycode
import AlertRelay.Text.CombiningMark
import AlertRelay.Text.Quoted
import AlertRelay.Text.Split

/-!
# Domain names

A domain name is a list of labels.  Labels may hold letters of every script; for the name service
such a label is written in plain characters behind a mark, and both forms name the same domain.
-/

namespace AlertRelay

/-- The labels of a domain name in lower case. -/
structure DomainName where
  labels : List (List Char)

namespace DomainName

/-- What a label in plain characters starts with when it stands for another one. -/
def mark : List Char := ['x', 'n', '-', '-']

/-- Whether the rest of a label, after the character `before`, holds only characters of labels,
each in a place where it may stand. -/
def hasLabelCharacters (label : List Char) (before : Option Char) : List Char → Bool
  | [] => true
  | c :: rest =>
      (labelCharacters.contains c || LabelContext.allows label before c rest.head?) &&
        hasLabelCharacters label (some c) rest

/-- No hyphen at either end nor in both the third and the fourth place. -/
def hasFreeHyphens (label : List Char) : Bool :=
  label.head? != some '-' && label.getLast? != some '-' && (label.drop 2).take 2 != ['-', '-']

/-- A label in its normal form that does not start with a combining mark. -/
def isLabel (label : List Char) : Bool :=
  !label.isEmpty && normalForm label == label && hasFreeHyphens label &&
    !label.head?.any combiningMarks.contains && hasLabelCharacters label none label

/-- The label in plain characters that stands for a label with others. -/
def markedLabel (label : List Char) : List Char := mark ++ Punycode.encode label

/-- The label that a label in plain characters stands for; each label has one such form. -/
def readLabel? (label : List Char) : Option (List Char) :=
  if mark.isPrefixOf label && label.all Punycode.isPlain then
    let encoded := label.drop mark.length
    if encoded.isEmpty || encoded.getLast? == some '-' then none
    else (Punycode.decode? encoded).filter fun decoded => markedLabel decoded == label
  else some label

/-- The label in plain characters. -/
def plainLabel (label : List Char) : List Char :=
  if label.all Punycode.isPlain then label else markedLabel label

/-- The greatest length of a label in plain characters. -/
def labelLimit : Nat := 63

/-- The greatest length of a domain name in plain characters. -/
def lengthLimit : Nat := 253

def joined (labels : List (List Char)) : List Char := ['.'].intercalate labels

/-- The domain name as it is shown. -/
def text (domain : DomainName) : List Char := joined domain.labels

/-- The domain name for the name service. -/
def plainText (domain : DomainName) : List Char := joined (domain.labels.map plainLabel)

/-- Whether a text may be folded to a domain name: beside printable characters of other scripts it
holds letters, digits, hyphens and points, and it does not start with a combining mark. -/
def isGiven (text : List Char) : Bool :=
  !text.head?.any combiningMarks.contains &&
    text.all fun c =>
      (c.isAlphanum || c = '-' || c = '.' || 0x80 ≤ c.toNat) && !unprintable.contains c

/-- Whether all labels have the direction that the labels from right to left among them ask
for. -/
def haveDirection (labels : List (List Char)) : Bool :=
  !labels.any Direction.isAffected || labels.all Direction.isConsistent

/-- Read a domain name. -/
def parse? (text : List Char) : Option DomainName := do
  if !isGiven text then none
  else
    let folded ← LabelFolding.fold? text
    let labels ← (splitEvery '.' folded).mapM readLabel?
    let domain : DomainName := ⟨labels⟩
    if labels.all isLabel && haveDirection labels &&
        (labels.map plainLabel).all (·.length ≤ labelLimit) &&
        domain.plainText.length ≤ lengthLimit then
      some domain
    else none

/-- Top-level domains that are never delivered to. -/
def reserved : List String := ["arpa", "invalid", "local", "localhost", "onion", "test"]

/-- Whether the domain lies below a public top-level domain. -/
def isPublic (domain : DomainName) : Bool :=
  2 ≤ domain.labels.length && domain.plainText.getLast?.any Char.isAlpha &&
    !(domain.labels.getLast?.any fun label => reserved.contains (String.ofList label))

end DomainName
end AlertRelay
