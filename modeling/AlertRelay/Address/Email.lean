import AlertRelay.Address.DomainName

/-!
# E-mail addresses

An address that the public mail system can deliver to: a mailbox of atoms with points between
them, and a public domain name.
-/

namespace AlertRelay
namespace Email

/-- Characters of an atom of the mailbox. -/
def isAtomChar (c : Char) : Bool :=
  c.isAlphanum || "_!#$%&'*+-/=?^\x60\x7b|\x7d~".contains c || 0x80 ≤ c.toNat

/-- Atoms without unprintable characters, of which the first one does not start with a combining
mark. -/
def isMailbox (text : List Char) : Bool :=
  !text.head?.any combiningMarks.contains &&
    (splitEvery '.' text).all fun atom =>
      !atom.isEmpty && atom.all fun c => isAtomChar c && !unprintable.contains c

/-- The greatest length of an address in bytes. -/
def lengthLimit : Nat := 254

/-- Whether an address is short enough. -/
def isShort (mailbox domain : List Char) : Bool :=
  (String.ofList (mailbox ++ '@' :: domain)).utf8ByteSize ≤ lengthLimit

/-- The address with its mailbox in the normal form and its domain as it is shown, when it is
valid. -/
def normalize? (address : String) : Option String := do
  let (given, host) ← splitFirst? '@' address.toList
  let domain ← DomainName.parse? host
  let mailbox := normalForm given
  if isMailbox given && isMailbox mailbox && domain.isPublic && isShort given host &&
      isShort mailbox domain.text && isShort mailbox domain.plainText then
    some (String.ofList (mailbox ++ '@' :: domain.text))
  else none

end Email
end AlertRelay
