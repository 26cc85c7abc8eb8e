import AlertRelay.Address.Host
import AlertRelay.Text.Blank
import AlertRelay.Text.Decomposition
import AlertRelay.Text.Lowercase
import AlertRelay.Text.Quoted

/-!
# URLs

A URL is read for its scheme and its authority.  A text is a faulty URL only through its
authority: through brackets that do not enclose an address, or through characters that stand for
a delimiter in their compatibility form.
-/

namespace AlertRelay

/-- The scheme and the authority of a URL, empty when it has none. -/
structure Url where
  scheme : String
  authority : String

/-- Why a text is no URL. -/
inductive UrlFault where
  | misplacedBracket
  | laterVersion
  | bracketedVersion4
  | notAnAddress (host : String)
  | disguisedDelimiter (authority : String)

namespace UrlFault

def message : UrlFault → String
  | misplacedBracket => "Invalid IPv6 URL"
  | laterVersion => "IPvFuture address is invalid"
  | bracketedVersion4 => "An IPv4 address cannot be in brackets"
  | notAnAddress host => s!"{quoted host} does not appear to be an IPv4 or IPv6 address"
  | disguisedDelimiter authority =>
      s!"netloc '{authority}' contains invalid characters under NFKC normalization"

end UrlFault

namespace Url

def isSchemeChar (c : Char) : Bool := c.isAlphanum || c = '+' || c = '-' || c = '.'

/-- The scheme in lower case and the rest of a text. -/
def splitScheme (text : List Char) : List Char × List Char :=
  match splitFirst? ':' text with
  | some (scheme, rest) =>
      if scheme.head?.any Char.isAlpha && scheme.all isSchemeChar then
        (scheme.map Char.toLower, rest)
      else ([], text)
  | none => ([], text)

/-- Whether a character stands between the parts of a URL. -/
def isDelimiter (c : Char) : Bool := "/?#@:".contains c

/-- Whether a character is no delimiter but has one among its compatible parts. -/
def isDisguised (c : Char) : Bool := !isDelimiter c && (compatibleParts c).any isDelimiter

/-- The fault of a host that must be a numeric address of a version after four. -/
def hostFault? (host : List Char) : Option UrlFault :=
  if host.head? = some 'v' then
    if Host.isLaterVersion host then none else some .laterVersion
  else if Host.isVersion4 host then some .bracketedVersion4
  else if Host.isVersion6 host then none
  else some (.notAnAddress (String.ofList host))

/-- The fault of an authority in its brackets.  Nothing stands before them but what is shown to
the host, and only a port behind them. -/
def bracketFault? (authority : List Char) : Option UrlFault :=
  let opens := authority.contains '['
  if opens != authority.contains ']' then some .misplacedBracket
  else if !opens then none
  else
    let place := afterLast '@' authority
    match splitFirst? '[' place with
    | none => hostFault? (beforeFirst ':' place)
    | some (before, bracketed) =>
        let host := beforeFirst ']' bracketed
        let after := bracketed.drop (host.length + 1)
        if before.isEmpty && (after.isEmpty || after.head? = some ':') then hostFault? host
        else some .misplacedBracket

/-- The fault of an authority. -/
def authorityFault? (authority : List Char) : Option UrlFault :=
  (bracketFault? authority).orElse fun _ =>
    if authority.any isDisguised then
      some (.disguisedDelimiter (String.ofList authority))
    else none

/-- Read a URL; control characters and spaces before it, and tabs and line ends anywhere, do not
count. -/
def parse (text : String) : Except UrlFault Url :=
  let chars := (text.toList.dropWhile (·.toNat ≤ 0x20)).filter fun c =>
    c != '\t' && c != '\r' && c != '\n'
  let (scheme, rest) := splitScheme chars
  match rest with
  | '/' :: '/' :: rest =>
      let authority := rest.takeWhile fun c => c != '/' && c != '?' && c != '#'
      match authorityFault? authority with
      | some fault => .error fault
      | none => .ok ⟨String.ofList scheme, String.ofList authority⟩
  | _ => .ok ⟨String.ofList scheme, ""⟩

/-- The host of the authority in lower case, without brackets and without what surrounds it; the
zone of an address keeps its case. -/
def hostname (url : Url) : String :=
  let place := afterLast '@' url.authority.toList
  let host :=
    match splitFirst? '[' place with
    | some (_, bracketed) => beforeFirst ']' bracketed
    | none => beforeFirst ':' place
  let address := beforeFirst '%' host
  lowercase (String.ofList address) ++ String.ofList (host.drop address.length)

end Url
end AlertRelay
