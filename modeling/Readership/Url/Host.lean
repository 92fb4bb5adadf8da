import Readership.Url.Address
import Readership.Url.Domain

/-!
# Hosts in URLs

A URL names a scheme and, if it has one, a host. How much is forgiven between
the two depends on the scheme: those of the web need not have their slashes,
others do. White space around the text and line breaks anywhere are passed over.
A user before the host and the number of a service after it are no part of it,
but what stands in the place of that number and is none spoils the URL.
-/

namespace Readership.Url

/-- **A host.** -/
inductive Host where
  /-- A domain name, by its labels. -/
  | name (labels : List (List Char))
  /-- An address of four bytes. -/
  | ipv4 (address : Nat)
  /-- An address of eight pieces. -/
  | ipv6 (pieces : List Nat)
  /-- A host that only its scheme understands. -/
  | verbatim (text : List Char)
deriving DecidableEq, Repr

/-- **The kinds of schemes.** -/
inductive SchemeKind where
  | web
  | file
  | other
deriving DecidableEq, Repr

namespace SchemeKind

/-- The schemes of the web. -/
def webSchemes : List String := ["http", "https", "ws", "wss", "ftp"]

/-- The kind of a scheme in small letters. -/
def ofScheme (scheme : String) : SchemeKind :=
  if webSchemes.contains scheme then web else if scheme = "file" then file else other

/-- The characters that stand for a slash. -/
def isSlash (kind : SchemeKind) (c : Char) : Bool :=
  c == '/' || (kind != other && c == '\\')

/-- The characters that end the part of a URL with the host. -/
def endsHost (kind : SchemeKind) (c : Char) : Bool :=
  kind.isSlash c || c == '?' || c == '#'

/-- What follows the slashes after the scheme: for the web any number of them,
otherwise just two. -/
def afterSlashes? (kind : SchemeKind) (cs : List Char) : Option (List Char) :=
  match kind with
  | web => some (cs.dropWhile kind.isSlash)
  | file | other =>
    if 2 ≤ cs.length && (cs.take 2).all kind.isSlash then some (cs.drop 2) else none

end SchemeKind

/-- A control of ASCII or the blank. -/
def isControlOrBlank (c : Char) : Bool :=
  c.toNat ≤ 32

/-- A tab or a line break. -/
def isTabOrBreak (c : Char) : Bool :=
  c == '\t' || c == '\n' || c == '\r'

/-- A URL without what is passed over. -/
def tidied (cs : List Char) : List Char :=
  (Text.dropTrailing isControlOrBlank (cs.dropWhile isControlOrBlank)).filter
    fun c => !isTabOrBreak c

/-- A character that may stand in a scheme after its first letter. -/
def isSchemeChar (c : Char) : Bool :=
  c.isAlphanum || c == '+' || c == '-' || c == '.'

/-- Whether a text is a scheme: a letter, and letters, digits and three signs
after it. -/
def isScheme : List Char → Bool
  | [] => false
  | c :: cs => c.isAlpha && cs.all isSchemeChar

/-- **The scheme of a URL** in small letters and what follows its colon. -/
def schemeAndRest? (url : List Char) : Option (String × List Char) :=
  match Text.before? [':'] url with
  | none => none
  | some scheme =>
    if isScheme scheme then
      some (String.ofList (scheme.map Char.toLower), url.drop (scheme.length + 1))
    else none

/-- What stands after the last `@`; all of it if there is none. -/
def withoutUser (cs : List Char) : List Char :=
  (cs.reverse.takeWhile (· != '@')).reverse

/-- What stands before the first colon that is not in brackets. -/
def beforeService (inBrackets : Bool) : List Char → List Char
  | [] => []
  | c :: cs =>
    if c = ':' && !inBrackets then []
    else c :: beforeService (c == '[' || (inBrackets && c != ']')) cs

/-- Whether what stands after a host is nothing, or a colon and the number of a
service, which may be left out. -/
def isService : List Char → Bool
  | [] => true
  | c :: digits =>
    c == ':' && digits.all Char.isDigit && decide (Numeral.value digits ≤ 65535)

namespace Host

/-- An address in brackets. -/
def bracketed? : List Char → Option Host
  | '[' :: cs => if cs.getLast? = some ']' then (ipv6? cs.dropLast).map ipv6 else none
  | _ => none

/-- A domain name or an address. -/
def ofDomain? (cs : List Char) : Option Host :=
  if cs.head? = some '[' then bracketed? cs
  else do
    let labels ← domain? cs
    if meansAddress labels then (ipv4? labels).map ipv4 else pure (name labels)

/-- The characters that no host holds. -/
def refused : List Char :=
  "\x00 #/:<>?@[\\]^|".toList

/-- A host that is left to its scheme. -/
def ofOther? (cs : List Char) : Option Host :=
  if cs.head? = some '[' then bracketed? cs
  else if cs.isEmpty || cs.any refused.contains then none
  else some (verbatim cs)

/-- The name of the machine itself. -/
def localName : Host := name ["localhost".toList]

/-- The host of a file: none if it is the machine itself. -/
def ofFile? (cs : List Char) : Option Host := do
  let host ← ofDomain? cs
  if host = localName then none else pure host

/-- The host in what stands between the slashes. -/
def ofAuthority? (kind : SchemeKind) (cs : List Char) : Option Host :=
  match kind with
  | .file => ofFile? cs
  | .web | .other =>
    let place := withoutUser cs
    let host := beforeService false place
    let service := (place.drop host.length).takeWhile (· != '\\')
    if isService service then (if kind = .web then ofDomain? host else ofOther? host) else none

end Host

/-- **The host of a URL**, if it has one and is in order as far as that. -/
def host? (url : List Char) : Option Host := do
  let (scheme, rest) ← schemeAndRest? (tidied url)
  let kind := SchemeKind.ofScheme scheme
  let rest ← kind.afterSlashes? rest
  Host.ofAuthority? kind (rest.takeWhile fun c => !kind.endsHost c)

/-- For the web one slash more makes no difference. -/
theorem SchemeKind.afterSlashes?_web_cons {c : Char} (h : web.isSlash c = true)
    (cs : List Char) : web.afterSlashes? (c :: cs) = web.afterSlashes? cs := by
  simp [afterSlashes?, h]

/-- White space at the start of a URL is passed over. -/
theorem host?_cons_of_blank {c : Char} (h : isControlOrBlank c = true) (url : List Char) :
    host? (c :: url) = host? url := by
  simp [host?, tidied, h]

/-- The empty text has no host. -/
theorem host?_nil : host? [] = none := rfl

end Readership.Url
