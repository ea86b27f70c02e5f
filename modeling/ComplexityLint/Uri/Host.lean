import ComplexityLint.Text.Digit
import ComplexityLint.Uri.Address
import ComplexityLint.Uri.Domain
import ComplexityLint.Uri.Percent

/-!
The host of a URI, and the authority that it stands in. The empty host and `localhost` stand for this
machine.
-/

namespace ComplexityLint.Uri

open Text

/-- Where the resource of a URI lies. -/
inductive Host
  | here
  | domain (labels : List (List Char))
  | short (address : Nat)
  | long (groups : List Nat)
  /-- A name that means something to those who know the scheme. -/
  | verbatim (name : List Char)
deriving DecidableEq

/-- The name of this machine. -/
def localName : List Char := "localhost".toList

/-- The host between brackets. -/
def Host.ofBrackets? (s : List Char) : Option Host :=
  if s.getLast? = some ']' then (Address.long? ((s.drop 1).dropLast)).map .long else none

/-- The host that a non-empty text names, if it names one. -/
def Host.named? (s : List Char) : Option Host :=
  if s.head? = some '[' then ofBrackets? s
  else do
    let labels ← Domain.labels? (decode s)
    if Address.endsInNumber labels then (Address.short? labels).map .short
    else if labels = [localName] then some .here
    else some (.domain labels)

/-- What stands in no host, not even in one of a scheme that leaves names as they are. -/
def isOutside (c : Char) : Bool :=
  ['\x00', '\t', '\n', '\r', ' ', '#', '/', ':', '<', '>', '?', '@', '[', '\\', ']', '^',
    '|'].contains c

/-- The host of a URI of a scheme that leaves names as they are. -/
def Host.verbatim? (s : List Char) : Option Host :=
  if s.head? = some '[' then ofBrackets? s
  else if s.any isOutside then none
  else if s = localName then some .here
  else some (.verbatim s)

/-- What stands between the two slashes of a URI and its path. -/
structure Authority where
  /-- What stands in front of an at sign. -/
  user : Option (List Char)
  host : List Char
  /-- What stands behind a colon. -/
  port : Option (List Char)

/-- Cuts at the first colon outside of brackets. -/
def cutAtPort : Bool → List Char → List Char × Option (List Char)
  | _, [] => ([], none)
  | bracketed, c :: s =>
    if c = ':' && !bracketed then ([], some s)
    else
      let (host, port) := cutAtPort (c = '[' || (bracketed && c ≠ ']')) s
      (c :: host, port)

namespace Authority

/-- The parts of an authority. -/
def ofText (s : List Char) : Authority :=
  let (host, port) := cutAtPort false (s.reverse.takeWhile (· ≠ '@')).reverse
  let user := if s.contains '@' then some ((s.reverse.dropWhile (· ≠ '@')).drop 1).reverse else none
  ⟨user, host, port⟩

/-- Whether what stands behind the colon is the number of a port, if one is given. -/
def hasPort (a : Authority) : Bool :=
  a.port.all fun p => p.all Char.isDigit && decimal p < 65536

/-- The host. Behind a user and in front of a port stands one; with nothing but an at sign it can be
left out at the end of a URI. With `known`, the scheme is one whose URIs all have a host. -/
def host? (known last : Bool) (a : Authority) : Option Host :=
  if !a.hasPort then none
  else if a.host ≠ [] then if known then Host.named? a.host else Host.verbatim? a.host
  else if known || a.port.isSome then none
  else match a.user with
    | none => some .here
    | some [] => if last then some .here else none
    | some user => if user = [':'] then some .here else none

end Authority

end ComplexityLint.Uri
