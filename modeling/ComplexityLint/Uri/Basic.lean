import ComplexityLint.Path
import ComplexityLint.Uri.Host

/-!
URIs as far as an editor's messages need them: the scheme, the host, and the segments of the path,
which keep their escapes. A segment `.` or `..` is carried out when the URI is read. A path of the
file system is what the decoded segments spell.
-/

namespace ComplexityLint

/-- A URI, query and fragment apart. -/
structure Uri where
  scheme : List Char
  host : Uri.Host
  /-- None if the URI has no hierarchical path. -/
  segments : Option (List (List Char))
deriving DecidableEq

namespace Uri

open Text

/-- Drops the control characters and blanks around a text, and line breaks and tabs within. -/
def tidy (s : List Char) : List Char :=
  let outer (c : Char) : Bool := c.toNat ≤ 32
  ((s.dropWhile outer).reverse.dropWhile outer).reverse.filter
    fun c => c ≠ '\t' && c ≠ '\n' && c ≠ '\r'

/-- Cuts the scheme off the front, in small letters. -/
def scheme? (s : List Char) : Option (List Char × List Char) :=
  let inScheme (c : Char) : Bool := c.isAlphanum || c = '+' || c = '-' || c = '.'
  match s with
  | [] => none
  | c :: _ =>
    match s.dropWhile inScheme with
    | ':' :: rest =>
      if c.isAlpha then some ((s.takeWhile inScheme).map Char.toLower, rest) else none
    | _ => none

/-- Whether a segment says to stay. -/
def isDot (s : List Char) : Bool :=
  let t := s.map Char.toLower
  t = ['.'] || t = "%2e".toList

/-- Whether a segment says to go up. -/
def isDotDot (s : List Char) : Bool :=
  let t := s.map Char.toLower
  t = ['.', '.'] || t = ".%2e".toList || t = "%2e.".toList || t = "%2e%2e".toList

/-- Whether a segment names a drive: a letter and a colon or a bar. -/
def isDrive (s : List Char) : Bool :=
  match s with
  | [c, d] => c.isAlpha && (d = ':' || d = '|')
  | _ => false

/-- Carries out the segments that go up or stay. The segments so far come last one first. A drive
stays where it is. -/
def resolve : List (List Char) → List (List Char) → List (List Char)
  | done, [] => done.reverse
  | done, s :: rest =>
    let above := match done with
      | [] => []
      | d :: ds => if isDrive d then d :: ds else ds
    if isDotDot s then if rest = [] then ([] :: above).reverse else resolve above rest
    else if isDot s then if rest = [] then ([] :: done).reverse else resolve done rest
    else resolve (s :: done) rest

/-- The segments of a path, its first slash apart. -/
def segmentsOf (path : List Char) : List (List Char) :=
  resolve [] (pieces '/' (if path.head? = some '/' then path.drop 1 else path))

/-- Drops empty segments at the front, but not the last one of all. -/
def dropEmpty : List (List Char) → List (List Char)
  | [] :: s :: rest => dropEmpty (s :: rest)
  | segments => segments

/-- The schemes whose URIs all have a host. -/
def webSchemes : List (List Char) := ["http", "https", "ws", "wss", "ftp"].map String.toList

/-- The URI of a file. -/
def ofFile (host : Host) (segments : List (List Char)) : Uri :=
  ⟨"file".toList, host, some (dropEmpty segments)⟩

/-- The URI of a file whose path can start with a drive: a drive is written with a colon, and lies on
this machine. -/
def ofDrive (host : Host) (segments : List (List Char)) : Uri :=
  match segments with
  | [c, d] :: rest =>
    if isDrive [c, d] then ofFile .here ([c, ':'] :: rest) else ofFile host segments
  | _ => ofFile host segments

/-- Reads a URI of a file behind its scheme. A host can be left out, and a drive stands for none.
Behind the slash that a path without a host starts with, a drive is a name as any other. -/
def file? (s : List Char) : Option Uri :=
  match s with
  | '/' :: '/' :: s =>
    let name := s.takeWhile (· ≠ '/')
    let path := s.dropWhile (· ≠ '/')
    if isDrive name then some (ofDrive .here (segmentsOf s))
    else if name = [] then some (ofFile .here (segmentsOf path))
    else (Host.named? name).map fun h =>
      if h = .here then ofFile .here (segmentsOf path) else ofDrive h (segmentsOf path)
  | '/' :: _ => some (ofFile .here (segmentsOf s))
  | _ => some (ofDrive .here (segmentsOf s))

/-- What ends an authority. -/
def endsAuthority (c : Char) : Bool := c = '/' || c = '?' || c = '#'

/-- A text without its query and fragment. -/
def hierarchical (s : List Char) : List Char := s.takeWhile fun c => c ≠ '?' && c ≠ '#'

/-- The host at the front, and what comes behind its authority. -/
def located? (known : Bool) (s : List Char) : Option (Host × List Char) :=
  let rest := s.dropWhile (!endsAuthority ·)
  ((Authority.ofText (s.takeWhile (!endsAuthority ·))).host? known rest.isEmpty).map
    fun h => (h, hierarchical rest)

/-- Reads a URI. -/
def parse? (text : String) : Option Uri := do
  let (scheme, rest) ← scheme? (tidy text.toList)
  let slashes := rest.map fun c => if c = '\\' then '/' else c
  if scheme = "file".toList then file? (hierarchical slashes)
  else if webSchemes.contains scheme then
    let (host, path) ← located? true (slashes.dropWhile (· = '/'))
    return ⟨scheme, host, some (segmentsOf path)⟩
  else
    match rest with
    | '/' :: '/' :: s =>
      let (host, path) ← located? false s
      return ⟨scheme, host, if path = [] then none else some (segmentsOf path)⟩
    | '/' :: _ => return ⟨scheme, .here, some (segmentsOf (hierarchical rest))⟩
    | _ => return ⟨scheme, .here, none⟩

/-- Puts a slash behind a path that ends like a drive. -/
def closeDrive (path : List Char) : List Char :=
  match path.reverse with
  | d :: c :: _ :: _ => if isDrive [c, d] then path ++ ['/'] else path
  | _ => path

/-- The path of a resource of this machine. -/
def filePath? (u : Uri) : Option Path :=
  match u.host, u.segments with
  | .here, some segments =>
    some ⟨String.ofList (closeDrive (segments.flatMap fun s => '/' :: decode s))⟩
  | _, _ => none

/-- The last segment as written. -/
def lastSegment? (u : Uri) : Option (List Char) := u.segments.bind List.getLast?

/-- The URI of an absolute path, step by step. -/
def ofPath? (p : Path) : Option String :=
  match p.components with
  | .root :: [] => some "file:///"
  | .root :: steps =>
    some ("file://" ++ String.ofList (steps.flatMap fun c => '/' :: encode c.text))
  | _ => none

end Uri

end ComplexityLint
