import ServiceLocation.Url.Basic

/-!
**Reading URLs.**

A text is read from its scheme on. The special schemes (`http`, `https`, `ws`, `wss`, `ftp` and
`file`) take a backslash for a slash and need no slashes in front of the host.

* `Url.parse`: the URL of a text, or the reason why it is none.
-/

namespace ServiceLocation.Url

open ServiceLocation.Text

/-- How the text after a scheme is read. -/
inductive SchemeKind where
  /-- A special scheme with the port it usually has. -/
  | special (usualPort : UInt16)
  | file
  | other
  deriving Repr, DecidableEq

/-- How the text after a scheme is read. -/
def SchemeKind.ofScheme (scheme : List Char) : SchemeKind :=
  match String.ofList scheme with
  | "http" => special 80
  | "https" => special 443
  | "ws" => special 80
  | "wss" => special 443
  | "ftp" => special 21
  | "file" => file
  | _ => other

/-- Whether a scheme is special. -/
def SchemeKind.isSpecial (kind : SchemeKind) : Bool := kind != other

/-- A control character or a blank, which does not count at the ends of a URL. -/
def isEdge (c : Char) : Bool := c.toNat ≤ 0x20

/-- A character that does not count anywhere in a URL. -/
def isSkipped (c : Char) : Bool := c == '\t' || c == '\n' || c == '\r'

/-- A text without the characters that do not count. -/
def cleaned (text : List Char) : List Char :=
  let trimmed := ((text.dropWhile isEdge).reverse.dropWhile isEdge).reverse
  trimmed.filter fun c => !isSkipped c

/-- A character that a scheme may hold. -/
def isSchemeChar (c : Char) : Bool := c.isAlphanum || c == '+' || c == '-' || c == '.'

/-- The scheme that a text starts with, in lower case, and the text after its colon. -/
def readScheme? (text : List Char) : Option (List Char × List Char) :=
  if text.head?.any Char.isAlpha then
    match text.span isSchemeChar with
    | (scheme, ':' :: rest) => some (scheme.map Char.toLower, rest)
    | _ => none
  else none

/-- A slash, or a backslash where that counts as one. -/
def isSlash (isSpecial : Bool) (c : Char) : Bool := c == '/' || (isSpecial && c == '\\')

/-- The end of an authority. -/
def endsAuthority (isSpecial : Bool) (c : Char) : Bool :=
  isSlash isSpecial c || c == '?' || c == '#'

/-- The start of a query or a fragment. -/
def endsPath (c : Char) : Bool := c == '?' || c == '#'

/-- The query and the fragment of the text after a path. -/
def readTail (isSpecial : Bool) (text : List Char) : Option (List Char) × Option (List Char) :=
  let fragmentOf : List Char → Option (List Char)
    | '#' :: fragment => some (encode inFragmentSet fragment)
    | _ => none
  match text with
  | '?' :: rest =>
    let (query, more) := rest.span (· != '#')
    let inSet := if isSpecial then inSpecialQuerySet else inQuerySet
    (some (encode inSet query), fragmentOf more)
  | _ => (none, fragmentOf text)

/-- A text before and after the last occurrence of a character, if it occurs. -/
def cutAtLast (mark : Char) (text : List Char) : Option (List Char × List Char) :=
  let behind := (text.reverse.takeWhile (· != mark)).reverse
  if behind.length < text.length then
    some (text.take (text.length - behind.length - 1), behind)
  else none

/-- The user name and the password of the text before the sign that ends them. -/
def readUser (text : List Char) : List Char × List Char :=
  let (username, rest) := text.span (· != ':')
  (encode inUserSet username, encode inUserSet (rest.drop 1))

/-- A host text and what comes after it: a colon that stands in no brackets ends it. -/
def cutHost (inBrackets : Bool) : List Char → List Char × List Char
  | [] => ([], [])
  | c :: rest =>
    if c == ':' && !inBrackets then ([], c :: rest)
    else
      let now := if c == '[' then true else if c == ']' then false else inBrackets
      let (host, more) := cutHost now rest
      (c :: host, more)

/-- The port that a text after a colon starts with, if it has digits, and the text after it. -/
def readPort (text : List Char) : Except Fault (Option Nat × List Char) :=
  let (digits, more) := text.span Char.isDigit
  match Text.numberOfDigits? 10 digits with
  | some port =>
    if UInt16.size ≤ port then .error .invalidPort
    else if more.isEmpty || more.head? == some '\\' then
      .ok (if digits.isEmpty then none else some port, more)
    else .error .invalidPort
  | none => .error .invalidPort

/-- The host of a host text, and none of an empty one if that is allowed before `rest`. -/
def readHost (kind : SchemeKind) (hostText rest : List Char) : Except Fault (Option Host) :=
  if hostText.isEmpty then
    if kind.isSpecial || !rest.isEmpty then .error .emptyHost else .ok none
  else if kind.isSpecial then some <$> Host.ofSpecial hostText
  else some <$> Host.ofPlain hostText

/-- The port after a host, unless it is the usual one, and what is left of the text. -/
def readShownPort (kind : SchemeKind) : List Char → Except Fault (Option UInt16 × List Char)
  | ':' :: portText => do
    let (port?, more) ← readPort portText
    let usual : Option Nat := match kind with
      | .special usualPort => some usualPort.toNat
      | _ => none
    .ok (if port? == usual then none else port?.map UInt16.ofNat, more)
  | rest => .ok (none, rest)

/-- The host and the port of the text after the user, and what is left of that text. -/
def readHostAndPort (kind : SchemeKind) (text : List Char) :
    Except Fault (Option Host × Option UInt16 × List Char) := do
  let (hostText, rest) := cutHost false text
  let host ← readHost kind hostText rest
  let (port, more) ← readShownPort kind rest
  .ok (host, port, more)

/-- The authority of a text, and what is left of that text. -/
def readAuthority (kind : SchemeKind) (text : List Char) (endsHere : Bool) :
    Except Fault (Authority × List Char) :=
  match cutAtLast '@' text with
  | none => do
    let (host, port, more) ← readHostAndPort kind text
    .ok ({ username := [], password := [], host, port }, more)
  | some ([], behind) => do
    if behind.isEmpty && !endsHere then .error .emptyHost
    let (host, port, more) ← readHostAndPort kind behind
    .ok ({ username := [], password := [], host, port }, more)
  | some (user, behind) => do
    let (username, password) := readUser user
    let (host, port, more) ← readHostAndPort kind behind
    let authority : Authority := { username, password, host, port }
    if host.isNone && !authority.userText.isEmpty then .error .emptyHost
    .ok (authority, more)

/-- The path of the text after an authority. -/
def readPath (isSpecial : Bool) (text : List Char) : Path :=
  match text with
  | [] => if isSpecial then [[]] else []
  | c :: rest => Path.ofText isSpecial false (if isSlash isSpecial c then rest else text)

/-- A URL with an authority, from the text after the slashes in front of it. -/
def ofAuthority (kind : SchemeKind) (scheme text : List Char) : Except Fault Url := do
  let (authorityText, rest) := text.span fun c => !endsAuthority kind.isSpecial c
  let (authority, more) ← readAuthority kind authorityText rest.isEmpty
  let (pathText, tail) := (more ++ rest).span fun c => !endsPath c
  let (query, fragment) := readTail kind.isSpecial tail
  .ok { scheme, authority := some authority
        location := .path (readPath kind.isSpecial pathText), query, fragment }

/-- A URL of no special scheme, from the text after its colon. -/
def ofOther (scheme text : List Char) : Except Fault Url :=
  match text with
  | '/' :: '/' :: rest => ofAuthority .other scheme rest
  | _ =>
    let (body, tail) := text.span fun c => !endsPath c
    let (query, fragment) := readTail false tail
    let location : Location := match body with
      | '/' :: rest => .path (Path.ofText false false rest)
      | _ => .unstructured (encode isControl body)
    .ok { scheme, authority := none, location, query, fragment }

/-- The host of a file, and the text after it; the local host counts as none. -/
def readFileHost (text : List Char) : Except Fault (Option Host × List Char) := do
  let (hostText, rest) := text.span fun c => !endsAuthority true c
  if hostText.isEmpty || Path.isDriveLetter hostText then .ok (none, text)
  else
    let host ← Host.ofSpecial hostText
    .ok (if host == .domain "localhost".toList then none else some host, rest)

/-- The host of a file if two slashes announce one, and the text after it. -/
def readFileStart (text : List Char) : Except Fault (Option Host × List Char) :=
  match text with
  | first :: second :: more =>
    if isSlash true first && isSlash true second then readFileHost more else .ok (none, text)
  | _ => .ok (none, text)

/-- The URL of a file, from the text after its colon. -/
def ofFile (scheme text : List Char) : Except Fault Url := do
  let (host, rest) ← readFileStart text
  let (pathText, tail) := rest.span fun c => !endsPath c
  let inner := match pathText with
    | c :: more => if isSlash true c then more else pathText
    | [] => []
  let path := (Path.ofText true true inner).withoutEmptyStart
  let startsWithDrive := path.head?.any Path.isDriveLetter
  let (query, fragment) := readTail true tail
  .ok { scheme
        authority := some
          { username := [], password := [], host := if startsWithDrive then none else host
            port := none }
        location := .path path, query, fragment }

/-- The URL of a text, or the reason why it is none. -/
def parse (text : List Char) : Except Fault Url :=
  match readScheme? (cleaned text) with
  | none => .error .noScheme
  | some (scheme, rest) =>
    match SchemeKind.ofScheme scheme with
    | .special usualPort =>
      ofAuthority (.special usualPort) scheme (rest.dropWhile (isSlash true))
    | .file => ofFile scheme rest
    | .other => ofOther scheme rest

/-- Whether a text is a URL. -/
def isUrl (text : List Char) : Bool :=
  match parse text with
  | .ok _ => true
  | .error _ => false

end ServiceLocation.Url
