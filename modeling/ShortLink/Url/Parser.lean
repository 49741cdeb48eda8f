import ShortLink.Url.Basic

/-!
# Reading URLs

An absolute URL is read by taking it apart: the scheme up to its colon, the fragment from the first
number sign on, the query from the first question mark on, then the authority and the path. Each
part is brought into its normal form by itself. Blanks around the text are dropped, and so are tabs
and line ends anywhere in it.

## Main definitions

- `Url.ofText?` — the URL that a text stands for
- `Url.Authority.ofText?` — the credentials, host and `portNumber` of an authority
- `Url.resolveSegments` — the segments of a path when its dot segments have been followed
-/

namespace ShortLink.Url

open Text (fields)

/-- The part of a text before the first occurrence of a separator, and the part after it. -/
def cut (separator : Char) (text : List Char) : List Char × Option (List Char) :=
  (text.takeWhile (· ≠ separator), (text.dropWhile (· ≠ separator)).tail?)

/-- The text without blanks and controls around it and without tabs and line ends in it. -/
def clean (text : List Char) : List Char :=
  let isBlank : Char → Bool := (· ≤ ' ')
  ((text.dropWhile isBlank).reverse.dropWhile isBlank).reverse.filter
    fun c => c ≠ '\t' ∧ c ≠ '\n' ∧ c ≠ '\r'

/-- Whether a character may stand in a scheme. -/
def isSchemeChar (c : Char) : Bool := c.isAlphanum || c == '+' || c == '-' || c == '.'

/-- The scheme of a text in lower case, and what stands behind its colon. -/
def splitScheme? (text : List Char) : Option (String × List Char) := do
  let (name, rest) := cut ':' text
  if (name.head?.any Char.isAlpha) ∧ name.all isSchemeChar then
    return (String.ofList (name.map Char.toLower), ← rest)
  else none

/-- Whether a character separates the segments of a path. -/
def isSlash (special : Bool) (c : Char) : Bool := c == '/' || (special && c == '\\')

/-! ### Authorities -/

/-- What stands between the slashes of a URL and its path. -/
structure Authority where
  username : String := ""
  password : String := ""
  host : Host
  portNumber : Option UInt16 := none

namespace Authority

/-- The part before the last at sign, and the part after it. -/
def splitCredentials (text : List Char) : Option (List Char) × List Char :=
  let rest := (text.reverse.takeWhile (· ≠ '@')).reverse
  if text.contains '@' then (some (text.take (text.length - rest.length - 1)), rest)
  else (none, text)

/-- The host and what stands behind it, which begins with a colon if it is not empty. Colons between
square brackets belong to the host. -/
def splitPort (inBrackets : Bool) : List Char → List Char × List Char
  | [] => ([], [])
  | c :: rest =>
    if c = ':' ∧ ¬ inBrackets then ([], c :: rest)
    else
      let inBrackets := c = '[' ∨ (inBrackets ∧ c ≠ ']')
      let (host, behind) := splitPort inBrackets rest
      (c :: host, behind)

/-- The number that digits behind a host denote, unless it is the default one of the scheme. Without
digits there is none. -/
def portNumber? (scheme : String) (digits : List Char) : Option (Option UInt16) := do
  if digits.isEmpty then return none
  let n ← number? 10 digits
  if 65535 < n then none
  let number := n.toUInt16
  return if defaultPort? scheme = some number then none else some number

/-- The authority that a text stands for. -/
def ofText? (scheme : String) (text : List Char) : Option Authority := do
  let special := isSpecial scheme
  let (credentials, rest) := splitCredentials text
  let (hostText, portText) := splitPort false rest
  if hostText.isEmpty ∧ (special ∨ credentials.isSome ∨ ¬ portText.isEmpty) then none
  let host ← if hostText.isEmpty then some (.name "") else Host.ofText? special hostText
  let portNumber ← portNumber? scheme (portText.drop 1)
  let (username, password) := cut ':' (credentials.getD [])
  let written := fun part => String.ofList (escape EscapeSet.credentials part)
  return {
    username := written username, password := written (password.getD []), host, portNumber }

end Authority

/-! ### Paths -/

/-- Whether a segment stands for the place it is in. -/
def isDot (segment : List Char) : Bool :=
  [".", "%2e"].contains (String.ofList (segment.map Char.toLower))

/-- Whether a segment stands for the place above. -/
def isDoubleDot (segment : List Char) : Bool :=
  ["..", ".%2e", "%2e.", "%2e%2e"].contains (String.ofList (segment.map Char.toLower))

/-- Whether a segment names a drive. -/
def isDrive : List Char → Bool
  | [letter, mark] => letter.isAlpha && (mark == ':' || mark == '|')
  | _ => false

/-- The path to the place above, the last segment first. There is none above a drive, wherever in
the path and in whatever scheme it stands. -/
def parent : List String → List String
  | [] => []
  | last :: above => if isDrive last.toList then last :: above else above

/-- A segment in its normal form, when it is added to a path. -/
def writeSegment (file : Bool) (path : List String) (segment : List Char) : String :=
  if file && path.isEmpty && isDrive segment then String.ofList (segment.take 1 ++ [':'])
  else String.ofList (escape EscapeSet.path segment)

/-- The path after a segment, the last segment first. A dot segment at the end leaves an empty
segment. -/
def follow (file : Bool) (path : List String) (segment : List Char) (atEnd : Bool) : List String :=
  let ending := if atEnd then [""] else []
  if isDoubleDot segment then ending ++ parent path
  else if isDot segment then ending ++ path
  else writeSegment file path segment :: path

/-- The path that segments lead to from another path, which is given with its last segment first. -/
def resolveSegments (file : Bool) (path : List String) : List (List Char) → List String
  | [] => path.reverse
  | segment :: later => resolveSegments file (follow file path segment later.isEmpty) later

/-- The path that a text stands for; a slash at its front is no segment. -/
def readPath (scheme : String) (text : List Char) : Path :=
  let special := isSpecial scheme
  let inner := if text.head?.any (isSlash special) then text.drop 1 else text
  let segments := fields '/' (inner.map fun c => if isSlash special c then '/' else c)
  .segments (resolveSegments (scheme == "file") [] segments)

/-! ### URLs -/

/-- The host of a file and the path behind it. A drive in the place of a host belongs to the path.
-/
def splitFileHost? (text : List Char) : Option (Host × List Char) :=
  match text with
  | a :: b :: after =>
    if isSlash true a ∧ isSlash true b then
      let hostText := after.takeWhile fun c => !isSlash true c
      if hostText.isEmpty ∨ isDrive hostText then some (.name "", after)
      else (Host.ofText? true hostText).map fun host =>
        (if host = .name "localhost" then .name "" else host, after.drop hostText.length)
    else some (.name "", text)
  | _ => some (.name "", text)

/-- The URL of a scheme, without query and fragment, whose authority and path are given. -/
def ofAuthority? (scheme : String) (text : List Char) : Option Url := do
  let special := isSpecial scheme
  let authority ← Authority.ofText? scheme (text.takeWhile fun c => !isSlash special c)
  let rest := text.dropWhile fun c => !isSlash special c
  return {
    scheme, username := authority.username, password := authority.password,
    host := some authority.host, portNumber := authority.portNumber,
    path := if rest.isEmpty ∧ ¬ special then .segments [] else readPath scheme rest }

/-- The URL of a scheme, without query and fragment. -/
def ofHierarchy? (scheme : String) (text : List Char) : Option Url :=
  if scheme = "file" then
    (splitFileHost? text).map fun (host, path) =>
      { scheme, host := some host, path := readPath scheme path }
  else if isSpecial scheme then ofAuthority? scheme (text.dropWhile (isSlash true))
  else match text with
    | '/' :: '/' :: rest => ofAuthority? scheme rest
    | '/' :: _ => some { scheme, path := readPath scheme text }
    | _ => some { scheme, path := .verbatim (String.ofList (escape EscapeSet.controls text)) }

/-- The URL that a text stands for. -/
def ofText? (text : String) : Option Url := do
  let (scheme, rest) ← splitScheme? (clean text.toList)
  let (rest, fragment) := cut '#' rest
  let (rest, query) := cut '?' rest
  let url ← ofHierarchy? scheme rest
  let querySet := if isSpecial scheme then EscapeSet.specialQuery else EscapeSet.query
  return { url with
    query := query.map fun part => String.ofList (escape querySet part)
    fragment := fragment.map fun part => String.ofList (escape EscapeSet.fragment part) }

end ShortLink.Url
