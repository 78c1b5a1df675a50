import SearchSql.Http.Host

/-!
# URLs

Reading an absolute URL as the URL standard has it: blanks around it are dropped, and tabs and line
ends anywhere; the schemes of the web take a backslash for a slash and need a host; dot segments are
resolved. A URL of another scheme without a slash after the colon has no hierarchy, and nothing can
be appended to its path.
-/

namespace SearchSql.Http

inductive Url.Path
  /-- A path without hierarchy. -/
  | rootless (text : String)
  | segments (list : List String)
deriving DecidableEq

structure Url where
  scheme : String
  username : String := ""
  password : String := ""
  host : Option Host := none
  portNumber : Option Nat := none
  path : Url.Path
  query : Option String := none
  fragment : Option String := none
deriving DecidableEq

namespace Url

/-- The scheme's own TCP port number, which is never written. -/
def defaultPortNumber? : String → Option Nat
  | "http" => some 80
  | "https" => some 443
  | "ws" => some 80
  | "wss" => some 443
  | "ftp" => some 21
  | _ => none

def isWebScheme (scheme : String) : Bool := (defaultPortNumber? scheme).isSome

/-- The schemes of the web, and the one of files. -/
def isSpecial (scheme : String) : Bool := isWebScheme scheme || scheme == "file"

def isDropped (c : Char) : Bool := c == '\t' || c == '\n' || c == '\r'

def isControlOrSpace (c : Char) : Bool := c.toNat ≤ 0x20

/-- A text without what is dropped before it is read. -/
def cleaned (text : List Char) : List Char :=
  ((text.dropWhile isControlOrSpace).reverse.dropWhile isControlOrSpace).reverse.filter
    (!isDropped ·)

def isSchemeChar (c : Char) : Bool := c.isAlphanum || c == '+' || c == '-' || c == '.'

/-- The scheme before the first colon, and what follows it. -/
def scheme? (text : List Char) : Option (String × List Char) :=
  if text.head?.any Char.isAlpha then
    match text.dropWhile isSchemeChar with
    | ':' :: rest => some (String.ofList ((text.takeWhile isSchemeChar).map Char.toLower), rest)
    | _ => none
  else none

/-- What stands before the first occurrence of a character, and what after it. -/
def cutAt (c : Char) (text : List Char) : List Char × Option (List Char) :=
  match text.dropWhile (· != c) with
  | [] => (text, none)
  | _ :: rest => (text.takeWhile (· != c), some rest)

/-- What stands before the last occurrence of a character, and what after it. -/
def cutAtLast (c : Char) (text : List Char) : Option (List Char) × List Char :=
  match cutAt c text.reverse with
  | (_, none) => (none, text)
  | (after, some before) => (some before.reverse, after.reverse)

/-- Cuts a TCP port number off a host, whose brackets may hold colons. -/
def cutPortNumber (bracketed : Bool) : List Char → List Char × Option (List Char)
  | [] => ([], none)
  | c :: rest =>
    if c = ':' ∧ !bracketed then ([], some rest)
    else
      let (host, portNumber) := cutPortNumber ((bracketed || c = '[') && c ≠ ']') rest
      (c :: host, portNumber)

/-- A TCP port number of 16 bits, if one is written and it is not the scheme's own. -/
def portNumber? (scheme : String) (digits : List Char) : Option (Option Nat) :=
  if digits.isEmpty then some none
  else do
    let number ← Host.number? 10 digits
    if 65535 < number then none
    else some (if defaultPortNumber? scheme = some number then none else some number)

/-- Whether a host may be left out: nothing that needs one stands around it. -/
def allowsNoHost (user : Option (List Char)) (hasPortNumber isLast : Bool) : Bool :=
  !hasPortNumber &&
    match user with
    | none => true
    | some [] => isLast
    | some text => text == [':']

/--
A URL up to its path: the user, the host and the TCP port number, and the text that follows it. A
backslash ends the number. `isLast` says that nothing follows the text in the URL.
-/
def withAuthority? (url : Url) (text : List Char) (isLast : Bool) : Option (Url × List Char) := do
  let (user, text) := cutAtLast '@' text
  let (hostText, following) := cutPortNumber false text
  if hostText.isEmpty ∧ !allowsNoHost user following.isSome isLast then none
  let host ← Host.ofText? (isSpecial url.scheme) hostText
  let following := following.getD []
  let portNumber ← portNumber? url.scheme (following.takeWhile (· != '\\'))
  let (username, password) := cutAt ':' (user.getD [])
  let url :=
    { url with
      username := percentEncode inUserSet username
      password := percentEncode inUserSet (password.getD [])
      host := some host
      portNumber }
  some (url, following.dropWhile (· != '\\'))

/-- A segment with its encoded dots decoded. -/
def plainDots : List Char → List Char
  | '%' :: '2' :: 'e' :: rest => '.' :: plainDots rest
  | '%' :: '2' :: 'E' :: rest => '.' :: plainDots rest
  | c :: rest => c :: plainDots rest
  | [] => []

def isOneDot (segment : List Char) : Bool := plainDots segment == ['.']

def isTwoDots (segment : List Char) : Bool := plainDots segment == ['.', '.']

/-- Resolves dot segments; `above` holds the segments so far, the last one first. -/
def resolve (above : List String) : List (List Char) → List String
  | [] => above.reverse
  | segment :: rest =>
    let next :=
      if isTwoDots segment then (if rest.isEmpty then "" :: above.tail else above.tail)
      else if isOneDot segment then (if rest.isEmpty then "" :: above else above)
      else percentEncode inPathSet segment :: above
    resolve next rest

/-- The segments of a path. A special URL has at least one. -/
def segments (special : Bool) (text : List Char) : List String :=
  let text := if special then text.map fun c => if c = '\\' then '/' else c else text
  match text with
  | [] => if special then [""] else []
  | '/' :: rest => resolve [] (Text.splitChars '/' rest)
  | text => resolve [] (Text.splitChars '/' text)

def isSlash (special : Bool) (c : Char) : Bool := c == '/' || (special && c == '\\')

/-- Reads the host and the path of a URL whose scheme is known. -/
def withHierarchy? (url : Url) (authority text : List Char) : Option Url := do
  let isLast := text.isEmpty && url.query.isNone && url.fragment.isNone
  let (url, rest) ← url.withAuthority? authority isLast
  some { url with path := .segments (segments (isSpecial url.scheme) (rest ++ text)) }

def isDriveLetter : List Char → Bool
  | [letter, mark] => letter.isAlpha && (mark == ':' || mark == '|')
  | _ => false

/-- A file may have a host after two slashes; a drive letter there begins the path. -/
def fileHierarchy? (url : Url) (text : List Char) : Option Url :=
  match text with
  | first :: second :: rest =>
    if isSlash true first && isSlash true second then
      let host := rest.takeWhile (!isSlash true ·)
      if host.isEmpty then some { url with path := .segments (segments true rest) }
      else if isDriveLetter host then
        some { url with path := .segments (segments true ('/' :: rest)) }
      else
        (Host.ofText? true host).map fun host =>
          { url with
            host := some host
            path := .segments (segments true (rest.dropWhile (!isSlash true ·))) }
    else some { url with path := .segments (segments true text) }
  | text => some { url with path := .segments (segments true text) }

/-- Reads what stands between the scheme and the query. -/
def withBody? (url : Url) (text : List Char) : Option Url :=
  if url.scheme = "file" then fileHierarchy? url text
  else if isWebScheme url.scheme then
    let text := text.dropWhile (isSlash true)
    url.withHierarchy? (text.takeWhile (!isSlash true ·)) (text.dropWhile (!isSlash true ·))
  else
    match text with
    | '/' :: '/' :: rest =>
      url.withHierarchy? (rest.takeWhile (· != '/')) (rest.dropWhile (· != '/'))
    | '/' :: rest => some { url with path := .segments (segments false ('/' :: rest)) }
    | text => some { url with path := .rootless (percentEncode isControl text) }

/-- The URL that a text writes; `none` for a text that is no absolute URL. -/
def ofText? (text : String) : Option Url := do
  let (scheme, rest) ← scheme? (cleaned text.toList)
  let (rest, fragment) := cutAt '#' rest
  let (body, query) := cutAt '?' rest
  let querySet := if isSpecial scheme then inSpecialQuerySet else inQuerySet
  withBody?
    { scheme
      path := .rootless ""
      query := query.map (percentEncode querySet)
      fragment := fragment.map (percentEncode inFragmentSet) }
    body

/-- A mark and a text, when there is one. -/
def marked (mark : String) (part : Option String) : String :=
  (part.map (mark ++ ·)).getD ""

/-- What follows the authority. -/
def tail (url : Url) : String :=
  (match url.path with
    | .rootless text => text
    | .segments list => String.join (list.map ("/" ++ ·))) ++
  marked "?" url.query ++ marked "#" url.fragment

/-- Appends a segment, in the place of an empty only one. A dot segment leads nowhere else. -/
def push (url : Url) (segment : String) : Url :=
  match url.path with
  | .rootless _ => url
  | .segments list =>
    if segment = "." ∨ segment = ".." then url
    else
      let kept := if list = [""] then [] else list
      let set := fun c => inSegmentSet c || (isSpecial url.scheme && c == '\\')
      let text := segment.toList.filter (!isDropped ·)
      { url with path := .segments (kept ++ [percentEncode set text]) }

/-- The path without an empty last segment, unless it is the only one. -/
def withoutTrailingSlash (url : Url) : Url :=
  match url.path with
  | .rootless _ => url
  | .segments list =>
    if 1 < list.length ∧ list.getLast? = some "" then { url with path := .segments list.dropLast }
    else url

/-- Appends segments to the path. -/
def append (url : Url) (parts : List String) : Url :=
  parts.foldl push url.withoutTrailingSlash

end Url

end SearchSql.Http
