import SeedCoverage.Url.Host
import SeedCoverage.Url.Login

/-! Uniform resource locators, read from text that people write and kept in one spelling. -/
namespace SeedCoverage

open Text

/-- A locator. Without a place for a host the path may be any text. -/
structure Url where
  scheme : Text
  login : Url.Login := {}
  /-- The host; an empty one is only a place for one. -/
  host : Option Text := none
  port : Option Nat := none
  path : Text := []
  query : Option Text := none
  fragment : Option Text := none
  deriving DecidableEq, Repr

namespace Url

/-- The schemes whose locators have a host and a path of segments, with their usual ports. -/
def knownSchemes : List (Text × Nat) :=
  [("http", 80), ("https", 443), ("ws", 80), ("wss", 443), ("ftp", 21)]

def usualPort? (scheme : Text) : Option Nat :=
  (knownSchemes.find? fun known => known.1 == scheme).map Prod.snd

/-- A known scheme, or that of files. -/
def isSpecial (scheme : Text) : Bool := (usualPort? scheme).isSome || scheme == "file".toList

/-- The text without control characters and blanks at its ends, and without tabs and line ends. -/
def tidy (text : Text) : Text :=
  (dropEndWhile (·.toNat ≤ 0x20) (text.dropWhile (·.toNat ≤ 0x20))).filter fun c =>
    c != '\t' && c != '\n' && c != '\r'

/-- The scheme in lower case, and what stands behind its colon. -/
def scheme? (text : Text) : Option (Text × Text) :=
  let name := text.takeWhile fun c => c.isAlphanum || ("+-." : Text).elem c
  match name, text.drop name.length with
  | c :: _, ':' :: rest => if c.isAlpha then some (lower name, rest) else none
  | _, _ => none

/-- Slashes; in special locators backslashes are slashes too. -/
def isSlash (special : Bool) (c : Char) : Bool := c == '/' || (special && c == '\\')

/-- A port up to 65535; the usual one says nothing. -/
def port? (scheme digits : Text) : Option (Option Nat) :=
  if digits.isEmpty then some none
  else if 65535 < digitsValue 10 digits then none
  else some (if usualPort? scheme = some (digitsValue 10 digits) then none
    else some (digitsValue 10 digits))

/-- The text before and behind the last of certain characters. -/
def cutLast (mark : Char) (text : Text) : Option Text × Text :=
  let behind := (text.reverse.takeWhile (· != mark)).reverse
  (if behind.length = text.length then none else some (text.take (text.length - behind.length - 1)),
    behind)

/-- What stands between the slashes and the path, and how much of that belongs to the path: behind
the digits of a port a backslash begins it. -/
structure Authority where
  login : Login
  host : Text
  port : Option Nat
  rest : Text

/-- The parts of an authority; `place` is what stands there. -/
def authority? (scheme place : Text) : Option Authority := do
  let (before, place) := cutLast '@' place
  if before = some [] && place.isEmpty then none
  let login := Login.ofText (before.getD [])
  let bracketed := if place.head? = some '[' then place.takeWhile (· != ']') else []
  let behind := place.drop bracketed.length
  let host := bracketed ++ behind.takeWhile (· != ':')
  let tail := (behind.dropWhile (· != ':')).drop 1
  let digits := tail.takeWhile Char.isDigit
  let rest := tail.drop digits.length
  if rest.head?.any (· != '\\') then none
  let port ← port? scheme digits
  if isSpecial scheme then
    return ⟨login, ← hostName? host, port, rest⟩
  else if host.isEmpty then
    if login != {} || place.head? == some ':' then none
    return ⟨login, [], none, rest⟩
  else return ⟨login, ← opaqueHost? host, port, rest⟩

/-- A dot, or one that is encoded. -/
def isDot (segment : Text) : Bool := segment == ['.'] || same segment "%2e"

/-- Two dots, either of which may be encoded. -/
def isTwoDots (segment : Text) : Bool :=
  segment == ['.', '.'] || same segment ".%2e" || same segment "%2e." || same segment "%2e%2e"

/-- A letter and a colon or bar, by which some systems name a drive. -/
def isDrive (segment : Text) : Bool :=
  match segment with
  | [letter, mark] => letter.isAlpha && (mark == ':' || mark == '|')
  | _ => false

/-- The segments of a path, without dots; those before are in reverse order. What names a drive is not
left again, and at the start of the path of a file it has a colon. -/
def resolveDots (ofFile : Bool) (before : List Text) : List Text → List Text
  | [] => before.reverse
  | segment :: rest =>
    let ended := rest.isEmpty && (isTwoDots segment || isDot segment)
    let before :=
      if isTwoDots segment then if before.head?.any isDrive then before else before.drop 1
      else if isDot segment then before
      else if ofFile && before.isEmpty && isDrive segment then [segment.take 1 ++ [':']]
      else percentEncode isEscapedInPath segment :: before
    resolveDots ofFile (if ended then [] :: before else before) rest

/-- A text cut at every slash. -/
def segments (special : Bool) (path : Text) : List Text :=
  splitOn '/' (path.map fun c => if isSlash special c then '/' else c)

/-- The text behind a slash, if it begins with one. -/
def dropSlash (special : Bool) (path : Text) : Text :=
  if path.head?.any (isSlash special) then path.tail else path

/-- A path of segments that begins with a slash. -/
def absolutePath (special : Bool) (path : Text) : Text :=
  '/' :: join "/" (resolveDots false [] (segments special (dropSlash special path)))

/-- The host and the path of a file. Of slashes in front of the path one stays. The host is left out
if it is the local one, and in front of a drive. -/
def filePlace? (rest : Text) : Option (Text × Text) := do
  let place (host path : Text) : Text × Text :=
    let segments := resolveDots true [] (segments true path)
    (if segments.head?.any isDrive then [] else host,
      '/' :: (join "/" segments).dropWhile (· == '/'))
  if (rest.takeWhile (isSlash true)).length < 2 then return place [] (dropSlash true rest)
  let rest := rest.drop 2
  let host := rest.takeWhile fun c => !isSlash true c
  if host.isEmpty || isDrive host then return place [] rest
  let name ← hostName? host
  let path := rest.drop host.length
  if name = ("localhost" : Text) then return place [] path
  return place name (dropSlash true path)

def isEscapedInQuery (special : Bool) (c : Char) : Bool :=
  (" \"#<>" : Text).elem c || (special && c == '\'')

def isEscapedInFragment (c : Char) : Bool := (" \"<>\x60" : Text).elem c

/-- The text before and behind a mark. -/
def cut (mark : Char) (text : Text) : Text × Option Text :=
  match text.dropWhile (· != mark) with
  | [] => (text, none)
  | _ :: behind => (text.takeWhile (· != mark), some behind)

/-- The locator that a text spells; `none` if it does not spell one by itself. -/
def parse? (text : Text) : Option Url := do
  let (scheme, rest) ← scheme? (tidy text)
  let (rest, fragment) := cut '#' rest
  let (rest, query) := cut '?' rest
  let special := isSpecial scheme
  let url : Url := {
    scheme
    query := query.map (percentEncode (isEscapedInQuery special))
    fragment := fragment.map (percentEncode isEscapedInFragment) }
  let slashes := (rest.takeWhile (isSlash special)).length
  if scheme = ("file" : Text) then
    let (host, path) ← filePlace? rest
    return { url with host := some host, path }
  else if special || 2 ≤ slashes then
    let rest := rest.drop (if special then slashes else 2)
    let place := rest.takeWhile fun c => !isSlash special c
    let authority ← authority? scheme place
    let path := authority.rest ++ rest.drop place.length
    return { url with
      login := authority.login
      host := some authority.host
      port := authority.port
      path := if path.isEmpty && !special then [] else absolutePath special path }
  else if slashes = 1 then return { url with path := absolutePath special rest }
  else return { url with path := percentEncode (fun _ => false) rest }

def hasHost (url : Url) : Bool := url.host.any fun host => !host.isEmpty

def renderQuery (url : Url) : Text :=
  match url.query with
  | none => []
  | some query => '?' :: query

/-- What is asked for on a connection: the path and the query. -/
def target (url : Url) : Text := url.path ++ url.renderQuery

/-- What stands between the scheme and the path. Two slashes at the start of a path do not look like
a place for a host. -/
def renderPlace (url : Url) : Text :=
  match url.host with
  | none => if url.path.take 2 = ['/', '/'] then "/." else []
  | some host => "//" ++ url.login.render ++ host ++ match url.port with
    | none => []
    | some port => ':' :: Text.ofNat port

def render (url : Url) : Text :=
  url.scheme ++ ":" ++ url.renderPlace ++ url.target ++ match url.fragment with
    | none => []
    | some fragment => '#' :: fragment

/-- The locator without its login. One that nobody can log in with stays. -/
def withoutLogin (url : Url) : Url := if url.login.isUsable then { url with login := {} } else url

/-- The locator with more pairs of names and values at the end of its query. -/
def withPairs (url : Url) (pairs : List (Text × Text)) : Url :=
  let added := join "&" (pairs.map fun (name, value) => formEncode name ++ "=" ++ formEncode value)
  let query := match url.query with
    | none => added
    | some [] => added
    | some query => query ++ "&" ++ added
  { url with query := some query }

end Url
end SeedCoverage
