import Checkout.Url.Host

/-! Absolute addresses: how a text is cut into a scheme, a host, a path, a query and a fragment,
and how the parts are put together again. Tabs and line ends are dropped from the text, a
backslash is a slash in the well-known schemes, and path segments that mean "here" or "one up" are
resolved. -/
namespace Checkout

/-- The path of an address: segments behind slashes, or plain text. -/
inductive Url.Path where
  | segments (names : List (List Char))
  | plain (text : List Char)
  deriving DecidableEq, Repr

/-- An absolute address. The port is kept only if it is not the usual one of the scheme. -/
structure Url where
  scheme : String
  host : Option String
  port : Option Nat
  path : Url.Path
  query : Option (List Char)
  fragment : Option (List Char)
  deriving DecidableEq, Repr

namespace Url

/-- The usual port of a well-known scheme. -/
def usualPort? (scheme : String) : Option Nat :=
  match scheme with
  | "http" => some 80
  | "https" => some 443
  | "ws" => some 80
  | "wss" => some 443
  | "ftp" => some 21
  | _ => none

/-- Whether a scheme is a well-known one. -/
def isSpecial (scheme : String) : Bool := (usualPort? scheme).isSome || scheme == "file"

/-- A control character or a space. -/
def isEdge (c : Char) : Bool := c.toNat ≤ 0x20

/-- A tab or a line end. -/
def isDropped (c : Char) : Bool := c == '\t' || c == '\n' || c == '\r'

/-- The text without controls and spaces at its ends and without tabs and line ends. -/
def clean (cs : List Char) : List Char :=
  (((cs.dropWhile isEdge).reverse.dropWhile isEdge).reverse).filter (!isDropped ·)

/-- A character of a scheme behind its first letter. -/
def isSchemeChar (c : Char) : Bool := c.isAlphanum || c == '+' || c == '-' || c == '.'

/-- The scheme of a text in lower case, and what is behind its colon. -/
def scheme? (cs : List Char) : Option (String × List Char) :=
  let front := cs.takeWhile isSchemeChar
  match front, cs.drop front.length with
  | c :: _, ':' :: rest =>
    if c.isAlpha then some (String.ofList (front.map Char.toLower), rest) else none
  | _, _ => none

/-- Whether a character parts the segments of a path. -/
def isSlash (special : Bool) (c : Char) : Bool := c == '/' || (special && c == '\\')

/-- Whether a character ends the path. -/
def endsPath (c : Char) : Bool := c == '?' || c == '#'

/-- Whether a segment means the place where it stands. -/
def isSingleDot (segment : List Char) : Bool :=
  let s := String.ofList (segment.map Char.toLower)
  s == "." || s == "%2e"

/-- Whether a segment means the place one up. -/
def isDoubleDot (segment : List Char) : Bool :=
  let s := String.ofList (segment.map Char.toLower)
  s == ".." || s == ".%2e" || s == "%2e." || s == "%2e%2e"

/-- Resolves segments in their order; those before them are given in reverse. -/
def resolve (done : List (List Char)) : List (List Char) → List (List Char)
  | [] => done.reverse
  | [last] =>
    if isDoubleDot last then ([] :: done.drop 1).reverse
    else if isSingleDot last then ([] :: done).reverse
    else (encode inPath last :: done).reverse
  | segment :: rest =>
    if isDoubleDot segment then resolve (done.drop 1) rest
    else if isSingleDot segment then resolve done rest
    else resolve (encode inPath segment :: done) rest

/-- The path of a text that starts with a slash or is empty. -/
def pathOf (special : Bool) (cs : List Char) : Path :=
  let inner := match cs with
    | c :: rest => if isSlash special c then rest else c :: rest
    | [] => []
  .segments (resolve [] (Text.splitWhere (isSlash special) inner))

/-- The query and the fragment behind a path. -/
def tailOf (special : Bool) (cs : List Char) : Option (List Char) × Option (List Char) :=
  let fragmentOf (rest : List Char) : Option (List Char) :=
    match rest with
    | '#' :: fragment => some (encode inFragment fragment)
    | _ => none
  match cs with
  | '?' :: rest =>
    let query := rest.takeWhile (· != '#')
    (some (encode (if special then inSpecialQuery else inQuery) query),
      fragmentOf (rest.drop query.length))
  | rest => (none, fragmentOf rest)

/-- What is behind the last `@` of an authority: the part that names a host. A user and a password
in front of it are passed over: they are neither in the text of the address nor do they become an
authorization. -/
def afterUser (cs : List Char) : List Char :=
  (cs.reverse.takeWhile (· != '@')).reverse

/-- A host and the port behind it: the last colon outside brackets parts them. -/
def splitPort (cs : List Char) : List Char × Option (List Char) :=
  let digits := (cs.reverse.takeWhile fun c => c != ':' && c != ']').reverse
  let front := cs.take (cs.length - digits.length)
  match front.reverse with
  | ':' :: hostReversed => (hostReversed.reverse, some digits)
  | _ => (cs, none)

/-- The port of an authority: none if it is left out, empty or the usual one of the scheme. -/
def port? (scheme : String) : Option (List Char) → Option (Option Nat)
  | none => some none
  | some [] => some none
  | some digits =>
    match Net.number? 10 Text.digit? digits with
    | some n => if 65535 < n then none else some (if usualPort? scheme = some n then none else some n)
    | none => none

/-- The address of a text whose scheme is known and which goes on with an authority. -/
def ofAuthority? (scheme : String) (cs : List Char) : Option Url := do
  let special := isSpecial scheme
  let authority := cs.takeWhile fun c => !isSlash special c && !endsPath c
  let rest := cs.drop authority.length
  let (hostText, portText) := splitPort (afterUser authority)
  let host ← if scheme = "file" ∧ hostText = [] then some "" else host? hostText
  let port ← port? scheme portText
  let path := rest.takeWhile (!endsPath ·)
  let (query, fragment) := tailOf special (rest.drop path.length)
  return ⟨scheme, some host, port, pathOf special path, query, fragment⟩

/-- The address of a text without an authority. -/
def withoutAuthority (scheme : String) (cs : List Char) : Url :=
  let path := cs.takeWhile (!endsPath ·)
  let (query, fragment) := tailOf false (cs.drop path.length)
  match path with
  | '/' :: _ => ⟨scheme, none, none, pathOf false path, query, fragment⟩
  | path => ⟨scheme, none, none, .plain (encode isControl path), query, fragment⟩

/-- The absolute address of a text, if it is one. -/
def ofText? (s : String) : Option Url := do
  let (scheme, rest) ← scheme? (clean s.toList)
  if scheme = "file" then
    match rest with
    | a :: b :: rest =>
      if isSlash true a ∧ isSlash true b then ofAuthority? scheme rest
      else ofAuthority? scheme ('/' :: a :: b :: rest)
    | rest => ofAuthority? scheme ('/' :: rest)
  else if isSpecial scheme then ofAuthority? scheme (rest.dropWhile (isSlash true))
  else
    match rest with
    | '/' :: '/' :: rest => ofAuthority? scheme rest
    | rest => return withoutAuthority scheme rest

/-- Whether an address names a machine. -/
def hasHost (u : Url) : Bool := (u.host.getD "") != ""

/-- The text of a path. -/
def pathChars (u : Url) : List Char :=
  match u.path with
  | .segments names => names.flatMap ('/' :: ·)
  | .plain text => text

/-- A part behind its mark, if there is one. -/
def marked (mark : Char) : Option (List Char) → List Char
  | none => []
  | some part => mark :: part

/-- What a request for an address names: the path and the query. -/
def target (u : Url) : String := String.ofList (u.pathChars ++ marked '?' u.query)

/-- The scheme and the machine of an address. -/
def originText (u : Url) : String :=
  u.scheme ++ ":" ++
    match u.host with
    | none => ""
    | some host => "//" ++ host ++
      match u.port with
      | none => ""
      | some n => ":" ++ toString n

/-- The text of an address. -/
def toText (u : Url) : String :=
  u.originText ++ String.ofList (u.pathChars ++ marked '?' u.query ++ marked '#' u.fragment)

example : (ofText? "http://h:80/a/../b c/%2E/?q'#f").map toText =
    some "http://h/b%20c/?q%27#f" := by decide +kernel
example : (ofText? "HTTP:\\\\u@Host:8080").map toText = some "http://host:8080/" := by
  decide +kernel
example : (ofText? "/transactions") = none := by decide +kernel
example : (ofText? "localhost:9/x").map hasHost = some false := by decide +kernel

end Url
end Checkout
