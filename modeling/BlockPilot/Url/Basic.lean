import BlockPilot.Text.Blank
import BlockPilot.Url.Form
import BlockPilot.Url.Host
import BlockPilot.Url.Path

/-!
# Addresses

An address is read in its parts: scheme, user, host, port, path, query and fragment. White space
and controls around it are dropped, and so are tabs and line breaks inside it. A missing slash is
put where it belongs, and a backslash counts as one.
-/

namespace BlockPilot

/-- An address of a scheme that has hosts; the parts are kept as they are written. -/
structure Url where
  scheme : List Char
  /-- The user with the password, and the sign behind them. -/
  user : List Char
  host : Url.Host
  port : Option Nat
  path : List (List Char)
  query : Option (List Char)
  fragment : Option (List Char)

namespace Url

/-! ## Schemes -/

/-- The schemes whose addresses have a host and a path. -/
inductive SchemeKind where
  | hosted
  | file
  | unknown
  deriving DecidableEq

def schemeKind (scheme : String) : SchemeKind :=
  if ["http", "https", "ws", "wss", "ftp"].contains scheme then .hosted
  else if scheme = "file" then .file
  else .unknown

/-- The port that a scheme has when none is given. -/
def defaultPort (scheme : String) : Option Nat :=
  match scheme with
  | "http" | "ws" => some 80
  | "https" | "wss" => some 443
  | "ftp" => some 21
  | _ => none

/-- The controls and the white space that count for nothing around an address. -/
def isPadding (c : Char) : Bool :=
  c.toNat ≤ 0x20

/-- The tabs and line breaks that count for nothing anywhere in an address. -/
def isBreak (c : Char) : Bool :=
  c == '\t' || c == '\n' || c == '\r'

/-- The text without what counts for nothing. -/
def clean (s : List Char) : List Char :=
  (Text.dropEndWhile isPadding (s.dropWhile isPadding)).filter (!isBreak ·)

def isSchemeChar (c : Char) : Bool :=
  c.isAlphanum || c == '+' || c == '-' || c == '.'

/-- The scheme in lower case and the text behind its colon. -/
def scheme? (s : List Char) : Option (List Char × List Char) :=
  let name := s.takeWhile isSchemeChar
  match name.head?, s.dropWhile isSchemeChar with
  | some c, ':' :: rest => if c.isAlpha then some (name.map Char.toLower, rest) else none
  | _, _ => none

/-! ## Users -/

/-- Whether a character ends the part of an address in front of its path. -/
def endsAuthority (slashes : Bool) (c : Char) : Bool :=
  c == '/' || c == '?' || c == '#' || (slashes && c == '\\')

/-- The user, encoded and with the sign behind it. -/
def userText (user : List Char) : List Char :=
  let name := user.takeWhile (· != ':')
  let password := (user.dropWhile (· != ':')).drop 1
  let shown := encode userSet name ++
    (if password = [] then [] else ':' :: encode userSet password)
  if shown = [] then [] else shown ++ ['@']

/-- The user, which is everything up to the last sign in front of the path, and the rest. -/
def splitUser (slashes : Bool) (s : List Char) : Except UrlFault (List Char × List Char) :=
  let authority := s.takeWhile (!endsAuthority slashes ·)
  if authority.contains '@' then
    let host := (authority.reverse.takeWhile (· != '@')).reverse
    let user := authority.take (authority.length - host.length - 1)
    let rest := s.drop (user.length + 1)
    if user = [] ∧ host = [] ∧ rest ≠ [] then .error .emptyHost
    else .ok (userText user, rest)
  else .ok ([], s)

/-! ## Hosts and ports -/

/-- The host's text and the rest: it ends at a colon that is in no brackets. -/
def splitHost (slashes : Bool) (bracket : Bool) : List Char → List Char × List Char
  | [] => ([], [])
  | c :: rest =>
    if endsAuthority slashes c || (c == ':' && !bracket) then ([], c :: rest)
    else
      let bracket := if c = '[' then true else if c = ']' then false else bracket
      let (host, rest) := splitHost slashes bracket rest
      (c :: host, rest)

/-- The port behind its colon, and the rest; no digits are no port. -/
def readPort (s : List Char) : Except UrlFault (Option Nat × List Char) :=
  let digits := s.takeWhile isDigit
  let rest := s.dropWhile isDigit
  let port := ofDigits digits
  if 65535 < port then .error .invalidPort
  else match rest with
    | [] => .ok (if digits = [] then none else some port, rest)
    | c :: _ =>
      if endsAuthority true c then .ok (if digits = [] then none else some port, rest)
      else .error .invalidPort

/-- The port behind a colon if there is one. -/
def splitPort : List Char → Except UrlFault (Option Nat × List Char)
  | ':' :: rest => readPort rest
  | rest => .ok (none, rest)

/-! ## Whole addresses -/

/-- The query and the fragment behind a path. -/
def tails (s : List Char) : Option (List Char) × Option (List Char) :=
  let query := match s with
    | '?' :: rest => some (encode querySet (rest.takeWhile (· != '#')))
    | _ => none
  let fragment := match s.dropWhile (· != '#') with
    | _ :: rest => some (encode fragmentSet rest)
    | [] => none
  (query, fragment)

/-- The address with the path, the query and the fragment that a text gives. -/
def goOn (u : Url) (s : List Char) : Url :=
  let path := s.takeWhile fun c => c != '?' && c != '#'
  let (query, fragment) := tails (s.drop path.length)
  { u with path := Path.parse path.tail, query, fragment }

/-- The address of a hosted scheme behind its user. -/
def ofHost (scheme user s : List Char) : Except UrlFault Url := do
  let (host, rest) := splitHost true false s
  if host = [] then throw .emptyHost
  let host ← Host.parse host
  let (port, rest) ← splitPort rest
  let port := if port = defaultPort (String.ofList scheme) then none else port
  return goOn ⟨scheme, user, host, port, [], none, none⟩ rest

/-- The address of a hosted scheme behind its slashes. -/
def ofAuthority (scheme : List Char) (s : List Char) : Except UrlFault Url := do
  let (user, rest) ← splitUser true s
  ofHost scheme user rest

/-- Whether a text is the rest of an address whose scheme is not known. -/
def checkUnknown : List Char → Except UrlFault Unit
  | '/' :: '/' :: s => do
    let (user, rest) ← splitUser false s
    let (host, rest) := splitHost false false rest
    Host.checkOpaque host
    if host = [] ∧ (user ≠ [] ∨ rest.head? = some ':') then throw .emptyHost
    let _ ← splitPort rest
  | _ => .ok ()

/-- Whether a text is the rest of the address of a file. -/
def checkFile (s : List Char) : Except UrlFault Unit :=
  match s with
  | a :: b :: rest =>
    if Path.isSlash a && Path.isSlash b then
      let host := rest.takeWhile (!endsAuthority true ·)
      if host = [] || Path.isDrive host then .ok () else do
        let _ ← Host.parse host
    else .ok ()
  | _ => .ok ()

/-- The address of a web server that a text is. -/
def parseHttp (text : List Char) : Except UrlFault Url :=
  match scheme? (clean text) with
  | none => .error .noScheme
  | some (scheme, rest) => do
    let name := String.ofList scheme
    match schemeKind name with
    | .hosted =>
      let url ← ofAuthority scheme (rest.dropWhile Path.isSlash)
      if name = "http" then return url else throw (.unsupportedScheme name)
    | .file => do
      checkFile rest
      throw (.unsupportedScheme name)
    | .unknown => do
      checkUnknown rest
      throw (.unsupportedScheme name)

/-! ## Text -/

/-- A part behind its sign if there is one. -/
def tailText (sign : Char) : Option (List Char) → List Char
  | some s => sign :: s
  | none => []

def text (u : Url) : List Char :=
  u.scheme ++ ':' :: '/' :: '/' :: u.user ++ u.host.text ++
    (match u.port with | some port => ':' :: decimalText port | none => []) ++
    Path.text u.path ++ tailText '?' u.query ++ tailText '#' u.fragment

/-- A query with another part behind it. -/
def extendQuery (query : Option (List Char)) (part : List Char) : List Char :=
  match query with
  | none | some [] => part
  | some query => query ++ '&' :: part

/-- The address with one more pair in its query. -/
def addPair (u : Url) (name value : List Char) : Url :=
  { u with query := some (extendQuery u.query (formText name ++ '=' :: formText value)) }

/-- The address with more pairs in its query. -/
def addPairs (u : Url) (pairs : List (List Char × List Char)) : Url :=
  pairs.foldl (fun u pair => u.addPair pair.1 pair.2) u

end Url

end BlockPilot
