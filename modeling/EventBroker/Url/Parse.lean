/-
Addresses.

`Url.parse` reads an address and gives it its standard spelling. Spaces and controls at the ends are dropped, and tabs
and line ends everywhere. Schemes that the web knows take backslashes for slashes and always have a host.
-/
import EventBroker.Url.Host

namespace EventBroker.Url

/-- an address: its scheme and its standard spelling -/
structure Address where
  scheme : String
  spelling : String
  deriving DecidableEq

/-- the schemes that the web knows, besides files -/
def isWeb (scheme : String) : Bool := ["http", "https", "ws", "wss", "ftp"].contains scheme

def defaultPortNumber (scheme : String) : Option Nat :=
  match scheme with
  | "http" | "ws" => some 80
  | "https" | "wss" => some 443
  | "ftp" => some 21
  | _ => none

/-! ## Which characters stand for themselves -/

def keepsInFragment (c : Char) : Bool := isPlain c && !(" \"<>`".toList.contains c)

def keepsInPath (c : Char) : Bool := keepsInFragment c && !("#?\x7b\x7d".toList.contains c)

def keepsInUser (c : Char) : Bool := keepsInPath c && !("/:;=@[\\]^|".toList.contains c)

def keepsInQuery (c : Char) : Bool := isPlain c && !(" \"#<>'".toList.contains c)

/-! ## Scheme and input -/

/-- the input without what is dropped from it -/
def cleaned (s : String) : List Char :=
  let isEdge := fun (c : Char) => c.toNat ≤ 0x20
  let cs := ((s.toList.dropWhile isEdge).reverse.dropWhile isEdge).reverse
  cs.filter fun c => c != '\t' && c != '\n' && c != '\r'

/-- the scheme in small letters, and what follows its colon -/
def schemeOf (cs : List Char) : Option (String × List Char) :=
  let name := cs.takeWhile fun c => c.isAlphanum || c == '+' || c == '-' || c == '.'
  match name, cs.drop name.length with
  | c :: _, ':' :: rest => if c.isAlpha then some (String.ofList (name.map Char.toLower), rest) else none
  | _, _ => none

/-- the authority ends here -/
def endsAuthority (web : Bool) (c : Char) : Bool := c == '/' || c == '?' || c == '#' || web && c == '\\'

/-! ## User and host -/

/-- what stands before the last at sign of an authority, if it has one, and what follows -/
def splitUser (web : Bool) (cs : List Char) : Option (List Char × List Char) :=
  let authority := cs.takeWhile (!endsAuthority web ·)
  if authority.contains '@' then
    let host := (authority.reverse.takeWhile (· != '@')).reverse
    let user := authority.take (authority.length - host.length - 1)
    some (user, cs.drop (user.length + 1))
  else none

/-- name and password as they are spelled, with the sign behind them -/
def renderUser (user : List Char) : List Char :=
  let encode := fun (cs : List Char) => cs.flatMap (percentEncode keepsInUser)
  let name := user.takeWhile (· != ':')
  let password := (user.drop name.length).drop 1
  if name.isEmpty && password.isEmpty then []
  else encode name ++ (if password.isEmpty then [] else ':' :: encode password) ++ ['@']

/-- how long the host is; a colon in square brackets belongs to it -/
def hostLength (web inBrackets : Bool) : List Char → Nat
  | [] => 0
  | c :: cs =>
    if endsAuthority web c || c == ':' && !inBrackets then 0
    else 1 + hostLength web (if c == '[' then true else if c == ']' then false else inBrackets) cs

/-- the number behind a colon, and what follows it; digits go up to a slash, a question mark or a hash -/
def readPortNumber : (n : Nat) → (any : Bool) → List Char → Except UrlError (Option Nat × List Char)
  | n, any, [] => .ok (if any then some n else none, [])
  | n, any, c :: cs =>
    if c.isDigit then
      let n := n * 10 + (c.toNat - 48)
      if 65535 < n then .error .invalidPortNumber else readPortNumber n true cs
    else if c == '/' || c == '\\' || c == '?' || c == '#' then .ok (if any then some n else none, c :: cs)
    else .error .invalidPortNumber

/-- an authority as it is spelled, and what follows it -/
def readAuthority (scheme : String) (cs : List Char) : Except UrlError (List Char × List Char) := do
  let web := isWeb scheme
  let (user, rest) := (splitUser web cs).getD ([], cs)
  if (splitUser web cs).isSome && user.isEmpty && rest.head?.any (endsAuthority web) then throw .emptyHost
  let user := renderUser user
  let name := rest.take (hostLength web false rest)
  let rest := rest.drop name.length
  if web && name.isEmpty then throw .emptyHost
  let host ← if web then domainHost name else opaqueHost name
  if host.isEmpty && rest.head? == some ':' then throw .emptyHost
  let (number, rest) ← match rest with
    | ':' :: rest => readPortNumber 0 false rest
    | rest => pure (none, rest)
  if host.isEmpty && !user.isEmpty then throw .emptyHost
  let number := match number with
    | some n => if defaultPortNumber scheme == some n then [] else ':' :: (toString n).toList
    | none => []
  return (user ++ host.toList ++ number, rest)

/-! ## Path, query and fragment -/

/-- a segment that stands for its parent -/
def isDoubleDot (s : List Char) : Bool :=
  ["..", ".%2e", "%2e.", "%2e%2e"].contains (String.ofList (s.map Char.toLower))

/-- a segment that stands for nothing -/
def isSingleDot (s : List Char) : Bool :=
  [".", "%2e"].contains (String.ofList (s.map Char.toLower))

/-- a letter and a colon, which a parent never removes -/
def isDrive : List Char → Bool
  | [a, b] => a.isAlpha && (b == ':' || b == '|')
  | _ => false

/-- put a segment behind others, the last one first; `isLast` if no slash follows it -/
def addSegment (done : List (List Char)) (isLast : Bool) (s : List Char) : List (List Char) :=
  let close := fun (done : List (List Char)) => if isLast then [] :: done else done
  if isDoubleDot s then
    match done with
    | d :: ds => close (if isDrive d then d :: ds else ds)
    | [] => close []
  else if isSingleDot s then close done
  else s :: done

/-- the segments of a path, the last one first -/
def addSegments (done : List (List Char)) : List (List Char) → List (List Char)
  | [] => done
  | [s] => addSegment done true s
  | s :: ss => addSegments (addSegment done false s) ss

/-- a path as it is spelled -/
def renderPath (path : List Char) : List Char :=
  let path := path.map fun c => if c == '\\' then '/' else c
  let segments := cutAt '/' (if path.head? == some '/' then path.tail else path)
  let encoded := segments.map fun s => s.flatMap (percentEncode keepsInPath)
  (addSegments [] encoded).reverse.flatMap ('/' :: ·)

/-- what follows an authority as it is spelled -/
def renderRest (cs : List Char) : List Char :=
  let path := cs.takeWhile fun c => c != '?' && c != '#'
  let rest := cs.drop path.length
  let query := rest.takeWhile (· != '#')
  let fragment := rest.drop query.length
  renderPath path
    ++ (match query with
      | q :: qs => q :: qs.flatMap (percentEncode keepsInQuery)
      | [] => [])
    ++ (match fragment with
      | f :: fs => f :: fs.flatMap (percentEncode keepsInFragment)
      | [] => [])

/-! ## Addresses -/

/-- a file's host, which may be missing, is the only part of its address that can be wrong -/
def checkFile (rest : List Char) : Except UrlError Unit :=
  let isSlash := fun (c : Char) => c == '/' || c == '\\'
  match rest with
  | a :: b :: rest =>
    if isSlash a && isSlash b then
      let host := rest.takeWhile (!endsAuthority true ·)
      if host.isEmpty || isDrive host then .ok () else (domainHost host).map fun _ => ()
    else .ok ()
  | _ => .ok ()

/-- read an address. Only those of the web are spelled in the standard way: of others the spelling is the input. -/
def parse (s : String) : Except UrlError Address :=
  match schemeOf (cleaned s) with
  | none => .error .relative
  | some (scheme, rest) =>
    if isWeb scheme then do
      let rest := rest.dropWhile fun c => c == '/' || c == '\\'
      let (authority, rest) ← readAuthority scheme rest
      return ⟨scheme, scheme ++ "://" ++ String.ofList (authority ++ renderRest rest)⟩
    else if scheme == "file" then do
      checkFile rest
      return ⟨scheme, s⟩
    else
      match rest with
      | '/' :: '/' :: rest => do
        let _ ← readAuthority scheme rest
        return ⟨scheme, s⟩
      | _ => .ok ⟨scheme, s⟩

end EventBroker.Url
