import Testbed.Http.Form
import Testbed.Http.Host
/-!
# Addresses

An address is a scheme, perhaps a host with a user and a port, a path, a query and a fragment.
`Url.parse` brings it into normal form: the scheme and the host are in lower case, the port is left
out where it is the usual one, dots in the path are resolved, and what must not stand for itself is
percent-encoded. `Url.text` writes the normal form.
-/

namespace Testbed.Http

/-- What stands between the slashes before a host and its path. User and password are
percent-encoded; an empty one is none. -/
structure Authority where
  user : String
  password : String
  host : Option Host
  /-- A port other than the usual one. -/
  port : Option Nat
  deriving DecidableEq, Repr

structure Url where
  scheme : String
  authority : Option Authority
  path : String
  query : Option String
  fragment : Option String
  deriving DecidableEq, Repr

namespace Url

open Text

/-! ## Schemes -/

/-- How addresses of a scheme are read. -/
inductive Kind where
  /-- They have a host, with a usual port. -/
  | web (port : Nat)
  | file
  /-- Nothing is known about them. -/
  | unknown
  deriving DecidableEq, Repr

/-- The schemes of which something is known. -/
def knownSchemes : List (String × Kind) :=
  [("http", .web 80), ("https", .web 443), ("ws", .web 80), ("wss", .web 443), ("ftp", .web 21),
    ("file", .file)]

def kindOf (scheme : String) : Kind :=
  ((knownSchemes.find? (·.1 = scheme)).map (·.2)).getD .unknown

def Kind.usualPort? : Kind → Option Nat
  | .web port => some port
  | _ => none

/-- Whether a backslash is taken for a slash. -/
def Kind.isLax (k : Kind) : Bool := k ≠ .unknown

def Kind.isSlash (k : Kind) (c : Char) : Bool := c = '/' || (k.isLax && c = '\\')

def isSchemeChar (c : Char) : Bool := c.isAlphanum || c = '+' || c = '-' || c = '.'

/-- The scheme, and what follows the colon after it. -/
def splitScheme (cs : List Char) : Except AddressFault (String × List Char) :=
  match cs.takeWhile isSchemeChar, cs.dropWhile isSchemeChar with
  | c :: scheme, ':' :: rest =>
    if c.isAlpha then .ok (String.ofList ((c :: scheme).map Char.toLower), rest)
    else .error .noScheme
  | _, _ => .error .noScheme

/-! ## Characters that stand for themselves -/

def isPrintable (c : Char) : Bool := 0x20 ≤ c.toNat && c.toNat ≤ 0x7E

def isPlainInFragment (c : Char) : Bool :=
  isPrintable c && !(" \"<>".toList.contains c) && c.toNat ≠ 0x60

def isPlainInPath (c : Char) : Bool :=
  isPlainInFragment c && !(['#', '?', '\x7b', '\x7d'].contains c)

def isPlainInUser (c : Char) : Bool := isPlainInPath c && !("/:;=@[\\]^|".toList.contains c)

/-- A single quote only stands for itself where nothing is known about the scheme. -/
def isPlainInQuery (k : Kind) (c : Char) : Bool :=
  isPrintable c && !(" \"#<>".toList.contains c) && !(k.isLax && c = '\'')

def encoded (plain : Char → Bool) (cs : List Char) : String :=
  String.ofList (Percent.encode plain cs)

/-! ## Paths -/

/-- A piece that stays where it is. -/
def isDot (piece : List Char) : Bool :=
  piece = ['.'] || piece.map Char.toLower = ['%', '2', 'e']

/-- A piece that leads up. -/
def isDoubleDot (piece : List Char) : Bool :=
  ["..", ".%2e", "%2e.", "%2e%2e"].contains (String.ofList (piece.map Char.toLower))

/-- A letter with a colon or a bar names a drive, be it all of a piece or what stands before a
backslash in it. No path leads up from a drive. -/
def startsWithDrive : List Char → Bool
  | c :: mark :: rest =>
    c.isAlpha && (mark = ':' || mark = '|') && (rest.isEmpty || rest.head? = some '\\')
  | _ => false

def isDrive (piece : List Char) : Bool := startsWithDrive piece && piece.length = 2

/-- Goes up from the piece passed last, if there is one and it is not a drive. -/
def leave : List (List Char) → List (List Char)
  | [] => []
  | piece :: rest => if startsWithDrive piece then piece :: rest else rest

/-- Goes along pieces; those passed so far stand in reverse. A path that ends in dots ends in a
slash. -/
def resolve : (passed : List (List Char)) → List (List Char) → List (List Char)
  | passed, [] => passed.reverse
  | passed, piece :: rest =>
    if isDoubleDot piece then
      resolve (if rest.isEmpty then [] :: leave passed else leave passed) rest
    else if isDot piece then resolve (if rest.isEmpty then [] :: passed else passed) rest
    else resolve (Percent.encode isPlainInPath piece :: passed) rest

def pathText (pieces : List (List Char)) : String :=
  String.ofList ('/' :: ['/'].intercalate pieces)

/-- The pieces of a path, which a slash may stand before. -/
def pieces (k : Kind) (cs : List Char) : List (List Char) :=
  let cs := cs.map fun c => if k.isSlash c then '/' else c
  split '/' (if cs.head? = some '/' then cs.drop 1 else cs)

/-- A path on a host. Where nothing is known about the scheme it may be empty. -/
def pathOn (k : Kind) (cs : List Char) : String :=
  if cs.isEmpty && !k.isLax then "" else pathText (resolve [] (pieces k cs))

/-! ## Users, hosts and ports -/

def isEnd (k : Kind) (c : Char) : Bool := k.isSlash c || c = '?' || c = '#'

/-- User and password, and what follows the last at sign after them. -/
def splitUser (k : Kind) (cs : List Char) : Except AddressFault ((String × String) × List Char) :=
  let all := cs.takeWhile fun c => !isEnd k c
  let host := (all.reverse.takeWhile (· ≠ '@')).reverse
  if host.length = all.length then .ok (("", ""), cs)
  else
    let login := all.take (all.length - host.length - 1)
    let rest := cs.drop (login.length + 1)
    if login.isEmpty && host.isEmpty && !rest.isEmpty then .error .noHost
    else
      let user := login.takeWhile (· ≠ ':')
      .ok ((encoded isPlainInUser user, encoded isPlainInUser (login.drop (user.length + 1))), rest)

/-- How many characters a host takes. A colon ends it, but not in brackets. -/
def hostLength (k : Kind) : (inside : Bool) → List Char → Nat
  | _, [] => 0
  | inside, c :: rest =>
    if isEnd k c || (c = ':' && !inside) then 0
    else hostLength k (if c = '[' then true else if c = ']' then false else inside) rest + 1

/-- A port, where it is not the usual one, and what follows it. -/
def splitPort (k : Kind) (cs : List Char) : Except AddressFault (Option Nat × List Char) :=
  let ds := cs.takeWhile Char.isDigit
  let rest := cs.drop ds.length
  let n := ds.foldl (fun n c => n * 10 + (c.toNat - '0'.toNat)) 0
  if 65535 < n then .error .badPort
  else if !((rest.head?.map fun c => isEnd k c || c = '\\').getD true) then .error .badPort
  else .ok (if ds.isEmpty || k.usualPort? = some n then none else some n, rest)

/-- The host of an address, given as it is written. -/
def hostOf (k : Kind) (cs : List Char) : Except AddressFault (Option Host) :=
  if !k.isLax then Host.ofUnknown cs
  else if cs.isEmpty then .error .noHost
  else (Host.ofChars cs).map some

/-- What follows two slashes: an authority, and what follows it. -/
def splitAuthority (k : Kind) (cs : List Char) : Except AddressFault (Authority × List Char) := do
  let ((user, password), rest) ← splitUser k cs
  let length := hostLength k false rest
  let host ← hostOf k (rest.take length)
  let (port, rest) ← match rest.drop length with
    | ':' :: port => if host.isNone then .error .noHost else splitPort k port
    | rest => pure (none, rest)
  if host.isNone && !(user.isEmpty && password.isEmpty) then .error .noHost
  else return (⟨user, password, host, port⟩, rest)

/-! ## Files -/

/-- The pieces of a path to a file: a drive at its start is followed by a colon and a slash. -/
def filePieces (cs : List Char) : List (List Char) :=
  match pieces .file cs with
  | piece :: rest =>
    if isDrive piece then (piece.take 1 ++ [':']) :: rest
    else if isDrive (piece.take 2) && piece[1]? = some ':' then
      piece.take 2 :: piece.drop 2 :: rest
    else piece :: rest
  | [] => []

/-- A path to a file has one slash at its start. -/
def filePath (pieces : List (List Char)) : String :=
  let ps := (resolve [] pieces).dropWhile List.isEmpty
  pathText (if ps.isEmpty then [[]] else ps)

def localHost : Host := .named "localhost"

/-- The host of a file, and the path to it. A file on a drive is on this host. -/
def fileOn (cs : List Char) : Except AddressFault (Option Host × String) :=
  match cs with
  | a :: b :: rest =>
    if Kind.file.isSlash a && Kind.file.isSlash b then do
      let name := rest.takeWhile fun c => !isEnd .file c
      let path := rest.drop name.length
      if isDrive name then return (none, filePath (filePieces rest))
      else if name.isEmpty then return (none, filePath (pieces .file ('/' :: path)))
      else
        let host ← Host.ofChars name
        if host = localHost then return (none, filePath (pieces .file ('/' :: path)))
        else
          let ps := filePieces path
          return (if (ps.head?.map isDrive).getD false then none else some host, filePath ps)
    else return (none, filePath (filePieces cs))
  | cs => return (none, filePath (filePieces cs))

/-! ## Addresses -/

/-- Blanks and controls around an address do not belong to it, nor do line breaks and tabs in it. -/
def clean (text : String) : List Char :=
  let isOuter (c : Char) : Bool := c.toNat ≤ 0x20
  let inner := ((text.toList.dropWhile isOuter).reverse.dropWhile isOuter).reverse
  inner.filter fun c => c ≠ '\t' && c ≠ '\n' && c ≠ '\r'

/-- What stands before the first of some characters, and what follows it. -/
def cut (sep : Char) (cs : List Char) : List Char × Option (List Char) :=
  match cs.dropWhile (· ≠ sep) with
  | [] => (cs, none)
  | _ :: rest => (cs.takeWhile (· ≠ sep), some rest)

/-- Adds what stands after the path. -/
def withRest (k : Kind) (url : Url) (query fragment : Option (List Char)) : Url :=
  { url with
    query := query.map (encoded (isPlainInQuery k))
    fragment := fragment.map (encoded isPlainInFragment) }

/-- An address on a host, given what follows the host. -/
def onHost (scheme : String) (authority : Authority) (rest : List Char) : Url :=
  let (rest, fragment) := cut '#' rest
  let (path, query) := cut '?' rest
  let k := kindOf scheme
  withRest k ⟨scheme, some authority, pathOn k path, none, none⟩ query fragment

def parse (text : String) : Except AddressFault Url := do
  let (scheme, rest) ← splitScheme (clean text)
  match kindOf scheme, rest with
  | .web _, rest =>
    let (authority, rest) ← splitAuthority (kindOf scheme)
      (rest.dropWhile (kindOf scheme).isSlash)
    return onHost scheme authority rest
  | .unknown, '/' :: '/' :: rest =>
    let (authority, rest) ← splitAuthority .unknown rest
    return onHost scheme authority rest
  | k, rest =>
    let (rest, fragment) := cut '#' rest
    let (path, query) := cut '?' rest
    if k = .file then
      let (host, path) ← fileOn path
      return withRest k ⟨scheme, some ⟨"", "", host, none⟩, path, none, none⟩ query fragment
    else
      let path := if path.head? = some '/' then pathOn k path else encoded isPrintable path
      return withRest k ⟨scheme, none, path, none, none⟩ query fragment

/-! ## Writing -/

def authorityText (a : Authority) : String :=
  let password := if a.password.isEmpty then "" else ":" ++ a.password
  let login := a.user ++ password
  (if login.isEmpty then "" else login ++ "@") ++ (a.host.map Host.text).getD "" ++
    (a.port.map fun n => ":" ++ toString n).getD ""

/-- What stands before the path. A path without a host that starts with two slashes is told from a
host by a dot. -/
def start (u : Url) : String :=
  match u.authority with
  | some a => "//" ++ authorityText a
  | none => if "//".toList.isPrefixOf u.path.toList then "/." else ""

def queryText (u : Url) : String := (u.query.map ("?" ++ ·)).getD ""

/-- The path with the query. -/
def target (u : Url) : String := u.path ++ u.queryText

/-- The address as it is sent: without the fragment. -/
def sentText (u : Url) : String := u.scheme ++ ":" ++ u.start ++ u.target

def text (u : Url) : String := u.sentText ++ (u.fragment.map ("#" ++ ·)).getD ""

def host? (u : Url) : Option Host := u.authority.bind (·.host)

/-! ## Changes -/

/-- Adds names with values to the query. -/
def addQuery (u : Url) (pairs : List (String × String)) : Url :=
  let before := u.query.getD ""
  { u with query := some (if before.isEmpty then Form.encode pairs
      else before ++ "&" ++ Form.encode pairs) }

/-- The text that a percent-encoded one stands for, if it is any. -/
def decoded? (text : String) : Option String := Utf8.strict? (Percent.decode text.toList)

/-- The user and the password of an address, and the address without them. A password that is no
text is none, and a user that is no text stays where it is. -/
def takeLogin (u : Url) : Option (String × String) × Url :=
  match u.authority with
  | none => (none, u)
  | some a =>
    match decoded? a.user with
    | none => (none, u)
    | some user =>
      let password := if a.password.isEmpty then none else decoded? a.password
      if user.isEmpty && password.isNone then (none, u)
      else
        (some (user, password.getD ""),
          { u with authority := some { a with user := "", password := "" } })

end Url

end Testbed.Http
