import Lookout.Url.Host

/-! Addresses as the URL standard reads them: the name of a scheme and a colon, and behind them maybe a server
    with a user in front of it, a path, and a query. Spaces and control characters at both ends are passed
    over, and so are tabs and line breaks anywhere. -/

namespace Lookout

/-- The parts of an address. The texts are percent-encoded, as they are written. -/
structure Url where
  scheme : List Char
  user : List Char
  password : List Char
  /-- The host, empty if there is none. -/
  host : List Char
  /-- The number behind the host. -/
  number : Option Nat
  path : List (List Char)
  query : List Char
  deriving Repr, DecidableEq

namespace Url

/-! ### Schemes -/

/-- The rules by which the rest of an address is read. -/
inductive SchemeKind where
  | file
  /-- Another scheme of the web. -/
  | web
  | plain
  deriving Repr, DecidableEq

/-- The kind of a scheme in lower case. -/
def SchemeKind.ofName (name : List Char) : SchemeKind :=
  if name = "file".toList then .file
  else if ["http", "https", "ws", "wss", "ftp"].contains (String.ofList name) then .web
  else .plain

/-- A character of the name of a scheme. -/
def isSchemeChar (c : Char) : Bool := c.isAlphanum || c == '+' || c == '-' || c == '.'

/-- The scheme in lower case, which begins with a letter, and what follows its colon. -/
def scheme? (s : List Char) : Option (List Char × List Char) :=
  if s.head?.any Char.isAlpha then
    match s.dropWhile isSchemeChar with
    | ':' :: rest => some ((s.takeWhile isSchemeChar).map Char.toLower, rest)
    | _ => none
  else none

/-- A space or a control character. -/
def isPadding (c : Char) : Bool := c.toNat ≤ 0x20

/-- An address without what is passed over. -/
def cleaned (s : List Char) : List Char :=
  let start := s.dropWhile isPadding
  (start.reverse.dropWhile isPadding).reverse.filter fun c => c != '\t' && c != '\n' && c != '\r'

/-! ### Paths and queries -/

/-- Both slashes divide the addresses of the web. -/
def isAnySlash (c : Char) : Bool := c == '/' || c == '\\'

/-- A character between the parts of a path. -/
def SchemeKind.isSlash (kind : SchemeKind) (c : Char) : Bool := c == '/' || kind != .plain && c == '\\'

/-- A character that ends a path. -/
def endsPath (c : Char) : Bool := c == '?' || c == '#'

/-- A segment with its encoded points as points. -/
def withPoints : List Char → List Char
  | '%' :: '2' :: e :: s => if e == 'e' || e == 'E' then '.' :: withPoints s else '%' :: '2' :: withPoints (e :: s)
  | c :: s => c :: withPoints s
  | [] => []

/-- The segments of a path. One point stands for no step, and two points for a step back. -/
def resolved (segments : List (List Char)) : List (List Char) :=
  segments.foldl
    (fun done segment =>
      if withPoints segment = ['.', '.'] then done.dropLast
      else if withPoints segment = ['.'] then done
      else done ++ [segment])
    []

/-- The segments of a path that may begin with a slash. -/
def SchemeKind.segments (kind : SchemeKind) (s : List Char) : List (List Char) :=
  let inner := match s with
    | c :: rest => if kind.isSlash c then rest else s
    | [] => []
  resolved (Text.cut kind.isSlash inner)

/-- The query of what follows a path. -/
def queryOf : List Char → List Char
  | '?' :: s => s.takeWhile (· != '#')
  | _ => []

/-- An address whose path and query are the rest of the text. -/
def SchemeKind.withPath (kind : SchemeKind) (url : Url) (s : List Char) : Url :=
  { url with path := kind.segments (s.takeWhile (!endsPath ·)), query := queryOf (s.dropWhile (!endsPath ·)) }

/-! ### Servers -/

/-- The parts of a text around its last at sign; all of it stands behind if there is none. -/
def atLastAt (s : List Char) : List Char × List Char :=
  let behind := (s.reverse.takeWhile (· != '@')).reverse
  (s.take (s.length - behind.length - 1), behind)

/-- A host, and what follows it from the colon on. In brackets a colon belongs to the host. -/
def hostAndRest (inBrackets : Bool) : List Char → List Char × List Char
  | [] => ([], [])
  | c :: s =>
    if c == ':' && !inBrackets then ([], c :: s)
    else
      let (host, rest) := hostAndRest (c == '[' || inBrackets && c != ']') s
      (c :: host, rest)

/-- The number behind a host, which has 16 bits at most and may be missing, and what follows it. -/
def number? : List Char → Option (Option Nat × List Char)
  | ':' :: s =>
    let digits := s.takeWhile Char.isDigit
    let rest := s.dropWhile Char.isDigit
    if Text.ofDecimal digits ≤ 65535 ∧ rest.head?.all (· == '\\') then some (Text.natural? digits, rest) else none
  | s => some (none, s)

/-- A host that the kind of scheme allows. Only without a user and a number there may be none. -/
def SchemeKind.allowsHost (kind : SchemeKind) (host : List Char) (isAlone : Bool) : Bool :=
  match kind with
  | .plain => if host.isEmpty then isAlone else isOpaqueHost host
  | _ => isWebHost host

/-- An address with a server at the start of the text. -/
def ofServer? (kind : SchemeKind) (scheme s : List Char) : Option Url := do
  let isEnd (c : Char) : Bool := kind.isSlash c || endsPath c
  let authority := s.takeWhile (!isEnd ·)
  let behind := s.dropWhile (!isEnd ·)
  if authority = ['@'] ∧ !behind.isEmpty then none
  let (userInfo, server) := atLastAt authority
  let user := userInfo.takeWhile (· != ':')
  let password := (userInfo.dropWhile (· != ':')).drop 1
  let (host, afterHost) := hostAndRest false server
  let (number, afterNumber) ← number? afterHost
  if kind.allowsHost host (user.isEmpty && password.isEmpty && afterHost.isEmpty) then
    some (kind.withPath ⟨scheme, user, password, host, number, [], []⟩ (afterNumber ++ behind))
  else none

/-- A letter and a colon or a bar, which name a drive and no host. -/
def isDrive : List Char → Bool
  | [a, b] => a.isAlpha && (b == ':' || b == '|')
  | _ => false

/-- An address of a file. It may name a host behind two slashes. -/
def ofFile? (scheme s : List Char) : Option Url :=
  let plain : Url := ⟨scheme, [], [], [], none, [], []⟩
  match s with
  | a :: b :: rest =>
    if isAnySlash a && isAnySlash b then
      let isEnd (c : Char) : Bool := isAnySlash c || endsPath c
      let host := rest.takeWhile (!isEnd ·)
      if host.isEmpty || isDrive host then some (SchemeKind.file.withPath plain rest)
      else if isWebHost host then some (SchemeKind.file.withPath { plain with host } (rest.dropWhile (!isEnd ·)))
      else none
    else some (SchemeKind.file.withPath plain s)
  | s => some (SchemeKind.file.withPath plain s)

/-! ### Addresses -/

/-- The parts of an address. -/
def ofText? (s : List Char) : Option Url := do
  let (scheme, rest) ← scheme? (cleaned s)
  match SchemeKind.ofName scheme with
  | .file => ofFile? scheme rest
  | .web => ofServer? .web scheme (rest.dropWhile isAnySlash)
  | .plain =>
    let bare : Url := ⟨scheme, [], [], [], none, [], []⟩
    match rest with
    | '/' :: '/' :: rest => ofServer? .plain scheme rest
    | '/' :: _ => some (SchemeKind.plain.withPath bare rest)
    | rest =>
      some { bare with path := [rest.takeWhile (!endsPath ·)], query := queryOf (rest.dropWhile (!endsPath ·)) }

end Url
end Lookout
