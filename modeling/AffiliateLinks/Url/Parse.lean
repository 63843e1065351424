import AffiliateLinks.Url.Basic

/-!
# Reading URLs

The text is cut at the delimiters from the outside in: fragment, query, scheme, authority, path.
Each part is then put into the form in which it is written.
-/

namespace AffiliateLinks

namespace UrlPath

/-- A letter and a colon, or a bar in place of the colon. -/
def isDriveLetter : Text → Bool
  | [c, d] => c.isAlpha && (d = ':' || d = '|')
  | _ => false

/-- Spellings of a dot in a segment. -/
def undot : Text → Text
  | '%' :: '2' :: 'e' :: t | '%' :: '2' :: 'E' :: t => '.' :: undot t
  | c :: t => c :: undot t
  | [] => []

def isDot (s : Text) : Bool := undot s = ['.']

def isDoubleDot (s : Text) : Bool := undot s = ['.', '.']

/-- Drops the last of the reversed segments. In a file path a drive letter is never dropped. -/
def pop (file : Bool) : List Text → List Text
  | [] => []
  | s :: done => if file && isDriveLetter s then s :: done else done

def spellDrive (file : Bool) (s : Text) : Text :=
  if file && isDriveLetter s then s.take 1 ++ [':'] else s

/-- Follows the raw segments; `done` holds, reversed, those of the path so far. A dot segment at the
end leaves an empty segment. -/
def follow (file : Bool) (done : List Text) : List Text → List Text
  | [] => done.reverse
  | raw :: rest =>
    let s := Percent.encode Percent.path raw
    let closing := if rest.isEmpty then [[]] else []
    if isDoubleDot s then follow file (closing ++ pop file done) rest
    else if isDot s then follow file (closing ++ done) rest
    else follow file (spellDrive file s :: done) rest

/-- The raw segments of a text in which backslashes may stand for slashes. -/
def rawSegments (special : Bool) (t : Text) : List Text :=
  Text.split '/' (if special then t.map fun c => if c = '\\' then '/' else c else t)

/-- The path of a text that begins after the root. -/
def read (special : Bool) (t : Text) : UrlPath := .rooted (follow false [] (rawSegments special t))

/-- The segments of a file path, which never begins with an empty one. -/
def fileSegments (t : Text) : List Text :=
  match (follow true [] (rawSegments true t)).dropWhile List.isEmpty with
  | [] => [[]]
  | ss => ss

end UrlPath

namespace Authority

/-- The parts before and after the last `@`. -/
def cutLastAt? (t : Text) : Option (Text × Text) :=
  (Text.cut? '@' t.reverse).map fun (b, a) => (a.reverse, b.reverse)

def readUserinfo (t : Text) : Text × Option Text :=
  let (username, password) := (Text.cut? ':' t).getD (t, [])
  (Percent.encode Percent.userinfo username,
    if password.isEmpty then none else some (Percent.encode Percent.userinfo password))

/-- The host, and the rest from the first colon outside brackets on. -/
def cutHost (bracket : Bool) : Text → Text × Text
  | [] => ([], [])
  | c :: t =>
    if c = ':' && !bracket then ([], c :: t)
    else
      let (host, rest) := cutHost (c = '[' || (bracket && c ≠ ']')) t
      (c :: host, rest)

/-- A port, where nothing after the colon leaves the default one. -/
def readPort? (scheme t : Text) : Option (Option Nat) :=
  match t with
  | [] => some none
  | _ => do
    let p ← Numeral.read? 10 t
    if 65535 < p then none
    return if defaultPort? scheme = some p then none else some p

/-- The authority of a web scheme. -/
def special? (scheme t : Text) : Option Authority := do
  let (userinfo, hostPort) := (cutLastAt? t).getD ([], t)
  let (username, password) := readUserinfo userinfo
  let (host, port) := cutHost false hostPort
  let host ← Host.special? host
  return ⟨username, password, host, ← readPort? scheme (port.drop 1)⟩

/-- The authority of another scheme, and what of its text belongs to the path: a backslash ends the
port. An empty host has neither a port nor a user; `closed` says that something follows. -/
def plain? (scheme t : Text) (closed : Bool) : Option (Authority × Text) := do
  let (userinfo, hostPort) := (cutLastAt? t).getD ([], t)
  if (cutLastAt? t).isSome && userinfo.isEmpty && hostPort.isEmpty && closed then none
  let (username, password) := readUserinfo userinfo
  let (host, rest) := cutHost false hostPort
  if host.isEmpty && (!rest.isEmpty || !username.isEmpty || password.isSome) then none
  let port := (rest.drop 1).takeWhile (· ≠ '\\')
  let host ← Host.plain? host
  return (⟨username, password, host, ← readPort? scheme port⟩, rest.drop (1 + port.length))

end Authority

namespace Url

def isIgnored (c : Char) : Bool := c = '\t' || c = '\n' || c = '\r'

/-- Control characters and spaces at the ends and tabs and line ends anywhere have no meaning. -/
def clean (t : Text) : Text :=
  let t := t.dropWhile fun c => c.toNat ≤ 0x20
  let t := (t.reverse.dropWhile fun c => c.toNat ≤ 0x20).reverse
  t.filter fun c => !isIgnored c

def isSchemeChar (c : Char) : Bool := c.isAlphanum || c = '+' || c = '-' || c = '.'

/-- The scheme in lower case and what follows its colon. -/
def cutScheme? (t : Text) : Option (Text × Text) := do
  let (s, rest) ← Text.cut? ':' t
  if s.head?.any Char.isAlpha && s.all isSchemeChar then some (Text.lower s, rest) else none

def isSlash (c : Char) : Bool := c = '/' || c = '\\'

/-- A part after a delimiter: what comes before it, and the part if the delimiter is there. -/
def cutPart (delimiter : Char) (t : Text) : Text × Option Text :=
  match Text.cut? delimiter t with
  | some (a, b) => (a, some b)
  | none => (t, none)

abbrev Front := Option Authority × UrlPath

def readWeb? (scheme t : Text) : Option Front := do
  let t := t.dropWhile isSlash
  let authority ← Authority.special? scheme (t.takeWhile fun c => !isSlash c)
  return (some authority, .read true ((t.dropWhile fun c => !isSlash c).drop 1))

/-- Holds when the host of a file URL gives way to a drive letter in its path. -/
def hasDrive (segments : List Text) : Bool := segments.any UrlPath.isDriveLetter

def fileHost? (t : Text) : Option Host :=
  if t.isEmpty then some (.name [])
  else (Host.special? t).map fun h => if h = .name "localhost".toList then .name [] else h

def readFile? (t : Text) : Option Front :=
  let withHost (h : Host) (segments : List Text) : Front :=
    (some ⟨[], none, h, none⟩, .rooted segments)
  match t with
  | a :: b :: rest =>
    if isSlash a && isSlash b then
      let host := rest.takeWhile fun c => !isSlash c
      if UrlPath.isDriveLetter host then some (withHost (.name []) (UrlPath.fileSegments rest))
      else do
        let h ← fileHost? host
        let segments := UrlPath.fileSegments ((rest.drop host.length).drop 1)
        return withHost (if hasDrive segments then .name [] else h) segments
    else some (withHost (.name []) (UrlPath.fileSegments (if isSlash a then b :: rest else t)))
  | _ => some (withHost (.name []) (UrlPath.fileSegments (t.dropWhile isSlash)))

def readOther? (scheme t : Text) (closed : Bool) : Option Front :=
  match t with
  | '/' :: '/' :: rest => do
    let path := rest.dropWhile (· ≠ '/')
    let (authority, extra) ← Authority.plain? scheme (rest.takeWhile (· ≠ '/'))
      (closed || !path.isEmpty)
    let path := extra ++ path
    return (some authority,
      if path.isEmpty then .rooted []
      else .read false (if extra.isEmpty then path.drop 1 else path))
  | '/' :: rest => some (none, .read false rest)
  | rest => some (none, .unrooted (Percent.encode Percent.control rest))

def querySet (kind : SchemeKind) : Percent.EncodeSet :=
  if kind.isSpecial then Percent.specialQuery else Percent.query

/-- The URL that a text stands for, if it stands for one. -/
def parse? (t : Text) : Option Url := do
  let (scheme, rest) ← cutScheme? (clean t)
  let (rest, fragment) := cutPart '#' rest
  let (rest, query) := cutPart '?' rest
  let kind := SchemeKind.ofScheme scheme
  let (authority, path) ← match kind with
    | .web => readWeb? scheme rest
    | .file => readFile? rest
    | .other => readOther? scheme rest (query.isSome || fragment.isSome)
  return { scheme, authority, path
           query := query.map (Percent.encode (querySet kind))
           fragment := fragment.map (Percent.encode Percent.fragment) }

/-- The URL with another query; what the query may not hold is encoded. -/
def withQuery (u : Url) (q : Text) : Url :=
  { u with query := some (Percent.encode (querySet u.kind) (q.filter fun c => !isIgnored c)) }

end Url

end AffiliateLinks
