import AffiliateLinks.Url.Host

/-!
# URLs

A URL holds its parts in the form in which they are written, so that writing a URL only puts the
delimiters between them.
-/

namespace AffiliateLinks

/-- What comes between the two slashes and the path. A password is never empty. -/
structure Authority where
  username : Text
  password : Option Text
  host : Host
  port : Option Nat
  deriving DecidableEq, Repr

/-- A path that hangs from a root is a list of segments; any other path is one text. -/
inductive UrlPath
  | rooted (segments : List Text)
  | unrooted (text : Text)
  deriving DecidableEq, Repr

structure Url where
  scheme : Text
  authority : Option Authority
  path : UrlPath
  query : Option Text
  fragment : Option Text
  deriving DecidableEq, Repr

inductive SchemeKind
  | web | file | other
  deriving DecidableEq, Repr

namespace SchemeKind

def webSchemes : List Text := ["http", "https", "ws", "wss", "ftp"].map String.toList

def ofScheme (scheme : Text) : SchemeKind :=
  if webSchemes.contains scheme then web
  else if scheme = "file".toList then file
  else other

/-- The schemes whose URLs may be written with backslashes for slashes. -/
def isSpecial : SchemeKind → Bool
  | web | file => true
  | other => false

end SchemeKind

def defaultPort? (scheme : Text) : Option Nat :=
  ([("http", 80), ("https", 443), ("ws", 80), ("wss", 443), ("ftp", 21)].map
    fun (s, p) => (s.toList, p)).lookup scheme

namespace Authority

def credentials (a : Authority) : Text :=
  let password := match a.password with
    | some p => ':' :: p
    | none => []
  if a.username.isEmpty && password.isEmpty then [] else a.username ++ password ++ ['@']

def text (a : Authority) : Text :=
  a.credentials ++ a.host.text ++
    match a.port with
    | some p => ':' :: Numeral.decimal p
    | none => []

end Authority

namespace UrlPath

def text : UrlPath → Text
  | rooted segments => segments.flatMap fun s => '/' :: s
  | unrooted t => t

def isRooted : UrlPath → Bool
  | rooted _ => true
  | unrooted _ => false

end UrlPath

namespace Url

def kind (u : Url) : SchemeKind := .ofScheme u.scheme

/-- What precedes the path. Without an authority a path that begins with two slashes would be taken
for one, and `/.` keeps it apart. -/
def frontText (u : Url) : Text :=
  match u.authority with
  | some a => ['/', '/'] ++ a.text
  | none => if Text.startsWith ['/', '/'] u.path.text then ['/', '.'] else []

def text (u : Url) : Text :=
  u.scheme ++ ':' :: u.frontText ++ u.path.text ++
    (match u.query with
    | some q => '?' :: q
    | none => []) ++
    match u.fragment with
    | some f => '#' :: f
    | none => []

/-- The text of the host, empty where there is none. -/
def hostText (u : Url) : Text :=
  match u.authority with
  | some a => a.host.text
  | none => []

end Url

end AffiliateLinks
