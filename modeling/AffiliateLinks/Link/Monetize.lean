import AffiliateLinks.Config
import AffiliateLinks.Link.Method
import AffiliateLinks.Log
import AffiliateLinks.Url.Parse
import AffiliateLinks.Url.Percent

/-!
# Monetizing a link

What becomes of a link depends on its merchant alone, once it is a link of the web with a domain. An
Amazon link carries its tag in the query, and a Skimlinks link is wrapped in a redirect. No link
is refused: a text that is no URL gets its tag appended.
-/

namespace AffiliateLinks

/-- The host of a URL in lower case and without a leading `www.`, if that leaves anything. -/
def Url.domain? (t : Text) : Option Text := do
  let d := Domain.withoutWww (Text.lower (← Url.parse? t).hostText)
  if d.isEmpty then none else some d

namespace Classification

/-- The characters that the first `n` bytes of a text make up, where they end with a character. -/
def firstBytes? : Nat → Text → Option Text
  | 0, _ => some []
  | _ + 1, [] => none
  | n + 1, c :: t =>
    if c.utf8Size ≤ n + 1 then (firstBytes? (n + 1 - c.utf8Size) t).map (c :: ·) else none

/-- Looks at as many bytes as the longer beginning has, or at all of a text that cannot be cut there. -/
def isHttp (t : Text) : Bool :=
  let front := Text.lower ((firstBytes? 8 t).getD t)
  Text.startsWith "http://".toList front || Text.startsWith "https://".toList front

/-- Skip-listed merchants come first, then Amazon, and Skimlinks takes the rest if it is set up. -/
def ofMerchant (merchant : Text) (config : Config) : Classification :=
  ⟨if config.isSkippedDomain merchant then .skipped
    else if config.isAmazonDomain merchant then .amazon
    else if config.skimlinksId.isSome then .skimlinks
    else .passthrough, merchant⟩

def ofUrl (url : Text) (config : Config) : Classification :=
  let t := Text.trim url
  if isHttp t then
    match Url.domain? t with
    | some d => ofMerchant d config
    | none => skipped
  else skipped

end Classification

namespace AmazonLink

def tagKey : Text := "tag".toList

def tagSegment (tag : Text) : Text := tagKey ++ '=' :: tag

def segmentKey (segment : Text) : Text := ((Text.cut? '=' segment).map Prod.fst).getD segment

def isTagSegment (segment : Text) : Bool := segmentKey segment = tagKey

/-- Puts the tag in place of the first segment that has one, drops the others, and appends the tag
when there was none. -/
def placeTag (tag : Text) : List Text → List Text
  | [] => [tagSegment tag]
  | s :: ss =>
    if isTagSegment s then tagSegment tag :: ss.filter fun s => !isTagSegment s
    else s :: placeTag tag ss

def segments (query : Text) : List Text := (Text.split '&' query).filter fun s => !s.isEmpty

def tagQuery (tag query : Text) : Text := Text.join '&' (placeTag tag (segments query))

/-- The tag at the end of a text that is no URL. -/
def append (url tag : Text) : Text :=
  url ++ (if url.contains '?' then '&' else '?') :: tagSegment tag

def setTag (url tag : Text) : Logged Text :=
  match (Url.parse? url).filter fun u => u.path.isRooted with
  | some u => pure (u.withQuery (tagQuery tag (u.query.getD []))).text
  | none => do
    Logged.tell .warn .rewrite
      ("structured tag injection failed; appending tag to ".toList ++ url)
    return append url tag

end AmazonLink

namespace Skimlinks

def redirect : Text := "https://go.redirectingat.com/".toList

def wrap (url id : Text) : Text :=
  redirect ++ "?id=".toList ++ id ++ "&url=".toList ++ Form.encode url

end Skimlinks

/-- The URL that takes the place of `url` in a link of the given method. -/
def Method.rewrite (m : Method) (url : Text) (config : Config) (brand : Option Text) :
    Logged Text :=
  match m with
  | .amazon => AmazonLink.setTag url (config.tagFor brand)
  | .skimlinks =>
    match config.skimlinksId with
    | some id => pure (Skimlinks.wrap url id)
    | none => do
      Logged.tell .warn .rewrite
        ("skimlinks rewrite requested without a publisher id; leaving ".toList ++ url)
      return url
  | .passthrough | .skipped => pure url

namespace Link

/-- A URL classified and rewritten. -/
def ofUrl (url : Text) (config : Config) (brand : Option Text) : Logged Link := do
  let c := Classification.ofUrl url config
  return ⟨url, ← c.method.rewrite url config brand, c.method, c.merchant⟩

end Link

end AffiliateLinks
