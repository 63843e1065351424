import AffiliateLinks.Text.Quoted

/-!
# Configuration

A configuration is drafted step by step from arbitrary texts and checked once, when it is built.
A built configuration holds an Amazon tag, perhaps a Skimlinks publisher, tags of brands, and three
ascending lists of domains in the form in which links are compared with them. The environment alone
may give the steps.
-/

namespace AffiliateLinks

inductive ConfigError
  | missingAmazonTag
  | invalidTag (tag : Text)
  | invalidSkimlinksId (id : Text)
  | invalidDomain (domain : Text)
  | emptyBrandKey
  deriving DecidableEq, Repr

def ConfigError.message : ConfigError → Text
  | missingAmazonTag => "missing Amazon affiliate tag (set AMAZON_AFFILIATE_TAG)".toList
  | invalidTag tag =>
    "invalid affiliate tag ".toList ++ Quoted.text tag ++
      ": only ASCII letters, digits, '-' and '_' are allowed".toList
  | invalidSkimlinksId id => "invalid Skimlinks publisher id ".toList ++ Quoted.text id
  | invalidDomain domain => "invalid domain ".toList ++ Quoted.text domain
  | emptyBrandKey => "brand key must not be empty".toList

namespace Domain

/-- A domain without one leading `www.` label. -/
def withoutWww (d : Text) : Text := (Text.after? "www.".toList d).getD d

def isValid (d : Text) : Bool :=
  !d.isEmpty && d.head? != some '.' && d.getLast? != some '.' &&
    d.all fun c => c.isAlphanum || c = '-' || c = '.'

/-- The form in which domains are compared: trimmed, in lower case, without a leading `www.`. -/
def normalize (raw : Text) : Text := withoutWww (Text.lower (Text.trim raw))

def read (raw : Text) : Except ConfigError Text :=
  let d := normalize raw
  if isValid d then .ok d else .error (.invalidDomain raw)

/-- Holds when `domain` is `known` or lies below it. -/
def isWithin (domain known : Text) : Bool :=
  domain == known ||
    match Text.before? known domain with
    | some front => front.getLast? == some '.'
    | none => false

def amazonDefaults : List Text :=
  ["amazon.com", "amazon.co.uk", "amazon.ca", "amazon.de", "amazon.fr", "amazon.it", "amazon.es",
    "amazon.nl", "amazon.se", "amazon.pl", "amazon.co.jp", "amazon.in", "amazon.com.au",
    "amazon.com.mx", "amazon.com.br", "amazon.com.be", "amazon.com.tr", "amazon.sg", "amazon.ae",
    "amazon.sa"].map String.toList

def shortDefaults : List Text := ["amzn.to", "amzn.com", "amzn.eu", "a.co"].map String.toList

/-- Sites of a social, search or reference kind. -/
def skipDefaults : List Text :=
  ["facebook.com", "twitter.com", "x.com", "instagram.com", "linkedin.com", "pinterest.com",
    "youtube.com", "youtu.be", "tiktok.com", "reddit.com", "google.com", "bing.com",
    "duckduckgo.com", "wikipedia.org", "en.wikipedia.org", "github.com"].map String.toList

end Domain

namespace Tag

def isValid (t : Text) : Bool := !t.isEmpty && t.all fun c => c.isAlphanum || c = '-' || c = '_'

/-- Refuses a tag that could break out of a URL's query. -/
def check (t : Text) : Except ConfigError Unit := if isValid t then .ok () else .error (.invalidTag t)

end Tag

/-- Tags by brand, in ascending order of the brands. -/
abbrev BrandTags := List (Text × Text)

def BrandTags.insert (brand tag : Text) : BrandTags → BrandTags
  | [] => [(brand, tag)]
  | (b, t) :: bs =>
    if brand = b then (b, tag) :: bs
    else if Text.before brand b then (brand, tag) :: (b, t) :: bs
    else (b, t) :: insert brand tag bs

structure Config where
  amazonTag : Text
  skimlinksId : Option Text
  skipDomains : List Text
  amazonDomains : List Text
  shortDomains : List Text
  brandTags : BrandTags
  deriving DecidableEq, Repr

namespace Config

/-- The tag of a brand, or the default tag when there is no brand or it has no tag of its own. -/
def tagFor (c : Config) (brand : Option Text) : Text :=
  (brand.bind fun b => c.brandTags.lookup b).getD c.amazonTag

def isSkippedDomain (c : Config) (d : Text) : Bool := c.skipDomains.contains d

def isAmazonDomain (c : Config) (d : Text) : Bool :=
  (c.amazonDomains ++ c.shortDomains).any (Domain.isWithin d)

/-- A configuration before it is checked. -/
structure Draft where
  amazonTag : Text
  skimlinksId : Option Text := none
  skipDomains : List Text := Domain.skipDefaults
  amazonDomains : List Text := Domain.amazonDefaults
  shortDomains : List Text := Domain.shortDefaults
  brandTags : List (Text × Text) := []

/-- A change to a draft. A blank publisher id turns Skimlinks off. -/
inductive Step
  | skimlinksId (id : Text)
  | skipDomains (domains : List Text)
  | clearSkipDomains
  | amazonDomain (domain : Text)
  | shortDomain (domain : Text)
  | brandTag (brand tag : Text)
  deriving DecidableEq, Repr

namespace Draft

def apply (d : Draft) : Step → Draft
  | .skimlinksId id =>
    let id := Text.trim id
    { d with skimlinksId := if id.isEmpty then none else some id }
  | .skipDomains ds => { d with skipDomains := d.skipDomains ++ ds }
  | .clearSkipDomains => { d with skipDomains := [] }
  | .amazonDomain x => { d with amazonDomains := d.amazonDomains ++ [x] }
  | .shortDomain x => { d with shortDomains := d.shortDomains ++ [x] }
  | .brandTag b t => { d with brandTags := d.brandTags ++ [(b, t)] }

def applyAll (d : Draft) (steps : List Step) : Draft := steps.foldl apply d

def checkSkimlinksId : Option Text → Except ConfigError Unit
  | none => .ok ()
  | some id => if id.all Char.isAlphanum then .ok () else .error (.invalidSkimlinksId id)

def buildBrandTags (tags : BrandTags) : List (Text × Text) → Except ConfigError BrandTags
  | [] => .ok tags
  | (brand, tag) :: rest => do
    let brand := Text.trim brand
    if brand.isEmpty then throw .emptyBrandKey
    let tag := Text.trim tag
    Tag.check tag
    buildBrandTags (tags.insert brand tag) rest

def buildDomains (ds : List Text) : Except ConfigError (List Text) :=
  return Text.sorted (← ds.mapM Domain.read)

/-- Checks the tag, the publisher id, the brands and the three lists, in this order. -/
def build (d : Draft) : Except ConfigError Config := do
  let amazonTag := Text.trim d.amazonTag
  if amazonTag.isEmpty then throw .missingAmazonTag
  Tag.check amazonTag
  checkSkimlinksId d.skimlinksId
  let brandTags ← buildBrandTags [] d.brandTags
  let skipDomains ← buildDomains d.skipDomains
  let amazonDomains ← buildDomains d.amazonDomains
  let shortDomains ← buildDomains d.shortDomains
  return { amazonTag, skimlinksId := d.skimlinksId, skipDomains, amazonDomains, shortDomains,
           brandTags }

end Draft

def build (amazonTag : Text) (steps : List Step) : Except ConfigError Config :=
  (Draft.applyAll { amazonTag } steps).build

end Config

/-- The value of a variable, where it is set. -/
abbrev Environment := Text → Option Text

namespace Environment

def amazonTag : Text := "AMAZON_AFFILIATE_TAG".toList

def skimlinksId : Text := "SKIMLINKS_PUB_ID".toList

def skipDomains : Text := "MONETIZER_SKIP_DOMAINS".toList

/-- Names the settings file where the command line does not. -/
def settingsFile : Text := "MONETIZER_CONFIG".toList

/-- The items of a list that are not blank, trimmed. -/
def items (t : Text) : List Text := ((Text.split ',' t).map Text.trim).filter fun d => !d.isEmpty

end Environment

namespace Config

/-- The steps that the environment asks for besides the tag. -/
def environmentSteps (env : Environment) : List Step :=
  ((env Environment.skimlinksId).map Step.skimlinksId).toList ++
    ((env Environment.skipDomains).map fun t => Step.skipDomains (Environment.items t)).toList

def ofEnvironment (env : Environment) : Except ConfigError Config :=
  match env Environment.amazonTag with
  | some tag => build tag (environmentSteps env)
  | none => .error .missingAmazonTag

end Config

end AffiliateLinks
