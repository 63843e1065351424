import AffiliateLinks.Config
import AffiliateLinks.Files.System
import AffiliateLinks.Ron.Value

/-!
# Settings files

A settings file may give any part of a configuration. What it gives wins over the environment, its
domains are added to the built-in ones, and it may drop the built-in skip list first.
-/

namespace AffiliateLinks

structure Settings where
  amazonTag : Option Text := none
  skimlinksId : Option Text := none
  replaceDefaultSkipDomains : Bool := false
  skipDomains : List Text := []
  amazonDomains : List Text := []
  shortDomains : List Text := []
  brandTags : BrandTags := []
  deriving DecidableEq, Repr

namespace Settings

open Ron (Value Extensions)

def texts? (v : Value) : Option (List Text) := do (← v.list?).mapM Value.text?

/-- A map from texts to texts. Of two entries with one key the later one counts. -/
def tags? (v : Value) : Option BrandTags := do
  let entries ← (← v.map?).mapM fun (k, v) => do return (← k.text?, ← v.text?)
  return entries.foldl (fun tags (k, v) => tags.insert k v) []

def ofValue? (e : Extensions) (v : Value) : Option Settings := do
  let fs ← v.record? e "RouterFile".toList
  return {
    amazonTag := ((← Value.field? fs "amazon_tag" (Value.option? e Value.text?)).join)
    skimlinksId := ((← Value.field? fs "skimlinks_id" (Value.option? e Value.text?)).join)
    replaceDefaultSkipDomains :=
      (← Value.field? fs "replace_default_skip_domains" Value.bool?).getD false
    skipDomains := (← Value.field? fs "skip_domains" texts?).getD []
    amazonDomains := (← Value.field? fs "amazon_domains" texts?).getD []
    shortDomains := (← Value.field? fs "short_domains" texts?).getD []
    brandTags := (← Value.field? fs "brand_tags" tags?).getD [] }

/-- The settings of a file's text, if it is well-formed. -/
def read? (t : Text) : Option Settings := do
  let (e, v) ← Value.ofText? t
  ofValue? e v

/-- The steps that the environment and then the file ask for besides the tag. -/
def steps (s : Settings) (env : Environment) : List Config.Step :=
  ((s.skimlinksId <|> env Environment.skimlinksId).map Config.Step.skimlinksId).toList ++
    (if s.replaceDefaultSkipDomains then [.clearSkipDomains] else []) ++
    ((env Environment.skipDomains).map fun t =>
      Config.Step.skipDomains (Environment.items t)).toList ++
    [.skipDomains s.skipDomains] ++
    s.amazonDomains.map Config.Step.amazonDomain ++
    s.shortDomains.map Config.Step.shortDomain ++
    s.brandTags.map fun (b, t) => Config.Step.brandTag b t

/-- The configuration of a file that may be missing. -/
def config (file : Option Settings) (env : Environment) : Except ConfigError Config :=
  let s := file.getD {}
  match s.amazonTag <|> env Environment.amazonTag with
  | some tag => Config.build tag (s.steps env)
  | none => .error .missingAmazonTag

end Settings

inductive SettingsError
  | unreadable (path : Path) (cause : FileError)
  | malformed (path : Path)
  deriving DecidableEq, Repr

namespace SettingsError

def message : SettingsError → Text
  | unreadable path _ => "failed to read router settings ".toList ++ path.display
  | malformed path => "invalid router settings ".toList ++ path.display

/-- The messages of the errors that led to this one. -/
def causes : SettingsError → List Text
  | unreadable _ cause => [cause.message]
  | malformed _ => [Ron.malformed]

end SettingsError

def Settings.load (path : Path) (fs : FileSystem) : Except SettingsError Settings :=
  match fs.readText path with
  | .error cause => .error (.unreadable path cause)
  | .ok t =>
    match Settings.read? t with
    | some s => .ok s
    | none => .error (.malformed path)

end AffiliateLinks
