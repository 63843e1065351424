import AffiliateLinks.Config
import AffiliateLinks.Files.System
import AffiliateLinks.Log
import AffiliateLinks.Markup.Monetize

/-!
# Arguments of the command

Arguments are read from left to right. One that begins with a hyphen names switches and options, up to
an argument of two hyphens; all others are values of options or inputs. Values are checked late: an
option waits for its value, and inputs for the end of their run, until the next switch, option or
input of another kind settles them. So an unknown name is reported before a bad value in front of it.
-/

namespace AffiliateLinks.Command

structure Options where
  /-- Pages to monetize. A hyphen alone stands for the standard input. -/
  inputs : List Path
  outDir : Path
  config : Option Path
  brand : Option Text
  jobs : Option Nat
  force : Bool
  disclosure : Option Disclosure
  statsJson : Bool
  logFile : Option Path
  verbose : Nat
  deriving DecidableEq, Repr

/-- The least urgent level that the terminal shows. -/
def level (verbose : Nat) : Level :=
  match verbose with
  | 0 => .warn
  | 1 => .info
  | 2 => .debug
  | _ => .trace

namespace Options

def readsStdin (o : Options) : Bool := o.inputs = [Path.ofText ['-']]

def level (o : Options) : Level := Command.level o.verbose

end Options

/-- Why arguments do not tell what to do. -/
inductive ArgumentError
  | missingInput
  | emptyValue
  | invalidValue
  | notUtf8
  | unknownName
  | repeated
  | unexpectedValue
  | helpAsked
  | versionAsked
  deriving DecidableEq, Repr

/-- Options that have a value. -/
inductive Valued
  | outDir | config | brand | jobs | disclosure | logFile
  deriving DecidableEq, Repr

inductive Switch
  | force | statsJson | verbose | help | version
  deriving DecidableEq, Repr

inductive Name
  | valued (o : Valued)
  | switch (s : Switch)
  deriving DecidableEq, Repr

namespace Name

def ofLong? (name : Text) : Option Name :=
  List.lookup (String.ofList name)
    [("out-dir", valued .outDir), ("config", valued .config), ("brand", valued .brand),
      ("jobs", valued .jobs), ("disclosure", valued .disclosure), ("log-file", valued .logFile),
      ("force", switch .force), ("stats-json", switch .statsJson), ("verbose", switch .verbose),
      ("help", switch .help), ("version", switch .version)]

def ofShort? : Char → Option Name
  | 'o' => some (valued .outDir)
  | 'c' => some (valued .config)
  | 'b' => some (valued .brand)
  | 'j' => some (valued .jobs)
  | 'v' => some (switch .verbose)
  | 'h' => some (switch .help)
  | 'V' => some (switch .version)
  | _ => none

end Name

/-- What the arguments so far have told. -/
structure Draft where
  inputs : List Path := []
  outDir : Option Path := none
  config : Option Path := none
  brand : Option Text := none
  jobs : Option Nat := none
  force : Bool := false
  disclosure : Option Disclosure := none
  statsJson : Bool := false
  logFile : Option Path := none
  verbose : Nat := 0

namespace Draft

def path (v : Bytes) : Except ArgumentError Path := if v.isEmpty then .error .emptyValue else .ok v

def text (v : Bytes) : Except ArgumentError Text :=
  match Utf8.decode? v with
  | some t => .ok t
  | none => .error .notUtf8

def countLimit : Nat := Nat.pow 2 64

/-- A count below the limit. One plus sign may stand before it. -/
def count (v : Bytes) : Except ArgumentError Nat := do
  let t ← text v
  match Numeral.read? 10 ((Text.after? ['+'] t).getD t) with
  | some n => if n < countLimit then .ok n else .error .invalidValue
  | none => .error .invalidValue

def disclosureStyle (v : Bytes) : Except ArgumentError Disclosure := do
  match Disclosure.read (← text v) with
  | .ok d => .ok d
  | .error _ => .error .invalidValue

/-- The value of an option that may be given once. -/
def once {α : Type} (earlier : Option α) (value : Except ArgumentError α) :
    Except ArgumentError (Option α) :=
  if earlier.isSome then .error .repeated else value.map some

def set (d : Draft) (o : Valued) (v : Bytes) : Except ArgumentError Draft :=
  match o with
  | .outDir => return { d with outDir := ← once d.outDir (path v) }
  | .config => return { d with config := ← once d.config (path v) }
  | .brand => return { d with brand := ← once d.brand (text v) }
  | .jobs => return { d with jobs := ← once d.jobs (count v) }
  | .disclosure => return { d with disclosure := ← once d.disclosure (disclosureStyle v) }
  | .logFile => return { d with logFile := ← once d.logFile (path v) }

def verbosityLimit : Nat := 255

def turnOn (d : Draft) : Switch → Except ArgumentError Draft
  | .force => if d.force then .error .repeated else .ok { d with force := true }
  | .statsJson => if d.statsJson then .error .repeated else .ok { d with statsJson := true }
  | .verbose => .ok { d with verbose := min (d.verbose + 1) verbosityLimit }
  | .help => .error .helpAsked
  | .version => .error .versionAsked

def addInputs (d : Draft) (vs : List Bytes) : Except ArgumentError Draft :=
  return { d with inputs := d.inputs ++ (← vs.mapM path) }

end Draft

/-- What has been read and waits to be settled. -/
inductive Pending
  | nothing
  | inputs (values : List Bytes)
  | option (o : Valued) (value : Option Bytes)

namespace Pending

def settle (d : Draft) : Pending → Except ArgumentError Draft
  | nothing => .ok d
  | inputs vs => d.addInputs vs
  | option _ none => .error .emptyValue
  | option o (some v) => d.set o v

end Pending

/-- A draft and what waits to enter it. -/
structure Reading where
  draft : Draft
  pending : Pending

namespace Reading

def settled (r : Reading) : Except ArgumentError Draft := r.pending.settle r.draft

def turnOn (r : Reading) (s : Switch) : Except ArgumentError Reading :=
  return ⟨← (← r.settled).turnOn s, .nothing⟩

/-- An option whose value is attached to it, or else is to come. -/
def option (r : Reading) (o : Valued) (attached : Option Bytes) : Except ArgumentError Reading := do
  let d ← r.settled
  match attached with
  | some v => return ⟨← d.set o v, .nothing⟩
  | none => return ⟨d, .option o none⟩

def input (r : Reading) (v : Bytes) : Except ArgumentError Reading :=
  match r.pending with
  | .inputs vs => .ok ⟨r.draft, .inputs (vs ++ [v])⟩
  | _ => return ⟨← r.settled, .inputs [v]⟩

/-- A value of the option that waits for one, or an input. -/
def value (r : Reading) (v : Bytes) : Except ArgumentError Reading :=
  match r.pending with
  | .option o none => .ok ⟨r.draft, .option o (some v)⟩
  | _ => r.input v

def hyphen : UInt8 := 0x2D

def equalsSign : UInt8 := 0x3D

/-- The part before the first equals sign, and what follows it. -/
def cutValue (arg : Bytes) : Bytes × Option Bytes :=
  let name := arg.takeWhile (· ≠ equalsSign)
  match arg.drop name.length with
  | [] => (name, none)
  | _ :: v => (name, some v)

/-- An argument behind its two hyphens. -/
def long (r : Reading) (arg : Bytes) : Except ArgumentError Reading :=
  let (name, attached) := cutValue arg
  match (Utf8.decode? name).bind Name.ofLong?, attached with
  | none, _ => .error .unknownName
  | some (.valued o), v => r.option o v
  | some (.switch _), some _ => .error .unexpectedValue
  | some (.switch s), none => r.turnOn s

/-- An argument behind its one hyphen. What follows the first option that has a value is its value,
less one equals sign. -/
def short (r : Reading) : Bytes → Except ArgumentError Reading
  | [] => .ok r
  | b :: rest =>
    let next := Utf8.next b rest
    match next.1 with
    | .malformed _ => .error .unknownName
    | .char c =>
      match Name.ofShort? c with
      | none => .error .unknownName
      | some (.switch s) => do short (← r.turnOn s) next.2
      | some (.valued o) =>
        match next.2 with
        | [] => r.option o none
        | d :: v => r.option o (some (if d = equalsSign then v else d :: v))
  termination_by arg => arg.length
  decreasing_by
    have := Utf8.length_next_le b rest
    simp only [List.length_cons]
    omega

/-- An argument that may begin with hyphens. One hyphen alone names nothing. -/
def argument (r : Reading) : Bytes → Except ArgumentError Reading
  | a :: b :: arg =>
    if a ≠ hyphen then r.value (a :: b :: arg)
    else if b = hyphen then r.long arg
    else r.short (b :: arg)
  | arg => r.value arg

/-- Reads all arguments. After one of two hyphens all are inputs. -/
def all (r : Reading) (inputsOnly : Bool) : List Bytes → Except ArgumentError Reading
  | [] => .ok r
  | arg :: args => do
    if inputsOnly then all (← r.input arg) true args
    else if arg = [hyphen, hyphen] then all r true args
    else all (← r.argument arg) false args

end Reading

namespace Options

def defaultOutDir : Path := Path.ofText "monetized".toList

/-- The options of a command line. The environment may name the settings file if the arguments do
not. -/
def ofArguments (args : List Bytes) (env : Environment) : Except ArgumentError Options := do
  let d ← (← (Reading.mk {} .nothing).all false args).settled
  let config ← match d.config, env Environment.settingsFile with
    | none, some v => some <$> Draft.path (Path.ofText v)
    | given, _ => .ok given
  if d.inputs.isEmpty then throw .missingInput
  return { d with config, outDir := d.outDir.getD defaultOutDir }

end Options

def version : Text := "monetize 0.1.0\n".toList

def usage : Text :=
  ("Rewrite affiliate links in HTML documents.\n\n" ++
    "Usage: monetize [OPTIONS] <INPUTS>...\n\n" ++
    "A single - as input reads a page from the standard input and writes it to the standard output.\n\n" ++
    "  -o, --out-dir <DIR>       directory of the monetized documents and the ledger [monetized]\n" ++
    "  -c, --config <FILE>       router settings; what is missing comes from the environment\n" ++
    "  -b, --brand <BRAND>       brand whose Amazon tag is used\n" ++
    "  -j, --jobs <N>            number of workers\n" ++
    "      --force               monetize documents that the ledger remembers\n" ++
    "      --disclosure <STYLE>  put a disclosure on top, short or long\n" ++
    "      --stats-json          print counts as JSON in the place of a summary\n" ++
    "      --log-file <FILE>     write the log to a file, too\n" ++
    "  -v, --verbose             log more; may be given several times\n" ++
    "  -h, --help                print this text\n" ++
    "  -V, --version             print the version\n").toList

def ArgumentError.message : ArgumentError → Text
  | missingInput => "no input is given".toList
  | emptyValue => "a value is missing or empty".toList
  | invalidValue => "a value is invalid".toList
  | notUtf8 => "a value is not valid UTF-8".toList
  | unknownName => "an option is unknown".toList
  | repeated => "an option is given twice".toList
  | unexpectedValue => "a value is given to an option that takes none".toList
  | helpAsked => "help was asked for".toList
  | versionAsked => "the version was asked for".toList

def ArgumentError.render (e : ArgumentError) : Text :=
  "error: ".toList ++ e.message ++ "\n\nFor more information, try '--help'.\n".toList

end AffiliateLinks.Command
