import AffiliateLinks.Files.System
import AffiliateLinks.Text.Quoted

/-!
# Output directories

A document is written into an output directory whole or not at all, and never outside it. It is
written under the file name of its input, so two inputs must not share one.
-/

namespace AffiliateLinks

inductive WriteError
  | unusableDirectory (path : Path) (reason : Text)
  | outsideName (name : Text)
  | noFileName (path : Path)
  | sharedName (name : Text)
  | nameCount (names documents : Nat)
  | file (cause : FileError)
  deriving DecidableEq, Repr

namespace WriteError

def message : WriteError → Text
  | unusableDirectory path reason =>
    "output directory ".toList ++ path.quoted ++ " is unusable: ".toList ++ reason
  | outsideName name => "refusing to write outside the output directory: ".toList ++ Quoted.text name
  | noFileName path => "input ".toList ++ path.quoted ++ " has no file name".toList
  | sharedName name =>
    "more than one input is named ".toList ++ Quoted.text name ++ "; outputs would collide".toList
  | nameCount names documents =>
    Numeral.decimal names ++ " output names for ".toList ++ Numeral.decimal documents ++
      " documents".toList
  | file cause => "io error: ".toList ++ cause.message

/-- The messages of the errors that led to this one. -/
def causes : WriteError → List Text
  | file cause => [cause.message]
  | _ => []

end WriteError

def Path.outputName (p : Path) : Except WriteError Text :=
  match p.fileName? with
  | some name => .ok (Utf8.decodeLossy name)
  | none => .error (.noFileName p)

/-- The output names of inputs, when `taken` are the names of the inputs before them. -/
def outputNamesAfter (taken : List Text) : List Path → Except WriteError (List Text)
  | [] => .ok []
  | p :: ps => do
    let name ← p.outputName
    if taken.contains name then throw (.sharedName name)
    return name :: (← outputNamesAfter (name :: taken) ps)

def outputNames (inputs : List Path) : Except WriteError (List Text) := outputNamesAfter [] inputs

structure OutputDirectory where
  path : Path
  deriving DecidableEq, Repr

namespace OutputDirectory

/-- Makes the directory if nothing is there, and refuses it when it cannot be written into. -/
def prepare (path : Path) (fs : FileSystem) : Except WriteError OutputDirectory × FileSystem :=
  let unusable (reason : Text) : Except WriteError OutputDirectory :=
    .error (.unusableDirectory path reason)
  let (made, fs) :=
    if (fs.lookup path).isOk then (.ok (), fs) else fs.makeDirectories path
  let opened := match made with
    | .error e => unusable e.message
    | .ok () =>
      match fs.lookup path with
      | .error e => unusable e.message
      | .ok (_, .file _) => unusable "not a directory".toList
      | .ok (_, .directory false) => unusable "read-only".toList
      | .ok (_, .directory true) => .ok ⟨path⟩
  (opened, fs)

/-- A name of a file in the directory itself. -/
def isPlainName (name : Text) : Bool :=
  !name.isEmpty && name ≠ ['.'] && name ≠ ['.', '.'] && !name.contains '/' && !name.contains '\\' &&
    (Path.ofText name).fileName?.isSome

/-- Writes a document under a name, in the place of an earlier one. -/
def write (d : OutputDirectory) (name content : Text) (fs : FileSystem) :
    Except WriteError Path × FileSystem :=
  if !isPlainName name then (.error (.outsideName name), fs)
  else match fs.stage d.path (Utf8.encode content) with
    | .error e => (.error (.file e), fs)
    | .ok (staged, stagedFs) =>
      let target := d.path.join (Path.ofText name)
      match stagedFs.replace staged target with
      | .ok fs => (.ok target, fs)
      | .error e => (.error (.file e), stagedFs.erase staged)

end OutputDirectory

end AffiliateLinks
