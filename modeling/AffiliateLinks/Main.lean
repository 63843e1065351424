import AffiliateLinks.Command.Run

/-!
# The command

Before a run, the files that it may look at are loaded; after it, what it changed is written back.
-/

namespace AffiliateLinks.Command

/-- The paths that a run may look at. -/
def Options.paths (o : Options) : List Path :=
  let outputs := match outputNames o.inputs with
    | .ok names => names.map fun name => o.outDir.join (Path.ofText name)
    | .error _ => []
  o.config.toList ++ o.logFile.toList ++ o.inputs ++ o.outDir :: Ledger.path o.outDir :: outputs

def placeName (place : Place) : String :=
  String.ofList (Path.ofComponents true place).display

def probe (place : Place) : IO (Option Entry) := do
  try
    return some (.file (← IO.FS.readBinFile (placeName place)).toList)
  catch
    | .noFileOrDirectory .. => return none
    | .inappropriateType .. => return some (.directory true)
    | e => throw e

/-- Loads the places on the way along the pieces of a path, as far as they are there. -/
def loadPieces (fs : FileSystem) (dir : Place) : List Bytes → IO FileSystem
  | [] => return fs
  | c :: cs => do
    let place := FileSystem.step dir c
    if (fs.get? place).isSome then loadPieces fs place cs
    else match ← probe place with
      | some e => loadPieces (fs.put place e) place cs
      | none => return fs

def loadPath (fs : FileSystem) (p : Path) : IO FileSystem :=
  loadPieces fs (if p.isRooted then [] else fs.workingDirectory) p.pieces

def load (paths : List Path) : IO FileSystem := do
  let here := Path.pieces (Path.ofText (← IO.FS.realPath ".").toString.toList)
  let fs ← loadPieces FileSystem.empty [] here
  paths.foldlM loadPath { fs with workingDirectory := here }

/-- Writes a file under another name first, so that no reader sees a part of it. -/
def writeWhole (place : Place) (content : Bytes) : IO Unit := do
  let staged := placeName (place.dropLast ++ [FileSystem.stagingName (← IO.monoNanosNow)])
  IO.FS.writeBinFile staged ⟨content.toArray⟩
  IO.FS.rename staged (placeName place)

def store (before after : FileSystem) : IO Unit := do
  for (place, entry) in after.entries do
    if before.get? place ≠ some entry then
      match entry with
      | .directory _ => IO.FS.createDirAll (placeName place)
      | .file content => writeWhole place content

partial def readAll (input : IO.FS.Stream) (read : ByteArray) : IO ByteArray := do
  let more ← input.read 65536
  if more.isEmpty then return read else readAll input (read ++ more)

def environment (values : List (Text × Option String)) : Environment := fun name =>
  ((values.lookup name).join).map String.toList

def execute (arguments : List String) : IO UInt32 := do
  let args := arguments.map fun a => Path.ofText a.toList
  let names := [Environment.amazonTag, Environment.skimlinksId, Environment.skipDomains,
    Environment.settingsFile]
  let env := environment (← names.mapM fun name => return (name, ← IO.getEnv (String.ofList name)))
  let options := Options.ofArguments args env
  let (stdin, paths) ← match options with
    | .ok o =>
      let stdin ← if o.readsStdin then readAll (← IO.getStdin) .empty else pure .empty
      pure (stdin, if o.readsStdin then o.config.toList ++ o.logFile.toList else o.paths)
    | .error _ => pure (.empty, [])
  let before ← load paths
  let started ← IO.monoNanosNow
  let r := run args env stdin.toList before
  store before r.files
  IO.eprint (String.ofList r.stderr)
  IO.print (String.ofList (r.stdout ((← IO.monoNanosNow) - started)))
  return r.code.toUInt32

end AffiliateLinks.Command

def main (arguments : List String) : IO UInt32 := AffiliateLinks.Command.execute arguments
