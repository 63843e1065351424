import AffiliateLinks.Log
import AffiliateLinks.Text.Quoted

/-!
# File systems

A path is a sequence of bytes, read as pieces between slashes. Empty pieces mean nothing, and neither
does a piece of one dot that other pieces stand in front of.

A file system maps places to files and directories. A place is the list of names that leads to it
from the root; a path is resolved to a place from the working directory on. Main statement: what is
put at a place is there afterwards, and all other places are as before.

A file that readers may look at is replaced in two steps: the new content is staged under a name of
its own in the same directory, and then the staged file takes the other one's place. Work reads and
changes a file system, logs lines, and may fail. A failure keeps the changes and the lines from
before it.
-/

namespace AffiliateLinks

abbrev Path := Bytes

namespace Path

def slash : UInt8 := 0x2F

/-- The piece that stays where it is. -/
def here : Bytes := [0x2E]

/-- The piece that goes to the directory above. -/
def above : Bytes := [0x2E, 0x2E]

def ofText (t : Text) : Path := Utf8.encode t

/-- The path as a reader sees it. -/
def display (p : Path) : Text := Utf8.decodeLossy p

def quoted (p : Path) : Text := Quoted.bytes p

def split : Path → List Bytes
  | [] => [[]]
  | b :: p =>
    if b = slash then [] :: split p
    else match split p with
      | [] => [[b]]
      | c :: cs => (b :: c) :: cs

def pieces (p : Path) : List Bytes := (split p).filter fun c => !c.isEmpty

def isRooted (p : Path) : Bool := p.head? = some slash

def endsInSlash (p : Path) : Bool := p.getLast? = some slash

/-- The pieces that count. A leading dot does, as it tells a path from an empty one. -/
def components (p : Path) : List Bytes :=
  match p.isRooted, p.pieces with
  | false, c :: cs => c :: cs.filter (· ≠ here)
  | _, cs => cs.filter (· ≠ here)

def ofComponents (rooted : Bool) (cs : List Bytes) : Path :=
  (if rooted then [slash] else []) ++ List.intercalate [slash] cs

/-- The last component, where it names something. -/
def fileName? (p : Path) : Option Bytes :=
  p.components.getLast?.filter fun c => c ≠ here ∧ c ≠ above

/-- The path with a name behind it. -/
def join (dir : Path) (name : Bytes) : Path :=
  if dir.isEmpty || dir.endsInSlash then dir ++ name else dir ++ slash :: name

/-- The paths that remain when components are taken off the end, the longest first and down to one
component. -/
def parents (p : Path) : List Path :=
  let cs := p.components
  ((List.range cs.length).tail.reverse).map fun n => ofComponents p.isRooted (cs.take n)

end Path

inductive FileError
  | notFound
  | alreadyThere
  | notDirectory
  | isDirectory
  | nameTooLong
  | zeroByte
  | notUtf8
  deriving DecidableEq, Repr

def FileError.message : FileError → Text
  | notFound => "No such file or directory (os error 2)".toList
  | alreadyThere => "File exists (os error 17)".toList
  | notDirectory => "Not a directory (os error 20)".toList
  | isDirectory => "Is a directory (os error 21)".toList
  | nameTooLong => "File name too long (os error 36)".toList
  | zeroByte => "file name contained an unexpected NUL byte".toList
  | notUtf8 => "stream did not contain valid UTF-8".toList

/-- The names from the root to a file or directory. -/
abbrev Place := List Bytes

inductive Entry
  | file (content : Bytes)
  | directory (writable : Bool)
  deriving DecidableEq, Repr

structure FileSystem where
  entries : List (Place × Entry)
  workingDirectory : Place
  deriving DecidableEq, Repr

namespace FileSystem

/-- Only the root, which is also the working directory. -/
def empty : FileSystem := ⟨[([], .directory true)], []⟩

def get? (fs : FileSystem) (place : Place) : Option Entry := fs.entries.lookup place

def putEntry (place : Place) (e : Entry) : List (Place × Entry) → List (Place × Entry)
  | [] => [(place, e)]
  | (p, f) :: rest => if p = place then (p, e) :: rest else (p, f) :: putEntry place e rest

def put (fs : FileSystem) (place : Place) (e : Entry) : FileSystem :=
  { fs with entries := putEntry place e fs.entries }

def erase (fs : FileSystem) (place : Place) : FileSystem :=
  { fs with entries := fs.entries.filter fun (p, _) => p ≠ place }

/-- Takes away a place and all that is below it. -/
def eraseTree (fs : FileSystem) (place : Place) : FileSystem :=
  { fs with entries := fs.entries.filter fun (p, _) => !place.isPrefixOf p }

theorem lookup_cons (place other : Place) (e : Entry) (es : List (Place × Entry)) :
    ((place, e) :: es).lookup other = if other = place then some e else es.lookup other := by
  rw [List.lookup_cons]
  by_cases h : other = place
  · simp [h]
  · simp [h, beq_eq_false_iff_ne.2 h]

theorem lookup_putEntry (es : List (Place × Entry)) (place other : Place) (e : Entry) :
    (putEntry place e es).lookup other = if other = place then some e else es.lookup other := by
  induction es with
  | nil => rw [putEntry, lookup_cons]
  | cons f es ih =>
    obtain ⟨p, f⟩ := f
    rw [putEntry]
    split <;> rename_i hp
    · rw [lookup_cons, lookup_cons, hp]
      by_cases h : other = place <;> simp [h]
    · rw [lookup_cons, lookup_cons, ih]
      by_cases h : other = p <;> simp [h, hp]

theorem get?_put (fs : FileSystem) (place other : Place) (e : Entry) :
    (fs.put place e).get? other = if other = place then some e else fs.get? other :=
  lookup_putEntry fs.entries place other e

theorem lookup_filter_ne (es : List (Place × Entry)) (place other : Place) :
    (es.filter fun (p, _) => p ≠ place).lookup other =
      if other = place then none else es.lookup other := by
  induction es with
  | nil => simp
  | cons f es ih =>
    obtain ⟨p, f⟩ := f
    rw [List.filter_cons, lookup_cons]
    by_cases hp : p = place
    · rw [if_neg (by simp [hp]), ih, hp]
      by_cases h : other = place <;> simp [h]
    · rw [if_pos (by simp [hp]), lookup_cons, ih]
      by_cases h : other = p <;> simp [h, hp]

theorem get?_erase (fs : FileSystem) (place other : Place) :
    (fs.erase place).get? other = if other = place then none else fs.get? other :=
  lookup_filter_ne fs.entries place other

/-- Where a piece of a path leads from a directory. -/
def step (dir : Place) (piece : Bytes) : Place :=
  if piece = Path.here then dir else if piece = Path.above then dir.dropLast else dir ++ [piece]

def nameLimit : Nat := 255

def pathLimit : Nat := 4095

/-- Follows the pieces of a path. Every place on the way has to be a directory; the last need not be
there. -/
def walk (fs : FileSystem) (dir : Place) : List Bytes → Except FileError Place
  | [] => .ok dir
  | c :: cs =>
    match fs.get? dir with
    | none => .error .notFound
    | some (.file _) => .error .notDirectory
    | some (.directory _) =>
      if nameLimit < c.length then .error .nameTooLong else fs.walk (step dir c) cs

/-- Where a path leads. -/
def resolve (fs : FileSystem) (p : Path) : Except FileError Place :=
  if p.contains 0 then .error .zeroByte
  else if p.isEmpty then .error .notFound
  else if pathLimit < p.length then .error .nameTooLong
  else fs.walk (if p.isRooted then [] else fs.workingDirectory) p.pieces

/-- A path that can only mean a directory. -/
def asksForDirectory (p : Path) : Bool :=
  p.endsInSlash || p.pieces.getLast? = some Path.here || p.pieces.getLast? = some Path.above

/-- What is at the end of a path. -/
def lookup (fs : FileSystem) (p : Path) : Except FileError (Place × Entry) := do
  let place ← fs.resolve p
  match fs.get? place with
  | none => .error .notFound
  | some (.file content) =>
    if asksForDirectory p then .error .notDirectory else .ok (place, .file content)
  | some e => .ok (place, e)

def isDirectory (fs : FileSystem) (p : Path) : Bool :=
  match fs.lookup p with
  | .ok (_, .directory _) => true
  | _ => false

def read (fs : FileSystem) (p : Path) : Except FileError Bytes := do
  match ← fs.lookup p with
  | (_, .file content) => .ok content
  | (_, .directory _) => .error .isDirectory

/-- The text of a file. -/
def readText (fs : FileSystem) (p : Path) : Except FileError Text := do
  match Utf8.decode? (← fs.read p) with
  | some t => .ok t
  | none => .error .notUtf8

/-- The place of a file that may be written, whether or not it is there yet. -/
def writable (fs : FileSystem) (p : Path) : Except FileError Place := do
  let place ← fs.resolve p
  match fs.get? place with
  | some (.directory _) => .error .isDirectory
  | _ => if asksForDirectory p then .error .isDirectory else .ok place

/-- Writes a file in its place. -/
def write (fs : FileSystem) (p : Path) (content : Bytes) : Except FileError FileSystem :=
  return fs.put (← fs.writable p) (.file content)

def makeDirectory (fs : FileSystem) (p : Path) : Except FileError FileSystem := do
  let place ← fs.resolve p
  if (fs.get? place).isSome then .error .alreadyThere else .ok (fs.put place (.directory true))

/-- Makes the first of the paths, and before it those of the others that it needs. -/
def makeChain (fs : FileSystem) : List Path → Except FileError Unit × FileSystem
  | [] => (.ok (), fs)
  | p :: parents =>
    let accept (fs : FileSystem) : FileError → Except FileError Unit × FileSystem
      | .alreadyThere => (if fs.isDirectory p then .ok () else .error .alreadyThere, fs)
      | e => (.error e, fs)
    match fs.makeDirectory p with
    | .ok fs => (.ok (), fs)
    | .error .notFound =>
      match fs.makeChain parents with
      | (.ok (), fs) =>
        match fs.makeDirectory p with
        | .ok fs => (.ok (), fs)
        | .error e => accept fs e
      | failed => failed
    | .error e => accept fs e

/-- Makes a directory and those above it that are missing. -/
def makeDirectories (fs : FileSystem) (p : Path) : Except FileError Unit × FileSystem :=
  if p.components.isEmpty then (.ok (), fs) else fs.makeChain (p :: p.parents)

def setWritable (fs : FileSystem) (p : Path) (writable : Bool) :
    Except FileError FileSystem := do
  match ← fs.lookup p with
  | (place, .directory _) => .ok (fs.put place (.directory writable))
  | (_, .file _) => .ok fs

/-- Removes a file, or a directory with all that is in it. -/
def remove (fs : FileSystem) (p : Path) : Except FileError FileSystem :=
  return fs.eraseTree (← fs.lookup p).1

def stagingName (n : Nat) : Bytes :=
  Path.ofText (".monetize-".toList ++ Numeral.decimal n ++ ".partial".toList)

/-- A staging name that nothing in the directory has. One of as many names as there are entries, and
one more, is free. -/
def freshName (fs : FileSystem) (dir : Place) : Bytes :=
  let names := (List.range (fs.entries.length + 1)).map stagingName
  (names.find? fun name => (fs.get? (dir ++ [name])).isNone).getD []

/-- Puts content under a fresh name into a directory. -/
def stage (fs : FileSystem) (dir : Path) (content : Bytes) :
    Except FileError (Place × FileSystem) := do
  match ← fs.lookup dir with
  | (place, .directory _) =>
    let staged := place ++ [fs.freshName place]
    .ok (staged, fs.put staged (.file content))
  | (_, .file _) => .error .notDirectory

/-- Moves a staged file to the end of a path, where a file may give way to it but no directory. A file
that is staged at that very end stays there. -/
def replace (fs : FileSystem) (staged : Place) (p : Path) : Except FileError FileSystem := do
  let place ← fs.writable p
  match fs.get? staged with
  | some e => .ok ((fs.erase staged).put place e)
  | none => .error .notFound

end FileSystem

abbrev Work (ε α : Type) := ExceptT ε (StateT FileSystem (WithLog Line)) α

namespace Work

variable {ε ε' α : Type}

def perform (step : FileSystem → Except ε α × FileSystem) : Work ε α :=
  ExceptT.mk fun fs => pure (step fs)

/-- What can be told of the file system as it is. -/
def inspect (look : FileSystem → Except ε α) : Work ε α := perform fun fs => (look fs, fs)

def log (lines : List Line) : Work ε Unit := ExceptT.mk fun fs => ⟨(.ok (), fs), lines⟩

/-- The thread that a program starts with. -/
def mainThread : Thread := Thread.start 1

/-- Logs a message outside of any document. -/
def tell (level : Level) (component : Component) (text : Text) : Work ε Unit :=
  log [mainThread.line ⟨level, component, text⟩]

def mapError (f : ε → ε') (w : Work ε α) : Work ε' α := ExceptT.mk do return (← w.run).mapError f

end Work

end AffiliateLinks
