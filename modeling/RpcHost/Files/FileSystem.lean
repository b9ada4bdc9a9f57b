import RpcHost.Files.Path
import RpcHost.Text.Utf8

/-!
# File systems

A file system says which places hold a file or a directory. The root is always a directory. A path
is walked step by step from a directory; every step but the last has to lead to a directory again.
-/

namespace RpcHost
namespace Files

inductive Entry where
  | file (content : Bytes)
  | directory
  deriving DecidableEq

/-- Why the file system refuses a request. -/
inductive FileFault where
  | missing
  | exists
  | notDirectory
  | isDirectory
  | nameTooLong
  | nulInName
  | notText
  deriving DecidableEq, Repr

def FileFault.message : FileFault → String
  | .missing => "No such file or directory (os error 2)"
  | .exists => "File exists (os error 17)"
  | .notDirectory => "Not a directory (os error 20)"
  | .isDirectory => "Is a directory (os error 21)"
  | .nameTooLong => "File name too long (os error 36)"
  | .nulInName => "file name contained an unexpected NUL byte"
  | .notText => "stream did not contain valid UTF-8"

/-- An entry at its place. The depth of the place stands beside it, so that places of other depths
are told from it at once. -/
structure Item where
  place : Location
  depth : Nat
  entry : Entry
  deriving DecidableEq

def Item.isAt (place : Location) (depth : Nat) (item : Item) : Bool :=
  item.depth == depth && item.place = place

/-- Of two items for one place the first one counts. -/
abbrev FileSystem := List Item

namespace FileSystem

def lookup (place : Location) (fs : FileSystem) : Option Entry :=
  let depth := place.length
  (fs.find? (·.isAt place depth)).map (·.entry)

def find? (place : Location) (fs : FileSystem) : Option Entry :=
  match place with
  | [] => some .directory
  | place => fs.lookup place

def replaceOrAdd (item : Item) : FileSystem → FileSystem
  | [] => [item]
  | old :: rest =>
      if old.isAt item.place item.depth then item :: rest else old :: replaceOrAdd item rest

def put (place : Location) (e : Entry) (fs : FileSystem) : FileSystem :=
  replaceOrAdd ⟨place, place.length, e⟩ fs

@[simp] theorem lookup_cons (place : Location) (item : Item) (fs : FileSystem) :
    lookup place (item :: fs) =
      if item.isAt place place.length then some item.entry else lookup place fs := by
  by_cases h : item.isAt place place.length <;> simp [lookup, h]

@[simp] theorem lookup_put (place other : Location) (e : Entry) (fs : FileSystem) :
    lookup other (put place e fs) = if other = place then some e else lookup other fs := by
  have hnew : Item.isAt other other.length ⟨place, place.length, e⟩ = decide (other = place) := by
    by_cases h : other = place
    · simp [Item.isAt, h]
    · simp [Item.isAt, h, Ne.symm h]
  induction fs with
  | nil => simp [put, replaceOrAdd, hnew]
  | cons old rest ih =>
      by_cases hold : old.isAt place place.length
      · have hput : put place e (old :: rest) = ⟨place, place.length, e⟩ :: rest := if_pos hold
        by_cases h : other = place
        · rw [hput, lookup_cons, hnew]
          simp [h]
        · have hother : old.isAt other other.length = false := by
            simp_all [Item.isAt, Ne.symm h]
          simp [hput, hnew, h, hother]
      · have hput : put place e (old :: rest) = old :: put place e rest := if_neg hold
        by_cases h : other = place
        · subst h
          simp [hput, hold, ih]
        · simp [hput, ih, h]

/-! ## Walking -/

def greatestNameSize : Nat := 255
def greatestPathSize : Nat := 4095

def isDirectoryAt (place : Location) (fs : FileSystem) : Bool :=
  fs.find? place = some .directory

/-- The place that steps lead to from a directory. Everything on the way has to be there. -/
def walk (fs : FileSystem) : Location → List Step → Except FileFault Location
  | place, [] => .ok place
  | place, .stay :: rest => walk fs place rest
  | place, .up :: rest => walk fs place.tail rest
  | place, .down name :: rest =>
      if greatestNameSize < name.utf8ByteSize then .error .nameTooLong
      else
        match fs.find? (name :: place) with
        | none => .error .missing
        | some .directory => walk fs (name :: place) rest
        | some (.file _) => if rest = [] then .ok (name :: place) else .error .notDirectory

/-- What is wrong with the text of a path, whatever the files are. -/
def textFault? (p : Path) : Option FileFault :=
  if p.text.toList.contains '\x00' then some .nulInName
  else if p.text = "" then some .missing
  else if greatestPathSize < p.text.utf8ByteSize then some .nameTooLong
  else none

/-- Where a path starts. -/
def origin (cwd : Location) (p : Path) : Location :=
  if p.isAbsolute then [] else cwd

/-- The place of something that is there. -/
def resolve (fs : FileSystem) (cwd : Location) (p : Path) : Except FileFault Location :=
  match textFault? p with
  | some fault => .error fault
  | none => fs.walk (origin cwd p) (if p.endsInSlash then p.steps ++ [.stay] else p.steps)

def pathExists (fs : FileSystem) (cwd : Location) (p : Path) : Bool :=
  match fs.resolve cwd p with
  | .ok _ => true
  | .error _ => false

/-! ## Reading and writing -/

def read (fs : FileSystem) (cwd : Location) (p : Path) : Except FileFault Bytes := do
  let place ← fs.resolve cwd p
  match fs.find? place with
  | some (.file content) => .ok content
  | some .directory => .error .isDirectory
  | none => .error .missing

def readText (fs : FileSystem) (cwd : Location) (p : Path) : Except FileFault String := do
  let content ← fs.read cwd p
  match Text.ofUtf8? content with
  | some text => .ok text
  | none => .error .notText

theorem readText_of_read {fs : FileSystem} {cwd : Location} {p : Path} {text : String}
    (h : fs.read cwd p = .ok (Text.utf8 text)) : fs.readText cwd p = .ok text := by
  unfold readText
  rw [h]
  simp [bind, Except.bind]

/-- The way to the directory in which the last step gives a name, or the whole way if the last step
gives none. -/
def holderSteps (steps : List Step) : List Step :=
  match steps.getLast? with
  | some (.down _) => steps.dropLast ++ [.stay]
  | _ => steps

/-- The place that the last step gives a name to, if it gives one. -/
def target (fs : FileSystem) (start : Location) (steps : List Step) :
    Except FileFault (Option Location) := do
  let holder ← fs.walk start (holderSteps steps)
  match steps.getLast? with
  | some (.down name) =>
      if greatestNameSize < name.utf8ByteSize then .error .nameTooLong
      else .ok (some (name :: holder))
  | _ => .ok none

/-- The file that a write goes to. A path that ends in a slash names no file. -/
def writable (fs : FileSystem) (cwd : Location) (p : Path) : Except FileFault Location := do
  match textFault? p with
  | some fault => .error fault
  | none =>
      if p.endsInSlash then
        let _ ← fs.walk (origin cwd p) (holderSteps p.steps)
        .error .isDirectory
      else
        match ← fs.target (origin cwd p) p.steps with
        | none => .error .isDirectory
        | some place => if fs.isDirectoryAt place then .error .isDirectory else .ok place

def write (fs : FileSystem) (cwd : Location) (p : Path) (content : Bytes) :
    Except FileFault FileSystem := do
  let place ← fs.writable cwd p
  return fs.put place (.file content)

/-! ## Making directories -/

/-- Makes the directories that are missing along some steps from a directory. Those made before a
failure stay. A file at the end, or after a directory that was made, is in the place of a directory
to be made; any other is on the way to one. -/
def makeAll (made : Bool) (fs : FileSystem) : Location → List Step →
    Except FileFault Unit × FileSystem
  | _, [] => (.ok (), fs)
  | place, .stay :: rest => makeAll made fs place rest
  | place, .up :: rest => makeAll made fs place.tail rest
  | place, .down name :: rest =>
      if greatestNameSize < name.utf8ByteSize then (.error .nameTooLong, fs)
      else
        match fs.find? (name :: place) with
        | none => makeAll true (fs.put (name :: place) .directory) (name :: place) rest
        | some .directory => makeAll made fs (name :: place) rest
        | some (.file _) => (.error (if made ∨ rest = [] then .exists else .notDirectory), fs)

/-- Makes the directory that a path has its last part in, and all above it. -/
def makeParent (fs : FileSystem) (cwd : Location) (p : Path) :
    Except FileFault Unit × FileSystem :=
  match p.parent? with
  | none | some ⟨""⟩ => (.ok (), fs)
  | some parent =>
      match textFault? parent with
      | some fault => (.error fault, fs)
      | none => makeAll false fs (origin cwd parent) parent.steps

/-- Writes a file and makes the directories above it. -/
def save (fs : FileSystem) (cwd : Location) (p : Path) (content : Bytes) :
    Except FileFault Unit × FileSystem :=
  match fs.makeParent cwd p with
  | (.ok _, fs) =>
      match fs.write cwd p content with
      | .ok fs => (.ok (), fs)
      | .error fault => (.error fault, fs)
  | failed => failed

end FileSystem
end Files
end RpcHost
