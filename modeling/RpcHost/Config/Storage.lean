import RpcHost.Config.Document
import RpcHost.Files.FileSystem

/-!
# Where configurations are kept

A configuration lies in a file of a fixed name in a directory of a fixed name. The nearest one at or
above the working directory counts, then the one in the home directory, then the defaults.
-/

namespace RpcHost
namespace Config

open Files

def directoryName : String := ".minirpc"
def fileName : String := "config.toml"

/-- The place from which a program runs, and the home of its user. -/
structure Site where
  cwd : Location
  home : Option Path
  deriving DecidableEq, Repr

/-! ## Paths -/

/-- The configuration that belongs to a directory. -/
def pathBelow (directory : Path) : Path :=
  (directory.join directoryName).join fileName

def pathAt (place : Location) : Path :=
  pathBelow place.path

def globalPath? (site : Site) : Option Path :=
  site.home.map pathBelow

/-- Where a new configuration is written, relative to the working directory. -/
def localPath : Path :=
  pathBelow ⟨""⟩

/-- The nearest configuration at the working directory or above it. -/
def nearest? (fs : FileSystem) (site : Site) : Option Path :=
  (site.cwd.ancestors.map pathAt).find? (fs.pathExists site.cwd)

/-! ## Loading -/

inductive LoadError where
  | unreadable (path : Path) (fault : FileFault)
  | invalid (path : Path) (error : ParseError)
  deriving DecidableEq, Repr

/-- The messages of an error, from the widest view to the cause. -/
def LoadError.chain : LoadError → List String
  | .unreadable path fault => ["Failed to read config " ++ path.text, fault.message]
  | .invalid path error => ["Invalid config " ++ path.text, error.message]

def loadFrom (fs : FileSystem) (cwd : Location) (path : Path) : Except LoadError Config :=
  match fs.readText cwd path with
  | .error fault => .error (.unreadable path fault)
  | .ok text =>
      match parse text with
      | .error error => .error (.invalid path error)
      | .ok c => .ok c

/-- The configuration in the home directory, if there is one. -/
def loadGlobal (fs : FileSystem) (site : Site) : Except LoadError Config :=
  match globalPath? site with
  | some path => if fs.pathExists site.cwd path then loadFrom fs site.cwd path else .ok default
  | none => .ok default

def load (fs : FileSystem) (site : Site) : Except LoadError Config :=
  match nearest? fs site with
  | some path => loadFrom fs site.cwd path
  | none => loadGlobal fs site

/-- A path that is given goes before all others. -/
def loadWith (fs : FileSystem) (site : Site) : Option Path → Except LoadError Config
  | some path => loadFrom fs site.cwd path
  | none => load fs site

/-! ## Saving -/

inductive SaveError where
  | unwritable
  | fileFault (fault : FileFault)
  deriving DecidableEq, Repr

def SaveError.message : SaveError → String
  | .unwritable => "TOML serialize error"
  | .fileFault fault => fault.message

/-- Saves a text, if there is one. -/
def saveText (cwd : Location) (path : Path) (fs : FileSystem) :
    Option String → Except SaveError Unit × FileSystem
  | none => (.error .unwritable, fs)
  | some text =>
      match fs.save cwd path (Text.utf8 text) with
      | (.ok _, fs) => (.ok (), fs)
      | (.error fault, fs) => (.error (.fileFault fault), fs)

def save (c : Config) (cwd : Location) (path : Path) (fs : FileSystem) :
    Except SaveError Unit × FileSystem :=
  saveText cwd path fs c.text?

end Config
end RpcHost
