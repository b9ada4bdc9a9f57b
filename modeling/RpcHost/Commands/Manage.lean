import RpcHost.CommandLine.Basic
import RpcHost.Config.Storage

/-!
# The command that manages configurations

It shows where configurations lie, writes the default configuration, or prints the one in effect, in
this order of precedence. An existing file is only replaced when that is forced.
-/

namespace RpcHost
namespace Commands

open Files Config CommandLine

inductive ManageError where
  | alreadyThere (path : Path)
  | unwritten (path : Path) (error : SaveError)
  | unprintable
  deriving DecidableEq, Repr

def ManageError.chain : ManageError → List String
  | .alreadyThere path =>
      ["Config already exists at " ++ path.text ++ ". Use --force to overwrite."]
  | .unwritten path error => ["Failed to write " ++ path.text, error.message]
  | .unprintable => [SaveError.unwritable.message]

/-- The file that a new configuration goes to. -/
def targetPath (site : Site) (global : Bool) : Path :=
  if global then (globalPath? site).getD localPath else localPath

def pathLines (fs : FileSystem) (site : Site) : String :=
  "Global: " ++ (targetPath site true).text ++ "\n"
    ++ "Local:  " ++ (targetPath site false).text ++ "\n"
    ++ match nearest? fs site with
      | some path => "Active: " ++ path.text ++ "\n"
      | none => "No local config found\n"

/-- Writes the default configuration. -/
def initialise (options : ConfigOptions) (site : Site) (fs : FileSystem) :
    Except ManageError String × FileSystem :=
  let path := targetPath site options.global
  if fs.pathExists site.cwd path && !options.force then (.error (.alreadyThere path), fs)
  else
    match Config.default.save site.cwd path fs with
    | (.ok _, fs) => (.ok ("Wrote " ++ path.text ++ "\n"), fs)
    | (.error error, fs) => (.error (.unwritten path error), fs)

/-- What is printed, and what becomes of the files. -/
def manage (options : ConfigOptions) (c : Config) (site : Site) (fs : FileSystem) :
    Except ManageError String × FileSystem :=
  if options.path then (.ok (pathLines fs site), fs)
  else if options.init then initialise options site fs
  else
    match c.text? with
    | some text => (.ok text, fs)
    | none => (.error .unprintable, fs)

end Commands
end RpcHost
