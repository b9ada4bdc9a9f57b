import RpcHost.CommandLine.Reader
import RpcHost.Commands.Manage
import RpcHost.Commands.Serve
import RpcHost.Log.Filter

/-!
# The program

A run reads the command line, loads the configuration, sets up the log, and carries out one command.
The first step that fails ends it. All that a run can see is an input, and all that it does is its
outcome. `plan` takes a run to the point where it would bind an address.
-/

namespace RpcHost
namespace Program

open Files Config CommandLine Commands Log Server

/-- What surrounds a run. -/
structure Surroundings where
  site : Site
  /-- The configuration that the environment names. -/
  configVariable : Option String
  /-- The log filter that the environment gives. -/
  logVariable : Option String
  files : FileSystem

/-- How a run ends. -/
inductive Ending where
  | done
  | refused (refusal : Refusal)
  /-- The messages of an error, from the widest view to the cause. -/
  | failed (chain : List String)
  | serving
  deriving DecidableEq, Repr

structure Outcome where
  ending : Ending
  output : String
  lines : List Line
  files : FileSystem

/-- The status with which a run ends, if it does. -/
def Ending.exitCode? : Ending → Option UInt8
  | done => some 0
  | refused refusal => some (if refusal.isAnswer then 0 else 2)
  | failed _ => some 1
  | serving => none

/-! ## Texts -/

def usage : String :=
  "Usage: " ++ Product.name ++ " [-D...] [-c FILE] <serve|config> [OPTIONS]\n"

/-- What is printed for a command line that is not carried out. -/
def refusalOutput : Refusal → String
  | .version text => text
  | .help => usage
  | _ => ""

/-- A single cause stands alone, and several are numbered. -/
def causesText : List String → String
  | [] => ""
  | [cause] => "\nCaused by:\n    " ++ cause ++ "\n"
  | causes =>
      "\nCaused by:\n" ++ String.join (causes.zipIdx.map fun (cause, i) =>
        "    " ++ toString i ++ ": " ++ cause ++ "\n")

/-- What is said about a failed run. -/
def failureText : List String → String
  | [] => ""
  | message :: causes => "Error: " ++ message ++ "\n" ++ causesText causes

/-! ## Runs -/

/-- The filter of the environment, if there is a valid one, and otherwise that of the higher of two
debug levels. -/
def filterOf (given : Option String) (requested configured : UInt8) : Filter :=
  (given.bind Filter.read?).getD (.ofDebugLevel (max requested configured))

/-- What a run comes to before anything is served. -/
inductive Plan where
  | over (outcome : Outcome)
  | serve (c : Config) (filter : Filter)

def endingOf : ServeEnd → Ending
  | .finished => .done
  | .failed e => .failed e.chain
  | .serving => .serving

/-- The outcome of a run that served, or was about to. -/
def served (files : FileSystem) (filter : Filter) (run : ServeRun) : Outcome :=
  ⟨endingOf run.ending, "", run.lines.filter filter.allows, files⟩

def carryOut (s : Surroundings) (c : Config) (filter : Filter) : Command → Plan
  | .config options =>
      match manage options c s.site s.files with
      | (.ok output, files) => .over ⟨.done, output, [], files⟩
      | (.error e, files) => .over ⟨.failed e.chain, "", [], files⟩
  | .serve options =>
      match begin options c with
      | .over run => .over (served s.files filter run)
      | .ready merged => .serve merged filter

def plan (s : Surroundings) (args : List String) : Plan :=
  match CommandLine.read s.configVariable args with
  | .error refusal => .over ⟨.refused refusal, refusalOutput refusal, [], s.files⟩
  | .ok invocation =>
      match loadWith s.files s.site invocation.config with
      | .error e => .over ⟨.failed e.chain, "", [], s.files⟩
      | .ok c =>
          carryOut s c (filterOf s.logVariable invocation.debug c.debugLevel) invocation.command

def run (s : Surroundings) (bind : String → UInt16 → BindResult) (signalled : Bool)
    (args : List String) : Outcome :=
  match plan s args with
  | .over outcome => outcome
  | .serve c filter => served s.files filter (serveWith bind signalled c)

/-- The paths that a run may look at. -/
def paths (s : Surroundings) (args : List String) : List Path :=
  let named := match CommandLine.read s.configVariable args with
    | .ok invocation => invocation.config.toList
    | .error _ => []
  named ++ [localPath] ++ (globalPath? s.site).toList ++ s.site.cwd.ancestors.map pathAt

end Program
end RpcHost
