import RpcHost.CommandLine.Level

/-!
# Reading command lines

The first argument that is neither an option nor the value of one names the command; the arguments
after it belong to the command. Nothing but options may follow it, and nothing at all may follow two
dashes.
-/

namespace RpcHost
namespace CommandLine

open Files

/-! ## Names of commands -/

/-- What can stand in the place of a command. -/
inductive CommandName where
  | serve
  | config
  | help
  deriving DecidableEq, Repr

def CommandName.ofString? : String → Option CommandName
  | "serve" => some .serve
  | "config" => some .config
  | "help" => some .help
  | _ => none

/-- Help is given on one command at most. -/
def helpOn : List String → Refusal
  | [] => .help
  | [name] => if (CommandName.ofString? name).isSome then .help else .invalidSubcommand
  | _ => .invalidSubcommand

/-! ## The arguments of a command -/

/-- The options after the name of a command. -/
def readOptions (environment : Option String) : List String → Level → Except Refusal Given
  | [], l => l.close environment
  | "--" :: [], l => l.close environment
  | "--" :: _, _ => .error .unknownArgument
  | arg :: args, l => do
      match ← l.take arg with
      | some l => readOptions environment args l
      | none => .error .unknownArgument

/-! ## The whole line -/

def Given.isNothing (g : Given) : Bool :=
  g.debug.isNone && g.config.isNone

/-- A line that ends without a command. -/
def missingCommand (environment : Option String) (l : Level) : Refusal :=
  match l.close environment with
  | .error refusal => refusal
  | .ok given =>
      if given.isNothing ∧ environment = none then .helpForNothing else .missingSubcommand

/-- What stands after the command goes before what stands in front of it, and the environment comes
last. -/
def combine (environment : Option String) (outer inner : Given) (command : Command) :
    Invocation where
  debug := (inner.debug.or outer.debug).getD 0
  config := (inner.config.or outer.config).or (environment.map Files.Path.mk)
  command := command

def readCommand (environment : Option String) (outer : Level) (args : List String) :
    CommandName → Except Refusal Invocation
  | .help => .error (helpOn args)
  | .serve => do
      let inner ← readOptions environment args ⟨.serve, {}, .nothing⟩
      return combine environment (← outer.close environment) inner (.serve inner.serve)
  | .config => do
      let inner ← readOptions environment args ⟨.config, {}, .nothing⟩
      return combine environment (← outer.close environment) inner (.config inner.manage)

/-- The name of a command, where one can stand. -/
def Level.command? (l : Level) (arg : String) : Option CommandName :=
  if l.isWaiting then none else CommandName.ofString? arg

def readLine (environment : Option String) : List String → Level → Except Refusal Invocation
  | [], l => .error (missingCommand environment l)
  | arg :: args, l =>
      match l.command? arg with
      | some name => readCommand environment l args name
      | none =>
          if arg = "--" then
            match args with
            | [] => .error (missingCommand environment l)
            | next :: _ =>
                if (CommandName.ofString? next).isSome then .error .unknownArgument
                else .error .invalidSubcommand
          else do
            match ← l.take arg with
            | some l => readLine environment args l
            | none => .error .invalidSubcommand

/-- Reads the arguments after the name of the program. The environment may name a configuration. -/
def read (environment : Option String) (args : List String) : Except Refusal Invocation :=
  readLine environment args ⟨.program, {}, .nothing⟩

end CommandLine
end RpcHost
