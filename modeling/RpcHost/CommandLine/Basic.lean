import RpcHost.Config.Basic
import RpcHost.Files.Path
import RpcHost.Product

/-!
# Command lines

What a command line can ask for, the options that spell it, and the ways in which a command line is
refused. Some options belong to one command, others may stand before or after it.
-/

namespace RpcHost
namespace CommandLine

open Files

/-! ## What is asked for -/

/-- Values that go over those of the configuration. -/
structure ServeOptions where
  listenAddress : Option String := none
  listenPort : Option UInt16 := none
  workers : Option UInt64 := none
  allowCors : Bool := false
  deriving DecidableEq, Repr, Inhabited

structure ConfigOptions where
  path : Bool := false
  init : Bool := false
  global : Bool := false
  force : Bool := false
  deriving DecidableEq, Repr, Inhabited

inductive Command where
  | serve (options : ServeOptions)
  | config (options : ConfigOptions)
  deriving DecidableEq, Repr

/-- A whole command line. -/
structure Invocation where
  debug : UInt8
  config : Option Path
  command : Command
  deriving DecidableEq, Repr

/-! ## Options -/

/-- The program itself or one of its commands. -/
inductive Scope where
  | program
  | serve
  | config
  deriving DecidableEq, Repr

inductive Flag where
  | debug
  | config
  | listenAddress
  | listenPort
  | workers
  | allowCors
  | path
  | init
  | global
  | force
  | help
  | version
  deriving DecidableEq, Repr

namespace Flag

def long : Flag → String
  | debug => "debug"
  | config => "config"
  | listenAddress => "listen-address"
  | listenPort => "listen-port"
  | workers => "workers"
  | allowCors => "allow-cors"
  | path => "path"
  | init => "init"
  | global => "global"
  | force => "force"
  | help => "help"
  | version => "version"

def short? : Flag → Option Char
  | debug => some 'D'
  | config => some 'c'
  | listenPort => some 'l'
  | workers => some 'w'
  | global => some 'g'
  | force => some 'f'
  | help => some 'h'
  | version => some 'V'
  | _ => none

def takesValue : Flag → Bool
  | config | listenAddress | listenPort | workers => true
  | _ => false

end Flag

namespace Scope

/-- The options that may stand anywhere. -/
def shared : List Flag := [.debug, .config, .help, .version]

def flags : Scope → List Flag
  | program => shared
  | serve => [.listenAddress, .listenPort, .workers, .allowCors] ++ shared
  | config => [.path, .init, .global, .force] ++ shared

def ofLong? (scope : Scope) (name : String) : Option Flag :=
  scope.flags.find? (·.long = name)

def ofShort? (scope : Scope) (c : Char) : Option Flag :=
  scope.flags.find? (·.short? = some c)

/-- The name and version that this part of the program shows. -/
def versionText (scope : Scope) : String :=
  let command := match scope with
    | program => ""
    | serve => "-serve"
    | config => "-config"
  Product.name ++ command ++ " " ++ Product.version ++ "\n"

end Scope

/-! ## Refusals -/

/-- Why a command line is not carried out. -/
inductive Refusal where
  | unknownArgument
  | invalidSubcommand
  | missingSubcommand
  | invalidValue
  | valueValidation
  | argumentConflict
  | tooManyValues
  | help
  | helpForNothing
  | version (text : String)
  deriving DecidableEq, Repr

/-- Help and version are what somebody asked for. -/
def Refusal.isAnswer : Refusal → Bool
  | help | version _ => true
  | _ => false

/-! ## Numbers -/

def decimal? (cs : List Char) : Option Nat :=
  if cs = [] || !cs.all Net.isAsciiDigit then none
  else some (cs.foldl (fun n c => 10 * n + (c.toNat - '0'.toNat)) 0)

/-- A natural number, which a plus sign may precede. -/
def unsigned? : List Char → Option Nat
  | '+' :: cs => decimal? cs
  | cs => decimal? cs

def port? (s : String) : Option UInt16 := do
  let n ← match s.toList with
    | '-' :: cs => (decimal? cs).filter (· = 0)
    | cs => unsigned? cs
  if n < 0x10000 then some (UInt16.ofNat n) else none

def word? (s : String) : Option UInt64 := do
  let n ← unsigned? s.toList
  if n < 0x10000000000000000 then some (UInt64.ofNat n) else none

end CommandLine
end RpcHost
