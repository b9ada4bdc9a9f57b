import Mathlib.Data.List.Forall2
import RpcHost.CommandLine.Basic

/-!
# Spellings of options

What a command line says, as a list of settings, and the arguments that say it. A value is attached
with an equals sign, or it is the next argument, unless it would look like an option there. Several
short options may share one dash, and the last of them may take a value.
-/

namespace RpcHost
namespace CommandLine

open Files

/-! ## Settings -/

/-- An option with its value. -/
inductive Setting where
  | debug
  | config (path : Path)
  | listenAddress (address : String)
  | listenPort (port : UInt16)
  | workers (count : UInt64)
  | allowCors
  | path
  | init
  | global
  | force
  deriving DecidableEq, Repr

def Setting.flag : Setting → Flag
  | debug => .debug
  | config _ => .config
  | listenAddress _ => .listenAddress
  | listenPort _ => .listenPort
  | workers _ => .workers
  | allowCors => .allowCors
  | path => .path
  | init => .init
  | global => .global
  | force => .force

def ServeOptions.settings (o : ServeOptions) : List Setting :=
  o.listenAddress.toList.map .listenAddress ++ o.listenPort.toList.map .listenPort
    ++ o.workers.toList.map .workers ++ if o.allowCors then [.allowCors] else []

def ConfigOptions.settings (o : ConfigOptions) : List Setting :=
  (if o.path then [.path] else []) ++ (if o.init then [.init] else [])
    ++ (if o.global then [.global] else []) ++ if o.force then [.force] else []

namespace Command

def name : Command → String
  | serve _ => "serve"
  | config _ => "config"

def scope : Command → Scope
  | serve _ => .serve
  | config _ => .config

def settings : Command → List Setting
  | serve options => options.settings
  | config options => options.settings

end Command

/-- The options of one side of the command that belong to none: the debug option so many times, and
the configuration. Either may stand on the other side. -/
def sharedSettings (n : Nat) (config : Option Path) (debugHere configHere : Bool) : List Setting :=
  (if debugHere then List.replicate n .debug else [])
    ++ if configHere then config.toList.map .config else []

/-! ## Texts of values -/

/-- The decimal digits, after zeros and a plus sign if one likes. -/
inductive Numeral (n : Nat) : List Char → Prop where
  | plain (zeros : Nat) : Numeral n (List.replicate zeros '0' ++ Nat.toDigits 10 n)
  | plus (zeros : Nat) : Numeral n ('+' :: (List.replicate zeros '0' ++ Nat.toDigits 10 n))

inductive ValueText : Setting → String → Prop where
  | config {v : String} (hv : v ≠ "") : ValueText (.config ⟨v⟩) v
  | listenAddress (v : String) : ValueText (.listenAddress v) v
  | listenPort {port : UInt16} {v : String} (hv : Numeral port.toNat v.toList) :
      ValueText (.listenPort port) v
  | workers {count : UInt64} {v : String} (hv : Numeral count.toNat v.toList) :
      ValueText (.workers count) v

/-! ## Arguments -/

/-- Settings without a value, and their letters. -/
def Letters (settings : List Setting) (letters : List Char) : Prop :=
  List.Forall₂ (fun s c => s.flag.takesValue = false ∧ s.flag.short? = some c) settings letters

/-- Arguments that belong together: an option with its value, or all that shares one dash. -/
inductive Group : List Setting → List String → Prop where
  | switch {s : Setting} (hs : s.flag.takesValue = false) : Group [s] ["--" ++ s.flag.long]
  | attached {s : Setting} {v : String} (hv : ValueText s v) :
      Group [s] ["--" ++ s.flag.long ++ "=" ++ v]
  | separate {s : Setting} {v : String} (hv : ValueText s v) (hdash : v.toList.head? ≠ some '-') :
      Group [s] ["--" ++ s.flag.long, v]
  | letters {switches : List Setting} {letters : List Char} (hne : letters ≠ [])
      (hletters : Letters switches letters) : Group switches [String.ofList ('-' :: letters)]
  | lettersAttached {switches : List Setting} {letters : List Char} {s : Setting} {c : Char}
      {v : String} (hletters : Letters switches letters) (hc : s.flag.short? = some c)
      (hv : ValueText s v) :
      Group (switches ++ [s]) [String.ofList ('-' :: (letters ++ c :: '=' :: v.toList))]
  | lettersSeparate {switches : List Setting} {letters : List Char} {s : Setting} {c : Char}
      {v : String} (hletters : Letters switches letters) (hc : s.flag.short? = some c)
      (hv : ValueText s v) (hdash : v.toList.head? ≠ some '-') :
      Group (switches ++ [s]) [String.ofList ('-' :: (letters ++ [c])), v]

/-- The arguments say the settings, in their order. -/
inductive Spells : List Setting → List String → Prop where
  | nil : Spells [] []
  | cons {settings more : List Setting} {args rest : List String} (hgroup : Group settings args)
      (hmore : Spells more rest) : Spells (settings ++ more) (args ++ rest)

end CommandLine
end RpcHost
