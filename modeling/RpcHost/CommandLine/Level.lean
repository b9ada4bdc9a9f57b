import RpcHost.CommandLine.Basic

/-!
# Options on one level

A command line has two levels: what stands before the command, and what stands after it. On each
level every option may be given once, but the debug option, which is counted. An option that still
waits for its value takes the next argument, whatever command that may name.
-/

namespace RpcHost
namespace CommandLine

open Files

/-- The options that a level has settled. -/
structure Given where
  debug : Option UInt8 := none
  config : Option Path := none
  serve : ServeOptions := {}
  manage : ConfigOptions := {}
  deriving DecidableEq, Repr, Inhabited

namespace Given

/-- An option that stands alone. -/
def switch (scope : Scope) (g : Given) : Flag → Except Refusal Given
  | .debug =>
      let count := g.debug.getD 0
      .ok { g with debug := some (if count = 255 then 255 else count + 1) }
  | .allowCors =>
      if g.serve.allowCors then .error .argumentConflict
      else .ok { g with serve := { g.serve with allowCors := true } }
  | .path =>
      if g.manage.path then .error .argumentConflict
      else .ok { g with manage := { g.manage with path := true } }
  | .init =>
      if g.manage.init then .error .argumentConflict
      else .ok { g with manage := { g.manage with init := true } }
  | .global =>
      if g.manage.global then .error .argumentConflict
      else .ok { g with manage := { g.manage with global := true } }
  | .force =>
      if g.manage.force then .error .argumentConflict
      else .ok { g with manage := { g.manage with force := true } }
  | .help => .error .help
  | .version => .error (.version scope.versionText)
  | .config | .listenAddress | .listenPort | .workers => .error .invalidValue

/-- An option with its value. That it was given before is found out before the value is read. -/
def value (g : Given) (v : String) : Flag → Except Refusal Given
  | .config =>
      if g.config.isSome then .error .argumentConflict
      else if v = "" then .error .invalidValue
      else .ok { g with config := some ⟨v⟩ }
  | .listenAddress =>
      if g.serve.listenAddress.isSome then .error .argumentConflict
      else .ok { g with serve := { g.serve with listenAddress := some v } }
  | .listenPort =>
      if g.serve.listenPort.isSome then .error .argumentConflict
      else
        match port? v with
        | some port => .ok { g with serve := { g.serve with listenPort := some port } }
        | none => .error .valueValidation
  | .workers =>
      if g.serve.workers.isSome then .error .argumentConflict
      else
        match word? v with
        | some workers => .ok { g with serve := { g.serve with workers := some workers } }
        | none => .error .valueValidation
  | _ => .error .tooManyValues

end Given

/-- The option whose value is not settled yet. -/
inductive Pending where
  | nothing
  | waiting (flag : Flag)
  | ready (flag : Flag) (value : String)
  deriving DecidableEq, Repr

structure Level where
  scope : Scope
  given : Given := {}
  pending : Pending := .nothing
  deriving DecidableEq, Repr

namespace Level

def isWaiting (l : Level) : Bool :=
  match l.pending with
  | .waiting _ => true
  | _ => false

/-- Settles the pending option. -/
def settle (l : Level) : Except Refusal Level :=
  match l.pending with
  | .nothing => .ok l
  | .waiting _ => .error .invalidValue
  | .ready flag v => return { l with given := ← l.given.value v flag, pending := .nothing }

def switch (flag : Flag) (l : Level) : Except Refusal Level := do
  let l ← l.settle
  return { l with given := ← l.given.switch l.scope flag }

def attach (flag : Flag) (v : String) (l : Level) : Except Refusal Level := do
  let l ← l.settle
  return { l with given := ← l.given.value v flag }

def await (flag : Flag) (l : Level) : Except Refusal Level := do
  let l ← l.settle
  return { l with pending := .waiting flag }

/-- A long option after its dashes, with the value that an equals sign attaches. -/
def takeLong (cs : List Char) (l : Level) : Except Refusal Level :=
  let name := cs.takeWhile (· ≠ '=')
  let attached := cs.drop (name.length + 1)
  match l.scope.ofLong? (String.ofList name) with
  | none => .error .unknownArgument
  | some flag =>
      if name.length = cs.length then
        if flag.takesValue then l.await flag else l.switch flag
      else if flag.takesValue then l.attach flag (String.ofList attached)
      else .error .tooManyValues

/-- Short options after their dash. One that takes a value takes all that follows it, less one
equals sign, and waits for the next argument if nothing follows. -/
def takeShort : List Char → Level → Except Refusal Level
  | [], l => .ok l
  | c :: rest, l =>
      match l.scope.ofShort? c with
      | none => .error .unknownArgument
      | some flag =>
          if flag.takesValue then
            match rest with
            | [] => l.await flag
            | '=' :: v => l.attach flag (String.ofList v)
            | v => l.attach flag (String.ofList v)
          else l.switch flag >>= takeShort rest

/-- One argument, unless it is neither an option nor a value that is waited for. A dash alone is no
option. -/
def take (arg : String) (l : Level) : Except Refusal (Option Level) :=
  match arg.toList, l.pending with
  | '-' :: '-' :: cs, _ => some <$> l.takeLong cs
  | '-' :: c :: cs, _ => some <$> l.takeShort (c :: cs)
  | _, .waiting flag => .ok (some { l with pending := .ready flag arg })
  | _, _ => .ok none

/-- What the level has settled in the end. Where it names no configuration, the one that the
environment names must not be empty. -/
def close (environment : Option String) (l : Level) : Except Refusal Given := do
  let l ← l.settle
  if l.given.config = none ∧ environment = some "" then .error .invalidValue
  else return l.given

end Level
end CommandLine
end RpcHost
