/-!
# Log lines

A line of the log has a level, a target that names its source, and a text, which is its only field.
-/

namespace RpcHost
namespace Log

inductive Level where
  | error
  | warn
  | info
  | debug
  | trace
  deriving DecidableEq, Repr

/-- How far down a level is: the greater, the more is logged with it. -/
def Level.rank : Level → Nat
  | error => 1
  | warn => 2
  | info => 3
  | debug => 4
  | trace => 5

def Level.label : Level → String
  | error => "ERROR"
  | warn => "WARN"
  | info => "INFO"
  | debug => "DEBUG"
  | trace => "TRACE"

structure Line where
  level : Level
  target : String
  text : String
  deriving DecidableEq, Repr

/-- The names of the fields of a line. -/
def Line.fields (_ : Line) : List String := ["message"]

end Log
end RpcHost
