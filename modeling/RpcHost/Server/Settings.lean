import RpcHost.Net.Endpoint

/-!
# Server settings

What a server has to know before it starts. The settings stay as they are from then on.
-/

namespace RpcHost
namespace Server

structure Settings where
  address : String := "127.0.0.1"
  port : UInt16 := 10081
  workerCount : UInt64 := 1
  allowCors : Bool := false
  /-- How long a client may take for the head of a request, and again for its body. -/
  readTimeoutMillis : Nat := 10000
  /-- The greatest size of a request body. -/
  maxBodyBytes : UInt64 := 1048576
  deriving DecidableEq, Repr, Inhabited

def Settings.bindAddress (s : Settings) : String :=
  Net.endpoint s.address s.port

end Server
end RpcHost
