/-!
# Statuses of replies
-/

namespace RpcHost
namespace Http

inductive Status where
  | ok
  | badRequest
  | notFound
  | requestTimeout
  | payloadTooLarge
  | uriTooLong
  | headTooLarge
  | serverError
  deriving DecidableEq, Repr

namespace Status

def code : Status → Nat
  | .ok => 200
  | .badRequest => 400
  | .notFound => 404
  | .requestTimeout => 408
  | .payloadTooLarge => 413
  | .uriTooLong => 414
  | .headTooLarge => 431
  | .serverError => 500

def reason : Status → String
  | .ok => "OK"
  | .badRequest => "Bad Request"
  | .notFound => "Not Found"
  | .requestTimeout => "Request Timeout"
  | .payloadTooLarge => "Payload Too Large"
  | .uriTooLong => "URI Too Long"
  | .headTooLarge => "Request Header Fields Too Large"
  | .serverError => "Internal Server Error"

/-- The status with the greater code; of two equal ones the first. -/
def worse (a b : Status) : Status :=
  if a.code < b.code then b else a

@[simp] theorem code_worse (a b : Status) : (worse a b).code = max a.code b.code := by
  unfold worse
  split <;> omega

end Status
end Http
end RpcHost
