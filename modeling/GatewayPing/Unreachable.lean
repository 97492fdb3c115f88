import GatewayPing.Endpoint
import GatewayPing.Service

/-! A network in which no gateway answers. It is ready for requests, and every request fails: as no
connection is made, or, where the address names no scheme or no authority, as there is nowhere to
send it. -/
namespace GatewayPing

/-- An address at which nothing answers. -/
structure Unreachable where
  endpoint : Endpoint
  deriving DecidableEq, Repr

/-- The failure of a request. -/
def Unreachable.failure (u : Unreachable) : Status :=
  match u.endpoint with
  | .socket _ => ⟨.unavailable, "No such file or directory (os error 2)"⟩
  | .network (some _) (some _) => ⟨.unavailable, "tcp connect error"⟩
  | .network _ _ => ⟨.unknown, "transport error"⟩

instance : Service Unreachable where
  fault _ := none
  call u _ := (.now (.error u.failure), u)

end GatewayPing
