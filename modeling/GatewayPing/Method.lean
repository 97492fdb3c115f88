/-! The methods of the gateway. -/
namespace GatewayPing

/-- The methods that answer a single call. -/
inductive Method where
  | aPing
  | aPost
  | extraPing
  | extraPost
  deriving DecidableEq, Repr, Inhabited

namespace Method

/-- The path of a method. -/
def path : Method → String
  | .aPing => "/v2.ServiceA/Ping"
  | .aPost => "/v2.ServiceA/Post"
  | .extraPing => "/v2.ServiceExtra/Ping"
  | .extraPost => "/v2.ServiceExtra/Post"

/-- The name that selects a method. -/
def name : Method → String
  | .aPing => "a-ping"
  | .aPost => "a-post"
  | .extraPing => "extra-ping"
  | .extraPost => "extra-post"

/-- All methods. -/
def all : List Method := [.aPing, .aPost, .extraPing, .extraPost]

/-- The method of a name; names are exact. -/
def ofName? (s : String) : Option Method := all.find? (·.name == s)

@[simp] theorem ofName?_name (m : Method) : ofName? m.name = some m := by cases m <;> decide

/-- A name selects a method exactly when it is that method's name. -/
theorem ofName?_eq_some_iff {s : String} {m : Method} : ofName? s = some m ↔ s = m.name := by
  constructor
  · intro found
    have named := List.find?_some found
    exact (beq_iff_eq.mp named).symm
  · rintro rfl
    exact ofName?_name m

end Method

/-- The path of the one method that answers with a stream. -/
def streamingPath : String := "/v2.ServiceExtra/StreamingPing"

end GatewayPing
