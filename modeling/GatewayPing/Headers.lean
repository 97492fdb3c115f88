/-! Header lists. Names are compared without regard to case; a name may occur several times. -/
namespace GatewayPing

/-- Names and values that are sent along with a call or an answer, in their order. The values of an
answer are taken to be text. -/
abbrev Headers := List (String × String)

namespace Headers

/-- A name in lower case, which is the form in which names are compared and sent. -/
def lower (name : String) : String := String.ofList (name.toList.map Char.toLower)

/-- The headers with all names in lower case. -/
def lowered (hs : Headers) : Headers := hs.map fun (name, value) => (lower name, value)

/-- The first value of a name. -/
def first? (hs : Headers) (name : String) : Option String :=
  (hs.find? (·.1 == name)).map (·.2)

/-- The headers without those of a name. -/
def without (hs : Headers) (name : String) : Headers := hs.filter (·.1 != name)

/-- Puts a value in place of all values of its name. -/
def put (hs : Headers) (name value : String) : Headers := hs.without name ++ [(name, value)]

/-- Adds headers that replace all earlier ones of their names. -/
def merge (hs later : Headers) : Headers :=
  hs.filter (fun h => later.all (·.1 != h.1)) ++ later

end Headers
end GatewayPing
