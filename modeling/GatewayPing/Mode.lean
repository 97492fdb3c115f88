/-! The two wire encodings. A mode decides the bytes on the wire and nothing else. -/
namespace GatewayPing

/-- How messages are written on the wire: as JSON text or as Protocol Buffers. -/
inductive Mode where
  | text
  | binary
  deriving DecidableEq, Repr, Inhabited

namespace Mode

/-- The name that selects a mode. -/
def name : Mode → String
  | .text => "text"
  | .binary => "binary"

/-- The mode of a name; names are exact. -/
def ofName? (s : String) : Option Mode :=
  if s = "text" then some .text else if s = "binary" then some .binary else none

/-- What is said of a name that selects no mode. -/
def unknownMessage (s : String) : String :=
  s!"Unknown encoding mode '{s}'. Expected 'text' or 'binary'"

@[simp] theorem ofName?_name (m : Mode) : ofName? m.name = some m := by
  cases m <;> simp [ofName?, name]

/-- A name selects a mode exactly when it is that mode's name. -/
theorem ofName?_eq_some_iff {s : String} {m : Mode} : ofName? s = some m ↔ s = m.name := by
  constructor
  · intro h
    unfold ofName? at h
    split at h
    · cases h; assumption
    · split at h
      · cases h; assumption
      · cases h
  · rintro rfl
    exact ofName?_name m

end Mode
end GatewayPing
