import GatewayPing.Program
import GatewayPing.Proofs.Text.Utf8

/-! The configuration in effect. A file that is asked for is the only one that is looked at; the file
of the user is taken if there is one, and the defaults otherwise. An address that is asked for takes
the place of the address of what was loaded, and of nothing else (`Program.InEffect`). This is the
configuration that the program finds, or it finds none (`Program.configuration_iff`). -/
namespace GatewayPing

open Text (Utf8.encode Utf8.decode_eq_ok_iff)

/-- A configuration is kept in a file: there is a text in the file, and this is read as the
configuration. -/
def Config.File.Holds (file : File) (c : Config) : Prop :=
  ∃ text, file = .contents (Utf8.encode text) ∧ Config.ofJson (Utf8.encode text) = .ok c

private theorem Except.mapError_eq_ok {ε ε' α : Type} {f : ε → ε'} {r : Except ε α} {a : α} :
    r.mapError f = .ok a ↔ r = .ok a := by
  cases r <;> constructor <;> rintro ⟨⟩ <;> rfl

namespace Config

variable {path : String} {file : File} {c : Config}

private theorem read_iff {bytes : Bytes} :
    file.read = .ok bytes ↔ ∃ text, file = .contents bytes ∧ bytes = Utf8.encode text := by
  constructor
  · intro read
    cases file with
    | contents raw =>
      cases decoded : Text.Utf8.decode raw with
      | error fault => simp [File.read, decoded] at read
      | ok text =>
        simp only [File.read, decoded, Except.ok.injEq] at read
        subst read
        exact ⟨text, rfl, Utf8.decode_eq_ok_iff.mp decoded⟩
    | _ => cases read
  · rintro ⟨text, rfl, rfl⟩
    simp only [File.read, Utf8.decode_eq_ok_iff.mpr rfl]

/-- Nothing else is loaded than what a file holds. -/
theorem load_iff : load path file = .ok c ↔ file.Holds c := by
  unfold load
  cases read : file.read with
  | error cause =>
    refine ⟨nofun, ?_⟩
    rintro ⟨text, whole, -⟩
    cases read.symm.trans (read_iff.mpr ⟨text, whole, rfl⟩)
  | ok bytes =>
    obtain ⟨text, rfl, rfl⟩ := read_iff.mp read
    rw [Except.mapError_eq_ok]
    refine ⟨fun loaded => ⟨text, rfl, loaded⟩, ?_⟩
    rintro ⟨text', same, loaded⟩
    rw [File.contents.inj same]
    exact loaded

private theorem loadIfPresent_iff :
    loadIfPresent path file = .ok c ↔
      file.present = true ∧ file.Holds c ∨ file.present = false ∧ c = default := by
  unfold loadIfPresent
  cases file.present with
  | true => simp [load_iff]
  | false => simp [eq_comm]

end Config

namespace Program

/-- The configuration that is loaded: that of the file that is asked for, if one is; else that of the
user, if there is one; else the default. -/
inductive Chosen (place : Surroundings) : Option String → Config → Prop where
  | asked {path : String} {c : Config} (held : (place.file path).Holds c) :
      Chosen place (some path) c
  | user {path : String} {c : Config} (kept : place.userConfig = some path)
      (present : (place.file path).present = true) (held : (place.file path).Holds c) :
      Chosen place none c
  | absent {path : String} (kept : place.userConfig = some path)
      (absent : (place.file path).present = false) : Chosen place none Config.default
  | homeless (nowhere : place.userConfig = none) : Chosen place none Config.default

/-- The configuration in effect: the one that is loaded, but for an address that is asked for. -/
def InEffect (place : Surroundings) (args : Arguments) (config : Config) : Prop :=
  ∃ base, Chosen place args.config base ∧
    config = { base with endpoint := args.url.getD base.endpoint }

variable {place : Surroundings} {args : Arguments} {config base : Config}

/-- What is loaded, before the address is looked at. -/
def loaded (place : Surroundings) (asked : Option String) : Except StartError Config :=
  match asked, place.userConfig with
  | some path, _ => (Config.load path (place.file path)).mapError .config
  | none, some path => (Config.loadIfPresent path (place.file path)).mapError .userConfig
  | none, none => .ok Config.default

private theorem configuration_eq (place : Surroundings) (args : Arguments) :
    configuration place args =
      (loaded place args.config).map fun base =>
        { base with endpoint := args.url.getD base.endpoint } := by
  simp only [configuration, loaded]
  cases args.config with
  | some path => cases (Config.load path (place.file path)).mapError StartError.config <;> rfl
  | none =>
    cases place.userConfig with
    | some path =>
      cases (Config.loadIfPresent path (place.file path)).mapError StartError.userConfig <;> rfl
    | none => rfl

private theorem loaded_iff {asked : Option String} :
    loaded place asked = .ok base ↔ Chosen place asked base := by
  unfold loaded
  cases asked with
  | some path =>
    rw [Except.mapError_eq_ok, Config.load_iff]
    refine ⟨.asked, ?_⟩
    rintro ⟨held⟩
    exact held
  | none =>
    cases kept : place.userConfig with
    | none =>
      constructor
      · rintro ⟨⟩
        exact .homeless kept
      · intro chosen
        cases chosen with
        | homeless => rfl
        | user same => cases kept.symm.trans same
        | absent same => cases kept.symm.trans same
    | some path =>
      rw [Except.mapError_eq_ok, Config.loadIfPresent_iff]
      constructor
      · rintro (⟨present, held⟩ | ⟨absent, rfl⟩)
        · exact .user kept present held
        · exact .absent kept absent
      · intro chosen
        cases chosen with
        | user same present held =>
          cases kept.symm.trans same
          exact .inl ⟨present, held⟩
        | absent same absent =>
          cases kept.symm.trans same
          exact .inr ⟨absent, rfl⟩
        | homeless nowhere => cases kept.symm.trans nowhere

/-- The program finds the configuration that is in effect, or none. -/
theorem configuration_iff : configuration place args = .ok config ↔ InEffect place args config := by
  rw [configuration_eq, InEffect]
  cases read : loaded place args.config with
  | error e =>
    refine ⟨nofun, ?_⟩
    rintro ⟨base, chosen, -⟩
    cases read.symm.trans (loaded_iff.mpr chosen)
  | ok base =>
    constructor
    · rintro ⟨⟩
      exact ⟨base, loaded_iff.mp read, rfl⟩
    · rintro ⟨base', chosen, rfl⟩
      cases read.symm.trans (loaded_iff.mpr chosen)
      rfl

/-- An address is not looked at where no configuration was loaded. -/
theorem configuration_error {e : StartError}
    (failed : configuration place { args with url := none } = .error e) (url : Option String) :
    configuration place { args with url } = .error e := by
  rw [configuration_eq] at failed ⊢
  cases read : loaded place args.config with
  | error e' =>
    rw [read] at failed
    cases failed
    rfl
  | ok base =>
    rw [read] at failed
    cases failed

/-- If a file is asked for, nothing else is looked at. -/
theorem configuration_asked {path : String} (asked : args.config = some path)
    {other : Surroundings} (same : other.file path = place.file path) :
    configuration other args = configuration place args := by
  simp only [configuration, asked, same]

end Program
end GatewayPing
