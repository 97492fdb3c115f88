/-! What the program takes from the environment variables: whether to print in colours, and where
the user keeps a configuration. -/
namespace GatewayPing

/-- The values of environment variables. -/
abbrev Environment := String → Option String

namespace Environment

/-- Whether to print in colours. The user can force colours or forbid them; otherwise a terminal
gets them. -/
def colour (vars : Environment) (terminal : Bool) : Bool :=
  if (vars "CLICOLOR_FORCE").any (· != "0") then true
  else if (vars "NO_COLOR").isSome then false
  else (vars "CLICOLOR").all (· != "0") && terminal

/-- The directory in which the user keeps configurations. One that is named has to be named in
full. -/
def configHome? (vars : Environment) : Option String :=
  match vars "XDG_CONFIG_HOME" with
  | some directory => if directory.startsWith "/" then some directory else fromHome
  | none => fromHome
where
  fromHome : Option String :=
    (vars "HOME").bind fun home => if home.isEmpty then none else some (home ++ "/.config")

/-- The path at which the user keeps a configuration of the program. -/
def userConfig? (vars : Environment) : Option String :=
  vars.configHome?.map (· ++ "/pingweb/config.json")

end Environment
end GatewayPing
