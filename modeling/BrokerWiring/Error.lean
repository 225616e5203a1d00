/-!
# Errors of the configuration

Everything that stops the wiring before a registry exists. An error keeps its cause; `message` is
its wording.
-/

namespace BrokerWiring

/-- Why properties could not be read or bound, or components not be wired. -/
inductive ConfigError where
  /-- Nothing in the registry answers to the name or the role that was asked for. -/
  | noSuchComponent (wanted : String)
  /-- A property, or an entry that should have been one, has a value that does not fit. -/
  | invalidValue (key value reason : String)
  /-- A key or trust store of the secure transport cannot be used. -/
  | storeUnusable (path reason : String)
  /-- A component's name is in use. -/
  | duplicateName (name : String)
  /-- A definition's constructor made a component of another role. -/
  | roleMismatch (name expected actual : String)
  /-- A source of properties cannot be read. -/
  | source (reason : String)
  deriving Repr, DecidableEq

namespace ConfigError

/-- The wording of an error. -/
def message : ConfigError → String
  | .noSuchComponent wanted => s!"No qualifying component for {wanted} is defined"
  | .invalidValue key value reason =>
    s!"Bad configuration value for '{key}': '{value}' ({reason})"
  | .storeUnusable path reason =>
    s!"Failed to initialize secure transport: resource '{path}' {reason}"
  | .duplicateName name =>
    s!"Component name '{name}' is already taken by an explicit definition"
  | .roleMismatch name expected actual =>
    s!"Definition '{name}' was declared as {expected} but produced {actual}"
  | .source reason => s!"Configuration source error: {reason}"

end ConfigError

end BrokerWiring
