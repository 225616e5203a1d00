import BrokerWiring.Component.Registry

/-!
# Definitions

What a caller declares up front: components of its own, listener endpoints, and whether listeners
are wanted. A component is declared by a constructor, which is a function of the registry as it
stands when its turn comes.

So a constructor looks at what is registered and changes nothing of it. An instance that is there
already could be changed through a reference to it, by more endpoints for an endpoint registry for
example; constructors that do so are left out, and no statement about resolutions covers them.
-/

namespace BrokerWiring

/-- Makes a component on top of what is registered so far. -/
abbrev Constructor := Registry → Except ConfigError Component

/-- A component that a caller declares. -/
structure Definition where
  name : String
  role : Role
  construct : Constructor
  /-- Whether the component was there before, and is not made when its turn comes. -/
  ready : Bool := false

/-- The definition of a component that is there already. -/
def Definition.ofComponent (name : String) (component : Component) : Definition :=
  { name, role := component.role, construct := fun _ => .ok component, ready := true }

/-- The component of a definition; it has to fill the role that was declared. -/
def Definition.build (definition : Definition) (registry : Registry) :
    Except ConfigError Component :=
  match definition.construct registry with
  | .error e => .error e
  | .ok component =>
    if component.role = definition.role then .ok component
    else
      .error (.roleMismatch definition.name definition.role.title component.role.title)

/-- Why there is support for listeners, or that there is none. -/
inductive ListenerSupport where
  /-- It was asked for. -/
  | requested
  /-- Nothing was said, but endpoints were declared. -/
  | detected
  /-- Nothing was said. -/
  | automatic
  | disabled
  deriving Repr, DecidableEq

namespace ListenerSupport

/-- The name of a kind of support in diagnostics. -/
def label : ListenerSupport → String
  | .requested => "Explicit"
  | .detected => "Detected"
  | .automatic => "Automatic"
  | .disabled => "Disabled"

/-- Whether listeners are supported. -/
def isActive : ListenerSupport → Bool
  | .disabled => false
  | _ => true

end ListenerSupport

/-- All that a caller declares. -/
structure Definitions where
  definitions : List Definition := []
  endpoints : List Endpoint := []
  /-- Whether listeners are wanted, once something is said about it. -/
  listeners? : Option Bool := none

/-- One thing that a caller declares. -/
inductive Declaration where
  | define (definition : Definition)
  /-- A component that is there already. -/
  | component (name : String) (component : Component)
  | endpoint (endpoint : Endpoint)
  | enableListeners
  | disableListeners

namespace Definitions

/-- Declares one thing more. -/
def declare (definitions : Definitions) : Declaration → Definitions
  | .define definition =>
    { definitions with definitions := definitions.definitions ++ [definition] }
  | .component name component =>
    { definitions with
      definitions := definitions.definitions ++ [.ofComponent name component] }
  | .endpoint endpoint => { definitions with endpoints := definitions.endpoints ++ [endpoint] }
  | .enableListeners => { definitions with listeners? := some true }
  | .disableListeners => { definitions with listeners? := some false }

/-- What comes of declarations one after another. -/
def ofDeclarations (declarations : List Declaration) : Definitions :=
  declarations.foldl declare {}

/-- The definitions of a role in the order of their declaration. -/
def ofRole (definitions : Definitions) (role : Role) : List Definition :=
  definitions.definitions.filter (·.role = role)

/-- Takes the definitions of a role out, in the order of their declaration, and leaves the
others. -/
def extract (definitions : Definitions) (role : Role) : List Definition × Definitions :=
  let (taken, kept) := definitions.definitions.partition (·.role = role)
  (taken, { definitions with definitions := kept })

/-- Whether a role is declared. -/
def declares (definitions : Definitions) (role : Role) : Bool :=
  definitions.definitions.any (·.role = role)

/-- The support for listeners. -/
def listenerSupport (definitions : Definitions) : ListenerSupport :=
  match definitions.listeners? with
  | some true => .requested
  | some false => .disabled
  | none => if definitions.endpoints.isEmpty then .automatic else .detected

end Definitions

end BrokerWiring
