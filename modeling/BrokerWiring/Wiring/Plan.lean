import BrokerWiring.Wiring.Definitions

/-!
# Plans

What a wiring will do, before it does any of it. Role after role, a round takes the definitions of
its role out of those that are left: they are its steps if there are any, otherwise the standard
component is. Without dynamic topology there is no admin, not even a declared one; without support
for listeners their roles get nothing of the standard; and there is no standard converter.
-/

namespace BrokerWiring

/-- A step of a wiring. -/
inductive Step where
  /-- Runs the constructor of a definition and registers its component. -/
  | declared (definition : Definition)
  /-- Registers the standard component of a role. -/
  | standard (role : Role)
  /-- Passes over the declared admins. -/
  | withhold (count : Nat)

/-- Whether there is a standard component for a role. -/
def Role.hasStandard (role : Role) : Bool := role != .messageConverter

namespace Plan

/-- The steps for one role with the definitions of it. -/
def round (dynamic listening : Bool) (role : Role) (declared : List Definition) : List Step :=
  if role = .admin ∧ dynamic = false then [.withhold declared.length]
  else if declared ≠ [] then declared.map .declared
  else if role.servesListeners ∧ ¬listening then []
  else if role.hasStandard then [.standard role]
  else []

/-- The steps for roles one after another, each with the definitions that the rounds before it
left. -/
def rounds (dynamic listening : Bool) : List Role → Definitions → List Step
  | [], _ => []
  | role :: rest, definitions =>
    let (declared, left) := definitions.extract role
    round dynamic listening role declared ++ rounds dynamic listening rest left

/-- The steps for all roles. -/
def steps (dynamic : Bool) (definitions : Definitions) : List Step :=
  rounds dynamic definitions.listenerSupport.isActive Role.order definitions

end Plan

end BrokerWiring
