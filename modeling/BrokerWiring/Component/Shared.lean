import BrokerWiring.Component.Role

/-!
# Shared instances

Components refer to one another, and two components with equal content are still two. So every
instance carries an identity, and "the very same instance" means equal identities. Whoever makes an
instance chooses its identity: the caller numbers its own, the wiring uses the role.

The content of an instance is kept in every place that refers to it, such as each entry of a
registry. Nothing ties the places together, so what changes an instance has to change all of them,
which it tells by the identity.
-/

namespace BrokerWiring

/-- What tells an instance from all others. -/
inductive Identity where
  /-- An instance that the caller made. -/
  | given (number : Nat)
  /-- The standard component of a role. -/
  | standard (role : Role)
  /-- An instance that the standard component of a role brings along for itself. -/
  | companion (role : Role)
  deriving Repr, DecidableEq

/-- An instance. -/
structure Shared (α : Type) where
  id : Identity
  value : α
  deriving Repr

end BrokerWiring
