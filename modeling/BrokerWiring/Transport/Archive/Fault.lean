import BrokerWiring.Asn1.Identifier

/-!
# Faults of key archives

Why an archive does not open. Whatever is wrong inside, the archive as a whole is refused.
-/

namespace BrokerWiring.Archive

/-- Why an archive cannot be opened. -/
inductive Fault where
  | badEncoding
  | unsupported (id : Asn1.Identifier)
  | wrongPassword
  | unencodablePassword
  | badCertificate
  deriving Repr, DecidableEq

/-- The wording of a fault. -/
def Fault.message : Fault → String
  | .badEncoding => "malformed archive"
  | .unsupported id => "unsupported algorithm " ++ id.text
  | .wrongPassword => "wrong password"
  | .unencodablePassword => "the password has a character that archives cannot hold"
  | .badCertificate => "malformed certificate"

/-- What was found, else the fault of a bad encoding. -/
def found {α : Type} (result? : Option α) : Except Fault α :=
  match result? with
  | some a => .ok a
  | none => .error .badEncoding

end BrokerWiring.Archive
