import BrokerWiring.Keyed
import BrokerWiring.Transport.Archive.Bag

/-!
# Key archives

A PKCS#12 archive holds private keys and certificates in bags, under a password. Opening it checks
the stamp, deciphers what is enciphered, and pairs each key with the certificate of the same local
id; a key without a certificate does not count. The entries of an archive go by names, and two
entries cannot share one: a later key takes the place of an earlier one, and a certificate that is
trusted on its own takes the place of any key. Of the keys that stay, the first by name is the key
of the archive.
-/

namespace BrokerWiring

/-- A private key of an archive: the name under which it stands, and the subject of its
certificate. -/
structure KeyEntry where
  label : String
  subject? : Option String
  deriving Repr, DecidableEq

namespace Archive

open Asn1

/-- All bags of an archive. -/
def bags (bytes : List UInt8) (password : String) : Except Fault (List Bag) := do
  let archive ← found (whole sequenceTag bytes)
  let (_, rest) ← found (expectInteger 3 3 archive)
  let (outer, rest) ← found (expect sequenceTag rest)
  let content ← contentOf outer
  if content.kind ≠ dataId then .error (.unsupported content.kind)
  else
    let inside ← found (content.value.contentOf? octetStringTag)
    if !rest.isEmpty then checkStamp password inside (← found (whole sequenceTag rest))
    let list ← found (whole sequenceTag inside)
    let contents ← found (childrenOf sequenceTag list)
    return (← contents.mapM (contentBags password)).flatten

/-! ## Entries -/

/-- What stands under a name. -/
inductive Entry where
  | key (subject : String)
  | certificate
  deriving Repr, DecidableEq

/-- The first certificate that has a local id. -/
def subjectOf? (bags : List Bag) (id : List UInt8) : Option Name :=
  bags.findSome? fun bag =>
    match bag with
    | .certificate tags subject => if tags.localId? = some id then some subject else none
    | .key _ => none

/-- The entry of the key in a bag, if a certificate belongs to it. Without a name of its own it goes
by the subject of the certificate. -/
def entryOfKey? (bags : List Bag) : Bag → Option (String × Entry)
  | .key tags => do
    let subject ← subjectOf? bags (← tags.localId?)
    return (tags.friendlyName?.getD subject.text, .key subject.text)
  | .certificate .. => none

/-- The entry of the certificate in a bag, if it is trusted on its own. -/
def entryOfTrusted? : Bag → Option (String × Entry)
  | .certificate tags subject =>
    if tags.isTrusted then some (tags.friendlyName?.getD subject.text, .certificate) else none
  | .key _ => none

/-- The entries of an archive by name. -/
def entries (bags : List Bag) : List (String × Entry) :=
  Keyed.insertAll (bags.filterMap (entryOfKey? bags) ++ bags.filterMap entryOfTrusted?) []

/-- The entries are in the order of their names. -/
theorem ordered_entries (bags : List Bag) : Keyed.Ordered (entries bags) :=
  Keyed.ordered_insertAll _ Keyed.ordered_nil

/-- The first key among entries. -/
def firstKey? (entries : List (String × Entry)) : Option KeyEntry :=
  entries.findSome? fun (name, entry) =>
    match entry with
    | .key subject => some ⟨name, some subject⟩
    | .certificate => none

/-- The key of an archive, if it has one. -/
def key? (bytes : List UInt8) (password : String) : Except Fault (Option KeyEntry) :=
  (bags bytes password).map fun held => firstKey? (entries held)

end Archive

end BrokerWiring
