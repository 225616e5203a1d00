import BrokerWiring.Proofs.Outcome
import BrokerWiring.Proofs.Text.Decoding
import BrokerWiring.Transport.Stores

/-!
# What stores hold, and what may be wrong with them

What a store has to hold is said without the steps that open it (`HoldsKey`, `HoldsAnchors`), and so
is everything that may be wrong with it (`KeyFault`, `AnchorFault`). Opening a store succeeds just
with what it holds (`openKey_eq_ok_iff`, `openTrust_eq_ok_iff`), and it fails just with what is
wrong (`openKey_eq_error_iff`, `openTrust_eq_error_iff`).
-/

namespace BrokerWiring

open Outcome

namespace Store

variable (formats : StoreFormats) (files : Files)

/-! ## What a store has to hold -/

/-- A key store holds a client identity: an archive that opens with the password, and in it a key
with a certificate. -/
inductive HoldsKey (path password : String) : ClientIdentity → Prop
  | intro {archive : List UInt8} {label subject : String}
      (hread : files.readBytes path = .ok archive)
      (hopen : formats.openArchive archive password = .ok (some ⟨label, some subject⟩)) :
      HoldsKey path password ⟨archive, password, subject⟩

/-- A trust store holds anchors: it is a text and a bundle of certificates, at least one, and each
of them may serve as an anchor. -/
inductive HoldsAnchors (path : String) : OpenedTrust → Prop
  | intro {text : String} {certificates : List (List UInt8)}
      (hread : files.readBytes path = .ok (Utf8.encodeText text))
      (hbundle : formats.readBundle (Utf8.encodeText text) = .ok certificates)
      (filled : certificates ≠ [])
      (accepted : ∀ certificate ∈ certificates, formats.checkAnchor certificate = .ok ()) :
      HoldsAnchors path ⟨certificates.length, text⟩

/-! ## What may be wrong with a store -/

/-- Why a store cannot be read. -/
inductive ReadFault (path : String) : String → Prop
  | missing (hread : files.readBytes path = .error .notFound) : ReadFault path "does not exist"
  | barred {failure : ReadFailure} (hread : files.readBytes path = .error failure)
      (present : failure ≠ .notFound) :
      ReadFault path s!"could not be opened: {failure.message}"

/-- Why a key store holds no identity. -/
inductive KeyFault (path password : String) : String → Prop
  | unread {reason : String} (h : ReadFault files path reason) : KeyFault path password reason
  | sealed {archive : List UInt8} {reason : String} (hread : files.readBytes path = .ok archive)
      (hopen : formats.openArchive archive password = .error reason) :
      KeyFault path password
        s!"could not be opened as PKCS#12 with the given password: {reason}"
  | keyless {archive : List UInt8} (hread : files.readBytes path = .ok archive)
      (hopen : formats.openArchive archive password = .ok none) :
      KeyFault path password "contains no private key"
  | uncertified {archive : List UInt8} {label : String} (hread : files.readBytes path = .ok archive)
      (hopen : formats.openArchive archive password = .ok (some ⟨label, none⟩)) :
      KeyFault path password s!"has no certificate for key '{label}'"

/-- Why a trust store holds no anchors. Of several certificates that are refused the first is named,
and that a store is no text shows only when all else is in order. -/
inductive AnchorFault (path : String) : String → Prop
  | unread {reason : String} (h : ReadFault files path reason) : AnchorFault path reason
  | garbled {bytes : List UInt8} {reason : String} (hread : files.readBytes path = .ok bytes)
      (hbundle : formats.readBundle bytes = .error reason) :
      AnchorFault path s!"is not a valid PEM bundle: {reason}"
  | bare {bytes : List UInt8} (hread : files.readBytes path = .ok bytes)
      (hbundle : formats.readBundle bytes = .ok []) :
      AnchorFault path "contains no certificates"
  | refused {bytes : List UInt8} {before after : List (List UInt8)} {certificate : List UInt8}
      {reason : String} (hread : files.readBytes path = .ok bytes)
      (hbundle : formats.readBundle bytes = .ok (before ++ certificate :: after))
      (accepted : ∀ earlier ∈ before, formats.checkAnchor earlier = .ok ())
      (hcheck : formats.checkAnchor certificate = .error reason) :
      AnchorFault path s!"contains an unusable certificate: {reason}"
  | notText {bytes : List UInt8} {certificates : List (List UInt8)} {fault : Utf8.Fault}
      (hread : files.readBytes path = .ok bytes)
      (hbundle : formats.readBundle bytes = .ok certificates) (filled : certificates ≠ [])
      (accepted : ∀ certificate ∈ certificates, formats.checkAnchor certificate = .ok ())
      (hdecode : Utf8.decodeText bytes = .error fault) :
      AnchorFault path s!"is not UTF-8: {fault.message}"

/-! ## Opening a store -/

variable {formats : StoreFormats} {files other : Files} {path : String} {error : ConfigError}

theorem readBytes_eq_ok_iff {bytes : List UInt8} :
    readBytes files path = .ok bytes ↔ files.readBytes path = .ok bytes := by
  unfold readBytes
  split <;> simp_all

theorem readBytes_eq_error_iff : readBytes files path = .error error ↔
    ∃ reason, ReadFault files path reason ∧ error = .storeUnusable path reason := by
  constructor
  · intro h
    unfold readBytes at h
    split at h
    · cases h
    · rename_i hread
      exact ⟨_, .missing hread, (Except.error.inj h).symm⟩
    · rename_i failure present hread
      exact ⟨_, .barred hread present, (Except.error.inj h).symm⟩
  · rintro ⟨reason, fault, rfl⟩
    unfold readBytes
    cases fault with
    | missing hread => rw [hread]
    | barred hread present =>
      rw [hread]
      split <;> simp_all

theorem openKey_eq_ok_iff {password? : Option String} {opened : ClientIdentity} :
    (∃ label, openKey formats files path password? = .ok ⟨label, opened⟩) ↔
      HoldsKey formats files path (password?.getD "") opened := by
  constructor
  · rintro ⟨label, h⟩
    dsimp only [openKey] at h
    split at h
    · cases h
    · rename_i archive hread
      split at h
      · cases h
      · cases h
      · cases h
      · rename_i hopen
        cases h
        exact .intro (readBytes_eq_ok_iff.mp hread) hopen
  · intro h
    cases h with
    | @intro archive label subject hread hopen =>
      exact ⟨label, by simp only [openKey, readBytes_eq_ok_iff.mpr hread, hopen]⟩

/-- Whatever ends the opening of a key store is wrong with the store. -/
theorem exists_keyFault_of_error {password? : Option String}
    (h : openKey formats files path password? = .error error) :
    ∃ reason, KeyFault formats files path (password?.getD "") reason ∧
      error = .storeUnusable path reason := by
  dsimp only [openKey] at h
  split at h
  · rename_i unread
    cases h
    obtain ⟨reason, fault, rfl⟩ := readBytes_eq_error_iff.mp unread
    exact ⟨reason, .unread fault, rfl⟩
  · rename_i archive hread
    have hread := readBytes_eq_ok_iff.mp hread
    split at h
    · rename_i hopen
      exact ⟨_, .sealed hread hopen, (Except.error.inj h).symm⟩
    · rename_i hopen
      exact ⟨_, .keyless hread hopen, (Except.error.inj h).symm⟩
    · rename_i hopen
      exact ⟨_, .uncertified hread hopen, (Except.error.inj h).symm⟩
    · cases h

theorem openKey_of_keyFault {password? : Option String} {reason : String}
    (fault : KeyFault formats files path (password?.getD "") reason) :
    openKey formats files path password? = .error (.storeUnusable path reason) := by
  cases fault with
  | unread fault => simp only [openKey, readBytes_eq_error_iff.mpr ⟨_, fault, rfl⟩]
  | sealed hread hopen => simp only [openKey, readBytes_eq_ok_iff.mpr hread, hopen]
  | keyless hread hopen => simp only [openKey, readBytes_eq_ok_iff.mpr hread, hopen]
  | uncertified hread hopen => simp only [openKey, readBytes_eq_ok_iff.mpr hread, hopen]

theorem openKey_eq_error_iff {password? : Option String} :
    openKey formats files path password? = .error error ↔
      ∃ reason, KeyFault formats files path (password?.getD "") reason ∧
        error = .storeUnusable path reason := by
  refine ⟨exists_keyFault_of_error, ?_⟩
  rintro ⟨reason, fault, rfl⟩
  exact openKey_of_keyFault fault

/-- All certificates are counted if all may serve as anchors. -/
theorem countAnchors_eq_ok_iff {certificates : List (List UInt8)} {anchors : Nat} :
    countAnchors formats certificates = .ok anchors ↔
      (∀ certificate ∈ certificates, formats.checkAnchor certificate = .ok ()) ∧
        anchors = certificates.length := by
  induction certificates generalizing anchors with
  | nil => simp [countAnchors, eq_comm]
  | cons certificate rest ih =>
    rw [countAnchors, List.forall_mem_cons, List.length_cons]
    cases formats.checkAnchor certificate with
    | error reason => simp
    | ok =>
      simp only [map_eq_ok_iff, ih, true_and]
      constructor
      · rintro ⟨_, ⟨accepted, rfl⟩, rfl⟩
        exact ⟨accepted, rfl⟩
      · rintro ⟨accepted, rfl⟩
        exact ⟨_, ⟨accepted, rfl⟩, rfl⟩

/-- The first certificate that may not serve as an anchor ends the count. -/
theorem countAnchors_eq_error_iff {certificates : List (List UInt8)} {reason : String} :
    countAnchors formats certificates = .error reason ↔
      ∃ before certificate after, certificates = before ++ certificate :: after ∧
        (∀ earlier ∈ before, formats.checkAnchor earlier = .ok ()) ∧
        formats.checkAnchor certificate = .error reason := by
  induction certificates with
  | nil => simp [countAnchors]
  | cons certificate rest ih =>
    rw [countAnchors]
    constructor
    · intro h
      cases hcheck : formats.checkAnchor certificate with
      | error refusal =>
        rw [hcheck] at h
        cases h
        exact ⟨[], certificate, rest, rfl, nofun, hcheck⟩
      | ok =>
        rw [hcheck] at h
        obtain ⟨before, refused, after, rfl, accepted, hrefused⟩ :=
          ih.mp (map_eq_error_iff.mp h)
        exact ⟨certificate :: before, refused, after, rfl,
          List.forall_mem_cons.mpr ⟨hcheck, accepted⟩, hrefused⟩
    · rintro ⟨before, refused, after, hsplit, accepted, hrefused⟩
      cases before with
      | nil =>
        cases hsplit
        rw [hrefused]
      | cons first before =>
        obtain ⟨rfl, rfl⟩ := List.cons.inj hsplit
        obtain ⟨hfirst, accepted⟩ := List.forall_mem_cons.mp accepted
        rw [hfirst]
        exact map_eq_error_iff.mpr (ih.mpr ⟨before, refused, after, rfl, accepted, hrefused⟩)

theorem openTrust_eq_ok_iff {opened : OpenedTrust} :
    openTrust formats files path = .ok opened ↔ HoldsAnchors formats files path opened := by
  constructor
  · intro h
    dsimp only [openTrust] at h
    split at h
    · cases h
    · rename_i bytes hread
      split at h
      · cases h
      · cases h
      · rename_i certificates filled hbundle
        split at h
        · cases h
        · rename_i anchors hcount
          split at h
          · cases h
          · rename_i text hdecode
            cases h
            obtain ⟨accepted, rfl⟩ := countAnchors_eq_ok_iff.mp hcount
            obtain rfl := Utf8.decodeText_eq_ok_iff.mp hdecode
            exact .intro (readBytes_eq_ok_iff.mp hread) hbundle filled accepted
  · rintro ⟨hread, hbundle, filled, accepted⟩
    simp only [openTrust, readBytes_eq_ok_iff.mpr hread, hbundle,
      countAnchors_eq_ok_iff.mpr ⟨accepted, rfl⟩, Utf8.decodeText_eq_ok_iff.mpr rfl]

/-- Whatever ends the opening of a trust store is wrong with the store. -/
theorem exists_anchorFault_of_error (h : openTrust formats files path = .error error) :
    ∃ reason, AnchorFault formats files path reason ∧ error = .storeUnusable path reason := by
  dsimp only [openTrust] at h
  split at h
  · rename_i unread
    cases h
    obtain ⟨reason, fault, rfl⟩ := readBytes_eq_error_iff.mp unread
    exact ⟨reason, .unread fault, rfl⟩
  · rename_i bytes hread
    have hread := readBytes_eq_ok_iff.mp hread
    split at h
    · rename_i hbundle
      exact ⟨_, .garbled hread hbundle, (Except.error.inj h).symm⟩
    · rename_i hbundle
      exact ⟨_, .bare hread hbundle, (Except.error.inj h).symm⟩
    · rename_i certificates filled hbundle
      split at h
      · rename_i hcount
        obtain ⟨before, certificate, after, rfl, accepted, hcheck⟩ :=
          countAnchors_eq_error_iff.mp hcount
        exact ⟨_, .refused hread hbundle accepted hcheck, (Except.error.inj h).symm⟩
      · rename_i anchors hcount
        obtain ⟨accepted, -⟩ := countAnchors_eq_ok_iff.mp hcount
        split at h
        · rename_i hdecode
          exact ⟨_, .notText hread hbundle filled accepted hdecode, (Except.error.inj h).symm⟩
        · cases h

theorem openTrust_of_anchorFault {reason : String}
    (fault : AnchorFault formats files path reason) :
    openTrust formats files path = .error (.storeUnusable path reason) := by
  cases fault with
  | unread fault => simp only [openTrust, readBytes_eq_error_iff.mpr ⟨_, fault, rfl⟩]
  | garbled hread hbundle => simp only [openTrust, readBytes_eq_ok_iff.mpr hread, hbundle]
  | bare hread hbundle => simp only [openTrust, readBytes_eq_ok_iff.mpr hread, hbundle]
  | @refused bytes before after certificate reason hread hbundle accepted hcheck =>
    have hcount := countAnchors_eq_error_iff.mpr ⟨_, _, after, rfl, accepted, hcheck⟩
    have filled : before ++ certificate :: after ≠ [] := by simp
    -- Which case of the bundle it is shows once the list is no longer taken apart.
    generalize before ++ certificate :: after = certificates at hbundle hcount filled
    simp only [openTrust, readBytes_eq_ok_iff.mpr hread, hbundle, hcount]
  | notText hread hbundle filled accepted hdecode =>
    simp only [openTrust, readBytes_eq_ok_iff.mpr hread, hbundle,
      countAnchors_eq_ok_iff.mpr ⟨accepted, rfl⟩, hdecode]

theorem openTrust_eq_error_iff : openTrust formats files path = .error error ↔
    ∃ reason, AnchorFault formats files path reason ∧ error = .storeUnusable path reason := by
  refine ⟨exists_anchorFault_of_error, ?_⟩
  rintro ⟨reason, fault, rfl⟩
  exact openTrust_of_anchorFault fault

/-! ## Stores that need not be there -/

section

variable {α : Type} {path? : Option String} {opened : String → Except ConfigError α}

theorem openIf_eq_ok_iff {held? : Option α} : openIf path? opened = .ok held? ↔
    Option.Rel (fun path held => opened path = .ok held) path? held? := by
  cases path? with
  | none => cases held? <;> simp [openIf]
  | some path => cases held? <;> simp [openIf, map_eq_ok_iff]

/-- What is said of every store that opens holds of what is configured. -/
theorem rel_of_openIf {β : Type} {holds : String → β → Prop} {part : α → β} {held? : Option α}
    (h : openIf path? opened = .ok held?)
    (hpart : ∀ path held, opened path = .ok held → holds path (part held)) :
    Option.Rel holds path? (held?.map part) := by
  cases openIf_eq_ok_iff.mp h with
  | none => exact .none
  | some hopen => exact .some (hpart _ _ hopen)

theorem openIf_eq_error_iff : openIf path? opened = .error error ↔
    ∃ path, path? = some path ∧ opened path = .error error := by
  cases path? with
  | none => simp [openIf]
  | some path => simp [openIf, map_eq_error_iff]

/-- What is configured can be opened. -/
theorem exists_openIf_eq_ok_iff : (∃ held?, openIf path? opened = .ok held?) ↔
    ∀ path ∈ path?, ∃ held, opened path = .ok held := by
  simp only [openIf_eq_ok_iff]
  constructor
  · rintro ⟨held?, h⟩ path configured
    obtain rfl := Option.mem_def.mp configured
    cases h with
    | some hopen => exact ⟨_, hopen⟩
  · intro h
    cases path? with
    | none => exact ⟨none, .none⟩
    | some path =>
      obtain ⟨held, hopen⟩ := h path rfl
      exact ⟨some held, .some hopen⟩

end

/-! ## Only what is read has a part in it -/

theorem openKey_congr (same : files.readBytes path = other.readBytes path)
    (password? : Option String) :
    openKey formats files path password? = openKey formats other path password? := by
  unfold openKey readBytes
  rw [same]

theorem openTrust_congr (same : files.readBytes path = other.readBytes path) :
    openTrust formats files path = openTrust formats other path := by
  unfold openTrust readBytes
  rw [same]

theorem openIf_congr {α : Type} {path? : Option String}
    {opened reopened : String → Except ConfigError α}
    (same : ∀ path ∈ path?, opened path = reopened path) :
    openIf path? opened = openIf path? reopened := by
  cases path? with
  | none => rfl
  | some path => exact congrArg (Except.map some) (same path rfl)

end Store

end BrokerWiring
