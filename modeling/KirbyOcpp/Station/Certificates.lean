import KirbyOcpp.Ocpp.Types
import KirbyOcpp.Ocpp.Text

/-!
# Certificates: `certificates.rs`

The store of the installed roots and of the station's own chain, and the check of a chain that the CSMS
has signed. What reads a certificate and checks a signature comes from outside (`Pki`).
-/

namespace KirbyOcpp

abbrev Bytes := List UInt8

inductive CertificateUse where
  | centralSystemRootCertificate | manufacturerRootCertificate
deriving DecidableEq, Repr

inductive HashAlgorithm where
  | sha256 | sha384 | sha512
deriving DecidableEq, Repr

structure CertificateHashData where
  hashAlgorithm : HashAlgorithm
  issuerNameHash : Text
  issuerKeyHash : Text
  serialNumber : Text
deriving DecidableEq

inductive InstallCertificateStatus where
  | accepted | failed | rejected
deriving DecidableEq, Repr

inductive DeleteCertificateStatus where
  | accepted | failed | notFound
deriving DecidableEq, Repr

/-- `MAX_CERTIFICATE_LEN`. -/
def maxCertificateLen : Nat := 5500

/-- Longest certificate chain that is looked at. -/
def maxChainCerts : Nat := 8

/-- A parsed certificate. -/
structure ParsedCert where
  der : Bytes
  serial : Text
  notBefore : Int
  notAfter : Int
  subjectRaw : Bytes
  issuerRaw : Bytes
  keyBits : Bytes
  spkiDer : Bytes
  selfSigned : Bool
deriving DecidableEq

/-- The libraries for PEM, X.509 and digests. -/
structure Pki where
  /-- `CertificateDer::pem_slice_iter`: the `CERTIFICATE` sections of a text, or what is wrong with one. -/
  pemSections : Text → List (Except String Bytes)
  /-- `ParsedCert::from_der`. -/
  fromDer : Bytes → Except String ParsedCert
  /-- `hex(digest::digest(..))`. -/
  digest : HashAlgorithm → Bytes → Text
  /-- `verify_signature` of the first certificate with the key of the second. -/
  verifySignature : Bytes → Bytes → Bool
  /-- `KeyPair::from_pem(..)`, as its `subject_public_key_info`. -/
  keyInfo : Text → Except String Bytes

namespace ParsedCert

/-- Not expired and already valid at `now`. -/
def validAt (cert : ParsedCert) (now : Instant) : Bool :=
  let t := now / nanosPerSecond
  decide (cert.notBefore ≤ t) && decide (t ≤ cert.notAfter)

/-- `CertificateHashData` of a self-signed certificate: its own key is the issuer key. -/
def hashData (pki : Pki) (cert : ParsedCert) (algorithm : HashAlgorithm) : CertificateHashData where
  hashAlgorithm := algorithm
  issuerNameHash := pki.digest algorithm cert.issuerRaw
  issuerKeyHash := pki.digest algorithm cert.keyBits
  serialNumber := cert.serial

/-- Hash data of an installed root: the certificate counts as its own issuer. -/
def rootHashData (pki : Pki) (cert : ParsedCert) (algorithm : HashAlgorithm) : CertificateHashData :=
  let data := cert.hashData pki algorithm
  if cert.selfSigned then data
  else { data with issuerNameHash := pki.digest algorithm cert.subjectRaw }

/-- Whether the key of `issuer` made this certificate's signature. -/
def signedBy (pki : Pki) (cert issuer : ParsedCert) : Bool := pki.verifySignature cert.der issuer.der

end ParsedCert

/-- The loop of `parse_pem_chain`. -/
def parseSections (pki : Pki) : List (Except String Bytes) → List ParsedCert → Except String (List ParsedCert)
  | [], out => .ok out
  | .error e :: _, _ => .error s!"invalid PEM: {e}"
  | .ok der :: items, out =>
    if maxChainCerts ≤ out.length then .error s!"more than {maxChainCerts} certificates"
    else match pki.fromDer der with
      | .error e => .error e
      | .ok cert => parseSections pki items (out ++ [cert])

/-- Parses the certificates of a PEM text. -/
def parsePemChain (pki : Pki) (pem : Text) : Except String (List ParsedCert) :=
  match parseSections pki (pki.pemSections pem) [] with
  | .error e => .error e
  | .ok [] => .error "no PEM certificate found"
  | .ok chain => .ok chain

def sameHash (a b : CertificateHashData) : Bool :=
  decide (a.hashAlgorithm = b.hashAlgorithm) &&
    Text.eqIgnoreAsciiCase a.issuerNameHash b.issuerNameHash &&
    Text.eqIgnoreAsciiCase a.issuerKeyHash b.issuerKeyHash &&
    Text.eqIgnoreAsciiCase (a.serialNumber.dropWhile (· == '0')) (b.serialNumber.dropWhile (· == '0'))

/-- One installed root certificate. -/
structure StoredRoot where
  kind : CertificateUse
  pem : Text
  /-- The superseded Central System root, kept until the station connected with its successor. -/
  fallback : Bool
deriving DecidableEq

/-- Everything about certificates that is kept in the main state file. -/
structure CertificateStore where
  roots : List StoredRoot := []
  /-- The station's certificate chain, leaf first. -/
  chargePointChain : Option Text := none
  /-- The chain that `chargePointChain` replaced, kept until the new one has connected. -/
  previousChargePointChain : Option Text := none
deriving DecidableEq

/-- A Central System root. -/
def StoredRoot.isCentral (r : StoredRoot) : Bool := decide (r.kind = .centralSystemRootCertificate)

namespace CertificateStore

/-- `parsed_roots`: the roots that hold one certificate. -/
def parsedRoots (pki : Pki) (store : CertificateStore) : List (CertificateUse × ParsedCert) :=
  store.roots.filterMap fun r =>
    match parsePemChain pki r.pem with
    | .ok [cert] => some (r.kind, cert)
    | _ => none

/-- What `retain_mut` leaves in a rotation: of the Central System roots only the signer, marked. -/
def retainSigner (signer : Nat) (roots : List (StoredRoot × Nat)) : List StoredRoot :=
  roots.filterMap fun (r, index) =>
    if !r.isCentral || index == signer then
      some (if r.isCentral then { r with fallback := true } else r)
    else none

/-- The first of the roots at `primaries` whose key signed `cert`. -/
def findSigner (pki : Pki) (cert : ParsedCert) (roots : List StoredRoot) (primaries : List Nat) : Option Nat :=
  primaries.find? fun index =>
    match roots[index]? with
    | none => false
    | some r =>
      match parsePemChain pki r.pem with
      | .ok (old :: _) => cert.signedBy pki old
      | _ => false

/-- The Central System roots that an install under the additional check may replace. -/
def primaries (store : CertificateStore) (kind : CertificateUse) (additionalCheck : Bool) : List Nat :=
  if additionalCheck && decide (kind = .centralSystemRootCertificate) then
    (store.roots.zipIdx.filter fun (r, _) => r.isCentral && !r.fallback).map (·.2)
  else []

/-- `InstallCertificate`. -/
def install (pki : Pki) (store : CertificateStore) (kind : CertificateUse) (pem : Text) (now : Instant)
    (maxLen : Nat) (additionalCheck : Bool) : CertificateStore × InstallCertificateStatus :=
  if maxCertificateLen < pem.len then (store, .rejected)
  else match parsePemChain pki pem with
    | .ok [cert] =>
      if !cert.validAt now then (store, .rejected)
      else
        let newHash := cert.rootHashData pki .sha256
        if (store.parsedRoots pki).any fun (k, c) =>
            decide (k = kind) && sameHash (c.rootHashData pki .sha256) newHash then (store, .accepted)
        else
          let added : StoredRoot := { kind, pem := pem.trim, fallback := false }
          match store.primaries kind additionalCheck with
          | [] =>
            if !cert.selfSigned then (store, .rejected)
            else if maxLen ≤ store.roots.length then (store, .rejected)
            else ({ store with roots := store.roots ++ [added] }, .accepted)
          | primaries =>
            match findSigner pki cert store.roots primaries with
            | none => (store, .rejected)
            | some signer =>
              let kept := (store.roots.filter fun r => !r.isCentral).length
              if maxLen < kept + 2 then (store, .rejected)
              else
                ({ store with roots := retainSigner signer store.roots.zipIdx ++ [added] }, .accepted)
    | _ => (store, .rejected)

/-- Whether a superseded Central System root is kept as a fallback. -/
def hasFallback (store : CertificateStore) : Bool := store.roots.any (·.fallback)

/-- Forgets the fallback root; whether there was one. -/
def dropFallback (store : CertificateStore) : CertificateStore × Bool :=
  let roots := store.roots.filter fun r => !r.fallback
  ({ store with roots }, roots.length != store.roots.length)

/-- The root that `wanted` names, with its place. -/
def findRoot (pki : Pki) (roots : List StoredRoot) (wanted : CertificateHashData) : Option (Nat × CertificateUse) :=
  roots.zipIdx.findSome? fun (r, index) =>
    match parsePemChain pki r.pem with
    | .ok (cert :: _) =>
      if sameHash (cert.rootHashData pki wanted.hashAlgorithm) wanted then some (index, r.kind) else none
    | _ => none

/-- `DeleteCertificate`. With `keepLastCentralRoot` the last Central System root cannot go. -/
def delete (pki : Pki) (store : CertificateStore) (wanted : CertificateHashData) (keepLastCentralRoot : Bool) :
    CertificateStore × DeleteCertificateStatus :=
  match findRoot pki store.roots wanted with
  | none => (store, .notFound)
  | some (index, kind) =>
    if keepLastCentralRoot && decide (kind = .centralSystemRootCertificate) &&
        decide ((store.roots.filter (·.isCentral)).length ≤ 1) then (store, .failed)
    else
      let roots := store.roots.eraseIdx index
      -- Without a successor the fallback is the only root left.
      let roots := if roots.any fun r => r.isCentral && !r.fallback then roots
        else roots.map fun r => { r with fallback := false }
      ({ store with roots }, .accepted)

/-- Trust anchors for the TLS layer, without the fallback root. -/
def rootPems (store : CertificateStore) (kind : CertificateUse) : List Text :=
  (store.roots.filter fun r => decide (r.kind = kind) && !r.fallback).map (·.pem)

end CertificateStore

/-- Whether every certificate is signed by the next one. -/
def signedInOrder (pki : Pki) : List ParsedCert → Bool
  | cert :: issuer :: rest => cert.signedBy pki issuer && signedInOrder pki (issuer :: rest)
  | _ => true

/-- Checks a `CertificateSigned` chain against the pending private key. -/
def validateSignedChain (pki : Pki) (chainPem keyPem : Text) (now : Instant) (maxSize : Nat) : Except String Unit :=
  if maxSize < chainPem.len then .error "chain is larger than CertificateSignedMaxChainSize"
  else match parsePemChain pki chainPem with
    | .error e => .error e
    | .ok [] => .error "empty chain"
    | .ok (leaf :: issuers) =>
      if !(leaf :: issuers).all fun c => c.validAt now then .error "a certificate is expired or not yet valid"
      else match pki.keyInfo keyPem with
        | .error e => .error s!"pending key: {e}"
        | .ok info =>
          if info ≠ leaf.spkiDer then .error "the leaf certificate does not match the requested key"
          else if !signedInOrder pki (leaf :: issuers) then
            .error "a certificate of the chain is not signed by the next one"
          else .ok ()

end KirbyOcpp
