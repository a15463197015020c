import WorkspaceFleet.Backend
import WorkspaceFleet.Certificate.Pem
import WorkspaceFleet.Files
import WorkspaceFleet.Text.Quoted

/-!
# WorkspaceFleet.Certificate.Bundle

The certificates and the key of a TLS connection, loaded from their files.

All three files are read first, in the order authority, certificate, key, and then looked at in the same
order, so the first fault in that order is the one reported.
-/

namespace WorkspaceFleet

structure CertificateBundle where
  authorityPath : String
  certificatePath : String
  authority : List UInt8
  /-- The certificates of the client, followed by its key. -/
  identity : List UInt8

namespace CertificateBundle

def invalid (path : String) : BackendError := .configuration ("invalid " ++ path)

def invalidBecause (path cause : String) : BackendError :=
  .configuration ("invalid " ++ path ++ ": " ++ cause)

def readFile (fs : Files) (path : String) : Except BackendError (List UInt8) :=
  (fs.read path).mapError (fun e =>
    .configuration ("cannot read " ++ path ++ ": " ++ e.message))

def requireCertificates (path : String) (bytes : List UInt8) : Except BackendError Unit :=
  match Pem.certificateCount bytes with
  | .error _ => .error (invalid path)
  | .ok 0 => .error (invalidBecause path "no certificates found")
  | .ok _ => .ok ()

def requireKey (path : String) (bytes : List UInt8) : Except BackendError Unit :=
  match Pem.hasPrivateKey bytes with
  | .error _ => .error (invalid path)
  | .ok false => .error (invalidBecause path "no private key found")
  | .ok true => .ok ()

/-- Certificates and key as one file; the certificates end with a line feed. -/
def chain (certificate key : List UInt8) : List UInt8 :=
  if certificate.getLast? = some 10 then certificate ++ key else certificate ++ [10] ++ key

def load (fs : Files) (files : CertificateFiles) : Except BackendError CertificateBundle := do
  let authority ← readFile fs files.authorityPath
  let certificate ← readFile fs files.certificatePath
  let key ← readFile fs files.keyPath
  requireCertificates files.authorityPath authority
  requireCertificates files.certificatePath certificate
  requireKey files.keyPath key
  return {
    authorityPath := files.authorityPath
    certificatePath := files.certificatePath
    authority
    identity := chain certificate key }

def hasAuthority (b : CertificateBundle) : Bool := (Pem.certificateCount b.authority).isOk

def hasIdentity (b : CertificateBundle) : Bool := Pem.isIdentity b.identity

def validate (b : CertificateBundle) : Except BackendError Unit :=
  if ¬b.hasAuthority then .error (invalid b.authorityPath)
  else if ¬b.hasIdentity then .error (invalid b.certificatePath)
  else .ok ()

/-- The bundle as a message shows it: where it came from, and nothing of the key. -/
def debugText (b : CertificateBundle) : String :=
  "TlsBundle \x7b ca_path: " ++ Text.quoted b.authorityPath ++ ", cert_path: " ++
    Text.quoted b.certificatePath ++ ", .. \x7d"

end CertificateBundle
end WorkspaceFleet
