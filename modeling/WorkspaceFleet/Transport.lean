import WorkspaceFleet.Document

/-!
# WorkspaceFleet.Transport

How a server's daemon is reached: in the clear, or over TLS with certificates on both sides, whose
files are named by a common directory or one by one.
-/

namespace WorkspaceFleet

inductive CertificateFiles where
  /-- A directory with files of the conventional names. -/
  | directory (dir : String)
  | paths (authority certificate key : String)
  deriving DecidableEq, Repr, Inhabited

/-- A file name below a directory; the empty directory adds nothing. -/
def joinPath (dir file : String) : String :=
  if dir = "" then file
  else if dir.toList.getLast? = some '/' then dir ++ file
  else dir ++ "/" ++ file

namespace CertificateFiles

variable {κ : Type}

def authorityPath : CertificateFiles → String
  | .directory dir => joinPath dir "ca.pem"
  | .paths authority _ _ => authority

def certificatePath : CertificateFiles → String
  | .directory dir => joinPath dir "cert.pem"
  | .paths _ certificate _ => certificate

def keyPath : CertificateFiles → String
  | .directory dir => joinPath dir "key.pem"
  | .paths _ _ key => key

def fields : CertificateFiles → List (String × Document κ)
  | .directory dir => [("cert_dir", .text dir)]
  | .paths authority certificate key =>
    [("ca_path", .text authority), ("cert_path", .text certificate), ("key_path", .text key)]

def decodeDirectory (d : Document κ) : Decoded CertificateFiles := do
  let fs ← d.asFields ["cert_dir"]
  return .directory (← Document.field fs "cert_dir" Document.asText)

def decodePaths (d : Document κ) : Decoded CertificateFiles := do
  let fs ← d.asFields ["ca_path", "cert_path", "key_path"]
  return .paths (← Document.field fs "ca_path" Document.asText)
    (← Document.field fs "cert_path" Document.asText)
    (← Document.field fs "key_path" Document.asText)

/-- Reads the written form; a directory is preferred to paths. -/
def decode (d : Document κ) : Decoded CertificateFiles :=
  match decodeDirectory d with
  | .ok files => .ok files
  | .error _ => decodePaths d

end CertificateFiles

inductive Transport where
  | plain
  | mutualTls (files : CertificateFiles)
  deriving DecidableEq, Repr, Inhabited

namespace Transport

variable {κ : Type}

def mutualTlsDirectory (dir : String) : Transport := .mutualTls (.directory dir)

def scheme : Transport → String
  | .plain => "http"
  | .mutualTls _ => "https"

def files? : Transport → Option CertificateFiles
  | .plain => none
  | .mutualTls files => some files

/-- The written form: the kind of transport with the fields of its files beside it. -/
def encode : Transport → Document κ
  | .plain => .record [("type", .text "plain")]
  | .mutualTls files => .record (("type", .text "mutual_tls") :: files.fields)

def decode : Document κ → Decoded Transport
  | .record fields => do
    match ← Document.field fields "type" Document.asText with
    | "plain" => return .plain
    | "mutual_tls" =>
      return .mutualTls (← CertificateFiles.decode (.record (fields.filter (·.1 != "type"))))
    | _ => .error .mismatch
  | .list [.text "plain"] => .ok .plain
  | _ => .error .mismatch

end Transport
end WorkspaceFleet
