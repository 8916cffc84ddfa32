/-
  Switchyard.Net.KeyFiles
  ───────────────────────
  The certificate and the private key that TLS needs, read from files.
-/
import Switchyard.Config.Violation
import Switchyard.Files.System
import Switchyard.Text.Quoted

namespace Switchyard

/-- Why there are no keys. -/
inductive KeyFileError where
  | missing (file : TlsFile) (path : String)
  /-- The files are there, but not what TLS can use. -/
  | unusable
  deriving DecidableEq, Repr, Inhabited

def TlsFile.title : TlsFile → String
  | .certificate => "Certificate"
  | .key => "Private key"

def KeyFileError.message : KeyFileError → String
  | .missing file path => file.title ++ " file not found: " ++ Text.quoted path
  | .unusable => "certificate and private key cannot be used"

/-- The contents of the certificate and the key file, if `usable` approves of
them. -/
def loadKeys (usable : Bytes → Bytes → Bool) (fs : FileSystem) (certPath keyPath : String) :
    Except KeyFileError (Bytes × Bytes) :=
  if !fs.pathExists certPath then .error (.missing .certificate certPath)
  else if !fs.pathExists keyPath then .error (.missing .key keyPath)
  else match fs.read certPath, fs.read keyPath with
    | .ok cert, .ok key => if usable cert key then .ok (cert, key) else .error .unusable
    | _, _ => .error .unusable

end Switchyard
