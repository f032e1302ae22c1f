import ScriptLint.Text.Quoted
import ScriptLint.Text.Utf8

/-!
# What can go wrong with files
-/

namespace ScriptLint

/-- Why the file system refuses a path. -/
inductive FileFault
  | missing
  | exists
  | notDirectory
  | isDirectory
  | nameTooLong
  | tooManyLinks
  deriving DecidableEq

def FileFault.number : FileFault → Nat
  | .missing      => 2
  | .exists       => 17
  | .notDirectory => 20
  | .isDirectory  => 21
  | .nameTooLong  => 36
  | .tooManyLinks => 40

def FileFault.reason : FileFault → Text
  | .missing      => "No such file or directory"
  | .exists       => "File exists"
  | .notDirectory => "Not a directory"
  | .isDirectory  => "Is a directory"
  | .nameTooLong  => "File name too long"
  | .tooManyLinks => "Too many levels of symbolic links"

/-- An operation on a file that failed. -/
inductive FileError
  /-- The file system refuses a path. -/
  | refused (fault : FileFault) (path : Text)
  /-- The path holds a NUL and cannot be handed to the file system. -/
  | nullByte
  /-- The path has no encoded form. -/
  | unencodablePath (e : Utf8.EncodeError)
  /-- The content of a file is not UTF-8. -/
  | undecodable (e : Utf8.DecodeError)
  /-- The text to be written cannot be encoded. -/
  | unencodable (e : Utf8.EncodeError)
  /-- The links of a path lead back to themselves. -/
  | linkLoop (path : Text)
  /-- A path starts at the home directory of an unknown user. -/
  | unknownHome
  deriving DecidableEq

def FileError.message : FileError → Text
  | .refused fault path =>
    "[Errno " ++ Text.ofNat fault.number ++ "] " ++ fault.reason ++ ": " ++ Text.quoted path
  | .nullByte           => "embedded null byte"
  | .unencodablePath e  => e.message
  | .undecodable e      => e.message
  | .unencodable e      => e.message
  | .linkLoop path      => "Symlink loop from " ++ Text.quoted path
  | .unknownHome        => "Could not determine home directory."

end ScriptLint
