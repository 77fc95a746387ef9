import ShaderLift.Fault
import ShaderLift.File.Path
import ShaderLift.Text.Encoding

namespace ShaderLift

inductive AccessIssue where
  | missing
  | notDirectory
  | isDirectory
  | nameTooLong
  deriving DecidableEq

def AccessIssue.number : AccessIssue → Nat
  | missing => 2
  | notDirectory => 20
  | isDirectory => 21
  | nameTooLong => 36

def AccessIssue.message : AccessIssue → Text
  | missing => "No such file or directory"
  | notDirectory => "Not a directory"
  | isDirectory => "Is a directory"
  | nameTooLong => "File name too long"

def AccessIssue.ofNumber? (number : Nat) : Option AccessIssue :=
  [missing, notDirectory, isDirectory, nameTooLong].find? (·.number = number)

inductive FileFault where
  | access (issue : AccessIssue) (path : Path)
  /-- A path holds the null character, which no file name can. -/
  | nullCharacter
  | undecodable (error : Text.EncodingError)
  /-- A path without last name cannot be extended to the name of an output file. -/
  | unnamed (path : Path)
  | listing (fault : Fault)
  deriving DecidableEq

def FileFault.message : FileFault → Text
  | access issue path =>
    "[Errno " ++ Text.ofNat issue.number ++ "] " ++ issue.message ++ ": " ++ Text.quoted path.toText
  | nullCharacter => "embedded null byte"
  | undecodable error => error.message
  | unnamed path => "PosixPath(" ++ Text.quoted path.toText ++ ") has an empty name"
  | listing fault => fault.message

end ShaderLift
