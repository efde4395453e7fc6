import DocSamples.Text.Quoted
import DocSamples.Text.Utf8

namespace DocSamples

/-! # Faults of files

Why a file or directory could not be used, and the words for it.
-/

open Text

/-- The causes a file system gives, each with its number. -/
inductive FileCause where
  | notFound
  | denied
  | alreadyExists
  | notDirectory
  | isDirectory
  | nameTooLong
  | tooManyLinks
deriving DecidableEq, Repr

def FileCause.number : FileCause → Nat
  | .notFound => 2
  | .denied => 13
  | .alreadyExists => 17
  | .notDirectory => 20
  | .isDirectory => 21
  | .nameTooLong => 36
  | .tooManyLinks => 40

def FileCause.words : FileCause → String
  | .notFound => "No such file or directory"
  | .denied => "Permission denied"
  | .alreadyExists => "File exists"
  | .notDirectory => "Not a directory"
  | .isDirectory => "Is a directory"
  | .nameTooLong => "File name too long"
  | .tooManyLinks => "Too many levels of symbolic links"

/-- Why a path could not be followed. -/
inductive PathFault where
  | system (cause : FileCause) (path : String)
  | nullByte
  | linkLoop (path : String)
deriving DecidableEq, Repr

def PathFault.message : PathFault → String
  | .system cause path =>
      "[Errno " ++ toString cause.number ++ "] " ++ cause.words ++ ": " ++ quoted path
  | .nullByte => "embedded null byte"
  | .linkLoop path => "Symlink loop from " ++ quoted path

/-- Why the text of a file could not be had. -/
inductive ReadFault where
  | path (fault : PathFault)
  | undecodable (defect : Utf8.Defect)
deriving DecidableEq, Repr

def ReadFault.message : ReadFault → String
  | .path fault => fault.message
  | .undecodable defect => defect.message

end DocSamples
