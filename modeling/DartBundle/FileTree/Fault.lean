/-!
This module contains the reasons for which an operation on files fails.
-/

namespace DartBundle

inductive FileFault
  | notFound
  | alreadyExists
  | notADirectory
  | isADirectory
  | permissionDenied
  | tooManyLinks
  | busy
  | notExecutable
  | nameTooLong
  | nulInPath
  | nulInWord
  | notText
  | other (text : String)
  deriving DecidableEq

def FileFault.message : FileFault → String
  | .notFound => "No such file or directory (os error 2)"
  | .alreadyExists => "File exists (os error 17)"
  | .notADirectory => "Not a directory (os error 20)"
  | .isADirectory => "Is a directory (os error 21)"
  | .permissionDenied => "Permission denied (os error 13)"
  | .tooManyLinks => "Too many levels of symbolic links (os error 40)"
  | .busy => "Device or resource busy (os error 16)"
  | .notExecutable => "Exec format error (os error 8)"
  | .nameTooLong => "File name too long (os error 36)"
  | .nulInPath => "file name contained an unexpected NUL byte"
  | .nulInWord => "nul byte found in provided data"
  | .notText => "stream did not contain valid UTF-8"
  | .other text => text

end DartBundle
