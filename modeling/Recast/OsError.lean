/-!
# Errors of the operating system
-/

namespace Recast

inductive OsError
  | notFound
  | outOfMemory
  | exists
  | notDirectory
  | isDirectory
  | noSpace
  | nameTooLong
  | tooManyLinks
  /-- A name that no path can hold. -/
  | nulInName
  /-- An error that only a real system has. -/
  | other (message : String)
  deriving DecidableEq, Repr

def OsError.message : OsError → String
  | notFound => "No such file or directory (os error 2)"
  | outOfMemory => "Cannot allocate memory (os error 12)"
  | «exists» => "File exists (os error 17)"
  | notDirectory => "Not a directory (os error 20)"
  | isDirectory => "Is a directory (os error 21)"
  | noSpace => "No space left on device (os error 28)"
  | nameTooLong => "File name too long (os error 36)"
  | tooManyLinks => "Too many levels of symbolic links (os error 40)"
  | nulInName => "file name contained an unexpected NUL byte"
  | other message => message

end Recast
