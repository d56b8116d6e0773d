import Recast.Error
import Recast.Glob.Pattern
import Recast.OsError

/-!
# Why a command failed

A failure is a cause and what was being done when it arose, outermost first.
-/

namespace Recast.Command

/-- What was being done. -/
inductive Activity
  | generating (input : String)
  | readingSource
  | creatingDirectory (path : String)
  | opening (path : String)
  | writing (path : String)
  | readingPattern (text : String)
  deriving DecidableEq, Repr

def Activity.message : Activity → String
  | generating input => "failed to generate from " ++ input
  | readingSource => "failed to read source file"
  | creatingDirectory path => "failed to create output directory " ++ path
  | opening path => "failed to open " ++ path
  | writing path => "failed to write " ++ path
  | readingPattern text => "bad glob pattern: " ++ text

inductive Cause
  | generation (error : GenerationError)
  | os (error : OsError)
  /-- A source file that is not UTF-8. -/
  | notUnicode
  | badPattern (error : Glob.PatternError)
  | noMatch (text : String)
  | nothingSelected (pointer : String)
  /-- The file is there and must not be written over. -/
  | fileExists (path : String)
  /-- Two inputs generate the same file. -/
  | sameFile (first second path : String)

def Cause.message : Cause → String
  | generation error => error.message
  | os error => error.message
  | notUnicode => "stream did not contain valid UTF-8"
  | badPattern error => error.message
  | noMatch text => "glob pattern matched no files: " ++ text
  | nothingSelected pointer => "JSON pointer " ++ Text.visible pointer ++ " selects nothing"
  | fileExists path => path ++ " already exists; pass --force to overwrite"
  | sameFile first second path =>
    first ++ " and " ++ second ++ " both generate " ++ path ++
      "; write them to separate output directories"

structure Failure where
  activities : List Activity
  cause : Cause

/-- The activities and the cause in one line. -/
def Failure.message (failure : Failure) : String :=
  ": ".intercalate (failure.activities.map Activity.message ++ [failure.cause.message])

/-- A failure seen from the activity around it. -/
def Failure.during (activity : Activity) (failure : Failure) : Failure :=
  { failure with activities := activity :: failure.activities }

/-- A cause without anything around it. -/
def Cause.alone (cause : Cause) : Failure :=
  ⟨[], cause⟩

end Recast.Command
