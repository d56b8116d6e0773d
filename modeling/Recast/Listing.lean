import Recast.Generate
import Recast.Json.Printer

/-!
# Printing generated files

Files are printed one after the other, each under a banner with its name, or as one JSON document
that lists them by input.
-/

namespace Recast

/-- The files generated from one input. -/
structure Output where
  input : String
  files : List SourceFile
  deriving DecidableEq, Repr

/-- A file under its banner, and a line feed behind it. -/
def SourceFile.withBanner (file : SourceFile) : String :=
  "==> " ++ file.fileName ++ " <==\n" ++ file.text ++ "\n"

/-- Files one after the other. -/
def printFiles (files : List SourceFile) : String :=
  String.join (files.map SourceFile.withBanner)

def SourceFile.toJson (file : SourceFile) : Json :=
  .object [("logical_name", .string file.className), ("file_name", .string file.fileName),
    ("source_text", .string file.text), ("origin", .string file.origin)]

def Output.toJson (output : Output) : Json :=
  .object [("input", .string output.input), ("files", .array (output.files.map SourceFile.toJson))]

/-- The JSON document that lists the files of all inputs. -/
def printListing (outputs : List Output) : String :=
  (Json.array (outputs.map Output.toJson)).print ++ "\n"

end Recast
