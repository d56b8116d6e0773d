import Recast.Conversion
import Recast.Template.Basic
import Recast.Text.Literal

/-!
# Ruby classes

Accessors with their types in a comment, a constructor with keyword arguments, and conversions from
and to hashes. Absent values pass through the first method that is called on them.
-/

namespace Recast.Template.Ruby

open Conversion

def quote (text : String) : String :=
  Text.literal '\'' text

/-! ## Conversions -/

/-- How a method is called on a value that may be absent. -/
def call (optional : Bool) : String :=
  if optional then "&." else "."

def print : Conversion → String
  | .wire key => "hash[" ++ quote key ++ "]"
  | .stored ident => "@" ++ ident
  | .element depth => loopVariable depth
  | .ascribe _ value => print value
  | .decode className value => className ++ ".from_hash(" ++ print value ++ ")"
  | .encode optional value => print value ++ call optional ++ "to_hash"
  | .each _ optional depth list body =>
    print list ++ call optional ++ "map \x7b |" ++ loopVariable depth ++ "| " ++ print body ++ " \x7d"
  | .ifPresent subject body => print subject ++ " && " ++ print body

/-- Reads a value of a type. -/
def decodeValue (type : DataType String) (value : Conversion) : Conversion :=
  passAbsent (decodeAt (·.carriesClass) (fun _ value => value) type 0 value)

def decodeField (field : FieldView) : Conversion :=
  decodeValue field.type (wire field.key)

def encodeField (field : FieldView) : Conversion :=
  encodeOptional field.type (stored field.ident)

/-! ## Parts -/

def header (view : ClassView) : String :=
  "require 'json'\n" ++
  String.join (view.dependencies.map fun d => "require_relative " ++ quote d.module ++ "\n") ++
  "\nclass " ++ view.className ++ "\n\n"

def field (field : FieldView) : String :=
  "\t# @return [" ++ field.typeName ++ "]\n\tattr_accessor :" ++ field.ident ++ "\n"

def parameter (field : FieldView) : String :=
  field.ident ++ ": nil"

def constructor (view : ClassView) : String :=
  if view.fields.isEmpty then ""
  else
    "\n\tdef initialize(" ++ ", ".intercalate (view.fields.map parameter) ++ ")\n" ++
    forFields view (fun f => "\t\t@" ++ f.ident ++ " = " ++ f.ident ++ "\n") ++
    "\tend\n"

def decodeLine (field : FieldView) : String :=
  "\t\to." ++ field.ident ++ " = " ++ print (decodeField field) ++ "\n"

def encodeLine (field : FieldView) : String :=
  "\t\th[" ++ quote field.key ++ "] = " ++ print (encodeField field) ++ "\n"

def serialization (view : ClassView) : String :=
  "\n\tdef self.from_hash(hash)\n\t\to = new\n" ++
  forFields view decodeLine ++
  "\t\to\n\tend\n" ++
  "\n\tdef self.from_json(json)\n\t\tfrom_hash(JSON.parse(json))\n\tend\n" ++
  "\n\tdef to_hash\n\t\th = \x7b\x7d\n" ++
  forFields view encodeLine ++
  "\t\th\n\tend\n" ++
  "\n\tdef to_json(*_args)\n\t\tJSON.generate(to_hash)\n\tend\n"

end Ruby

def ruby : Template where
  header := Ruby.header
  field := Ruby.field
  fieldsEnd := nothing
  constructor := Ruby.constructor
  accessors := nothing
  serialization := Ruby.serialization
  footer _ := "end\n"
  renameAnnotation := none

end Recast.Template
