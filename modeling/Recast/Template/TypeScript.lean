import Recast.Conversion
import Recast.Template.Basic
import Recast.Text.Literal

/-!
# TypeScript classes

Exported classes with optional fields, and conversions from and to plain records. Values are given
their types by assertion, and absent values pass through optional chaining.
-/

namespace Recast.Template.TypeScript

open Conversion

def quote (text : String) : String :=
  Text.literal '"' text

/-- The type of a plain object. -/
def record : String := "Record<string, unknown>"

/-! ## Conversions -/

/-- How a method is called on a value that may be absent. -/
def call (optional : Bool) : String :=
  if optional then "?." else "."

def ascribed (value : String) : Ascription → String
  | .exactly type => value ++ " as " ++ Conventions.typescript.typeName type
  | .orAbsent typeName => value ++ " as " ++ typeName ++ " | undefined"

/-- A value asserted to be a list, or nothing. -/
def asList (optional : Bool) (value : String) : String :=
  "(" ++ value ++ " as unknown[]" ++ (if optional then " | undefined" else "") ++ ")"

def print : Conversion → String
  | .wire key => "data[" ++ quote key ++ "]"
  | .stored ident => "this." ++ ident
  | .element depth => loopVariable depth
  | .ascribe ascription value => ascribed (print value) ascription
  | .decode className value =>
    className ++ ".fromObject(" ++ print value ++ " as " ++ record ++ ")"
  | .encode optional value => print value ++ call optional ++ "toObject()"
  | .each direction optional depth list body =>
    (match direction with
      | .decode => asList optional (print list)
      | .encode => print list) ++
    call optional ++ "map((" ++ loopVariable depth ++ ") => " ++ print body ++ ")"
  | .ifPresent subject body => print subject ++ " == null ? undefined : " ++ print body

/-- Reads a value of a type that is spelled in this way. -/
def decodeValue (type : DataType String) (typeName : String) (value : Conversion) : Conversion :=
  if converts type then
    passAbsent (decodeAt (·.carriesClass) (fun type => ascribe (.exactly type)) type 0 value)
  else ascribe (.orAbsent typeName) value

def decodeField (field : FieldView) : Conversion :=
  decodeValue field.type field.typeName (wire field.key)

def encodeField (field : FieldView) : Conversion :=
  encodeOptional field.type (stored field.ident)

/-! ## Parts -/

def header (view : ClassView) : String :=
  String.join (view.dependencies.map fun d =>
    "import \x7b " ++ d.className ++ " \x7d from " ++ Text.literal '\'' ("./" ++ d.module) ++
      ";\n") ++
  (if view.dependencies.isEmpty then "" else "\n") ++
  "export class " ++ view.className ++ " \x7b\n"

def field (field : FieldView) : String :=
  "  " ++ field.ident ++ "?: " ++ field.typeName ++ ";\n"

def constructor (view : ClassView) : String :=
  "\n  constructor(init?: Partial<" ++ view.className ++ ">) \x7b\n" ++
  "    Object.assign(this, init);\n  \x7d\n"

def decodeLine (field : FieldView) : String :=
  "    o." ++ field.ident ++ " = " ++ print (decodeField field) ++ ";\n"

def encodeLine (field : FieldView) : String :=
  "      " ++ quote field.key ++ ": " ++ print (encodeField field) ++ ",\n"

def serialization (view : ClassView) : String :=
  "\n  static fromObject(data: " ++ record ++ "): " ++ view.className ++ " \x7b\n" ++
  "    const o = new " ++ view.className ++ "();\n" ++
  forFields view decodeLine ++
  "    return o;\n  \x7d\n" ++
  "\n  static fromJson(json: string): " ++ view.className ++ " \x7b\n" ++
  "    return " ++ view.className ++ ".fromObject(JSON.parse(json) as " ++ record ++ ");\n  \x7d\n" ++
  "\n  toObject(): " ++ record ++ " \x7b\n" ++
  (if view.fields.isEmpty then "    return \x7b\x7d;\n"
    else "    return \x7b\n" ++ forFields view encodeLine ++ "    \x7d;\n") ++
  "  \x7d\n" ++
  "\n  toJson(): string \x7b\n    return JSON.stringify(this.toObject());\n  \x7d\n"

end TypeScript

def typescript : Template where
  header := TypeScript.header
  field := TypeScript.field
  fieldsEnd := nothing
  constructor := TypeScript.constructor
  accessors := nothing
  serialization := TypeScript.serialization
  footer _ := "\x7d\n"
  renameAnnotation := none

end Recast.Template
