import Recast.Conversion
import Recast.Template.Basic
import Recast.Text.Literal

/-!
# Java classes

Private fields with getters and setters, annotated for Jackson where a field has not the name of its
key, and conversions from and to `Map<String, Object>`. A value that is a class or an array passes
absent values by a test in front.
-/

namespace Recast.Template.Java

open Conversion

def quote (text : String) : String :=
  Text.literal '"' text

/-! ## Conversions -/

def ascribed (value : String) : Ascription → String
  | .exactly (.scalar .string) => "(String) " ++ value
  | .exactly (.scalar .boolean) => "(Boolean) " ++ value
  | .exactly (.scalar .integer) => "((Number) " ++ value ++ ").intValue()"
  | .exactly (.scalar .float) => "((Number) " ++ value ++ ").floatValue()"
  | .exactly type => "(" ++ Conventions.java.typeName type ++ ") " ++ value
  | .orAbsent typeName => "(" ++ typeName ++ ") " ++ value

def print : Conversion → String
  | .wire key => "map.get(" ++ quote key ++ ")"
  | .stored ident => "this." ++ ident
  | .element depth => loopVariable depth
  | .ascribe ascription value => ascribed (print value) ascription
  | .decode className value => className ++ ".fromMap((Map<String, Object>) " ++ print value ++ ")"
  | .encode _ value => print value ++ ".toMap()"
  | .each direction _ depth list body =>
    (match direction with
      | .decode => "((List<Object>) " ++ print list ++ ")"
      | .encode => print list) ++
    ".stream().map(" ++ loopVariable depth ++ " -> " ++ print body ++
      ").collect(Collectors.toList())"
  | .ifPresent subject body => print subject ++ " == null ? null : " ++ print body

/-- Reads a value of a type. Every array is gone through, for its elements have to be cast. -/
def decodeValue (type : DataType String) (value : Conversion) : Conversion :=
  let decoded := decodeAt (fun _ => true) (fun type => ascribe (.exactly type)) type 0 value
  match type with
  | .ref _ | .array _ => .ifPresent value decoded
  | _ => decoded

def decodeField (field : FieldView) : Conversion :=
  decodeValue field.type (wire field.key)

def encodeField (field : FieldView) : Conversion :=
  encodeGuarded field.type (stored field.ident)

/-! ## Parts -/

def header (view : ClassView) : String :=
  (if view.hasRenames then "import com.fasterxml.jackson.annotation.JsonProperty;\n" else "") ++
  "import com.fasterxml.jackson.core.JsonProcessingException;\n" ++
  "import com.fasterxml.jackson.databind.ObjectMapper;\n" ++
  "import java.util.LinkedHashMap;\n" ++
  (if view.hasArrays then "import java.util.List;\n" else "") ++
  "import java.util.Map;\n" ++
  (if view.hasArrays then "import java.util.stream.Collectors;\n" else "") ++
  "\npublic class " ++ view.className ++ " \x7b\n\n"

def field (field : FieldView) : String :=
  "\tprivate " ++ field.typeName ++ " " ++ field.ident ++ ";\n"

def parameter (field : FieldView) : String :=
  field.typeName ++ " " ++ field.ident

def constructor (view : ClassView) : String :=
  "\n\tpublic " ++ view.className ++ "() \x7b\n\t\x7d\n" ++
  if view.fields.isEmpty then ""
  else
    "\n\tpublic " ++ view.className ++ "(" ++ ", ".intercalate (view.fields.map parameter) ++
      ") \x7b\n" ++
    forFields view (fun f => "\t\tthis." ++ f.ident ++ " = " ++ f.ident ++ ";\n") ++
    "\t\x7d\n"

def accessors (field : FieldView) : String :=
  "\t\n\tpublic " ++ field.typeName ++ " get" ++ field.accessor ++ "() \x7b\n" ++
  "\t\treturn " ++ field.ident ++ ";\n\t\x7d\n" ++
  "\t\n\tpublic void set" ++ field.accessor ++ "(" ++ field.typeName ++ " " ++ field.ident ++
    ") \x7b\n" ++
  "\t\tthis." ++ field.ident ++ " = " ++ field.ident ++ ";\n\t\x7d\n"

def decodeLine (field : FieldView) : String :=
  "\t\to." ++ field.ident ++ " = " ++ print (decodeField field) ++ ";\n"

def encodeLine (field : FieldView) : String :=
  "\t\tmap.put(" ++ quote field.key ++ ", " ++ print (encodeField field) ++ ");\n"

def serialization (view : ClassView) : String :=
  "\n\t@SuppressWarnings(\"unchecked\")\n" ++
  "\tpublic static " ++ view.className ++ " fromMap(Map<String, Object> map) \x7b\n" ++
  "\t\t" ++ view.className ++ " o = new " ++ view.className ++ "();\n" ++
  forFields view decodeLine ++
  "\t\treturn o;\n\t\x7d\n" ++
  "\n\tpublic Map<String, Object> toMap() \x7b\n" ++
  "\t\tMap<String, Object> map = new LinkedHashMap<>();\n" ++
  forFields view encodeLine ++
  "\t\treturn map;\n\t\x7d\n" ++
  "\n\t@SuppressWarnings(\"unchecked\")\n" ++
  "\tpublic static " ++ view.className ++
    " fromJson(String json) throws JsonProcessingException \x7b\n" ++
  "\t\treturn fromMap(new ObjectMapper().readValue(json, Map.class));\n\t\x7d\n" ++
  "\n\tpublic String toJson() throws JsonProcessingException \x7b\n" ++
  "\t\treturn new ObjectMapper().writeValueAsString(toMap());\n\t\x7d\n"

def renameAnnotation (key : String) : String :=
  "\t@JsonProperty(" ++ quote key ++ ")\n"

end Java

def java : Template where
  header := Java.header
  field := Java.field
  fieldsEnd := nothing
  constructor := Java.constructor
  accessors := Java.accessors
  serialization := Java.serialization
  footer _ := "\x7d\n"
  renameAnnotation := some Java.renameAnnotation

end Recast.Template
