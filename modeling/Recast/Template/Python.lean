import Recast.Conversion
import Recast.Template.Basic
import Recast.Text.Literal

/-!
# Python classes

Data classes with optional fields, and conversions from and to dictionaries. The dataclass decorator
writes the constructor. A value that carries a class passes absent values by a test around it.
-/

namespace Recast.Template.Python

open Conversion

def quote (text : String) : String :=
  Text.literal '"' text

/-! ## Conversions -/

def print : Conversion → String
  | .wire key => "data.get(" ++ quote key ++ ")"
  | .stored ident => "self." ++ ident
  | .element depth => loopVariable depth
  | .ascribe _ value => print value
  | .decode className value => className ++ ".from_dict(" ++ print value ++ ")"
  | .encode _ value => print value ++ ".to_dict()"
  | .each _ _ depth list body =>
    "[" ++ print body ++ " for " ++ loopVariable depth ++ " in " ++ print list ++ "]"
  | .ifPresent subject body => "None if " ++ print subject ++ " is None else " ++ print body

/-- Reads a value of a type. -/
def decodeValue (type : DataType String) (value : Conversion) : Conversion :=
  if converts type then
    .ifPresent value (decodeAt (·.carriesClass) (fun _ value => value) type 0 value)
  else value

def decodeField (field : FieldView) : Conversion :=
  decodeValue field.type (wire field.key)

def encodeField (field : FieldView) : Conversion :=
  encodeGuarded field.type (stored field.ident)

/-! ## Parts -/

def header (view : ClassView) : String :=
  "from __future__ import annotations\n\n" ++
  "import json\n" ++
  "from dataclasses import dataclass\n" ++
  "from typing import Any, Dict, List, Optional\n" ++
  (if view.dependencies.isEmpty then ""
    else
      "\n" ++ String.join (view.dependencies.map fun d =>
        "from ." ++ d.module ++ " import " ++ d.className ++ "\n")) ++
  "\n\n@dataclass\nclass " ++ view.className ++ ":\n"

def field (field : FieldView) : String :=
  "    " ++ field.ident ++ ": Optional[" ++ field.typeName ++ "] = None\n"

def decodeLine (field : FieldView) : String :=
  "            " ++ field.ident ++ "=" ++ print (decodeField field) ++ ",\n"

def encodeLine (field : FieldView) : String :=
  "            " ++ quote field.key ++ ": " ++ print (encodeField field) ++ ",\n"

def serialization (view : ClassView) : String :=
  "\n    @classmethod\n" ++
  "    def from_dict(cls, data: Dict[str, Any]) -> " ++ view.className ++ ":\n" ++
  (if view.fields.isEmpty then "        return cls()\n"
    else "        return cls(\n" ++ forFields view decodeLine ++ "        )\n") ++
  "\n    @classmethod\n" ++
  "    def from_json(cls, text: str) -> " ++ view.className ++ ":\n" ++
  "        return cls.from_dict(json.loads(text))\n" ++
  "\n    def to_dict(self) -> Dict[str, Any]:\n" ++
  (if view.fields.isEmpty then "        return \x7b\x7d\n"
    else "        return \x7b\n" ++ forFields view encodeLine ++ "        \x7d\n") ++
  "\n    def to_json(self) -> str:\n" ++
  "        return json.dumps(self.to_dict())\n"

end Python

def python : Template where
  header := Python.header
  field := Python.field
  fieldsEnd := nothing
  constructor := nothing
  accessors := nothing
  serialization := Python.serialization
  footer := nothing
  renameAnnotation := none

end Recast.Template
