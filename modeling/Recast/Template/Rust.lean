import Recast.Template.Basic
import Recast.Text.Literal

/-!
# Rust structs

Public optional fields, renamed for serde where a field has not the name of its key. Serde derives
the conversions, so the methods only call it.
-/

namespace Recast.Template.Rust

def quote (text : String) : String :=
  Text.literal '"' text

def header (view : ClassView) : String :=
  "use serde::\x7bDeserialize, Serialize\x7d;\n" ++
  String.join (view.dependencies.map fun d =>
    "use super::" ++ d.module ++ "::" ++ d.className ++ ";\n") ++
  "\n#[derive(Debug, Clone, Default, PartialEq, Serialize, Deserialize)]\n" ++
  "#[serde(default)]\n" ++
  "pub struct " ++ view.className ++ " \x7b\n"

def field (field : FieldView) : String :=
  "    pub " ++ field.ident ++ ": Option<" ++ field.typeName ++ ">,\n"

def serialization (view : ClassView) : String :=
  "\nimpl " ++ view.className ++ " \x7b\n" ++
  "    pub fn from_map(map: serde_json::Map<String, serde_json::Value>) -> " ++
    "serde_json::Result<Self> \x7b\n" ++
  "        serde_json::from_value(serde_json::Value::Object(map))\n    \x7d\n" ++
  "\n    pub fn to_map(&self) -> " ++
    "serde_json::Result<serde_json::Map<String, serde_json::Value>> \x7b\n" ++
  "        serde_json::to_value(self).and_then(serde_json::from_value)\n    \x7d\n" ++
  "\n    pub fn from_json(json: &str) -> serde_json::Result<Self> \x7b\n" ++
  "        serde_json::from_str(json)\n    \x7d\n" ++
  "\n    pub fn to_json(&self) -> serde_json::Result<String> \x7b\n" ++
  "        serde_json::to_string(self)\n    \x7d\n"

def renameAnnotation (key : String) : String :=
  "    #[serde(rename = " ++ quote key ++ ")]\n"

end Rust

def rust : Template where
  header := Rust.header
  field := Rust.field
  fieldsEnd _ := "\x7d\n"
  constructor := nothing
  accessors := nothing
  serialization := Rust.serialization
  footer _ := "\x7d\n"
  renameAnnotation := some Rust.renameAnnotation

end Recast.Template
