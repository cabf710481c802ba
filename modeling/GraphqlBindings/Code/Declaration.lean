import GraphqlBindings.Text.Lines
import GraphqlBindings.Naming.Identifier

namespace GraphqlBindings

open GraphqlBindings.Text

inductive CodeType where
  | named (name : String)
  | option (inner : CodeType)
  | vec (inner : CodeType)
  | boxed (inner : CodeType)
deriving DecidableEq, Repr, Inhabited

namespace CodeType

def text : CodeType → String
  | named name => name
  | option inner => "Option<" ++ inner.text ++ ">"
  | vec inner => "Vec<" ++ inner.text ++ ">"
  | boxed inner => "Box<" ++ inner.text ++ ">"

def isOption : CodeType → Bool
  | option _ => true
  | _ => false

end CodeType

structure FieldDeclaration where
  ident : String
  key : String
  type : CodeType
  doc : Option String
deriving DecidableEq, Repr, Inhabited

structure Variant where
  ident : String
  value : String
  doc : Option String
deriving DecidableEq, Repr, Inhabited

inductive DeclarationBody where
  | alias (type : CodeType)
  | variants (variants : List Variant)
  | fields (fields : List FieldDeclaration)
deriving DecidableEq, Repr, Inhabited

structure Declaration where
  name : String
  doc : Option String
  body : DeclarationBody
deriving DecidableEq, Repr, Inhabited

def docComment (indent : String) (doc : Option String) : String :=
  match doc with
  | some text => markedLines indent "///" (lines text)
  | none => ""

def FieldDeclaration.render (f : FieldDeclaration) : String :=
  docComment "    " f.doc ++
    (if Naming.stripRawMark f.ident = f.key then ""
      else "    #[serde(rename = " ++ quote f.key ++ ")]\n") ++
    (if f.type.isOption then
      "    #[serde(default, skip_serializing_if = \"Option::is_none\")]\n" else "") ++
    "    pub " ++ f.ident ++ ": " ++ f.type.text ++ ",\n"

def Variant.render (v : Variant) : String :=
  docComment "    " v.doc ++ "    #[serde(rename = " ++ quote v.value ++ ")]\n" ++
    "    " ++ v.ident ++ ",\n"

def Variant.renderArm (owner : String) (v : Variant) : String :=
  "            " ++ owner ++ "::" ++ v.ident ++ " => " ++ quote v.value ++ ",\n"

def renderAlias (name : String) (type : CodeType) : String :=
  "pub type " ++ name ++ " = " ++ type.text ++ ";\n"

def renderVariants (name : String) (variants : List Variant) : String :=
  "#[derive(Debug, Clone, Copy, PartialEq, Eq, Hash, Serialize, Deserialize)]\n" ++
    "pub enum " ++ name ++ " \x7b\n" ++ String.join (variants.map Variant.render) ++ "\x7d\n\n" ++
    "impl " ++ name ++ " \x7b\n" ++
    "    /// graphql name of the value\n" ++
    "    pub fn as_str(&self) -> &'static str \x7b\n" ++
    "        match *self \x7b\n" ++
    String.join (variants.map (Variant.renderArm name)) ++
    "        \x7d\n    \x7d\n\x7d\n"

def renderFields (name : String) (fields : List FieldDeclaration) : String :=
  "#[derive(Debug, Clone, PartialEq, Serialize, Deserialize)]\n" ++
    if fields.isEmpty then "pub struct " ++ name ++ " \x7b\x7d\n"
    else "pub struct " ++ name ++ " \x7b\n" ++
      String.join (fields.map FieldDeclaration.render) ++ "\x7d\n"

def Declaration.render (d : Declaration) : String :=
  docComment "" d.doc ++ match d.body with
    | .alias type => renderAlias d.name type
    | .variants variants => renderVariants d.name variants
    | .fields fields => renderFields d.name fields

structure Model where
  package : String
  declarations : List Declaration
deriving DecidableEq, Repr, Inhabited

def Model.render (m : Model) : String :=
  "//! generated types for the \x60" ++ m.package ++ "\x60 service. do not edit.\n\n" ++
    "#![allow(clippy::all)]\n\n" ++
    "use serde::\x7bDeserialize, Serialize\x7d;\n" ++
    String.join (m.declarations.map fun d => "\n" ++ d.render)

end GraphqlBindings
