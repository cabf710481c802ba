import GraphqlBindings.Naming.Identifier
import GraphqlBindings.Language.Document
import GraphqlBindings.Text.Lines

namespace GraphqlBindings

open GraphqlBindings.Text

structure ClientMethod where
  name : String
  operationName : String
  kind : OperationKind
  operation : String
  request : String
  response : String
  query : String
deriving DecidableEq, Repr, Inhabited

/-- The longest run of hashes behind a quote, counted from one, or zero without a quote. `run` is
the run at this place. -/
def longestFence (run : Option Nat) : List Char → Nat
  | [] => 0
  | '"' :: rest => max 1 (longestFence (some 1) rest)
  | '#' :: rest =>
    match run with
    | some n => max (n + 1) (longestFence (some (n + 1)) rest)
    | none => longestFence none rest
  | _ :: rest => longestFence none rest

def rawString (text : String) : String :=
  let fence := String.ofList (List.replicate (max 1 (longestFence none text.toList)) '#')
  "r" ++ fence ++ "\"" ++ text ++ "\"" ++ fence

def OperationKind.variant : OperationKind → String
  | query => "Query"
  | mutation => "Mutation"
  | subscription => "Subscription"

def ClientMethod.title (m : ClientMethod) : String :=
  "\x60" ++ m.kind.keyword ++ " " ++ m.operationName ++ "\x60"

def ClientMethod.renderOperation (runtime : String) (m : ClientMethod) : String :=
  "\n/// " ++ m.title ++ "\n" ++
    "pub struct " ++ m.operation ++ ";\n\n" ++
    "impl " ++ runtime ++ "::Operation for " ++ m.operation ++ " \x7b\n" ++
    "    const NAME: &'static str = " ++ quote m.operationName ++ ";\n" ++
    "    const KIND: " ++ runtime ++ "::OperationKind = " ++ runtime ++ "::OperationKind::" ++
      m.kind.variant ++ ";\n" ++
    "    const QUERY: &'static str = " ++ rawString m.query ++ ";\n" ++
    "    type Variables = " ++ m.request ++ ";\n" ++
    "    type Response = " ++ m.response ++ ";\n" ++
    "\x7d\n"

def ClientMethod.render (runtime : String) (m : ClientMethod) : String :=
  "\n    /// run " ++ m.title ++ "\n" ++
    "    pub async fn " ++ m.name ++ "(&self, request: &" ++ m.request ++ ") -> " ++ runtime ++
      "::Result<" ++ m.response ++ "> \x7b\n" ++
    "        self.client.execute_operation::<" ++ m.operation ++ ">(request).await\n" ++
    "    \x7d\n"

def renderClient (naming : Naming) (package runtime : String) (methods : List ClientMethod) :
    String :=
  let client := naming.clientName package
  "//! generated client for the \x60" ++ package ++ "\x60 service. do not edit.\n\n" ++
    "#![allow(clippy::all)]\n\n" ++
    "#[allow(unused_imports)]\n" ++
    "use super::model::*;\n" ++
    String.join (methods.map (ClientMethod.renderOperation runtime)) ++
    "\n/// typed client for the \x60" ++ package ++ "\x60 service\n" ++
    "#[derive(Debug, Clone)]\n" ++
    "pub struct " ++ client ++ " \x7b\n" ++
    "    client: " ++ runtime ++ "::Client,\n" ++
    "\x7d\n\n" ++
    "impl " ++ client ++ " \x7b\n" ++
    "    /// create a client for the configured endpoint\n" ++
    "    pub fn new(config: " ++ runtime ++ "::ClientConfig) -> " ++ runtime ++
      "::Result<Self> \x7b\n" ++
    "        Ok(Self \x7b client: " ++ runtime ++ "::Client::new(config)? \x7d)\n" ++
    "    \x7d\n\n" ++
    "    /// wrap an existing runtime client\n" ++
    "    pub fn from_client(client: " ++ runtime ++ "::Client) -> Self \x7b\n" ++
    "        Self \x7b client \x7d\n" ++
    "    \x7d\n\n" ++
    "    /// the runtime client, for raw queries\n" ++
    "    pub fn inner(&self) -> &" ++ runtime ++ "::Client \x7b\n" ++
    "        &self.client\n" ++
    "    \x7d\n" ++
    String.join (methods.map (ClientMethod.render runtime)) ++
    "\x7d\n"

def renderModule (package : String) : String :=
  "//! generated \x60" ++ package ++ "\x60 client. do not edit.\n\n" ++
    "mod client;\nmod model;\n\npub use client::*;\npub use model::*;\n"

end GraphqlBindings
