import AliasBinding.Json.Document
import AliasBinding.Manifest.AliasShape

/-!
# Manifests

A manifest lists the aliases of a module.  Its text is read from left to right: the members of
the manifest, the list of aliases and the namespaces of an alias are taken as they come, so a
value of the wrong shape is found there before any later fault of the text.  The other members
of an alias are read to the end of the alias before they are looked at.
-/

namespace AliasBinding

open Json

/-- The aliases of a module. -/
structure Manifest where
  /-- The name of the module, if it is given. -/
  module? : Option String
  aliases : List Alias

namespace Manifest

/-- The lists that may be open inside an alias: the manifest, the list of aliases and the alias
itself are open around it. -/
def aliasDepth : Nat := maxDepth - 3

/-- A mismatch as a fault of the text. -/
def mismatch {α : Type} (x : Read α) : Except Fault α := x.mapError .mismatch

/-- Reads a string. -/
def readString : Node → Except Fault String
  | .text read => read.decode
  | node => .error node.refuse

/-- Reads a string or null. -/
def readOptionalString : Node → Except Fault (Option String)
  | .word (.ok .null) => .ok none
  | .word (.error fault) => .error fault
  | node => some <$> readString node

/-- Reads an array, item by item. -/
def readList {α : Type} (read : Node → Except Fault α) : Node → Except Fault (List α)
  | .array items ending => do
    let values ← items.mapM read
    ending
    return values
  | node => .error node.refuse

/-- Refuses a second member of the same name. -/
def refuseSecond {α : Type} (name : String) : Option α → Except Fault Unit
  | some _ => .error (.mismatch (.duplicateField name))
  | none => .ok ()

/-- The parts of an alias that have been read; the members are in reverse. -/
structure AliasParts where
  namespaces? : Option (List String) := none
  members : List (String × Json) := []

/-- Reads a member of an alias. -/
def AliasParts.read (parts : AliasParts) (member : Quoted × Node) :
    Except Fault AliasParts := do
  let name ← member.1.decode
  if name = "namespaces" then
    refuseSecond name parts.namespaces?
    let names ← readList readString member.2
    return { parts with namespaces? := some names }
  else
    let value ← member.2.toJson aliasDepth
    return { parts with members := (name, value) :: parts.members }

/-- Reads an alias. -/
def readAlias : Node → Except Fault Alias
  | .object members ending => do
    let parts ← members.foldlM AliasParts.read {}
    ending
    let member ← mismatch (Member.ofMembers parts.members.reverse)
    return ⟨.ofList (parts.namespaces?.getD []), member⟩
  | node => .error node.refuse

/-- The parts of a manifest that have been read. -/
structure Parts where
  module? : Option (Option String) := none
  aliases? : Option (List Alias) := none

/-- Reads a member of a manifest. -/
def Parts.read (parts : Parts) (member : Quoted × Node) : Except Fault Parts := do
  let name ← member.1.decode
  if name = "module" then
    refuseSecond name parts.module?
    let module ← readOptionalString member.2
    return { parts with module? := some module }
  else if name = "aliases" then
    refuseSecond name parts.aliases?
    let aliases ← readList readAlias member.2
    return { parts with aliases? := some aliases }
  else
    member.2.pass
    return parts

/-- Reads a manifest that is written as an array of its fields. -/
def readFields (ending : Except Fault Unit) : List Node → Except Fault Manifest
  | [] => do
    ending
    return ⟨none, []⟩
  | [module] => do
    let module? ← readOptionalString module
    ending
    return ⟨module?, []⟩
  | module :: aliases :: rest => do
    let module? ← readOptionalString module
    let aliases ← readList readAlias aliases
    if rest.isEmpty then
      ending
      return ⟨module?, aliases⟩
    else .error .malformed

/-- Reads a manifest. -/
def readRoot : Node → Except Fault Manifest
  | .object members ending => do
    let parts ← members.foldlM Parts.read {}
    ending
    return ⟨parts.module?.getD none, parts.aliases?.getD []⟩
  | .array items ending => readFields ending items
  | node => .error node.refuse

/-- Reads the text of a manifest. -/
def ofText (s : String) : Except Fault Manifest := do
  let d := Document.ofText s
  let manifest ← readRoot d.root
  d.afterRoot
  return manifest

/-- The record of a manifest, with all its fields. -/
def toJson (m : Manifest) : Json := .object [
  ("module", TypeExpr.optionalText m.module?),
  ("aliases", .array (m.aliases.map Alias.toJson))]

end Manifest

end AliasBinding
