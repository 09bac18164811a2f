import QueryPlan.DataType.Parser
import QueryPlan.Schema.Basic
import QueryPlan.Yaml.Document

/-! # Schema documents
A schema may be written as a YAML document with a list `columns`, whose items give the `name` and the
`type` of a column. Other keys are ignored, a key that is asked for may stand only once, and any scalar
is taken for a name as it is written. A document is read from its start, and the first fault counts; the
place where a document breaks off is a fault, and so is one reference more than it may have followed. -/

namespace QueryPlan.Schema

open Yaml (Document Node)

/-- The fault of a document, with its cause if that is a type. -/
abbrev DocumentFault := Option TypeError

/-- A **reading** of a part of a document: it counts the references that may still be followed. -/
abbrev Reading (α : Type) := StateT Nat (Except DocumentFault) α

/-- The columns of a document, as far as they were read: name and type of each. -/
abbrev Columns := List (String × DataType)

/-- Takes away one of the references that may still be followed. -/
def countReference : Reading Unit := do
  match ← get with
  | 0 => throw none
  | left + 1 => set left

/-- Follows a reference; any other node stands for itself. -/
def follow (document : Document) (node : Node) : Reading Node := do
  if let .reference _ := node then countReference
  match document.node? node with
  | some node => return node
  | none => throw none

/-- Reads the text of a scalar. -/
def readScalar (document : Document) (node : Node) : Reading String := do
  match ← follow document node with
  | .scalar text _ => return text
  | _ => throw none

/-- Reads a type. -/
def readType (document : Document) (node : Node) : Reading DataType := do
  match DataType.parse (← readScalar document node) with
  | .ok type => return type
  | .error cause => throw (some cause)

/-- Reads the entries of a column, given its name and its type as far as they were read. -/
def readColumnEntries (document : Document) (isWhole : Bool) (name : Option String)
    (type : Option DataType) : List Node → Reading (String × DataType)
  | [] =>
    match isWhole, name, type with
    | true, some name, some type => return (name, type)
    | _, _, _ => throw none
  | [_] => throw none
  | key :: value :: parts => do
    let key ← readScalar document key
    if key = "name" then
      if name.isSome then throw none
      else readColumnEntries document isWhole (some (← readScalar document value)) type parts
    else if key = "type" then
      if type.isSome then throw none
      else readColumnEntries document isWhole name (some (← readType document value)) parts
    else readColumnEntries document isWhole name type parts

/-- Reads a column. -/
def readColumn (document : Document) (node : Node) : Reading (String × DataType) := do
  match ← follow document node with
  | .mapping parts isWhole => readColumnEntries document isWhole none none parts
  | _ => throw none

/-- Reads the list of columns; nothing at all stands for no columns. -/
def readColumns (document : Document) (node : Node) : Reading Columns := do
  match ← follow document node with
  | .sequence items isWhole =>
    let columns ← items.mapM (readColumn document)
    if isWhole then return columns else throw none
  | .scalar text isPlain => if text.isEmpty && isPlain then return [] else throw none
  | _ => throw none

/-- Reads the entries of a document, given its columns if they were read. -/
def readRootEntries (document : Document) (isWhole : Bool) (columns : Option Columns) :
    List Node → Reading Columns
  | [] =>
    match isWhole, columns with
    | true, some columns => return columns
    | _, _ => throw none
  | [_] => throw none
  | key :: value :: parts => do
    let key ← readScalar document key
    if key = "columns" then
      if columns.isSome then throw none
      else readRootEntries document isWhole (some (← readColumns document value)) parts
    else readRootEntries document isWhole columns parts

/-- Reads the root of a document. -/
def readRoot (document : Document) (node : Node) : Reading Columns := do
  match ← follow document node with
  | .mapping parts isWhole => readRootEntries document isWhole none parts
  | _ => throw none

/-- Reads the columns of a document. -/
def readDocument (document : Document) : Except DocumentFault Columns := do
  match document.root? with
  | some root =>
    let columns ← (readRoot document root).run' document.maxReferences
    -- a fault of a type in front of the break has been reported already
    if document.isWhole then return columns else throw none
  | none => throw none

/-- The schema of a document. -/
def ofDocument (text : String) : Except PlanError Schema :=
  match readDocument (.ofString text) with
  | .ok columns => ofColumns (columns.map Prod.fst) (columns.map Prod.snd)
  | .error cause => .error (.schemaDocument cause)

end QueryPlan.Schema
