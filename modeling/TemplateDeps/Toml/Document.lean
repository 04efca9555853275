import TemplateDeps.Toml.Grammar

/-!
# TOML documents

A document is read into its statements, and these are carried out one after the other on the root table.
A header opens a table, and the assignments after it add to that table. A byte order mark before the
first line is passed over.
-/

namespace TemplateDeps.Toml

/-- A document that is being built: its root table, and the path of the last header. -/
structure Builder where
  root : Entries
  current : List String

namespace Builder

/-- Before the first statement there is nothing, and assignments go to the root. -/
def start : Builder := ⟨[], []⟩

/-- Open a place at the end of a header's path and go there. -/
def enter (b : Builder) (path : List String) (place : String → Change) : Option Builder := do
  let last ← path.getLast?
  let root ← descend false path.dropLast (place last) .header b.root
  some ⟨root, path⟩

/-- Carry out a statement. -/
def perform (b : Builder) : Statement → Option Builder
  | .table path => b.enter path openTable
  | .row path => b.enter path openRow
  | .assign path v => do
    let root ← descend false b.current (Toml.assign path v) .header b.root
    some { b with root }

end Builder

/-- The input without a byte order mark at its head. -/
def dropMark : List Char → List Char
  | '\uFEFF' :: rest => rest
  | cs => cs

/-- Read a document: the entries of its root table. -/
def parse? (s : String) : Option Entries := do
  let cs := dropMark s.toList
  let lines ← statements (cs.length + 1) cs
  let built ← lines.foldlM Builder.perform Builder.start
  some built.root

end TemplateDeps.Toml
