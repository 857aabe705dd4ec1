import ExtensionCatalogue.Number.Binary64

/-!
# TOML values

A document is a table that its statements build up. How a table came about decides what may still
be added to it: an inline table is closed, a table of a header may not be named by another header
or extended by dotted keys, and a table of dotted keys may not be named by a header. A table that
only stands in the path of a header may still get a header of its own.
-/

namespace ExtensionCatalogue.Toml

inductive TableKind where
  | header
  | implicit
  | dotted
  | inline
  deriving DecidableEq, Repr

inductive Value where
  | text (s : String)
  | integer (i : Int)
  | real (x : Binary64)
  | boolean (b : Bool)
  | dateTime
  | array (items : List Value)
  | table (kind : TableKind) (entries : List (String × Value))
  /-- The tables of headers in double brackets. -/
  | tables (items : List (TableKind × List (String × Value)))
  deriving Repr

abbrev Entries := List (String × Value)

/-- The entries with another value for a key that is among them. -/
def setEntry (es : Entries) (key : String) (v : Value) : Entries :=
  es.map fun e => if e.1 = key then (key, v) else e

/-- Change the table at the end of a path. Tables that are missing on the way are made: by dotted
keys if `dotted`, else by a header. Of the tables of double brackets the last one is meant. -/
def modifyAt (dotted : Bool) (change : TableKind → Entries → Option Entries) :
    List String → TableKind → Entries → Option Entries
  | [], kind, es => change kind es
  | key :: path, _, es =>
    match es.lookup key with
    | none => do
      let kind : TableKind := if dotted then .dotted else .implicit
      let sub ← modifyAt dotted change path kind []
      return es ++ [(key, .table kind sub)]
    | some (.table kind sub) =>
      if kind = .inline ∨ (dotted ∧ kind = .header) then none
      else do
        let sub ← modifyAt dotted change path kind sub
        return setEntry es key (.table kind sub)
    | some (.tables items) =>
      match items.getLast? with
      | some (kind, sub) => do
        let sub ← modifyAt dotted change path kind sub
        return setEntry es key (.tables (items.dropLast ++ [(kind, sub)]))
      | none => none
    | some _ => none

/-- A table with a new entry, which dotted keys may put into a table of dotted keys. -/
def assign (path : List String) (key : String) (v : Value) (kind : TableKind) (es : Entries) :
    Option Entries :=
  modifyAt true (fun kind es =>
    if (kind == .dotted) == path.isEmpty then none
    else if (es.lookup key).isSome then none
    else some (es ++ [(key, v)])) path kind es

inductive Statement where
  | header (path : List String) (key : String)
  | arrayHeader (path : List String) (key : String)
  | assign (path : List String) (key : String) (v : Value)

/-- A document so far: its entries and the path of the header that holds now. -/
structure Document where
  entries : Entries
  current : List String

namespace Document

def empty : Document := ⟨[], []⟩

def step (d : Document) : Statement → Option Document
  | .header path key => do
    let entries ← modifyAt false (fun _ es =>
      match es.lookup key with
      | none => some (es ++ [(key, .table .header [])])
      | some (.table .implicit sub) => some (setEntry es key (.table .header sub))
      | some _ => none) path .header d.entries
    return ⟨entries, path ++ [key]⟩
  | .arrayHeader path key => do
    let entries ← modifyAt false (fun _ es =>
      match es.lookup key with
      | none => some (es ++ [(key, .tables [(.header, [])])])
      | some (.tables items) => some (setEntry es key (.tables (items ++ [(.header, [])])))
      | some _ => none) path .header d.entries
    return ⟨entries, path ++ [key]⟩
  | .assign path key v => do
    let entries ← modifyAt false (Toml.assign path key v) d.current .header d.entries
    return { d with entries }

def ofStatements? (ss : List Statement) : Option Document :=
  ss.foldlM step empty

end Document

end ExtensionCatalogue.Toml
