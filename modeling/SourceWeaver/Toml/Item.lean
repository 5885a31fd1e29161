/-
  TOML items, and tables that are filled key by key.

  A table remembers how it came to be: by its own header or braces, because a longer header passed
  through it, or because a dotted key did.  That decides what may still be added to it: no key is
  set twice, a table has at most one header, and a dotted key fills only tables that dotted keys
  have made.
-/

namespace SourceWeaver.Toml

/-- How a table came to be. -/
inductive Standing where
  /-- By its own header. -/
  | defined
  /-- Because a longer header passed through it. -/
  | implied
  /-- Because a dotted key passed through it. -/
  | dotted
deriving DecidableEq, Repr

/-- What a key can stand for. -/
inductive Item where
  | string (value : String)
  | integer (value : Int)
  | boolean (value : Bool)
  | float
  | dateTime
  | array (elements : List Item)
  | inlineTable (entries : List (String × Item))
  | table (standing : Standing) (entries : List (String × Item))
  | tables (elements : List (List (String × Item)))
deriving Inhabited

/-- The entries of a table, in the order in which their keys first appear. -/
abbrev Entries := List (String × Item)

namespace Entries

/-- The entries with the item of a key replaced, or added at the end. -/
def put (es : Entries) (key : String) (item : Item) : Entries :=
  if (es.lookup key).isSome then es.map fun e => if e.1 == key then (key, item) else e
  else es ++ [(key, item)]

/-- The entries with a new key, which must not be there yet. -/
def add (es : Entries) (key : String) (item : Item) : Option Entries :=
  if (es.lookup key).isSome then none else some (es ++ [(key, item)])

/-- Changes the last of several tables. -/
def changeLast (f : Entries → Option Entries) : List Entries → Option (List Entries)
  | [] => none
  | [last] => (f last).map ([·])
  | first :: rest => (changeLast f rest).map (first :: ·)

/-- Changes the table that a header's path leads to; tables on the way that are not there yet are
    implied, and of several tables the path leads into the last. -/
def within (f : Entries → Option Entries) : List String → Entries → Option Entries
  | [], es => f es
  | key :: rest, es =>
    match es.lookup key with
    | none => (within f rest []).map fun sub => es.put key (.table .implied sub)
    | some (.table standing sub) =>
      (within f rest sub).map fun sub => es.put key (.table standing sub)
    | some (.tables elements) =>
      (changeLast (within f rest) elements).map fun elements => es.put key (.tables elements)
    | some _ => none

/-- Sets a key in the table that a dotted path leads to.  The path may pass through tables without
    a header of their own, and must end in one that dotted keys have made. -/
def assign (key : String) (item : Item) : List String → Entries → Option Entries
  | [], es => es.add key item
  | part :: rest, es =>
    match es.lookup part with
    | none => (assign key item rest []).map fun sub => es.put part (.table .dotted sub)
    | some (.table standing sub) =>
      if standing = .defined || (rest.isEmpty && standing != .dotted) then none
      else (assign key item rest sub).map fun sub => es.put part (.table standing sub)
    | some (.tables elements) =>
      if rest.isEmpty then none
      else (changeLast (assign key item rest) elements).map fun elements =>
        es.put part (.tables elements)
    | some _ => none

/-- Gives a table its header, once. -/
def define (key : String) (es : Entries) : Option Entries :=
  match es.lookup key with
  | none => some (es.put key (.table .defined []))
  | some (.table .implied sub) => some (es.put key (.table .defined sub))
  | some _ => none

/-- Begins another of several tables. -/
def addElement (key : String) (es : Entries) : Option Entries :=
  match es.lookup key with
  | none => some (es.put key (.tables [[]]))
  | some (.tables elements) => some (es.put key (.tables (elements ++ [[]])))
  | some _ => none

end Entries

end SourceWeaver.Toml
