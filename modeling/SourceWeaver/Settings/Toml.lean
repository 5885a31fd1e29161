/-
  Settings in TOML.

  There are two ways to read a document: as a layer, in which every setting may be left open, and
  as whole settings, in which what is left open takes its default.  Both ignore keys that name no
  setting, and both refuse a value of the wrong kind.
-/

import SourceWeaver.Settings.Layer
import SourceWeaver.Toml.Document

namespace SourceWeaver

open Toml

/-! ## Values of settings -/

/-- The text that an item holds. -/
def Toml.Item.text? : Item → Option String
  | .string value => some value
  | _ => none

/-- The truth value that an item holds. -/
def Toml.Item.boolean? : Item → Option Bool
  | .boolean value => some value
  | _ => none

/-- The natural number that an item holds. -/
def Toml.Item.count? : Item → Option Nat
  | .integer (.ofNat value) => some value
  | _ => none

/-- The value of a key that may be missing; `none` if it is there and of the wrong kind. -/
def Toml.Entries.open? (es : Entries) (key : String) (kind : Item → Option α) :
    Option (Option α) :=
  match es.lookup key with
  | none => some none
  | some item => (kind item).map some

/-- The value of a key with a default; `none` if it is there and of the wrong kind. -/
def Toml.Entries.withDefault? (es : Entries) (key : String) (kind : Item → Option α)
    (default : α) : Option α :=
  match es.lookup key with
  | none => some default
  | some item => kind item

/-! ## The two readers -/

/-- The layer that a table of settings describes. -/
def Layer.ofEntries? (es : Entries) : Option Layer := do
  let text (m : Marker) : Option (Option String) := es.open? m.key Item.text?
  return {
    keepEntryPoint := ← es.open? "keep_entry_point" Item.boolean?
    entryOpen := ← text .entryOpen
    entryClose := ← text .entryClose
    includeMarker := ← text .includeLine
    commentOpen := ← text .commentOpen
    commentClose := ← text .commentClose
    lineComment := ← text .lineComment
    exampleWord := ← text .exampleWord
    switchWord := ← text .switchWord
    indentWidth := ← es.open? "indent_width" Item.count?
    fence := ← es.open? "fence" Item.text?
    fenceInfo := ← es.open? "fence_info" Item.text? }

/-- The settings that a table of settings describes, with the defaults for what it leaves open. -/
def Settings.ofEntries? (es : Entries) : Option Settings := do
  let text (m : Marker) : Option String := es.withDefault? m.key Item.text? (marker {} m)
  return {
    keepEntryPoint := ← es.withDefault? "keep_entry_point" Item.boolean? false
    entryOpen := ← text .entryOpen
    entryClose := ← text .entryClose
    includeMarker := ← text .includeLine
    commentOpen := ← text .commentOpen
    commentClose := ← text .commentClose
    lineComment := ← text .lineComment
    exampleWord := ← text .exampleWord
    switchWord := ← text .switchWord
    indentWidth := ← es.withDefault? "indent_width" Item.count? 4
    fence := ← es.withDefault? "fence" Item.text? "```"
    fenceInfo := ← es.withDefault? "fence_info" Item.text? "" }

/-- The layer that a document describes. -/
def Layer.ofToml? (text : String) : Option Layer :=
  parse? text >>= Layer.ofEntries?

/-- The settings that a document describes by itself. -/
def Settings.ofToml? (text : String) : Option Settings :=
  parse? text >>= Settings.ofEntries?

end SourceWeaver
