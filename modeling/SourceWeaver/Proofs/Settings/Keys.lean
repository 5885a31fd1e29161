/-
  Settings key by key.

  A settings file mentions settings by twelve keys.  `Key` names them and says which values each
  takes; `Settings.get` looks a setting up.  A table of settings is a layer if every key in it has a
  value that the key takes (`Layer.isSome_ofEntries?_iff`), the layer then sets what the table
  mentions and nothing else (`Layer.get?_of_ofEntries?`), and applying it changes just that
  (`Settings.get_apply`).
-/

import SourceWeaver.Settings.Toml
import Mathlib.Tactic.Choose

namespace SourceWeaver

open Toml

/-! ## Keys and values -/

/-- The settings by the keys under which settings files mention them. -/
inductive Key where
  | keepEntryPoint
  | marker (m : Marker)
  | indentWidth
  | fence
  | fenceInfo
deriving DecidableEq, Repr

/-- What a setting is set to. -/
inductive Value where
  | truth (value : Bool)
  | text (value : String)
  | count (value : Nat)
deriving DecidableEq, Repr

namespace Key

/-- All keys, in the order of the settings. -/
def all : List Key :=
  [keepEntryPoint] ++ Marker.all.map marker ++ [indentWidth, fence, fenceInfo]

theorem mem_all (k : Key) : k ∈ all := by
  cases k with
  | keepEntryPoint => decide
  | marker m => cases m <;> decide
  | indentWidth => decide
  | fence => decide
  | fenceInfo => decide

/-- The name of a key in settings files. -/
def name : Key → String
  | keepEntryPoint => "keep_entry_point"
  | marker m => m.key
  | indentWidth => "indent_width"
  | fence => "fence"
  | fenceInfo => "fence_info"

/-- The value that an item gives a key, if it is of the right kind. -/
def value? : Key → Item → Option Value
  | keepEntryPoint, item => item.boolean?.map .truth
  | indentWidth, item => item.count?.map .count
  | marker _, item => item.text?.map .text
  | fence, item => item.text?.map .text
  | fenceInfo, item => item.text?.map .text

end Key

/-- The value that a table gives a key, if it mentions the key and the value is of the right
    kind. -/
def Toml.Entries.value? (es : Entries) (k : Key) : Option Value :=
  (es.lookup k.name).bind k.value?

/-- Whether every key that a table mentions has a value of the right kind. -/
def Toml.Entries.WellKinded (es : Entries) : Prop :=
  ∀ k : Key, ∀ item ∈ es.lookup k.name, (k.value? item).isSome = true

/-- There are finitely many keys. -/
instance (es : Entries) : Decidable es.WellKinded :=
  decidable_of_iff (∀ k ∈ Key.all, ∀ item ∈ es.lookup k.name, (k.value? item).isSome = true)
    ⟨fun h k => h k (Key.mem_all k), fun h k _ => h k⟩

/-! ## Settings and layers by keys -/

/-- The value of a setting by its key. -/
def Settings.get (s : Settings) : Key → Value
  | .keepEntryPoint => .truth s.keepEntryPoint
  | .marker m => .text (s.marker m)
  | .indentWidth => .count s.indentWidth
  | .fence => .text s.fence
  | .fenceInfo => .text s.fenceInfo

namespace Layer

/-- The text that a layer sets a marker to. -/
def marker? (l : Layer) : Marker → Option String
  | .entryOpen => l.entryOpen
  | .entryClose => l.entryClose
  | .includeLine => l.includeMarker
  | .commentOpen => l.commentOpen
  | .commentClose => l.commentClose
  | .lineComment => l.lineComment
  | .exampleWord => l.exampleWord
  | .switchWord => l.switchWord

/-- What a layer sets a key to. -/
def get? (l : Layer) : Key → Option Value
  | .keepEntryPoint => l.keepEntryPoint.map .truth
  | .marker m => (l.marker? m).map .text
  | .indentWidth => l.indentWidth.map .count
  | .fence => l.fence.map .text
  | .fenceInfo => l.fenceInfo.map .text

end Layer

/-- Applying a layer changes what it sets, and nothing else. -/
theorem Settings.get_apply (s : Settings) (l : Layer) (k : Key) :
    (l.apply s).get k = (l.get? k).getD (s.get k) := by
  have hmap {α : Type} (f : α → Value) (o : Option α) (d : α) :
      f (o.getD d) = (o.map f).getD (f d) := by
    cases o <;> rfl
  cases k with
  | keepEntryPoint => exact hmap Value.truth _ _
  | marker m => cases m <;> exact hmap Value.text _ _
  | indentWidth => exact hmap Value.count _ _
  | fence => exact hmap Value.text _ _
  | fenceInfo => exact hmap Value.text _ _

/-! ## Layers from tables -/

variable {es : Entries} {l : Layer} {α : Type} {kind : Item → Option α} {key : String}

theorem Toml.Entries.open?_eq_some_iff {read : Option α} :
    es.open? key kind = some read ↔ (es.lookup key).map kind = read.map some := by
  unfold open?
  cases es.lookup key with
  | none => cases read <;> simp
  | some item => cases hkind : kind item <;> cases read <;> simp [hkind]

theorem Toml.Entries.value?_of_open? {read : Option α} (f : α → Value)
    (h : es.open? key kind = some read) :
    (es.lookup key).bind (fun item => (kind item).map f) = read.map f := by
  rw [open?_eq_some_iff] at h
  cases hlookup : es.lookup key with
  | none =>
    rw [hlookup] at h
    cases read with
    | none => rfl
    | some value => cases h
  | some item =>
    rw [hlookup] at h
    cases read with
    | none => cases h
    | some value =>
      -- the key is there, and `open?` has read its item as the kind asks
      have hkind : kind item = some value := Option.some.inj h
      simp [hkind]

/-- What is read for a layer, key by key. -/
theorem Layer.ofEntries?_eq_some_iff :
    Layer.ofEntries? es = some l ↔
      es.open? "keep_entry_point" Item.boolean? = some l.keepEntryPoint ∧
      (∀ m, es.open? (Marker.key m) Item.text? = some (l.marker? m)) ∧
      es.open? "indent_width" Item.count? = some l.indentWidth ∧
      es.open? "fence" Item.text? = some l.fence ∧
      es.open? "fence_info" Item.text? = some l.fenceInfo := by
  constructor
  · intro h
    simp only [ofEntries?, bind, Option.bind_eq_some_iff, pure, Option.some.injEq] at h
    -- one value for each key, in the order in which they are read
    obtain ⟨keep, hkeep, entryOpen, hentryOpen, entryClose, hentryClose, includeLine, hincludeLine,
      commentOpen, hcommentOpen, commentClose, hcommentClose, lineComment, hlineComment,
      exampleWord, hexampleWord, switchWord, hswitchWord, indent, hindent, fence, hfence, info, hinfo,
      rfl⟩ := h
    refine ⟨hkeep, fun m => ?_, hindent, hfence, hinfo⟩
    cases m with
    | entryOpen => exact hentryOpen
    | entryClose => exact hentryClose
    | includeLine => exact hincludeLine
    | commentOpen => exact hcommentOpen
    | commentClose => exact hcommentClose
    | lineComment => exact hlineComment
    | exampleWord => exact hexampleWord
    | switchWord => exact hswitchWord
  · rintro ⟨hkeep, hmarker, hindent, hfence, hinfo⟩
    simp only [ofEntries?, hkeep, hmarker, hindent, hfence, hinfo, bind, Option.bind_some, pure]
    rfl

/-- A layer sets exactly the keys that its table mentions, to the values that they have there. -/
theorem Layer.get?_of_ofEntries? (h : Layer.ofEntries? es = some l) (k : Key) :
    l.get? k = es.value? k := by
  obtain ⟨hkeep, hmarker, hindent, hfence, hinfo⟩ := Layer.ofEntries?_eq_some_iff.mp h
  cases k with
  | keepEntryPoint => exact (Entries.value?_of_open? Value.truth hkeep).symm
  | marker m => exact (Entries.value?_of_open? Value.text (hmarker m)).symm
  | indentWidth => exact (Entries.value?_of_open? Value.count hindent).symm
  | fence => exact (Entries.value?_of_open? Value.text hfence).symm
  | fenceInfo => exact (Entries.value?_of_open? Value.text hinfo).symm

/-- A key that is read for a layer is left open or has a value of the right kind. -/
theorem Toml.Entries.exists_open?_iff :
    (∃ read, es.open? key kind = some read) ↔
      ∀ item ∈ es.lookup key, (kind item).isSome = true := by
  unfold open?
  cases es.lookup key with
  | none => simp
  | some item => cases hkind : kind item <;> simp [hkind]

/-- A table is a layer exactly if every key in it has a value that the key takes. -/
theorem Layer.isSome_ofEntries?_iff : (Layer.ofEntries? es).isSome = true ↔ es.WellKinded := by
  -- a key has a value of its kind exactly if reading it succeeds, whatever the kind
  have hsome (k : Key) {β : Type} (kind : Item → Option β) (f : β → Value)
      (hvalue : ∀ item, k.value? item = (kind item).map f) :
      (∀ item ∈ es.lookup k.name, (k.value? item).isSome = true) ↔
        ∃ read, es.open? k.name kind = some read := by
    simp only [Entries.exists_open?_iff, hvalue, Option.isSome_map]
  have htruth := hsome .keepEntryPoint Item.boolean? Value.truth fun _ => rfl
  have htext (m : Marker) := hsome (.marker m) Item.text? Value.text fun _ => rfl
  have hcount := hsome .indentWidth Item.count? Value.count fun _ => rfl
  have hfence := hsome .fence Item.text? Value.text fun _ => rfl
  have hinfo := hsome .fenceInfo Item.text? Value.text fun _ => rfl
  rw [Option.isSome_iff_exists]
  constructor
  · rintro ⟨l, hl⟩ k
    obtain ⟨hkeep, hmarker, hindent, hf, hi⟩ := Layer.ofEntries?_eq_some_iff.mp hl
    cases k with
    | keepEntryPoint => exact htruth.mpr ⟨_, hkeep⟩
    | marker m => exact (htext m).mpr ⟨_, hmarker m⟩
    | indentWidth => exact hcount.mpr ⟨_, hindent⟩
    | fence => exact hfence.mpr ⟨_, hf⟩
    | fenceInfo => exact hinfo.mpr ⟨_, hi⟩
  · intro h
    obtain ⟨keep, hkeep⟩ := htruth.mp (h .keepEntryPoint)
    -- eight of the keys are markers, whose texts can be chosen at once
    choose texts htexts using fun m => (htext m).mp (h (.marker m))
    obtain ⟨indent, hindent⟩ := hcount.mp (h .indentWidth)
    obtain ⟨fence, hf⟩ := hfence.mp (h .fence)
    obtain ⟨info, hi⟩ := hinfo.mp (h .fenceInfo)
    refine ⟨{
      keepEntryPoint := keep
      entryOpen := texts .entryOpen
      entryClose := texts .entryClose
      includeMarker := texts .includeLine
      commentOpen := texts .commentOpen
      commentClose := texts .commentClose
      lineComment := texts .lineComment
      exampleWord := texts .exampleWord
      switchWord := texts .switchWord
      indentWidth := indent
      fence := fence
      fenceInfo := info }, Layer.ofEntries?_eq_some_iff.mpr ⟨hkeep, fun m => ?_, hindent, hf, hi⟩⟩
    rw [← Key.name, htexts]
    cases m <;> rfl

end SourceWeaver
