/-
  The two readers of settings.

  A table can be read as a layer, which is then put over the defaults, or as whole settings, in which
  every key has a default of its own.  Key by key both come to the same (`withDefault?_eq`), so they
  refuse the same tables and read the same settings from the others (`Settings.ofEntries?_eq`).
  What they read is said key by key in `Settings.ofEntries?_eq_some_iff`: what the table gives the
  key, or else the default.  A settings file is the text in it, read as a layer (`readers_agree`).
-/

import SourceWeaver.Discovery
import SourceWeaver.Proofs.Settings.Keys

namespace SourceWeaver

open Files Toml

variable {es : Entries} {s t : Settings}

/-! ## Key by key -/

/-- A default steps in where a key is left open, and not where its value is of the wrong kind. -/
theorem Toml.Entries.withDefault?_eq {α : Type} (es : Entries) (key : String)
    (kind : Item → Option α) (default : α) :
    es.withDefault? key kind default = (es.open? key kind).map (·.getD default) := by
  unfold withDefault? open?
  cases es.lookup key with
  | none => rfl
  | some item => cases hkind : kind item <;> simp [hkind]

/-- Settings that agree under every key are the same. -/
theorem Settings.ext_get (h : ∀ k, s.get k = t.get k) : s = t := by
  have hkeep : s.keepEntryPoint = t.keepEntryPoint := Value.truth.inj (h .keepEntryPoint)
  have hmarker (m : Marker) : s.marker m = t.marker m := Value.text.inj (h (.marker m))
  have hindent : s.indentWidth = t.indentWidth := Value.count.inj (h .indentWidth)
  have hfence : s.fence = t.fence := Value.text.inj (h .fence)
  have hinfo : s.fenceInfo = t.fenceInfo := Value.text.inj (h .fenceInfo)
  -- the texts of the markers are fields of their own
  cases s
  cases t
  rw [Settings.mk.injEq]
  exact ⟨hkeep, hmarker .entryOpen, hmarker .entryClose, hmarker .includeLine, hmarker .commentOpen,
    hmarker .commentClose, hmarker .lineComment, hmarker .exampleWord, hmarker .switchWord, hindent,
    hfence, hinfo⟩

/-! ## Tables -/

/-- Reading goes on alike behind a key if it does for every value that the key may be given. -/
theorem Toml.Entries.withDefault?_bind {α : Type} {key : String} {kind : Item → Option α}
    {default : α} {whole : α → Option Settings} {layer : Option α → Option Layer}
    (h : ∀ read, whole (read.getD default) = (layer read).map (·.apply {})) :
    (es.withDefault? key kind default >>= whole) =
      (es.open? key kind >>= layer).map (·.apply {}) := by
  rw [withDefault?_eq]
  cases es.open? key kind with
  | none => rfl
  | some read => exact h read

/-- Reading a table as whole settings comes to putting its layer over the defaults. -/
theorem Settings.ofEntries?_eq (es : Entries) :
    Settings.ofEntries? es = (Layer.ofEntries? es).map (·.apply {}) := by
  unfold Settings.ofEntries? Layer.ofEntries?
  -- one key after the other, and at last the settings with what each was given
  iterate 12 refine Entries.withDefault?_bind fun _ => ?_
  rfl

/-- What a table is read as: it must give every key that it mentions a value of the right kind, and
    the settings have these values and the defaults for what it leaves open. -/
theorem Settings.ofEntries?_eq_some_iff :
    Settings.ofEntries? es = some s ↔
      es.WellKinded ∧ ∀ k, s.get k = (es.value? k).getD (({} : Settings).get k) := by
  -- a layer over the defaults gives what it says and the default elsewhere
  have hget {l : Layer} (hl : Layer.ofEntries? es = some l) (k : Key) :
      (l.apply {}).get k = (es.value? k).getD (({} : Settings).get k) := by
    rw [Settings.get_apply, Layer.get?_of_ofEntries? hl]
  rw [ofEntries?_eq, Option.map_eq_some_iff]
  constructor
  · rintro ⟨l, hl, rfl⟩
    have hsome : (Layer.ofEntries? es).isSome = true := by rw [hl]; rfl
    exact ⟨Layer.isSome_ofEntries?_iff.mp hsome, hget hl⟩
  · rintro ⟨hkinds, hs⟩
    obtain ⟨l, hl⟩ := Option.isSome_iff_exists.mp (Layer.isSome_ofEntries?_iff.mpr hkinds)
    exact ⟨l, hl, Settings.ext_get fun k => (hget hl k).trans (hs k).symm⟩

/-! ## Texts and files -/

/-- A file that holds a text is read as this text. -/
theorem readText_of_read {w : Workspace} {p : Path} {text : String} {mode : Nat}
    (h : w.read p = .ok (.ofText text, mode)) : w.readText p = .ok text := by
  rw [Workspace.readText, h]
  dsimp only
  rw [Content.text?_ofText]

theorem Settings.ofToml?_eq (text : String) :
    Settings.ofToml? text = (Layer.ofToml? text).map (·.apply {}) := by
  rw [Settings.ofToml?, Layer.ofToml?]
  cases parse? text with
  | none => rfl
  | some es => exact Settings.ofEntries?_eq es

/-- A settings file is read as the settings that its text describes by itself: both readers refuse
    the same texts, and have the same settings under all keys for the others.  The texts that they
    accept are the tables that give every key they mention a value of the right kind, and the
    settings have these values, and the defaults for what is left open. -/
theorem readers_agree {w : Workspace} {p : Path} {text : String} (h : w.readText p = .ok text) :
    (Discovery.ofFile w p = match Settings.ofToml? text with
      | some s => .ok s
      | none => .error .malformed) ∧
    ∀ s, Settings.ofToml? text = some s ↔
      ∃ es, parse? text = some es ∧ es.WellKinded ∧
        ∀ k, s.get k = (es.value? k).getD (({} : Settings).get k) := by
  constructor
  · rw [Discovery.ofFile, Discovery.layer, h, Settings.ofToml?_eq]
    dsimp only
    cases Layer.ofToml? text with
    | none => rfl
    | some l => rfl
  · intro s
    simp only [Settings.ofToml?, bind, Option.bind_eq_some_iff, Settings.ofEntries?_eq_some_iff]

/-- A settings file that sets one key to its default, one to something else and one that is no
    setting, and another with a value of the wrong kind. -/
def twoSettingsFiles : Workspace where
  root := .directory
    [("tilde.toml", .file (.ofText "indent_width = 4\nfence = \"~~~\"\nother = [1]\n") 0o644),
      ("wide.toml", .file (.ofText "fence = \"~~~\"\nindent_width = \"wide\"\n") 0o644)]
  here := []

theorem readers_agree_on_two_files :
    (twoSettingsFiles.readText ⟨"tilde.toml"⟩ =
        .ok "indent_width = 4\nfence = \"~~~\"\nother = [1]\n" ∧
      Settings.ofToml? "indent_width = 4\nfence = \"~~~\"\nother = [1]\n" =
        some { fence := "~~~" } ∧
      Discovery.ofFile twoSettingsFiles ⟨"tilde.toml"⟩ = .ok { fence := "~~~" }) ∧
    (twoSettingsFiles.readText ⟨"wide.toml"⟩ =
        .ok "fence = \"~~~\"\nindent_width = \"wide\"\n" ∧
      Settings.ofToml? "fence = \"~~~\"\nindent_width = \"wide\"\n" = none ∧
      Discovery.ofFile twoSettingsFiles ⟨"wide.toml"⟩ = .error .malformed) := by
  have htilde : twoSettingsFiles.readText ⟨"tilde.toml"⟩ =
      .ok "indent_width = 4\nfence = \"~~~\"\nother = [1]\n" :=
    readText_of_read (show twoSettingsFiles.read ⟨"tilde.toml"⟩ = .ok (.ofText _, 0o644) from rfl)
  have hwide : twoSettingsFiles.readText ⟨"wide.toml"⟩ =
      .ok "fence = \"~~~\"\nindent_width = \"wide\"\n" :=
    readText_of_read (show twoSettingsFiles.read ⟨"wide.toml"⟩ = .ok (.ofText _, 0o644) from rfl)
  have hread : Settings.ofToml? "indent_width = 4\nfence = \"~~~\"\nother = [1]\n" =
      some { fence := "~~~" } := by decide +kernel
  have hrefused : Settings.ofToml? "fence = \"~~~\"\nindent_width = \"wide\"\n" = none := by
    decide +kernel
  refine ⟨⟨htilde, hread, ?_⟩, ⟨hwide, hrefused, ?_⟩⟩
  · rw [(readers_agree htilde).1, hread]
  · rw [(readers_agree hwide).1, hrefused]

end SourceWeaver
