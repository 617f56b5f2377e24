import PluginHost.Proofs.Console.Lines
import PluginHost.Proofs.Host.Naming

/-!
How an operator addresses plugins by a line of the console. A line is read word by
word, so an id can be named in it just if it is a word. Valid ids are. What stands in
for one that is missing or not valid is the name of a file, which may have white space
in it, or nothing but the plugin suffix.
-/
namespace PluginHost

namespace Metadata

variable {c : Char} {id : String}

theorem toNat_of_isIdChar (h : isIdChar c = true) :
    c.toNat = 95 ∨ (48 ≤ c.toNat ∧ c.toNat ≤ 57) ∨ 97 ≤ c.toNat ∧ c.toNat ≤ 122 := by
  have hrange : ∀ least greatest : UInt32,
      (decide (c.val ≥ least) && decide (c.val ≤ greatest)) = true →
        least.toNat ≤ c.toNat ∧ c.toNat ≤ greatest.toNat := by
    intro least greatest hbetween
    obtain ⟨hleast, hgreatest⟩ := Bool.and_eq_true_iff.mp hbetween
    exact ⟨UInt32.le_iff_toNat_le.mp (of_decide_eq_true hleast),
      UInt32.le_iff_toNat_le.mp (of_decide_eq_true hgreatest)⟩
  simp only [isIdChar, Bool.or_eq_true, beq_iff_eq] at h
  rcases h with (hlower | hdigit) | rfl
  · exact .inr (.inr (hrange 97 122 hlower))
  · exact .inr (.inl (hrange 48 57 hdigit))
  · exact .inl rfl

theorem not_isBlank_of_isIdChar (h : isIdChar c = true) : Text.isBlank c = false := by
  have hrange := toNat_of_isIdChar h
  rw [← Bool.not_eq_true]
  intro hblank
  simp only [Text.isBlank, Bool.or_eq_true, Bool.and_eq_true, decide_eq_true_eq,
    beq_iff_eq] at hblank
  omega

/-- A valid id is a word. -/
theorem isWord_of_isValidId (h : isValidId id = true) : Text.IsWord id.toList := by
  simp only [isValidId, Bool.and_eq_true, bne_iff_ne, List.all_eq_true] at h
  obtain ⟨⟨hsome, _⟩, hchars⟩ := h
  exact ⟨by simpa using hsome, fun c hc => not_isBlank_of_isIdChar (hchars c hc)⟩

end Metadata

namespace Console

variable {operation id : String} {words : List String}

/-- The line that has something done with the plugin of an id. -/
def pluginLine (operation id : String) : String :=
  MergedRegistry.hostCommand ++ " " ++ "plugin" ++ " " ++ operation ++ " " ++ id

theorem ofLine_pluginLine (hoperation : Text.wordsOf operation = [operation]) :
    Input.ofLine (pluginLine operation id) =
      .command (.ofWords ("plugin" :: operation :: Text.wordsOf id)) := by
  have hcommand : Text.wordsOf MergedRegistry.hostCommand = [MergedRegistry.hostCommand] := by
    decide +kernel
  have hplugin : Text.wordsOf "plugin" = ["plugin"] := by decide +kernel
  have hwords : Text.wordsOf (pluginLine operation id) =
      MergedRegistry.hostCommand :: "plugin" :: operation :: Text.wordsOf id := by
    rw [pluginLine, Text.wordsOf_append, Text.wordsOf_append, Text.wordsOf_append, hcommand, hplugin,
      hoperation]
    rfl
  exact ofLine_of_command hwords

/-- It takes exactly one word to name a plugin. -/
theorem ofWords_unload : Command.ofWords ("plugin" :: "unload" :: words) = .unloadPlugin id ↔
    words = [id] := by
  rcases words with _ | ⟨word, _ | ⟨next, rest⟩⟩
  · exact ⟨nofun, nofun⟩
  · rw [List.singleton_inj]
    exact Command.unloadPlugin.injEq word id ▸ Iff.rfl
  · exact ⟨nofun, nofun⟩

theorem ofWords_reload : Command.ofWords ("plugin" :: "reload" :: words) = .reloadPlugin id ↔
    words = [id] := by
  rcases words with _ | ⟨word, _ | ⟨next, rest⟩⟩
  · exact ⟨nofun, nofun⟩
  · rw [List.singleton_inj]
    exact Command.reloadPlugin.injEq word id ▸ Iff.rfl
  · exact ⟨nofun, nofun⟩

theorem unload_line : Input.ofLine (pluginLine "unload" id) = .command (.unloadPlugin id) ↔
    Text.IsWord id.toList := by
  rw [ofLine_pluginLine (by decide +kernel), Input.command.injEq, ofWords_unload,
    Text.wordsOf_eq_singleton_iff]

theorem reload_line : Input.ofLine (pluginLine "reload" id) = .command (.reloadPlugin id) ↔
    Text.IsWord id.toList := by
  rw [ofLine_pluginLine (by decide +kernel), Input.command.injEq, ofWords_reload,
    Text.wordsOf_eq_singleton_iff]

end Console

namespace Host

open Console

variable {h : Host} {id : String}

/-- In every run, a tracked plugin is unloaded and loaded again by the lines that name its id just
if that is a word. It is one if it is valid; otherwise it is the name of the plugin's file without
the plugin suffix. -/
theorem Reachable.addressed (hreach : h.Reachable) (tracked : id ∈ h.table.ids) :
    (Input.ofLine (pluginLine "unload" id) = .command (.unloadPlugin id) ↔
      Text.IsWord id.toList) ∧
    (Input.ofLine (pluginLine "reload" id) = .command (.reloadPlugin id) ↔
      Text.IsWord id.toList) ∧
    (Metadata.isValidId id = true → Text.IsWord id.toList) ∧
    ∃ u, h.table.unit? id = some u ∧
      (Metadata.isValidId id = true ∨ id = dropSuffix u.fileName h.settings.suffix) := by
  refine ⟨unload_line, reload_line, Metadata.isWord_of_isValidId, ?_⟩
  obtain ⟨u, hu⟩ := Option.ne_none_iff_exists'.mp (mt UnitTable.unit?_eq_none_iff.mp (not_not.mpr tracked))
  have hnamed := hreach.each_named id u hu
  rw [PluginUnit.Named, hreach.consistent.id_eq hu] at hnamed
  exact ⟨u, hu, hnamed⟩

end Host

namespace HostWitness

/-- A loader whose code says nothing about itself. -/
def taciturn : Loader :=
  { loader with load := fun _ _ _ => .ok ⟨{ code "" "" [] with metadata := .ok none }, []⟩ }

/-- A host that loaded a plugin from a file with a space in its name. -/
def spaced : Host :=
  .perform (.create settings ⟨"en", []⟩ taciturn .empty (.create 1 .spawn .none))
    (.load ⟨"my plugin.mcdr"⟩)

theorem spaced_reachable : spaced.Reachable :=
  (Host.Reachable.create _ _ _ _ _).perform (.load ⟨"my plugin.mcdr"⟩)

theorem ids_spaced : spaced.table.ids = ["my plugin"] := by
  decide +kernel

/-- No line addresses it. -/
theorem spaced_unaddressed : ¬ ∀ (h : Host) (id : String), h.Reachable → id ∈ h.table.ids →
    Console.Input.ofLine (Console.pluginLine "unload" id) = .command (.unloadPlugin id) := by
  intro hall
  have htracked : "my plugin" ∈ spaced.table.ids := ids_spaced ▸ List.mem_cons_self
  exact absurd (hall spaced "my plugin" spaced_reachable htracked) (by decide +kernel)

theorem busy_addressed : busy.Reachable ∧ "core" ∈ busy.table.ids ∧
    Console.Input.ofLine "!!MCDR plugin unload core" = .command (.unloadPlugin "core") ∧
    Console.Input.ofLine "!!MCDR plugin reload core" = .command (.reloadPlugin "core") := by
  have hcore : "core" ∈ busy.table.ids := by decide +kernel
  obtain ⟨hunload, hreload, hword, _⟩ := busy_reachable.addressed hcore
  have hvalid := hword (by decide)
  exact ⟨busy_reachable, hcore, hunload.mpr hvalid, hreload.mpr hvalid⟩

end HostWitness

end PluginHost
