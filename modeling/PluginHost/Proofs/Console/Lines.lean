import Mathlib.Data.List.TakeWhile
import Mathlib.Logic.ExistsUnique
import PluginHost.Console.Command
import PluginHost.Proofs.Text.Parts

/-!
What the lines of a console mean. A line is a command of the host just if its first word is the
host's own, and which one is settled by the words behind that. The forms of the commands are listed
here once; every other sequence of words is unknown, and the text an unknown command is reported
with is itself read as that command again.
-/
namespace PluginHost.Console

/-! ### The forms of commands -/

/-- The words for what is about plugins. -/
def pluginNames : List String := ["plugin", "plg"]

/-- What is done with one plugin or its file, by its name. -/
def operations : List (String × (String → Command)) :=
  [("load", .loadPlugin), ("unload", .unloadPlugin), ("reload", .reloadPlugin),
    ("enable", .enablePlugin), ("disable", .disablePlugin)]

/-- The words behind the host's own that make a known command. -/
inductive Form : List String → Command → Prop
  | nothing : Form [] .help
  | help : Form ["help"] .help
  | status : Form ["status"] .status
  | stop : Form ["stop"] .stop
  | list {name : String} (known : name ∈ pluginNames) : Form [name, "list"] .listPlugins
  | changed {words : List String} (known : words ∈ [["reload", "plugin"], ["r", "plg"]]) :
      Form words .refreshChanged
  | all {name : String} (known : name ∈ ["reload", "r"]) : Form [name, "all"] .refreshAll
  /-- Any word names a plugin or a file, also one that has a meaning elsewhere. -/
  | operate {name word : String} {operation : String × (String → Command)}
      (known : name ∈ pluginNames) (listed : operation ∈ operations) :
      Form [name, operation.1, word] (operation.2 word)

variable {line : String} {words : List String} {c : Command}

theorem ofWords_of_form (h : Form words c) : Command.ofWords words = c := by
  cases h with
  | nothing => rfl
  | help => rfl
  | status => rfl
  | stop => rfl
  | list known =>
      simp only [pluginNames, List.mem_cons, List.not_mem_nil, or_false] at known
      rcases known with rfl | rfl <;> rfl
  | changed known =>
      simp only [List.mem_cons, List.not_mem_nil, or_false] at known
      rcases known with rfl | rfl <;> rfl
  | all known =>
      simp only [List.mem_cons, List.not_mem_nil, or_false] at known
      rcases known with rfl | rfl <;> rfl
  | operate known listed =>
      simp only [pluginNames, operations, List.mem_cons, List.not_mem_nil, or_false] at known listed
      rcases known with rfl | rfl <;> rcases listed with rfl | rfl | rfl | rfl | rfl <;> rfl

theorem form_or_unknown (words : List String) : Form words (Command.ofWords words) ∨
    Command.ofWords words = .unknown (" ".intercalate words) := by
  have hplugin : "plugin" ∈ pluginNames := List.mem_cons_self
  have hplg : "plg" ∈ pluginNames := List.mem_cons_of_mem _ List.mem_cons_self
  have hoperate : ∀ {name word : String}, name ∈ pluginNames →
      Form [name, "load", word] (.loadPlugin word) ∧
      Form [name, "unload", word] (.unloadPlugin word) ∧
      Form [name, "reload", word] (.reloadPlugin word) ∧
      Form [name, "enable", word] (.enablePlugin word) ∧
      Form [name, "disable", word] (.disablePlugin word) := by
    intro name word hname
    have hform : ∀ operation ∈ operations, Form [name, operation.1, word] (operation.2 word) :=
      fun operation listed => .operate hname listed
    simpa [operations] using hform
  unfold Command.ofWords
  split
  · exact .inl .nothing
  · exact .inl .help
  · exact .inl .status
  · exact .inl .stop
  · exact .inl (.list hplugin)
  · exact .inl (.list hplg)
  · exact .inl (.changed (by decide))
  · exact .inl (.changed (by decide))
  · exact .inl (.all (by decide))
  · exact .inl (.all (by decide))
  · exact .inl (hoperate hplugin).1
  · exact .inl (hoperate hplg).1
  · exact .inl (hoperate hplugin).2.1
  · exact .inl (hoperate hplg).2.1
  · exact .inl (hoperate hplugin).2.2.1
  · exact .inl (hoperate hplg).2.2.1
  · exact .inl (hoperate hplugin).2.2.2.1
  · exact .inl (hoperate hplg).2.2.2.1
  · exact .inl (hoperate hplugin).2.2.2.2
  · exact .inl (hoperate hplg).2.2.2.2
  · exact .inr rfl

theorem ofWords_of_no_form (h : ∀ c, ¬ Form words c) :
    Command.ofWords words = .unknown (" ".intercalate words) :=
  (form_or_unknown words).resolve_left (h _)

/-! ### Lines -/

/-- A line has some words. -/
def LineWords (line : String) (words : List String) : Prop :=
  Text.Worded line.toList (words.map String.toList)

theorem wordsOf_eq_iff : Text.wordsOf line = words ↔ LineWords line words := by
  rw [LineWords, ← Text.words_eq_iff, Text.wordsOf]
  constructor
  · rintro rfl
    simp [Function.comp_def]
  · intro h
    rw [h]
    simp [Function.comp_def]

/-- A word, and others behind a space. -/
theorem wordsOf_cons {first : String} (word : Text.IsWord first.toList) (rest : String) :
    Text.wordsOf (first ++ " " ++ rest) = first :: Text.wordsOf rest := by
  rw [Text.wordsOf_append, Text.wordsOf_eq_singleton_iff.mpr word]
  rfl

/-- Words with single spaces between them are read back. -/
theorem wordsOf_intercalate (h : ∀ w ∈ words, Text.IsWord w.toList) :
    Text.wordsOf (" ".intercalate words) = words := by
  induction words with
  | nil => decide +kernel
  | cons first rest ih =>
      obtain ⟨hfirst, hrest⟩ := List.forall_mem_cons.mp h
      cases rest with
      | nil => rw [String.intercalate_singleton, Text.wordsOf_eq_singleton_iff.mpr hfirst]
      | cons second others => rw [String.intercalate_cons_cons, wordsOf_cons hfirst, ih hrest]

theorem isWord_of_mem_wordsOf {w : String} (h : w ∈ Text.wordsOf line) : Text.IsWord w.toList := by
  obtain ⟨word, hword, rfl⟩ := List.mem_map.mp h
  rw [String.toList_ofList]
  exact ⟨Text.ne_nil_of_mem_words hword, Text.not_of_mem_splitOnP (List.mem_filter.mp hword).1⟩

theorem isWord_hostCommand : Text.IsWord MergedRegistry.hostCommand.toList where
  some := by decide
  unbroken := by
    have hall : (MergedRegistry.hostCommand.toList.all fun x => !Text.isBlank x) = true := by decide
    exact fun x hx => (Bool.not_eq_true' _).mp (List.all_eq_true.mp hall x hx)

theorem ofLine_of_command {rest : List String}
    (h : Text.wordsOf line = MergedRegistry.hostCommand :: rest) :
    Input.ofLine line = .command (.ofWords rest) := by
  rw [Input.ofLine, h]
  exact if_pos rfl

theorem ofLine_of_text (h : (Text.wordsOf line).head? ≠ some MergedRegistry.hostCommand) :
    Input.ofLine line = .text (withoutLineEnd line) := by
  rw [Input.ofLine]
  split
  · rfl
  · next first words hwords =>
      rw [hwords, List.head?_cons, ne_eq, Option.some_inj] at h
      exact if_neg h

/-- A character that ends a line. -/
def EndsLine (c : Char) : Prop := c = '\r' ∨ c = '\n'

/-- A line is what is left of it, and behind that only what ends lines. -/
theorem withoutLineEnd_append (line : String) : ∃ ends, line = withoutLineEnd line ++ ends ∧
    (∀ c ∈ ends.toList, EndsLine c) ∧
      ∀ c ∈ (withoutLineEnd line).toList.getLast?, ¬ EndsLine c := by
  have hends : ∀ {c : Char}, (decide (c = '\r') || decide (c = '\n')) = true ↔ EndsLine c := by
    intro c
    rw [Bool.or_eq_true, decide_eq_true_iff, decide_eq_true_iff, EndsLine]
  let ends := (line.toList.reverse.takeWhile fun c => c = '\r' || c = '\n').reverse
  have hline : line.toList = (withoutLineEnd line).toList ++ ends := by
    rw [withoutLineEnd, String.toList_ofList, Text.trimEnd, ← List.reverse_append,
      List.takeWhile_append_dropWhile, List.reverse_reverse]
  refine ⟨String.ofList ends, ?_, ?_, ?_⟩
  · rw [← String.toList_inj, String.toList_append, String.toList_ofList, ← hline]
  · intro c hc
    rw [String.toList_ofList, List.mem_reverse] at hc
    have htaken := List.mem_takeWhile_imp hc
    exact hends.mp htaken
  · intro c hc hend
    rw [withoutLineEnd, String.toList_ofList, Text.trimEnd, List.getLast?_reverse] at hc
    have hnot := List.head?_dropWhile_not (fun c => c = '\r' || c = '\n') line.toList.reverse
    rw [hc] at hnot
    exact absurd (hends.mpr hend) (Bool.not_eq_true _ ▸ hnot)

/-- What a line with some words means. -/
structure Understood (line : String) (words : List String) : Prop where
  command_iff : (∃ c, Input.ofLine line = .command c) ↔
    words.head? = some MergedRegistry.hostCommand
  /-- Any other line is kept, without its end. -/
  text : words.head? ≠ some MergedRegistry.hostCommand → ∃ text ends, line = text ++ ends ∧
    (∀ c ∈ ends.toList, EndsLine c) ∧ (∀ c ∈ text.toList.getLast?, ¬ EndsLine c) ∧
    Input.ofLine line = .text text
  /-- Whatever white space stands around the words. -/
  alike : ∀ other, LineWords other words →
    ∀ c, Input.ofLine line = .command c ↔ Input.ofLine other = .command c
  known : ∀ rest, words = MergedRegistry.hostCommand :: rest → ∀ c, Form rest c →
    Input.ofLine line = .command c
  unknown : ∀ rest, words = MergedRegistry.hostCommand :: rest → (∀ c, ¬ Form rest c) →
    Input.ofLine line = .command (.unknown (" ".intercalate rest)) ∧
    Input.ofLine (MergedRegistry.hostCommand ++ " " ++ " ".intercalate rest) =
      .command (.unknown (" ".intercalate rest))

theorem head?_eq_hostCommand_iff : words.head? = some MergedRegistry.hostCommand ↔
    ∃ rest, words = MergedRegistry.hostCommand :: rest := by
  cases words <;> simp

theorem LineWords.understood (h : LineWords line words) : Understood line words := by
  have hwords : Text.wordsOf line = words := wordsOf_eq_iff.mpr h
  have hknown : ∀ rest, words = MergedRegistry.hostCommand :: rest →
      Input.ofLine line = .command (.ofWords rest) :=
    fun rest hrest => ofLine_of_command (hwords.trans hrest)
  have htext : words.head? ≠ some MergedRegistry.hostCommand →
      ∀ {other}, LineWords other words → Input.ofLine other = .text (withoutLineEnd other) :=
    fun hother other hsame => ofLine_of_text (wordsOf_eq_iff.mpr hsame ▸ hother)
  constructor
  case command_iff =>
    constructor
    · rintro ⟨c, hc⟩
      refine Classical.byContradiction fun hother => ?_
      rw [htext hother h] at hc
      cases hc
    · intro hhost
      obtain ⟨rest, hrest⟩ := head?_eq_hostCommand_iff.mp hhost
      exact ⟨_, hknown rest hrest⟩
  case text =>
    intro hother
    obtain ⟨ends, hline, hends, hlast⟩ := withoutLineEnd_append line
    exact ⟨_, ends, hline, hends, hlast, htext hother h⟩
  case alike =>
    intro other hsame c
    by_cases hhost : words.head? = some MergedRegistry.hostCommand
    · obtain ⟨rest, hrest⟩ := head?_eq_hostCommand_iff.mp hhost
      rw [hknown rest hrest, ofLine_of_command ((wordsOf_eq_iff.mpr hsame).trans hrest)]
    · rw [htext hhost h, htext hhost hsame]
      exact ⟨nofun, nofun⟩
  case known =>
    intro rest hrest c hform
    rw [hknown rest hrest, ofWords_of_form hform]
  case unknown =>
    intro rest hrest hnone
    have hall : ∀ w ∈ rest, Text.IsWord w.toList := by
      intro w hw
      have hmem : w ∈ Text.wordsOf line := by
        rw [hwords, hrest]
        exact List.mem_cons_of_mem _ hw
      exact isWord_of_mem_wordsOf hmem
    have hagain : Text.wordsOf (MergedRegistry.hostCommand ++ " " ++ " ".intercalate rest) =
        MergedRegistry.hostCommand :: rest := by
      rw [wordsOf_cons isWord_hostCommand, wordsOf_intercalate hall]
    rw [hknown rest hrest, ofLine_of_command hagain, ofWords_of_no_form hnone]
    exact ⟨rfl, rfl⟩

/-- Every line has its words, and means what these say. Any word at all can name the plugin or file
that something is to be done with. -/
theorem lines_understood (line : String) : (∃! words, LineWords line words) ∧
    (∀ words, LineWords line words → Understood line words) ∧
    ∀ name ∈ pluginNames, ∀ operation ∈ operations, ∀ word : String, Text.IsWord word.toList →
      Input.ofLine
          (MergedRegistry.hostCommand ++ " " ++ name ++ " " ++ operation.1 ++ " " ++ word) =
        .command (operation.2 word) := by
  refine ⟨⟨Text.wordsOf line, wordsOf_eq_iff.mp rfl, fun _ h => (wordsOf_eq_iff.mpr h).symm⟩,
    fun _ h => h.understood, ?_⟩
  intro name known operation listed word hword
  have hname : Text.wordsOf name = [name] := by
    simp only [pluginNames, List.mem_cons, List.not_mem_nil, or_false] at known
    rcases known with rfl | rfl <;> decide +kernel
  have hoperation : Text.wordsOf operation.1 = [operation.1] := by
    simp only [operations, List.mem_cons, List.not_mem_nil, or_false] at listed
    rcases listed with rfl | rfl | rfl | rfl | rfl <;> decide +kernel
  have hwords : Text.wordsOf
      (MergedRegistry.hostCommand ++ " " ++ name ++ " " ++ operation.1 ++ " " ++ word) =
        MergedRegistry.hostCommand :: [name, operation.1, word] := by
    rw [Text.wordsOf_append, Text.wordsOf_append, wordsOf_cons isWord_hostCommand, hname,
      hoperation, Text.wordsOf_eq_singleton_iff.mpr hword]
    rfl
  rw [ofLine_of_command hwords, ofWords_of_form (.operate known listed)]

end PluginHost.Console
