import PluginHost.Proofs.Fallible
import PluginHost.Proofs.Text.Parts
import PluginHost.Version.Basic

/-!
Which texts are versions, and what the others are refused for. A text is cut at
its first plus sign, what stands before that at its first hyphen, and the rest
falls into parts between dots; the grammar says what each piece may be, and in
which order mistakes are reported. Reading a version follows the grammar.
-/
namespace PluginHost

namespace Version

variable {text part : List Char}

/-! ### Extras -/

/-- Nothing, or fields with dots between them. -/
def Fielded (field : List Char → Prop) (text : List Char) : Prop :=
  text = [] ∨ ∃ fields, Text.Parts '.' text fields ∧ ∀ f ∈ fields, field f

/-- A field of a build: ASCII letters, digits and hyphens, at least one of them. -/
def BuildField (field : List Char) : Prop :=
  field ≠ [] ∧ ∀ c ∈ field, c.isAlphanum ∨ c = '-'

/-- A field of a pre-release: if it has digits only, it is a zero or does not start with one. -/
def PreField (field : List Char) : Prop :=
  BuildField field ∧ ((∀ c ∈ field, c.isDigit) → field = ['0'] ∨ field.head? ≠ some '0')

/-- A text that may stand behind the plus sign. -/
def BuildText (text : List Char) : Prop := Fielded BuildField text

/-- A text that may stand behind the hyphen. -/
def PreText (text : List Char) : Prop := Fielded PreField text

namespace Extra

theorem isField_iff : isField part = true ↔ BuildField part := by
  simp [isField, isFieldChar, BuildField]

theorem hasLeadingZero_eq_false_iff : hasLeadingZero part = false ↔
    ((∀ c ∈ part, c.isDigit) → part = ['0'] ∨ part.head? ≠ some '0') := by
  by_cases hdigits : ∀ c ∈ part, c.isDigit = true
  · have hnumeric : isNumeric part = true := List.all_eq_true.mpr hdigits
    rw [hasLeadingZero, hnumeric, forall_prop_of_true hdigits]
    rcases part with _ | ⟨c, _ | ⟨d, rest⟩⟩
    · simp
    · simpa using Classical.em (c = '0')
    · simp
  · have hother : isNumeric part = false := by
      rw [← Bool.not_eq_true]
      exact fun hnumeric => hdigits (List.all_eq_true.mp hnumeric)
    simp [hasLeadingZero, hother, hdigits]

theorem fielded_iff {allowed : List Char → Bool} {field : List Char → Prop}
    (agree : ∀ f, allowed f = true ↔ field f) :
    (String.ofList text == "" || (fields (String.ofList text)).all allowed) = true ↔
      Fielded field text := by
  rw [Bool.or_eq_true, beq_iff_eq, String.ofList_eq_empty_iff, fields, String.toList_ofList,
    List.all_eq_true, Fielded]
  simp only [agree]
  refine or_congr_right ⟨fun hall => ?_, ?_⟩
  · exact ⟨_, Text.splitOn_eq_iff.mp rfl, hall⟩
  · rintro ⟨fields, hparts, hall⟩
    rwa [Text.splitOn_eq_iff.mpr hparts]

theorem isBuild_iff : isBuild (String.ofList text) = true ↔ BuildText text :=
  fielded_iff fun _ => isField_iff

theorem isPre_iff : isPre (String.ofList text) = true ↔ PreText text :=
  fielded_iff fun f => by
    rw [Bool.and_eq_true, isField_iff, Bool.not_eq_true', hasLeadingZero_eq_false_iff, PreField]

end Extra

end Version

/-! ### Components -/

namespace Component

/-- The texts that are wildcards. -/
def wildcardTexts : List (List Char) := [['*'], ['x'], ['X']]

/-- What a part between dots stands for. -/
inductive Reads (allow : Bool) : List Char → Component → Prop
  | number {part : List Char} (numeral : Text.Numeral part) :
      Reads allow part (.number (Text.placeValue part))
  | wildcard {part : List Char} (allowed : allow = true) (wild : part ∈ wildcardTexts) :
      Reads allow part .wildcard

/-- What a part between dots is refused for. -/
inductive Refused (allow : Bool) : List Char → VersionError → Prop
  | wildcard {part : List Char} (forbidden : allow = false) (wild : part ∈ wildcardTexts) :
      Refused allow part (.wildcardNotAllowed (String.ofList part))
  | number {part : List Char} (tame : part ∉ wildcardTexts) (other : ¬ Text.Numeral part) :
      Refused allow part (.invalidComponent (String.ofList part))

variable {allow : Bool} {part : List Char} {c : Component} {e : VersionError}

theorem isWildcardText_iff : isWildcardText part = true ↔ part ∈ wildcardTexts := by
  simp [isWildcardText, wildcardTexts, or_assoc]

theorem not_wildcard_of_numeral (numeral : Text.Numeral part) : part ∉ wildcardTexts := by
  intro hwild
  have hdigits := numeral.digits
  simp only [wildcardTexts, List.mem_cons, List.not_mem_nil, or_false] at hwild
  rcases hwild with rfl | rfl | rfl <;> simp at hdigits

theorem parse_of_reads (unsigned : '+' ∉ part) (h : Reads allow part c) :
    parse allow part = .ok c := by
  cases h with
  | number numeral =>
      rw [parse, if_neg (isWildcardText_iff.not.mpr (not_wildcard_of_numeral numeral)),
        (Text.word?_eq_some_iff unsigned).mpr ⟨numeral, rfl⟩]
  | wildcard allowed wild => rw [parse, if_pos (isWildcardText_iff.mpr wild), if_pos allowed]

theorem parse_of_refused (unsigned : '+' ∉ part) (h : Refused allow part e) :
    parse allow part = .error e := by
  cases h with
  | wildcard forbidden wild =>
      rw [parse, if_pos (isWildcardText_iff.mpr wild), if_neg (by simp [forbidden])]
  | number tame other =>
      have hnone : Text.word? part = none := by
        refine Option.eq_none_iff_forall_ne_some.mpr fun n hn => other ?_
        exact ((Text.word?_eq_some_iff unsigned).mp hn).1
      rw [parse, if_neg (isWildcardText_iff.not.mpr tame), hnone]

/-- Every part stands for something, or there is a reason to refuse it. -/
theorem reads_or_refused (allow : Bool) (part : List Char) :
    (∃ c, Reads allow part c) ∨ ∃ e, Refused allow part e := by
  by_cases hwild : part ∈ wildcardTexts
  · cases allow with
    | false => exact .inr ⟨_, .wildcard rfl hwild⟩
    | true => exact .inl ⟨_, .wildcard rfl hwild⟩
  · by_cases hnumeral : Text.Numeral part
    · exact .inl ⟨_, .number hnumeral⟩
    · exact .inr ⟨_, .number hwild hnumeral⟩

end Component

/-! ### Versions -/

namespace Version

/-- What comes of a text that was cut into a core, a pre-release and a build. Mistakes are looked
for in this order, and among the parts of the core from left to right. -/
inductive Reading (allow : Bool) (core : List Char) (pre build : Option (List Char)) :
    Except VersionError Version → Prop
  | badBuild {extra : List Char} (given : build = some extra) (bad : ¬ BuildText extra) :
      Reading allow core pre build (.error (.invalidExtra (String.ofList extra)))
  | badPre {extra : List Char} (build_ok : ∀ b ∈ build, BuildText b) (given : pre = some extra)
      (bad : ¬ PreText extra) :
      Reading allow core pre build (.error (.invalidExtra (String.ofList extra)))
  | empty (build_ok : ∀ b ∈ build, BuildText b) (pre_ok : ∀ p ∈ pre, PreText p)
      (nothing : core = []) : Reading allow core pre build (.error .empty)
  | badPart {before behind : List (List Char)} {part : List Char} {e : VersionError}
      (build_ok : ∀ b ∈ build, BuildText b) (pre_ok : ∀ p ∈ pre, PreText p) (something : core ≠ [])
      (split : Text.Parts '.' core (before ++ part :: behind))
      (good : ∀ p ∈ before, ∃ c, Component.Reads allow p c) (bad : Component.Refused allow part e) :
      Reading allow core pre build (.error e)
  | version {parts : List (List Char)} {components : List Component}
      (build_ok : ∀ b ∈ build, BuildText b) (pre_ok : ∀ p ∈ pre, PreText p) (something : core ≠ [])
      (split : Text.Parts '.' core parts)
      (reads : List.Forall₂ (Component.Reads allow) parts components) :
      Reading allow core pre build
        (.ok ⟨components, pre.map String.ofList, build.map String.ofList⟩)

variable {allow : Bool} {text : String} {head core extra : List Char} {pre build : Option (List Char)}
  {r : Except VersionError Version}

theorem checkExtra_of_ok {allowed : String → Bool} {valid : List Char → Prop}
    {given : Option (List Char)} (agree : ∀ {cs}, allowed (String.ofList cs) = true ↔ valid cs)
    (h : ∀ cs ∈ given, valid cs) : checkExtra allowed given = .ok (given.map String.ofList) := by
  cases given with
  | none => rfl
  | some cs => rw [checkExtra, if_pos (agree.mpr (h cs rfl))]; rfl

theorem checkExtra_of_bad {allowed : String → Bool} {valid : List Char → Prop}
    (agree : ∀ {cs}, allowed (String.ofList cs) = true ↔ valid cs) (bad : ¬ valid extra) :
    checkExtra allowed (some extra) = .error (.invalidExtra (String.ofList extra)) := by
  rw [checkExtra, if_neg (agree.not.mpr bad)]

theorem parse_of_cut (plus : Text.Cut '+' text.toList head build) (hyphen : Text.Cut '-' head core pre) :
    parse allow text = (do
      let build ← checkExtra Extra.isBuild build
      let pre ← checkExtra Extra.isPre pre
      if core.isEmpty then throw .empty
      let components ← (core.splitOn '.').mapM (Component.parse allow)
      return ⟨components, pre, build⟩) := by
  rw [parse, Text.cutAt_eq_iff.mpr plus]
  dsimp only
  rw [Text.cutAt_eq_iff.mpr hyphen]

theorem parse_of_reading (plus : Text.Cut '+' text.toList head build)
    (hyphen : Text.Cut '-' head core pre) (h : Reading allow core pre build r) :
    parse allow text = r := by
  have hunsigned : ∀ {parts : List (List Char)}, Text.Parts '.' core parts →
      ∀ part ∈ parts, '+' ∉ part := fun hparts part hpart hplus =>
    plus.absent (hyphen.head_subset (hparts.subset hpart hplus))
  rw [parse_of_cut plus hyphen]
  cases h with
  | badBuild given bad => rw [given, checkExtra_of_bad Extra.isBuild_iff bad]; rfl
  | badPre build_ok given bad =>
      rw [checkExtra_of_ok Extra.isBuild_iff build_ok, given, checkExtra_of_bad Extra.isPre_iff bad]
      rfl
  | empty build_ok pre_ok nothing =>
      rw [checkExtra_of_ok Extra.isBuild_iff build_ok, checkExtra_of_ok Extra.isPre_iff pre_ok, nothing]
      rfl
  | @badPart before behind part e build_ok pre_ok something split good bad =>
      have hparts := hunsigned split
      have hbefore : ∀ p ∈ before, ∃ c, Component.parse allow p = .ok c := by
        intro p hp
        obtain ⟨c, hc⟩ := good p hp
        exact ⟨c, Component.parse_of_reads (hparts p (List.mem_append_left _ hp)) hc⟩
      have hpart := Component.parse_of_refused (hparts part (by simp)) bad
      rw [checkExtra_of_ok Extra.isBuild_iff build_ok, checkExtra_of_ok Extra.isPre_iff pre_ok,
        Text.splitOn_eq_iff.mpr split, Fallible.mapM_of_first_error hbefore hpart]
      simp [something, bind, Except.bind]
  | @version parts components build_ok pre_ok something split reads =>
      have hall : parts.mapM (Component.parse allow) = .ok components := by
        rw [Fallible.mapM_ok_iff]
        refine ((List.forall₂_and_left _ _).mpr ⟨hunsigned split, reads⟩).imp fun part c h => ?_
        exact Component.parse_of_reads h.1 h.2
      rw [checkExtra_of_ok Extra.isBuild_iff build_ok, checkExtra_of_ok Extra.isPre_iff pre_ok,
        Text.splitOn_eq_iff.mpr split, hall]
      simp [something, bind, Except.bind, pure, Except.pure]

/-- However a text is cut, there is something that comes of it. -/
theorem exists_reading (allow : Bool) (core : List Char) (pre build : Option (List Char)) :
    ∃ r, Reading allow core pre build r := by
  by_cases hbuild : ∀ b ∈ build, BuildText b
  · by_cases hpre : ∀ p ∈ pre, PreText p
    · by_cases hcore : core = []
      · exact ⟨_, .empty hbuild hpre hcore⟩
      · have hsplit : Text.Parts '.' core (core.splitOn '.') := Text.splitOn_eq_iff.mp rfl
        rcases Fallible.all_or_first (Component.reads_or_refused allow) (core.splitOn '.') with
          ⟨components, hreads⟩ | ⟨before, part, behind, e, hparts, hgood, hbad⟩
        · exact ⟨_, .version hbuild hpre hcore hsplit hreads⟩
        · exact ⟨_, .badPart hbuild hpre hcore (hparts ▸ hsplit) hgood hbad⟩
    · push Not at hpre
      obtain ⟨extra, hgiven, hbad⟩ := hpre
      exact ⟨_, .badPre hbuild hgiven hbad⟩
  · push Not at hbuild
    obtain ⟨extra, hgiven, hbad⟩ := hbuild
    exact ⟨_, .badBuild hgiven hbad⟩

/-- Reading a text gives what the grammar says, and nothing else. -/
theorem parse_eq_iff_reading (allow : Bool) (text : String) (r : Except VersionError Version) :
    parse allow text = r ↔ ∃ head core pre build, Text.Cut '+' text.toList head build ∧
      Text.Cut '-' head core pre ∧ Reading allow core pre build r := by
  constructor
  · rintro rfl
    have hplus := Text.cut_cutAt '+' text.toList
    have hhyphen := Text.cut_cutAt '-' (Text.cutAt '+' text.toList).1
    obtain ⟨r, hr⟩ := exists_reading allow _ _ _
    exact ⟨_, _, _, _, hplus, hhyphen, (parse_of_reading hplus hhyphen hr).symm ▸ hr⟩
  · rintro ⟨head, core, pre, build, hplus, hhyphen, hr⟩
    exact parse_of_reading hplus hhyphen hr

end Version

end PluginHost
