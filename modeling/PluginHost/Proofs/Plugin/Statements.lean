import PluginHost.Metadata
import PluginHost.Proofs.Fallible
import PluginHost.Proofs.Json.SortedKeys

/-!
What plugins state about themselves, and what is made of it. Each field is read from its own member
alone, and only from one of the right shape; anything else counts as little as a key nobody knows.
So what is wrong costs its own field and a warning, and no version with a wildcard gets through.
-/
namespace PluginHost

/-! ### Versions without wildcards -/

namespace Component

theorem parse_false_iff {part : List Char} {c : Component} :
    parse false part = .ok c ↔ parse true part = .ok c ∧ c.isWildcard = false := by
  unfold parse
  split
  · constructor
    · nofun
    · rintro ⟨hread, htame⟩
      cases hread
      cases htame
  · split
    · constructor
      · intro hread
        cases hread
        exact ⟨rfl, rfl⟩
      · exact And.left
    · exact ⟨nofun, nofun⟩

theorem mapM_parse_false_iff {parts : List (List Char)} {components : List Component} :
    parts.mapM (parse false) = .ok components ↔
      parts.mapM (parse true) = .ok components ∧ components.any isWildcard = false := by
  rw [Fallible.mapM_ok_iff, Fallible.mapM_ok_iff]
  induction parts generalizing components with
  | nil =>
      rw [List.forall₂_nil_left_iff, List.forall₂_nil_left_iff]
      exact ⟨fun h => ⟨h, h ▸ rfl⟩, And.left⟩
  | cons part rest ih =>
      cases components with
      | nil => simp
      | cons c others =>
          rw [List.forall₂_cons, List.forall₂_cons, ih, parse_false_iff, List.any_cons,
            Bool.or_eq_false_iff]
          tauto

end Component

namespace Version

/-- A text is read as a version where wildcards are refused just if it is one without them. -/
theorem parse_false_iff {raw : String} {v : Version} :
    parse false raw = .ok v ↔ parse true raw = .ok v ∧ v.hasWildcard = false := by
  unfold parse
  dsimp only
  cases checkExtra Extra.isBuild (Text.cutAt '+' raw.toList).2 with
  | error e => exact ⟨nofun, nofun⟩
  | ok build =>
      cases checkExtra Extra.isPre (Text.cutAt '-' (Text.cutAt '+' raw.toList).1).2 with
      | error e => exact ⟨nofun, nofun⟩
      | ok pre =>
          generalize (Text.cutAt '-' (Text.cutAt '+' raw.toList).1).1 = core
          cases core.isEmpty with
          | true => exact ⟨nofun, nofun⟩
          | false =>
              have hread : ∀ allow, (do
                  let components ← (core.splitOn '.').mapM (Component.parse allow)
                  return (⟨components, pre, build⟩ : Version)) = Except.ok v ↔
                    (core.splitOn '.').mapM (Component.parse allow) = .ok v.components ∧
                      (⟨v.components, pre, build⟩ : Version) = v := by
                intro allow
                cases (core.splitOn '.').mapM (Component.parse allow) with
                | error e => exact ⟨nofun, nofun⟩
                | ok components =>
                    constructor
                    · intro hok
                      cases hok
                      exact ⟨rfl, rfl⟩
                    · rintro ⟨hcomponents, hv⟩
                      cases hcomponents
                      exact congrArg Except.ok hv
              refine (hread false).trans (Iff.trans ?_ (and_congr_left' (hread true).symm))
              rw [Component.mapM_parse_false_iff]
              exact and_right_comm

end Version

namespace Metadata

variable {language : Language} {data : Option Json} {fallbackId key : String}
  {members others : List (String × Json)} {value : Json}

/-! ### What is stated -/

/-- The members of an object; nothing else has any. -/
def membersIn : Option Json → List (String × Json)
  | some (.object members) => members
  | _ => []

/-- A value that states what a plugin has to be. -/
def IsNeed (value : Json) : Prop :=
  ∃ text r, value = .text text ∧ Requirement.parse text = .ok r

/-- The members that count, each by its shape. -/
inductive Counts : String → Json → Prop
  | id {text : String} (valid : isValidId text = true) : Counts "id" (.text text)
  | version {text : String} {v : Version} (read : Version.parse true text = .ok v)
      (tame : v.hasWildcard = false) : Counts "version" (.text text)
  | name (text : String) : Counts "name" (.text text)
  | description (text : String) : Counts "description" (.text text)
  | link (text : String) : Counts "link" (.text text)
  | author (text : String) : Counts "author" (.text text)
  | authors (items : List Json) : Counts "author" (.list items)
  | dependencies (entries : List (String × Json)) : Counts "dependencies" (.object entries)

/-! ### Readings of members -/

def validId? (value : Json) : Option String :=
  value.text?.filter isValidId

def tameVersion? (value : Json) : Option Version :=
  value.text?.bind fun raw => (Version.parse false raw).toOption

def authors? : Json → Option (List String)
  | .text author => some [author]
  | .list items => some (items.filterMap Json.text?)
  | _ => none

def needs? : Json → Option (List (String × Requirement))
  | .object entries => some (entries.filterMap fun e => (requirementOf e.2).toOption.map (e.1, ·))
  | _ => none

/-- What is read from the member of a key. -/
def reading {α : Type} (members : List (String × Json)) (key : String) (f : Json → Option α) :
    Option α :=
  (Json.member? members key).bind f

/-- A field that was read, or fell back to its default with one warning. -/
inductive Fallback {α : Type} (read : Option α) (default : α) : α × List LogRecord → Prop
  | read {a : α} (stated : read = some a) : Fallback read default (a, [])
  | fell (missing : read = none) (text : String) :
      Fallback read default (default, [pluginLog .warn text])

theorem fst_membersOf (data : Option Json) (fallbackId : String) :
    (membersOf data fallbackId).1 = membersIn data := by
  unfold membersOf membersIn
  split <;> simp_all

theorem idOf_fallback : Fallback (reading members "id" validId?) fallbackId
    (idOf language members fallbackId) := by
  unfold idOf textOf? reading
  cases Json.member? members "id" with
  | none => exact .fell rfl _
  | some value =>
      simp only [Option.bind_some, validId?]
      cases value.text? with
      | none => exact .fell rfl _
      | some text =>
          dsimp only
          split
          · next hvalid => exact .read (Option.filter_some_pos hvalid)
          · next hinvalid => exact .fell (Option.filter_some_neg (eq_false_of_ne_true hinvalid)) _

theorem versionOf_fallback {id : String} : Fallback (reading members "version" tameVersion?) .zero
    (versionOf language members id) := by
  unfold versionOf textOf? reading
  cases Json.member? members "version" with
  | none => exact .fell rfl _
  | some value =>
      simp only [Option.bind_some, tameVersion?]
      cases value.text? with
      | none => exact .fell rfl _
      | some raw =>
          rw [Option.bind_some]
          dsimp only
          cases Version.parse false raw with
          | ok v => exact .read rfl
          | error e => exact .fell rfl _

theorem authorOf_eq : authorOf members = (reading members "author" authors?).getD [] := by
  unfold authorOf reading
  cases Json.member? members "author" with
  | none => rfl
  | some value => cases value <;> rfl

theorem fst_dependenciesOf {id : String} : (dependenciesOf language members id).1 =
    (reading members "dependencies" needs?).getD [] := by
  unfold dependenciesOf reading
  cases Json.member? members "dependencies" with
  | none => rfl
  | some value => cases value <;> rfl

namespace Fallback

variable {α : Type} {read : Option α} {default : α} {given : α × List LogRecord}

theorem fst_eq (h : Fallback read default given) : given.1 = read.getD default := by
  cases h with
  | read stated => rw [stated, Option.getD_some]
  | fell missing text => rw [missing, Option.getD_none]

theorem warns (h : Fallback read default given) : ∀ record ∈ given.2, record.level = .warn := by
  cases h with
  | read stated => exact List.forall_mem_nil _
  | fell missing text => exact List.forall_mem_singleton.mpr rfl

theorem length_eq (h : Fallback read default given) :
    given.2.length = if read.isSome then 0 else 1 := by
  cases h with
  | read stated => rw [stated]; rfl
  | fell missing text => rw [missing]; rfl

end Fallback

/-- Each field is read from its own member. -/
theorem extract_eq : (extract language data fallbackId).1 =
    { id := (reading (membersIn data) "id" validId?).getD fallbackId
      name := (reading (membersIn data) "name" Json.text?).getD
        ((reading (membersIn data) "id" validId?).getD fallbackId)
      description := reading (membersIn data) "description" Json.text?
      author := (reading (membersIn data) "author" authors?).getD []
      link := reading (membersIn data) "link" Json.text?
      version := (reading (membersIn data) "version" tameVersion?).getD .zero
      dependencies := (reading (membersIn data) "dependencies" needs?).getD [] } := by
  change ({
    id := (idOf language (membersOf data fallbackId).1 fallbackId).1
    name := (textOf? (membersOf data fallbackId).1 "name").getD
      (idOf language (membersOf data fallbackId).1 fallbackId).1
    description := textOf? (membersOf data fallbackId).1 "description"
    author := authorOf (membersOf data fallbackId).1
    link := textOf? (membersOf data fallbackId).1 "link"
    version := (versionOf language (membersOf data fallbackId).1 _).1
    dependencies := (dependenciesOf language (membersOf data fallbackId).1 _).1 } : Metadata) = _
  rw [fst_membersOf, idOf_fallback.fst_eq, versionOf_fallback.fst_eq, authorOf_eq,
    fst_dependenciesOf]
  rfl

/-! ### What counts -/

/-- In ascending order the member of a key is the one there is. -/
theorem reading_eq_some_iff {α : Type} {f : Json → Option α} {a : α}
    (ascending : Json.Ascending members) :
    reading members key f = some a ↔ ∃ value, (key, value) ∈ members ∧ f value = some a := by
  simp only [reading, Option.bind_eq_some_iff, Json.member?, ascending.lookup_eq_some_iff]

theorem text?_eq_some_iff {text : String} : value.text? = some text ↔ value = .text text := by
  cases value <;> simp [Json.text?]

theorem validId?_eq_some_iff {id : String} :
    validId? value = some id ↔ value = .text id ∧ isValidId id = true := by
  rw [validId?, Option.filter_eq_some_iff, text?_eq_some_iff]

theorem tameVersion?_eq_some_iff {v : Version} : tameVersion? value = some v ↔
    ∃ text, value = .text text ∧ Version.parse true text = .ok v ∧ v.hasWildcard = false := by
  simp only [tameVersion?, Option.bind_eq_some_iff, text?_eq_some_iff, ← Version.parse_false_iff]
  refine exists_congr fun text => and_congr_right fun _ => ?_
  cases Version.parse false text <;> simp [Except.toOption]

theorem requirementOf_eq_ok_iff {r : Requirement} : requirementOf value = .ok r ↔
    ∃ text, value = .text text ∧ Requirement.parse text = .ok r := by
  cases value with
  | text text =>
      cases hread : Requirement.parse text <;> simp [requirementOf, Except.mapError, hread]
  | _ => simp [requirementOf]

theorem isNeed_iff : IsNeed value ↔ ∃ r, requirementOf value = .ok r := by
  simp only [IsNeed, requirementOf_eq_ok_iff]
  exact exists_comm

/-- A reading that only takes what counts finds the same in all members that hold the same of
that. -/
theorem reading_congr {α : Type} {f : Json → Option α} (hmembers : Json.Ascending members)
    (hothers : Json.Ascending others)
    (same : ∀ value, Counts key value → ((key, value) ∈ members ↔ (key, value) ∈ others))
    (counts : ∀ value a, f value = some a → Counts key value) :
    reading members key f = reading others key f := by
  refine Option.ext fun a => ?_
  rw [reading_eq_some_iff hmembers, reading_eq_some_iff hothers]
  exact exists_congr fun value => and_congr_left fun hvalue => same value (counts value a hvalue)

/-- Members that hold the same of what counts come to the same. The needs are looked at apart. -/
theorem extract_congr {other : Option Json} (hmembers : Json.Ascending (membersIn data))
    (hothers : Json.Ascending (membersIn other))
    (same : ∀ key value, key ≠ "dependencies" → Counts key value →
      ((key, value) ∈ membersIn data ↔ (key, value) ∈ membersIn other))
    (needs : reading (membersIn data) "dependencies" needs? =
      reading (membersIn other) "dependencies" needs?) :
    (extract language data fallbackId).1 = (extract language other fallbackId).1 := by
  have hcongr {α : Type} (key : String) (hkey : key ≠ "dependencies") (f : Json → Option α)
      (counts : ∀ value a, f value = some a → Counts key value) :
      reading (membersIn data) key f = reading (membersIn other) key f :=
    reading_congr hmembers hothers (fun value => same key value hkey) counts
  have htext (key : String) (hkey : key ≠ "dependencies")
      (counts : ∀ text, Counts key (.text text)) :
      reading (membersIn data) key Json.text? = reading (membersIn other) key Json.text? :=
    hcongr key hkey Json.text? fun value text h => text?_eq_some_iff.mp h ▸ counts text
  have hid := hcongr "id" (by decide) validId? fun value id h => by
    obtain ⟨rfl, hvalid⟩ := validId?_eq_some_iff.mp h
    exact .id hvalid
  have hversion := hcongr "version" (by decide) tameVersion? fun value v h => by
    obtain ⟨text, rfl, hread, htame⟩ := tameVersion?_eq_some_iff.mp h
    exact .version hread htame
  have hauthor := hcongr "author" (by decide) authors? fun value authors h => by
    cases value with
    | text author => exact .author author
    | list items => exact .authors items
    | _ => cases h
  rw [extract_eq, extract_eq, hid, hversion, hauthor, needs, htext "name" (by decide) .name,
    htext "description" (by decide) .description, htext "link" (by decide) .link]

/-- Members that do not count may be missing. -/
theorem extract_filter {keep : String × Json → Bool} (ascending : Json.Ascending members)
    (kept : ∀ m ∈ members, Counts m.1 m.2 → keep m = true) :
    (extract language (some (.object (members.filter keep))) fallbackId).1 =
      (extract language (some (.object members)) fallbackId).1 := by
  have hsame : ∀ key value, Counts key value →
      ((key, value) ∈ members.filter keep ↔ (key, value) ∈ members) := by
    intro key value hcounts
    rw [List.mem_filter]
    exact ⟨And.left, fun hmem => ⟨hmem, kept _ hmem hcounts⟩⟩
  refine extract_congr (ascending.filter keep) ascending (fun key value _ => hsame key value) ?_
  refine reading_congr (ascending.filter keep) ascending (hsame "dependencies") ?_
  intro value needs h
  cases value with
  | object entries => exact .dependencies entries
  | _ => cases h

theorem needs?_filter {entries : List (String × Json)} {keep : String × Json → Bool}
    (kept : ∀ e ∈ entries, IsNeed e.2 → keep e = true) :
    needs? (.object (entries.filter keep)) = needs? (.object entries) := by
  refine congrArg some ?_
  rw [List.filterMap_filter]
  refine List.filterMap_congr fun e he => ?_
  split
  · rfl
  · next hdropped =>
      cases hread : requirementOf e.2 with
      | error why => rfl
      | ok r => exact absurd (kept e he (isNeed_iff.mpr ⟨r, hread⟩)) hdropped

/-- What is no need may be missing among the dependencies. -/
theorem extract_filter_needs {before behind entries : List (String × Json)}
    {keep : String × Json → Bool}
    (ascending : Json.Ascending (before ++ ("dependencies", .object entries) :: behind))
    (kept : ∀ e ∈ entries, IsNeed e.2 → keep e = true) :
    (extract language (some (.object
        (before ++ ("dependencies", .object (entries.filter keep)) :: behind))) fallbackId).1 =
      (extract language (some (.object
        (before ++ ("dependencies", .object entries) :: behind))) fallbackId).1 := by
  have hascending : Json.Ascending
      (before ++ ("dependencies", .object (entries.filter keep)) :: behind) := by
    simpa only [Json.Ascending, List.map_append, List.map_cons] using ascending
  have hneeds : ∀ {value}, Json.Ascending (before ++ ("dependencies", value) :: behind) →
      reading (before ++ ("dependencies", value) :: behind) "dependencies" needs? =
        needs? value := by
    intro value h
    rw [reading, Json.member?,
      h.lookup_eq_some_iff.mpr (List.mem_append_right _ List.mem_cons_self)]
    rfl
  refine extract_congr hascending ascending (fun key value hkey _ => ?_) ?_
  · simp [membersIn, hkey]
  · exact (hneeds hascending).trans ((needs?_filter kept).trans (hneeds ascending).symm)

/-! ### All of it -/

/-- A valid id is stated. -/
def HasId (data : Option Json) : Prop :=
  ∃ id, ("id", .text id) ∈ membersIn data ∧ isValidId id = true

/-- A version without wildcards is stated. -/
def HasVersion (data : Option Json) : Prop :=
  ∃ text v, ("version", .text text) ∈ membersIn data ∧
    Version.parse true text = .ok v ∧ v.hasWildcard = false

/-- There is something that is no object. -/
def NotObject (data : Option Json) : Prop :=
  ∃ json, data = some json ∧ ∀ members, json ≠ .object members

/-- The entries of the object that states what a plugin needs. -/
def entriesIn (data : Option Json) : List (String × Json) :=
  match Json.member? (membersIn data) "dependencies" with
  | some (.object entries) => entries
  | _ => []

open Classical in
/-- What is made of what a plugin states. -/
structure Extracted (language : Language) (data : Option Json) (fallbackId : String) : Prop where
  id_read : ∀ id, ("id", .text id) ∈ membersIn data → isValidId id = true →
    (extract language data fallbackId).1.id = id
  id_fell : ¬ HasId data → (extract language data fallbackId).1.id = fallbackId
  tame : (extract language data fallbackId).1.version.hasWildcard = false
  version_read : ∀ text v, ("version", .text text) ∈ membersIn data →
    Version.parse true text = .ok v → v.hasWildcard = false →
    (extract language data fallbackId).1.version = v
  version_fell : ¬ HasVersion data → (extract language data fallbackId).1.version = .zero
  ascending : Json.Ascending (extract language data fallbackId).1.dependencies
  mem_dependencies : ∀ id r, (id, r) ∈ (extract language data fallbackId).1.dependencies ↔
    ∃ text, (id, .text text) ∈ entriesIn data ∧ Requirement.parse text = .ok r
  /-- Any members that do not count may be missing. -/
  spared : ∀ members keep, data = some (.object members) →
    (∀ m ∈ members, Counts m.1 m.2 → keep m = true) →
    (extract language (some (.object (members.filter keep))) fallbackId).1 =
      (extract language data fallbackId).1
  /-- So may entries that state no need. -/
  spared_needs : ∀ before entries behind keep,
    data = some (.object (before ++ ("dependencies", .object entries) :: behind)) →
    (∀ e ∈ entries, IsNeed e.2 → keep e = true) →
    (extract language (some (.object
        (before ++ ("dependencies", .object (entries.filter keep)) :: behind))) fallbackId).1 =
      (extract language data fallbackId).1
  warns : ∀ record ∈ (extract language data fallbackId).2, record.level = .warn
  count : (extract language data fallbackId).2.length =
    (if NotObject data then 1 else 0) + (if HasId data then 0 else 1) +
      (if HasVersion data then 0 else 1) + (entriesIn data).countP fun e => ¬ IsNeed e.2

theorem sortedKeys_membersIn (sortedKeys : ∀ json ∈ data, json.SortedKeys) :
    Json.Ascending (membersIn data) ∧ ∀ m ∈ membersIn data, m.2.SortedKeys := by
  unfold membersIn
  split
  · next members =>
      cases sortedKeys _ rfl with
      | object ascending each => exact ⟨ascending, each⟩
  · exact ⟨List.Pairwise.nil, List.forall_mem_nil _⟩

theorem ascending_entriesIn (sortedKeys : ∀ json ∈ data, json.SortedKeys) :
    Json.Ascending (entriesIn data) := by
  obtain ⟨hascending, hmembers⟩ := sortedKeys_membersIn sortedKeys
  unfold entriesIn
  split
  · next entries hentries =>
      cases hmembers _ (hascending.lookup_eq_some_iff.mp hentries) with
      | object ascending each => exact ascending
  · exact List.Pairwise.nil

theorem validId_eq_some_iff {id : String} (ascending : Json.Ascending (membersIn data)) :
    reading (membersIn data) "id" validId? = some id ↔
      ("id", .text id) ∈ membersIn data ∧ isValidId id = true := by
  rw [reading_eq_some_iff ascending]
  constructor
  · rintro ⟨value, hmem, hread⟩
    obtain ⟨rfl, hvalid⟩ := validId?_eq_some_iff.mp hread
    exact ⟨hmem, hvalid⟩
  · exact fun ⟨hmem, hvalid⟩ => ⟨_, hmem, validId?_eq_some_iff.mpr ⟨rfl, hvalid⟩⟩

theorem isSome_validId_iff (ascending : Json.Ascending (membersIn data)) :
    (reading (membersIn data) "id" validId?).isSome = true ↔ HasId data := by
  rw [Option.isSome_iff_exists, HasId]
  exact exists_congr fun id => validId_eq_some_iff ascending

theorem tameVersion_eq_some_iff {v : Version} (ascending : Json.Ascending (membersIn data)) :
    reading (membersIn data) "version" tameVersion? = some v ↔
      ∃ text, ("version", .text text) ∈ membersIn data ∧
        Version.parse true text = .ok v ∧ v.hasWildcard = false := by
  rw [reading_eq_some_iff ascending]
  constructor
  · rintro ⟨value, hmem, hread⟩
    obtain ⟨text, rfl, htame⟩ := tameVersion?_eq_some_iff.mp hread
    exact ⟨text, hmem, htame⟩
  · exact fun ⟨text, hmem, htame⟩ => ⟨_, hmem, tameVersion?_eq_some_iff.mpr ⟨text, rfl, htame⟩⟩

theorem isSome_tameVersion_iff (ascending : Json.Ascending (membersIn data)) :
    (reading (membersIn data) "version" tameVersion?).isSome = true ↔ HasVersion data := by
  rw [Option.isSome_iff_exists, HasVersion, exists_comm]
  exact exists_congr fun v => tameVersion_eq_some_iff ascending

/-- The id read from its member, or the one to fall back to. -/
theorem id_extract : (extract language data fallbackId).1.id =
    (reading (membersIn data) "id" validId?).getD fallbackId := by
  rw [extract_eq]

/-- The version read from its member, or the default. -/
theorem version_extract : (extract language data fallbackId).1.version =
    (reading (membersIn data) "version" tameVersion?).getD .zero := by
  rw [extract_eq]

theorem dependencies_extract : (extract language data fallbackId).1.dependencies =
    (entriesIn data).filterMap fun e => (requirementOf e.2).toOption.map (e.1, ·) := by
  rw [extract_eq]
  dsimp only
  unfold reading entriesIn
  cases Json.member? (membersIn data) "dependencies" with
  | none => rfl
  | some value => cases value <;> rfl

theorem mem_dependencies_extract {id : String} {r : Requirement} :
    (id, r) ∈ (extract language data fallbackId).1.dependencies ↔
      ∃ text, (id, .text text) ∈ entriesIn data ∧ Requirement.parse text = .ok r := by
  rw [dependencies_extract, List.mem_filterMap]
  constructor
  · rintro ⟨⟨key, value⟩, hmem, hread⟩
    obtain ⟨r', hr', heq⟩ := Option.map_eq_some_iff.mp hread
    cases heq
    cases hvalue : requirementOf value with
    | error why => simp [hvalue, Except.toOption] at hr'
    | ok found =>
        obtain ⟨text, rfl, htext⟩ := requirementOf_eq_ok_iff.mp hvalue
        simp only [hvalue, Except.toOption, Option.some.injEq] at hr'
        exact ⟨text, hmem, hr' ▸ htext⟩
  · rintro ⟨text, hmem, htext⟩
    have hread : requirementOf (.text text) = .ok r :=
      requirementOf_eq_ok_iff.mpr ⟨text, rfl, htext⟩
    exact ⟨_, hmem, by simp [hread, Except.toOption]⟩

/-! ### Warnings -/

/-- The records of an extraction, field by field. -/
theorem snd_extract (language : Language) (data : Option Json) (fallbackId : String) :
    ∃ id, (extract language data fallbackId).2 =
      (membersOf data fallbackId).2 ++ (idOf language (membersIn data) fallbackId).2 ++
        (versionOf language (membersIn data) id).2 ++
          (dependenciesOf language (membersIn data) id).2 := by
  refine ⟨(idOf language (membersOf data fallbackId).1 fallbackId).1, ?_⟩
  rw [← fst_membersOf data fallbackId]
  rfl

open Classical in
theorem log_membersOf (data : Option Json) (fallbackId : String) :
    (∀ record ∈ (membersOf data fallbackId).2, record.level = .warn) ∧
      (membersOf data fallbackId).2.length = if NotObject data then 1 else 0 := by
  unfold membersOf
  split
  · exact ⟨List.forall_mem_nil _, by simp [NotObject]⟩
  · exact ⟨List.forall_mem_nil _, by simp [NotObject]⟩
  · next json hother =>
      have hnot : NotObject (some json) :=
        ⟨json, rfl, fun members heq => hother members (heq ▸ rfl)⟩
      exact ⟨List.forall_mem_singleton.mpr rfl, by simp [hnot]⟩

open Classical in
theorem log_dependenciesOf {id : String} :
    (∀ record ∈ (dependenciesOf language (membersIn data) id).2, record.level = .warn) ∧
      (dependenciesOf language (membersIn data) id).2.length =
        (entriesIn data).countP fun e => ¬ IsNeed e.2 := by
  unfold dependenciesOf entriesIn
  rcases Json.member? (membersIn data) "dependencies" with _ | value
  · exact ⟨List.forall_mem_nil _, rfl⟩
  · cases value with
    | object entries =>
        constructor
        · intro record hrecord
          obtain ⟨e, _, he⟩ := List.mem_filterMap.mp hrecord
          split at he <;> cases he
          rfl
        · dsimp only
          rw [List.length_filterMap_eq_countP]
          refine List.countP_congr fun e _ => ?_
          rw [decide_eq_true_iff, isNeed_iff]
          cases requirementOf e.2 <;> simp
    | _ => exact ⟨List.forall_mem_nil _, rfl⟩

open Classical in
/-- Nothing a plugin states about itself is fatal, and what is wrong in it costs nothing but
itself. -/
theorem extracts_each (language : Language) (data : Option Json) (fallbackId : String)
    (sortedKeys : ∀ json ∈ data, json.SortedKeys) : Extracted language data fallbackId := by
  have hmembers := (sortedKeys_membersIn sortedKeys).1
  obtain ⟨hnotices, hcount⟩ := log_membersOf data fallbackId
  obtain ⟨id, hlog⟩ := snd_extract language data fallbackId
  constructor
  case id_read =>
    intro id hmem hvalid
    rw [id_extract, (validId_eq_some_iff hmembers).mpr ⟨hmem, hvalid⟩]
    rfl
  case id_fell =>
    intro hnone
    have hunread := Option.not_isSome_iff_eq_none.mp (mt (isSome_validId_iff hmembers).mp hnone)
    rw [id_extract, hunread]
    rfl
  case tame =>
    rw [version_extract]
    cases hread : reading (membersIn data) "version" tameVersion? with
    | none => rfl
    | some v =>
        obtain ⟨text, _, _, htame⟩ := (tameVersion_eq_some_iff hmembers).mp hread
        exact htame
  case version_read =>
    intro text v hmem hread htame
    rw [version_extract, (tameVersion_eq_some_iff hmembers).mpr ⟨text, hmem, hread, htame⟩]
    rfl
  case version_fell =>
    intro hnone
    have hunread := Option.not_isSome_iff_eq_none.mp (mt (isSome_tameVersion_iff hmembers).mp hnone)
    rw [version_extract, hunread]
    rfl
  case ascending =>
    rw [dependencies_extract]
    refine (ascending_entriesIn sortedKeys).filterMap fun e n he => ?_
    obtain ⟨r, _, rfl⟩ := Option.map_eq_some_iff.mp he
    rfl
  case mem_dependencies => exact fun _ _ => mem_dependencies_extract
  case spared =>
    rintro members keep rfl kept
    exact extract_filter hmembers kept
  case spared_needs =>
    rintro before entries behind keep rfl kept
    exact extract_filter_needs hmembers kept
  case warns =>
    rw [hlog]
    simp only [List.mem_append]
    rintro record (((hrecord | hrecord) | hrecord) | hrecord)
    · exact hnotices record hrecord
    · exact idOf_fallback.warns record hrecord
    · exact versionOf_fallback.warns record hrecord
    · exact log_dependenciesOf.1 record hrecord
  case count =>
    rw [hlog, List.length_append, List.length_append, List.length_append, hcount,
      idOf_fallback.length_eq, versionOf_fallback.length_eq, log_dependenciesOf.2]
    rw [if_congr (isSome_validId_iff hmembers) rfl rfl,
      if_congr (isSome_tameVersion_iff hmembers) rfl rfl]

namespace StatementWitness

/-- A plugin that has its version and one of its needs wrong, and adds what nobody asks for. -/
def sloppy : Json :=
  .object [("color", .text "red"),
    ("dependencies", .object [("base", .text ">=1.0"), ("core", .null), ("host", .text "*")]),
    ("id", .text "sloppy"), ("version", .text "1.*")]

/-- The same as a text, with its members in another order. -/
def sloppyText : String :=
  "\x7b\"id\": \"sloppy\", \"version\": \"1.*\", \"color\": \"red\", " ++
    "\"dependencies\": \x7b\"host\": \"*\", \"core\": null, \"base\": \">=1.0\"\x7d\x7d"

theorem parse_sloppyText : Json.parse? sloppyText = some sloppy := by
  have htokens : Json.tokensFrom .between sloppyText.toList = some
      [.openObject, .text "id".toList, .colon, .text "sloppy".toList, .comma,
        .text "version".toList, .colon, .text "1.*".toList, .comma,
        .text "color".toList, .colon, .text "red".toList, .comma,
        .text "dependencies".toList, .colon, .openObject,
        .text "host".toList, .colon, .text "*".toList, .comma,
        .text "core".toList, .colon, .null, .comma,
        .text "base".toList, .colon, .text ">=1.0".toList, .closeObject, .closeObject] := by
    decide +kernel
  rw [Json.parse?, Json.Draft.read?, htokens]
  rfl

theorem sloppy_extracted : (∀ json ∈ some sloppy, json.SortedKeys) ∧
    Extracted ⟨"en", []⟩ (some sloppy) "file" ∧
    (extract ⟨"en", []⟩ (some sloppy) "file").1.dependencies.map Prod.fst = ["base", "host"] ∧
    (extract ⟨"en", []⟩ (some sloppy) "file").2.length = 2 := by
  have hsorted : ∀ json ∈ some sloppy, json.SortedKeys := by
    rintro json ⟨⟩
    exact Json.sortedKeys_of_parse parse_sloppyText
  exact ⟨hsorted, extracts_each _ _ _ hsorted, by decide +kernel, by decide +kernel⟩

end StatementWitness

end Metadata

end PluginHost
