import Mathlib.Data.Option.Basic
import PluginHost.Proofs.Version.Grammar
import PluginHost.Version.Requirement

/-!
What is read and shown is read back as it was. A version that was read shows a
core of digits, stars and dots and extras that passed when it was read, so its
text is cut where the extras were put behind it. A requirement shows criteria
without spaces, whose bases start with a digit or a star and so never lend a
character to an operator. So what is shown is a normal form of what was read.
-/
namespace PluginHost

/-! ### Components -/

namespace Component

variable {allow : Bool} {c : Component} {x : Char}

/-- A component that some text stands for. -/
structure Writable (allow : Bool) (c : Component) : Prop where
  bound : ∀ n, c = .number n → n < 2 ^ 64
  allowed : c = .wildcard → allow = true

theorem Reads.writable {part : List Char} (h : Reads allow part c) : c.Writable allow := by
  cases h with
  | number numeral => exact ⟨fun n hn => Component.number.inj hn ▸ numeral.bound, nofun⟩
  | wildcard allowed _ => exact ⟨nofun, fun _ => allowed⟩

theorem mem_text (h : x ∈ c.text.toList) : x.isDigit = true ∨ x = '*' := by
  cases c with
  | number n =>
      rw [text, Text.ofNat, String.toList_ofList] at h
      exact .inl (Nat.isDigit_of_mem_toDigits (by decide) (by decide) h)
  | wildcard => exact .inr (List.mem_singleton.mp h)

theorem text_ne_nil (c : Component) : c.text.toList ≠ [] := by
  cases c with
  | number n =>
      rw [text, Text.ofNat, String.toList_ofList]
      exact Nat.toDigits_ne_nil
  | wildcard => decide

/-- The digits of a number are a number of that value. -/
theorem reads_text (h : c.Writable allow) : Reads allow c.text.toList c := by
  cases c with
  | number n =>
      have hvalue : Text.placeValue (Nat.toDigits 10 n) = n := by
        rw [← Text.ofDigitChars_eq_placeValue, Nat.ofDigitChars_ten_toDigits]
      have hnumeral : Text.Numeral (Nat.toDigits 10 n) :=
        ⟨Nat.toDigits_ne_nil, fun x hx => Nat.isDigit_of_mem_toDigits (by decide) (by decide) hx,
          hvalue.symm ▸ h.bound n rfl⟩
      have hreads : Reads allow (Nat.toDigits 10 n) (.number (Text.placeValue (Nat.toDigits 10 n))) :=
        .number hnumeral
      rw [hvalue] at hreads
      rwa [text, Text.ofNat, String.toList_ofList]
  | wildcard => exact .wildcard (h.allowed rfl) (by decide)

end Component

namespace Version

variable {allow : Bool} {v : Version} {text : String} {x : Char} {cs : List Char}

/-! ### Versions -/

/-- The characters of a core. -/
def isCoreChar (c : Char) : Bool := c.isDigit || c == '*' || c == '.'

/-- The characters of extras. -/
def isExtraChar (c : Char) : Bool := Extra.isFieldChar c || c == '.'

theorem BuildText.mem (h : BuildText cs) (hx : x ∈ cs) : isExtraChar x = true := by
  rw [isExtraChar, Bool.or_eq_true, beq_iff_eq]
  rcases h with rfl | ⟨fields, hparts, hfields⟩
  · cases hx
  · rw [← hparts.joined] at hx
    rcases Text.mem_intercalate hx with hdot | ⟨f, hf, hxf⟩
    · exact .inr (List.mem_singleton.mp hdot)
    · exact .inl (by simpa [Extra.isFieldChar] using (hfields f hf).2 x hxf)

theorem PreText.build (h : PreText cs) : BuildText cs :=
  h.imp_right fun ⟨fields, hparts, hfields⟩ => ⟨fields, hparts, fun f hf => (hfields f hf).1⟩

/-- A version that some text reads as. -/
structure Writable (allow : Bool) (v : Version) : Prop where
  some : v.components ≠ []
  components : ∀ c ∈ v.components, c.Writable allow
  pre : ∀ p ∈ v.pre, PreText p.toList
  build : ∀ b ∈ v.build, BuildText b.toList

theorem writable_of_parse (h : parse allow text = .ok v) : v.Writable allow := by
  obtain ⟨head, core, pre, build, _, _, hreading⟩ := (parse_eq_iff_reading allow text _).mp h
  cases hreading with
  | version build_ok pre_ok something split reads =>
      refine ⟨?_, ?_, ?_, ?_⟩
      · rintro rfl
        exact split.some (List.forall₂_nil_right_iff.mp reads)
      · intro c hc
        obtain ⟨part, _, hreads⟩ := Fallible.exists_of_forall₂ reads.flip hc
        exact hreads.writable
      · exact Option.forall_mem_map.mpr fun cs hcs => String.toList_ofList ▸ pre_ok cs hcs
      · exact Option.forall_mem_map.mpr fun cs hcs => String.toList_ofList ▸ build_ok cs hcs

/-- What a version shows in front of its extras. -/
def core (v : Version) : List Char :=
  ['.'].intercalate (v.components.map fun c => c.text.toList)

/-- What a version shows in front of its build. -/
def head (v : Version) : List Char :=
  v.core ++ v.pre.elim [] fun p => '-' :: p.toList

theorem text_toList (v : Version) :
    v.text.toList = v.head ++ v.build.elim [] fun b => '+' :: b.toList := by
  obtain ⟨components, pre, build⟩ := v
  cases pre <;> cases build <;> simp [Version.text, head, core, Function.comp_def]

/-- The parts of a core are what its components show. -/
theorem parts_core (some : v.components ≠ []) :
    Text.Parts '.' v.core (v.components.map fun c => c.text.toList) where
  some := List.map_eq_nil_iff.not.mpr some
  free := by
    intro part hpart hdot
    obtain ⟨c, _, rfl⟩ := List.mem_map.mp hpart
    rcases Component.mem_text hdot with hdigit | hstar
    · cases hdigit
    · cases hstar
  joined := rfl

theorem mem_core (h : x ∈ v.core) : isCoreChar x = true := by
  simp only [isCoreChar, Bool.or_eq_true, beq_iff_eq]
  rcases Text.mem_intercalate h with hdot | ⟨part, hpart, hx⟩
  · exact .inr (List.mem_singleton.mp hdot)
  · obtain ⟨c, _, rfl⟩ := List.mem_map.mp hpart
    exact .inl (Component.mem_text hx)

/-- A core starts with what its first component shows. -/
theorem exists_core_eq (some : v.components ≠ []) :
    ∃ x rest, v.core = x :: rest ∧ (x.isDigit = true ∨ x = '*') := by
  obtain ⟨first, others, hcomponents⟩ := List.exists_cons_of_ne_nil some
  obtain ⟨x, rest, htext⟩ := List.exists_cons_of_ne_nil first.text_ne_nil
  have hx : x.isDigit = true ∨ x = '*' := Component.mem_text (htext ▸ List.mem_cons_self)
  cases others with
  | nil => exact ⟨x, rest, by rw [core, hcomponents]; simp [htext], hx⟩
  | cons second others =>
      refine ⟨x, rest ++ ['.'] ++ ['.'].intercalate ((second :: others).map fun c => c.text.toList),
        ?_, hx⟩
      rw [core, hcomponents, List.map_cons, List.map_cons, List.intercalate_cons_cons, htext]
      rfl

namespace Writable

theorem mem_head (h : v.Writable allow) (hx : x ∈ v.head) :
    (isCoreChar x || isExtraChar x) = true := by
  rw [Bool.or_eq_true]
  rcases List.mem_append.mp hx with hcore | hpre
  · exact .inl (mem_core hcore)
  · cases hp : v.pre with
    | none => simp [hp] at hpre
    | some p =>
        simp only [hp, Option.elim_some, List.mem_cons] at hpre
        rcases hpre with rfl | hpre
        · exact .inr (by decide)
        · exact .inr ((h.pre p hp).build.mem hpre)

theorem mem_text (h : v.Writable allow) (hx : x ∈ v.text.toList) :
    (isCoreChar x || isExtraChar x || x == '+') = true := by
  rw [Bool.or_eq_true]
  rw [text_toList] at hx
  rcases List.mem_append.mp hx with hhead | hbuild
  · exact .inl (h.mem_head hhead)
  · cases hb : v.build with
    | none => simp [hb] at hbuild
    | some b =>
        simp only [hb, Option.elim_some, List.mem_cons] at hbuild
        rcases hbuild with rfl | hbuild
        · exact .inr (by decide)
        · exact .inl (by rw [(h.build b hb).mem hbuild, Bool.or_true])

theorem cut_head (v : Version) : Text.Cut '-' v.head v.core (v.pre.map String.toList) := by
  have habsent : '-' ∉ v.core := fun hhyphen => absurd (mem_core hhyphen) (by decide)
  rw [head]
  cases v.pre with
  | none => exact (List.append_nil v.core).symm ▸ .whole habsent
  | some p => exact .first habsent

theorem cut_text (h : v.Writable allow) :
    Text.Cut '+' v.text.toList v.head (v.build.map String.toList) := by
  have habsent : '+' ∉ v.head := fun hplus => absurd (h.mem_head hplus) (by decide)
  rw [text_toList]
  cases v.build with
  | none => exact (List.append_nil v.head).symm ▸ .whole habsent
  | some b => exact .first habsent

/-- Reading what a version shows gives the version. -/
theorem parse_text (h : v.Writable allow) : parse allow v.text = .ok v := by
  have hpre : ∀ cs ∈ v.pre.map String.toList, PreText cs := Option.forall_mem_map.mpr h.pre
  have hbuild : ∀ cs ∈ v.build.map String.toList, BuildText cs := Option.forall_mem_map.mpr h.build
  have hcore : v.core ≠ [] := by
    obtain ⟨x, rest, heq, _⟩ := exists_core_eq h.some
    rw [heq]
    exact List.cons_ne_nil x rest
  have hreads : List.Forall₂ (Component.Reads allow) (v.components.map fun c => c.text.toList)
      v.components := by
    rw [List.forall₂_map_left_iff, List.forall₂_same]
    exact fun c hc => Component.reads_text (h.components c hc)
  have hreading : Reading allow v.core (v.pre.map String.toList) (v.build.map String.toList) _ :=
    .version hbuild hpre hcore (parts_core h.some) hreads
  rw [(parse_eq_iff_reading allow v.text _).mpr ⟨_, _, _, _, h.cut_text, cut_head v, hreading⟩]
  simp [Function.comp_def]

/-- What a version shows starts with a digit or a star. -/
theorem exists_text_eq (h : v.Writable allow) :
    ∃ x rest, v.text.toList = x :: rest ∧ (x.isDigit = true ∨ x = '*') := by
  obtain ⟨x, rest, hcore, hx⟩ := exists_core_eq h.some
  exact ⟨x, _, by rw [text_toList, head, hcore]; rfl, hx⟩

end Writable

end Version

/-! ### Criteria -/

namespace Criterion

variable {c : Criterion} {cs : List Char}

/-- A criterion that some text reads as: only equality is written without an operator. -/
structure Writable (c : Criterion) : Prop where
  base : c.base.Writable true
  implied : c.implicit = true → c.operator = .equal

theorem writable_of_parse (h : parse cs = .ok c) : c.Writable := by
  unfold parse at h
  split at h
  · next operator rest _ =>
      cases hbase : Version.parse true (String.ofList rest) with
      | error e => rw [hbase] at h; cases h
      | ok base =>
          rw [hbase] at h
          cases h
          exact ⟨Version.writable_of_parse hbase, nofun⟩
  · cases hbase : Version.parse true (String.ofList cs) with
    | error e => rw [hbase] at h; cases h
    | ok base =>
        rw [hbase] at h
        cases h
        exact ⟨Version.writable_of_parse hbase, fun _ => rfl⟩

/-- An operator is read off again, whatever follows it other than an equals sign. -/
theorem strip?_symbol {x : Char} (operator : Operator) (rest : List Char) (hx : x ≠ '=') :
    Operator.strip? (operator.symbol.toList ++ x :: rest) = some (operator, x :: rest) := by
  have hne : ¬ '=' = x := hx.symm
  cases operator <;>
    simp [Operator.strip?, Operator.spellings, Operator.symbol, hne]

/-- Nothing is read as an operator that does not start like one. -/
theorem strip?_eq_none {x : Char} {rest : List Char} (hx : x ∉ ['<', '>', '=', '^', '~']) :
    Operator.strip? (x :: rest) = none := by
  simp only [List.mem_cons, List.not_mem_nil, or_false, not_or] at hx
  obtain ⟨hless, hgreater, hequal, hcaret, htilde⟩ := hx
  simp [Operator.strip?, Operator.spellings, Ne.symm hless, Ne.symm hgreater, Ne.symm hequal,
    Ne.symm hcaret, Ne.symm htilde]

namespace Writable

/-- Reading what a criterion shows gives the criterion. -/
theorem parse_text (h : c.Writable) : parse c.text.toList = .ok c := by
  obtain ⟨operator, base, implicit⟩ := c
  obtain ⟨x, rest, htext, hx⟩ := h.base.exists_text_eq
  have hplain : x ∉ ['<', '>', '=', '^', '~'] := by
    intro hmem
    simp only [List.mem_cons, List.not_mem_nil, or_false] at hmem
    rcases hmem with rfl | rfl | rfl | rfl | rfl <;> exact absurd hx (by decide)
  have hread : Version.parse true (String.ofList (x :: rest)) = .ok base := by
    rw [← htext, String.ofList_toList]
    exact h.base.parse_text
  cases implicit with
  | false =>
      have hequal : x ≠ '=' := fun heq => hplain (by simp [heq])
      have hshown : text ⟨operator, base, false⟩ = operator.symbol ++ base.text := rfl
      rw [hshown, String.toList_append, htext, parse, strip?_symbol operator rest hequal]
      dsimp only
      rw [hread]
      rfl
  | true =>
      have hoperator : operator = .equal := h.implied rfl
      have hshown : text ⟨operator, base, true⟩ = base.text := rfl
      rw [hshown, htext, parse, strip?_eq_none hplain, hoperator]
      dsimp only
      rw [hread]
      rfl

theorem text_ne_nil (h : c.Writable) : c.text.toList ≠ [] := by
  obtain ⟨x, rest, htext, _⟩ := h.base.exists_text_eq
  rw [Criterion.text]
  split <;> simp [htext]

theorem space_not_mem_text (h : c.Writable) : ' ' ∉ c.text.toList := by
  have hbase : ' ' ∉ c.base.text.toList := fun hspace => absurd (h.base.mem_text hspace) (by decide)
  rw [Criterion.text]
  split
  · exact hbase
  · rw [String.toList_append, List.mem_append, not_or]
    refine ⟨?_, hbase⟩
    cases c.operator <;> decide

end Writable

end Criterion

/-! ### Requirements -/

namespace Requirement

variable {r : Requirement} {text : String}

theorem writable_of_parse (h : parse text = .ok r) : ∀ c ∈ r.criteria, c.Writable := by
  unfold parse at h
  cases hcriteria : ((text.toList.splitOn ' ').filter (!·.isEmpty)).mapM Criterion.parse with
  | error e => rw [hcriteria] at h; cases h
  | ok criteria =>
      rw [hcriteria] at h
      cases h
      intro c hc
      obtain ⟨cs, _, hreads⟩ := Fallible.exists_of_forall₂ (Fallible.mapM_ok_iff.mp hcriteria).flip hc
      exact Criterion.writable_of_parse hreads

/-- Reading what a requirement shows gives the requirement. -/
theorem parse_text_of_writable (h : ∀ c ∈ r.criteria, c.Writable) : parse r.text = .ok r := by
  have hsplit : (r.text.toList.splitOn ' ').filter (!·.isEmpty) =
      r.criteria.map fun c => c.text.toList := by
    have htext : r.text.toList = [' '].intercalate (r.criteria.map fun c => c.text.toList) := by
      rw [Requirement.text, String.toList_intercalate, List.map_map]
      rfl
    by_cases hnone : r.criteria = []
    · rw [htext, hnone]
      rfl
    · have hparts : Text.Parts ' ' r.text.toList (r.criteria.map fun c => c.text.toList) :=
        ⟨List.map_eq_nil_iff.not.mpr hnone,
          List.forall_mem_map.mpr fun c hc => (h c hc).space_not_mem_text, htext.symm⟩
      rw [Text.splitOn_eq_iff.mpr hparts, List.filter_eq_self]
      exact List.forall_mem_map.mpr fun c hc => by simp [(h c hc).text_ne_nil]
  have hreads : (r.criteria.map fun c => c.text.toList).mapM Criterion.parse = .ok r.criteria := by
    rw [Fallible.mapM_ok_iff, List.forall₂_map_left_iff, List.forall₂_same]
    exact fun c hc => (h c hc).parse_text
  rw [parse, hsplit, hreads]
  rfl

end Requirement

/-- What was read and is shown is a normal form: it is read back as it was, and what is shown alike
is the same. -/
theorem Version.text_reads_back :
    (∀ allow text v, Version.parse allow text = .ok v → Version.parse allow v.text = .ok v ∧
      ∀ other w, Version.parse allow other = .ok w → (w.text = v.text ↔ w = v)) ∧
    ∀ text r, Requirement.parse text = .ok r → Requirement.parse r.text = .ok r ∧
      ∀ other q, Requirement.parse other = .ok q → (q.text = r.text ↔ q = r) := by
  refine ⟨fun allow text v hv => ?_, fun text r hr => ?_⟩
  · have hback := (writable_of_parse hv).parse_text
    refine ⟨hback, fun other w hw => ⟨fun htext => ?_, congrArg Version.text⟩⟩
    have hsame := (writable_of_parse hw).parse_text
    rw [htext, hback] at hsame
    exact (Except.ok.inj hsame).symm
  · have hback := Requirement.parse_text_of_writable (Requirement.writable_of_parse hr)
    refine ⟨hback, fun other q hq => ⟨fun htext => ?_, congrArg Requirement.text⟩⟩
    have hsame := Requirement.parse_text_of_writable (Requirement.writable_of_parse hq)
    rw [htext, hback] at hsame
    exact (Except.ok.inj hsame).symm

namespace DisplayWitness

/-- A version with a leading zero, the greatest number there is, and a pre-release of nothing. -/
def odd : Version :=
  ⟨[.number 1, .wildcard, .number 18446744073709551615], some "", some "-.0a"⟩

/-- A requirement whose operators and spaces are not shown as they were read. -/
def loose : Requirement :=
  ⟨[⟨.lessEqual, ⟨[.number 1], some "a-b", none⟩, false⟩, ⟨.equal, ⟨[.number 2], none, none⟩, false⟩,
    ⟨.equal, ⟨[.wildcard], none, some ""⟩, true⟩]⟩

theorem odd_and_loose_read_back :
    Version.parse true "01.X.18446744073709551615-+-.0a" = .ok odd ∧
      Version.parse true "1.*.18446744073709551615-+-.0a" = .ok odd ∧
      Requirement.parse "  <=1-a-b =02   x+" = .ok loose ∧
      Requirement.parse "<=1-a-b ==2 *+" = .ok loose := by
  have hodd : Version.parse true "01.X.18446744073709551615-+-.0a" = .ok odd := by decide +kernel
  have hloose : Requirement.parse "  <=1-a-b =02   x+" = .ok loose := by decide +kernel
  have hoddText : odd.text = "1.*.18446744073709551615-+-.0a" := by decide +kernel
  have hlooseText : loose.text = "<=1-a-b ==2 *+" := by decide +kernel
  refine ⟨hodd, ?_, hloose, ?_⟩
  · rw [← hoddText]
    exact (Version.text_reads_back.1 _ _ _ hodd).1
  · rw [← hlooseText]
    exact (Version.text_reads_back.2 _ _ hloose).1

end DisplayWitness

end PluginHost
