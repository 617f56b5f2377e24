import Mathlib.Algebra.Group.Nat.Defs
import PluginHost.Text.Blank
import PluginHost.Text.Cut
import PluginHost.Text.Digits

/-!
How texts are taken apart, said without the functions that do it: a text is cut
at the first place where a character stands, or it falls into the parts between
all such places; and a run of digits has a value.
-/
namespace PluginHost.Text

variable {c : Char} {text head part : List Char} {tail : Option (List Char)} {parts : List (List Char)}

/-! ### Cutting -/

/-- What stands before the first `c` of a text, and behind it if there is one. -/
inductive Cut (c : Char) : List Char → List Char → Option (List Char) → Prop
  | whole {text : List Char} (absent : c ∉ text) : Cut c text text none
  | first {head tail : List Char} (absent : c ∉ head) : Cut c (head ++ c :: tail) head (some tail)

theorem cut_cutAt (c : Char) (text : List Char) : Cut c text (cutAt c text).1 (cutAt c text).2 := by
  induction text with
  | nil => exact .whole List.not_mem_nil
  | cons x rest ih =>
      by_cases hx : x = c
      · subst hx
        have hfirst : Cut x ([] ++ x :: rest) [] (some rest) := .first List.not_mem_nil
        simpa [cutAt] using hfirst
      · have hother : ∀ {cs : List Char}, c ∉ cs → c ∉ x :: cs := fun habsent hmem =>
          (List.mem_cons.mp hmem).elim (fun h => hx h.symm) habsent
        simp only [cutAt, if_neg hx]
        generalize cutAt c rest = cut at ih
        obtain ⟨head, tail⟩ := cut
        cases ih with
        | whole absent => exact .whole (hother absent)
        | first absent => exact .first (hother absent)

theorem cutAt_eq_iff : cutAt c text = (head, tail) ↔ Cut c text head tail := by
  constructor
  · intro h
    have hcut := cut_cutAt c text
    rwa [h] at hcut
  · intro h
    cases h with
    | whole absent => exact cutAt_eq_self absent
    | first absent => exact cutAt_append absent

namespace Cut

theorem absent (h : Cut c text head tail) : c ∉ head := by
  cases h <;> assumption

/-- The part before the cut is a part of the text. -/
theorem head_subset (h : Cut c text head tail) : head ⊆ text := by
  cases h with
  | whole => exact List.Subset.refl _
  | first => exact List.subset_append_left _ _

end Cut

/-! ### Parts -/

/-- The parts of a text between all places where `c` stands. -/
structure Parts (c : Char) (text : List Char) (parts : List (List Char)) : Prop where
  some : parts ≠ []
  free : ∀ part ∈ parts, c ∉ part
  joined : [c].intercalate parts = text

/-- A part has none of the characters a text is split at. -/
theorem not_of_mem_splitOnP {p : Char → Bool} (h : part ∈ text.splitOnP p) :
    ∀ x ∈ part, p x = false := by
  induction text generalizing part with
  | nil =>
      rw [List.splitOnP_nil, List.mem_singleton] at h
      rw [h]
      exact List.forall_mem_nil _
  | cons first rest ih =>
      rw [List.splitOnP_cons_eq_if_modifyHead] at h
      split at h
      · rcases List.mem_cons.mp h with rfl | hrest
        · exact List.forall_mem_nil _
        · exact ih hrest
      · next hother =>
          obtain ⟨head, others, hsplit⟩ := List.exists_cons_of_ne_nil (List.splitOnP_ne_nil p rest)
          rw [hsplit] at h ih
          rcases List.mem_cons.mp h with rfl | hrest
          · exact List.forall_mem_cons.mpr
              ⟨Bool.not_eq_true _ ▸ hother, ih List.mem_cons_self⟩
          · exact ih (List.mem_cons_of_mem head hrest)

theorem not_mem_of_mem_splitOn (h : part ∈ text.splitOn c) : c ∉ part := by
  intro hmem
  rw [List.splitOn_eq_splitOnP] at h
  simpa using not_of_mem_splitOnP h c hmem

theorem splitOn_eq_iff : text.splitOn c = parts ↔ Parts c text parts := by
  constructor
  · rintro rfl
    exact ⟨List.splitOn_ne_nil c text, fun _ => not_mem_of_mem_splitOn, List.intercalate_splitOn c⟩
  · rintro ⟨hsome, hfree, rfl⟩
    exact List.splitOn_intercalate c hfree hsome

/-- A text with something between its parts has all that the parts have. -/
theorem subset_intercalate (sep : List Char) (h : part ∈ parts) : part ⊆ sep.intercalate parts := by
  induction parts with
  | nil => cases h
  | cons first rest ih =>
      cases rest with
      | nil =>
          rw [List.mem_singleton.mp h, List.intercalate_singleton]
          exact List.Subset.refl _
      | cons second others =>
          rw [List.intercalate_cons_cons]
          rcases List.mem_cons.mp h with rfl | hrest
          · exact List.subset_append_of_subset_left _ (List.subset_append_left _ _)
          · exact List.subset_append_of_subset_right _ (ih hrest)

theorem mem_intercalate {sep : List Char} {x : Char} (h : x ∈ sep.intercalate parts) :
    x ∈ sep ∨ ∃ part ∈ parts, x ∈ part := by
  induction parts with
  | nil => cases h
  | cons first rest ih =>
      cases rest with
      | nil =>
          rw [List.intercalate_singleton] at h
          exact .inr ⟨first, List.mem_cons_self, h⟩
      | cons second others =>
          rw [List.intercalate_cons_cons, List.append_assoc, List.mem_append, List.mem_append] at h
          rcases h with hfirst | hsep | hrest
          · exact .inr ⟨first, List.mem_cons_self, hfirst⟩
          · exact .inl hsep
          · exact (ih hrest).imp_right fun ⟨part, hpart, hx⟩ =>
              ⟨part, List.mem_cons_of_mem first hpart, hx⟩

theorem Parts.subset (h : Parts c text parts) (mem : part ∈ parts) : part ⊆ text :=
  h.joined ▸ subset_intercalate [c] mem

/-! ### Words -/

/-- A text without white space that is not empty. -/
structure IsWord (text : List Char) : Prop where
  some : text ≠ []
  unbroken : ∀ x ∈ text, isBlank x = false

/-- White space parts words. -/
theorem words_append (front rest : List Char) (blank : isBlank c = true) :
    words (front ++ c :: rest) = words front ++ words rest := by
  rw [words, List.splitOnP_append_cons front rest blank, List.filter_append, words, words]

/-- A text is its only word just if it is a word. -/
theorem words_eq_singleton_iff : words text = [text] ↔ IsWord text := by
  constructor
  · intro h
    have hmem : text ∈ words text := h.symm ▸ List.mem_cons_self
    exact ⟨ne_nil_of_mem_words hmem, not_of_mem_splitOnP (List.mem_filter.mp hmem).1⟩
  · rintro ⟨hsome, hunbroken⟩
    rw [words, List.splitOnP_eq_singleton hunbroken]
    exact List.filter_eq_self.mpr fun part hpart => by
      rw [List.mem_singleton.mp hpart, Bool.not_eq_true', List.isEmpty_eq_false_iff]
      exact hsome

/-- A text has some words: it is white space, or starts with the first one, perhaps behind white
space, and has the others in what follows, which is set off from the first one by white space. -/
inductive Worded : List Char → List (List Char) → Prop
  | blank {gap : List Char} (blank : ∀ c ∈ gap, isBlank c = true) : Worded gap []
  | word {gap word rest : List Char} {words : List (List Char)}
      (blank : ∀ c ∈ gap, isBlank c = true) (word_ok : IsWord word)
      (apart : ∀ c ∈ rest.head?, isBlank c = true) (others : Worded rest words) :
      Worded (gap ++ word ++ rest) (word :: words)

theorem words_cons_blank (rest : List Char) (blank : isBlank c = true) :
    words (c :: rest) = words rest := by
  rw [← List.nil_append (c :: rest), words_append [] rest blank]
  rfl

theorem words_gap {gap : List Char} (rest : List Char) (blank : ∀ c ∈ gap, isBlank c = true) :
    words (gap ++ rest) = words rest := by
  induction gap with
  | nil => rfl
  | cons c gap ih =>
      obtain ⟨hfirst, hothers⟩ := List.forall_mem_cons.mp blank
      rw [List.cons_append, words_cons_blank _ hfirst, ih hothers]

theorem Worded.words_eq {parts : List (List Char)} (h : Worded text parts) :
    words text = parts := by
  induction h with
  | @blank gap blank =>
      rw [← List.append_nil gap, words_gap [] blank]
      rfl
  | @word gap word rest parts blank word_ok apart others ih =>
      have hword : words (gap ++ word) = [word] := by
        rw [words_gap word blank, words_eq_singleton_iff.mpr word_ok]
      cases rest with
      | nil => rw [List.append_nil, hword, ← ih]; rfl
      | cons c rest =>
          have hblank : isBlank c = true := apart c rfl
          rw [words_append _ rest hblank, hword, ← words_cons_blank rest hblank, ih]
          rfl

theorem Worded.cons_blank {parts : List (List Char)} (blank : isBlank c = true)
    (h : Worded text parts) : Worded (c :: text) parts := by
  cases h with
  | blank hgap => exact .blank (List.forall_mem_cons.mpr ⟨blank, hgap⟩)
  | word hgap hword apart others =>
      exact .word (List.forall_mem_cons.mpr ⟨blank, hgap⟩) hword apart others

/-- A letter in front of a text makes its first word longer, or is a word by itself. -/
theorem Worded.cons_letter {parts : List (List Char)} (letter : isBlank c = false)
    (h : Worded text parts) : ∃ parts, Worded (c :: text) parts := by
  by_cases apart : ∀ x ∈ text.head?, isBlank x = true
  · have hword : IsWord [c] := ⟨List.cons_ne_nil c [], List.forall_mem_singleton.mpr letter⟩
    exact ⟨[c] :: parts, .word (List.forall_mem_nil _) hword apart h⟩
  · cases h with
    | blank hgap => exact absurd (fun x hx => hgap x (List.mem_of_mem_head? hx)) apart
    | @word gap word rest others hgap hword hrest hothers =>
        cases gap with
        | nil =>
            have hlonger : IsWord (c :: word) :=
              ⟨List.cons_ne_nil c word, List.forall_mem_cons.mpr ⟨letter, hword.unbroken⟩⟩
            exact ⟨(c :: word) :: others, .word (List.forall_mem_nil _) hlonger hrest hothers⟩
        | cons g gap =>
            refine absurd (fun x hx => ?_) apart
            cases hx
            exact hgap g List.mem_cons_self

/-- Every text has words, if only none. -/
theorem exists_worded (text : List Char) : ∃ parts, Worded text parts := by
  induction text with
  | nil => exact ⟨[], .blank (List.forall_mem_nil _)⟩
  | cons c text ih =>
      obtain ⟨parts, hparts⟩ := ih
      cases hc : isBlank c with
      | true => exact ⟨parts, hparts.cons_blank hc⟩
      | false => exact hparts.cons_letter hc

theorem words_eq_iff {parts : List (List Char)} : words text = parts ↔ Worded text parts := by
  constructor
  · rintro rfl
    obtain ⟨parts, h⟩ := exists_worded text
    exact h.words_eq.symm ▸ h
  · exact Worded.words_eq

theorem wordsOf_append (front rest : String) :
    wordsOf (front ++ " " ++ rest) = wordsOf front ++ wordsOf rest := by
  have htext : (front ++ " " ++ rest).toList = front.toList ++ ' ' :: rest.toList := by
    simp [String.toList_append]
  rw [wordsOf, htext, words_append _ _ (by decide), List.map_append, wordsOf, wordsOf]

theorem wordsOf_eq_singleton_iff {s : String} : wordsOf s = [s] ↔ IsWord s.toList := by
  rw [← words_eq_singleton_iff, wordsOf]
  constructor
  · intro h
    obtain ⟨word, hword, hs⟩ := List.map_eq_singleton_iff.mp h
    rw [hword, ← hs, String.toList_ofList]
  · intro h
    rw [h, List.map_singleton, String.ofList_toList]

/-! ### Numbers -/

/-- The value of some digits, each by its place. -/
def placeValue : List Char → Nat
  | [] => 0
  | c :: rest => (c.toNat - '0'.toNat) * 10 ^ rest.length + placeValue rest

/-- A text that is a number: digits, of which leading ones may be zero, with a value below `2 ^
64`. -/
structure Numeral (part : List Char) : Prop where
  some : part ≠ []
  digits : ∀ c ∈ part, c.isDigit = true
  bound : placeValue part < 2 ^ 64

theorem ofDigitChars_eq_placeValue (cs : List Char) : Nat.ofDigitChars 10 cs 0 = placeValue cs := by
  induction cs with
  | nil => rfl
  | cons c rest ih =>
      rw [Nat.ofDigitChars_cons, Nat.ofDigitChars_eq_ofDigitChars_zero, ih, placeValue,
        Nat.mul_zero, Nat.zero_add, Nat.mul_comm]

/-- Without a plus sign, a machine word is a number and nothing else. -/
theorem word?_eq_some_iff {n : Nat} (unsigned : '+' ∉ part) :
    word? part = Option.some n ↔ Numeral part ∧ placeValue part = n := by
  have hdrop : dropPlus part = part := by
    unfold dropPlus
    split
    · exact absurd List.mem_cons_self unsigned
    · rfl
  rw [word?, hdrop, Option.filter_eq_some_iff, digits?_eq_some_iff, ofDigitChars_eq_placeValue]
  simp only [isDigits, Bool.and_eq_true, Bool.not_eq_true', List.isEmpty_eq_false_iff,
    List.all_eq_true, decide_eq_true_eq]
  constructor
  · rintro ⟨⟨⟨hsome, hdigits⟩, rfl⟩, hbound⟩
    exact ⟨⟨hsome, hdigits, hbound⟩, rfl⟩
  · rintro ⟨⟨hsome, hdigits, hbound⟩, rfl⟩
    exact ⟨⟨⟨hsome, hdigits⟩, rfl⟩, hbound⟩

end PluginHost.Text
