import Mathlib.Data.List.Basic
import PluginHost.Proofs.Text.Parts
import PluginHost.Text.Template

/-!
What a template comes to. It is written down part by part, literal texts and placeholders,
perhaps with a brace behind them that is never closed. Each part is then shown in its own place:
texts as they are, and for a placeholder its argument, or the placeholder itself if there is none.
The arguments are not looked at; whatever they hold, nothing in them is taken for a placeholder.
-/
namespace PluginHost.Text.Template

/-! ### Templates as they are written -/

/-- A part of a template. -/
inductive Part where
  /-- A text that opens no brace. Closing braces in it stand for themselves. -/
  | literal (text : List Char) (free : '{' ∉ text)
  /-- An empty pair of braces. -/
  | bare
  /-- A decimal number in braces. -/
  | numbered (digits : List Char) (some : digits ≠ []) (decimal : ∀ c ∈ digits, c.isDigit = true)

namespace Part

def source : Part → List Char
  | literal text _ => text
  | bare => ['{', '}']
  | numbered digits _ _ => '{' :: digits ++ ['}']

def isBare : Part → Bool
  | bare => true
  | _ => false

/-- The position of the argument that is shown for a part, given how many bare placeholders stand
before it. -/
def argument? (ordinal : Nat) : Part → Option Nat
  | literal _ _ => none
  | bare => some ordinal
  | numbered digits _ _ => some (placeValue digits)

/-- What a part is replaced by: the text of its argument, or itself if it has none. -/
def shown (args : List String) (ordinal : Nat) (part : Part) : List Char :=
  match (part.argument? ordinal).bind (args[·]?) with
  | some arg => arg.toList
  | none => part.source

end Part

/-- Parts one after the other, and a text behind a brace that stays open, if there is one. -/
structure Written where
  parts : List Part
  opened : Option (List Char)
  unclosed : ∀ rest ∈ opened, '}' ∉ rest

/-- How many bare placeholders stand before a place. -/
def ordinal (parts : List Part) (i : Nat) : Nat :=
  (parts.take i).countP Part.isBare

namespace Written

/-- The unclosed brace with what follows it. -/
def tail (w : Written) : List Char :=
  w.opened.elim [] ('{' :: ·)

def source (w : Written) : List Char :=
  w.parts.flatMap Part.source ++ w.tail

/-- Every part in its own place, and the unclosed brace as it is. -/
def shown (w : Written) (args : List String) : List Char :=
  (w.parts.mapIdx fun i part => part.shown args (ordinal w.parts i)).flatten ++ w.tail

end Written

/-! ### Cutting and filling -/

variable {args : List String} {bare : Nat} {seen inner text rest : List Char}

theorem cut_literal (free : '{' ∉ text) :
    cut seen none (text ++ rest) = cut (text.reverse ++ seen) none rest := by
  induction text generalizing seen with
  | nil => rfl
  | cons c text ih =>
      obtain ⟨hfirst, hothers⟩ := not_or.mp (mt List.mem_cons.mpr free)
      rw [List.cons_append, cut, if_neg (Ne.symm hfirst), ih hothers, List.reverse_cons,
        List.append_assoc, List.singleton_append]

theorem cut_closed (free : '}' ∉ text) : cut seen (some inner) (text ++ '}' :: rest) =
    .plain seen.reverse :: .hole (inner.reverse ++ text) :: cut [] none rest := by
  induction text generalizing inner with
  | nil => rw [List.nil_append, cut, if_pos rfl, List.append_nil]
  | cons c text ih =>
      obtain ⟨hfirst, hothers⟩ := not_or.mp (mt List.mem_cons.mpr free)
      rw [List.cons_append, cut, if_neg (Ne.symm hfirst), ih hothers, List.reverse_cons,
        List.append_assoc, List.singleton_append]

theorem cut_unclosed (free : '}' ∉ text) : cut seen (some inner) text =
    [.plain (seen.reverse ++ '{' :: (inner.reverse ++ text))] := by
  induction text generalizing inner with
  | nil => rw [cut, List.append_nil]
  | cons c text ih =>
      obtain ⟨hfirst, hothers⟩ := not_or.mp (mt List.mem_cons.mpr free)
      rw [cut, if_neg (Ne.symm hfirst), ih hothers, List.reverse_cons, List.append_assoc,
        List.singleton_append]

/-- Plain text that was passed already is shown first. -/
theorem fill_cut_seen (args : List String) (bare : Nat) (seen : List Char)
    (opened : Option (List Char)) (text : List Char) :
    fill args bare (cut seen opened text) =
      seen.reverse ++ fill args bare (cut [] opened text) := by
  induction text generalizing seen opened with
  | nil => cases opened <;> simp [cut, fill]
  | cons c text ih =>
      cases opened with
      | none =>
          by_cases hopen : c = '{'
          · simp only [cut, if_pos hopen]
            exact ih seen (some [])
          · simp only [cut, if_neg hopen]
            rw [ih (c :: seen), ih [c], List.reverse_cons, List.append_assoc]
            rfl
      | some inner =>
          by_cases hclose : c = '}'
          · simp [cut, if_pos hclose, fill]
          · simp only [cut, if_neg hclose]
            exact ih seen (some (c :: inner))

theorem fill_literal (free : '{' ∉ text) :
    fill args bare (cut [] none (text ++ rest)) = text ++ fill args bare (cut [] none rest) := by
  rw [cut_literal free, List.append_nil, fill_cut_seen, List.reverse_reverse]

/-- A closed pair of braces is replaced by what is asked for, if that is there. -/
theorem fill_closed (free : '}' ∉ text) :
    fill args bare (cut [] none ('{' :: text ++ '}' :: rest)) =
      (match (position? text bare).bind (args[·]?) with
        | some arg => arg.toList
        | none => '{' :: text ++ ['}']) ++
      fill args (if text.isEmpty then bare + 1 else bare) (cut [] none rest) := by
  rw [List.cons_append, cut, if_pos rfl, cut_closed free]
  rfl

/-! ### What parts come to -/

/-- A decimal number is read as its value, as far as it matters to lists that memory can hold. -/
theorem position?_numbered {digits : List Char} (hsome : digits ≠ [])
    (decimal : ∀ c ∈ digits, c.isDigit = true) (fits : args.length ≤ 2 ^ 64) :
    (position? digits bare).bind (args[·]?) = args[placeValue digits]? := by
  have hunsigned : '+' ∉ digits := fun hplus => absurd (decimal '+' hplus) (by decide)
  rw [position?, if_neg (by simpa using hsome)]
  by_cases hbound : placeValue digits < 2 ^ 64
  · rw [(word?_eq_some_iff hunsigned).mpr ⟨⟨hsome, decimal, hbound⟩, rfl⟩]
    rfl
  · have hnone : word? digits = none := by
      refine Option.eq_none_iff_forall_ne_some.mpr fun n hn => hbound ?_
      exact ((word?_eq_some_iff hunsigned).mp hn).1.bound
    rw [hnone, List.getElem?_eq_none (Nat.le_trans fits (Nat.le_of_not_lt hbound))]
    rfl

theorem fill_part (part : Part) (fits : args.length ≤ 2 ^ 64) :
    fill args bare (cut [] none (part.source ++ rest)) =
      part.shown args bare ++ fill args (bare + [part].countP Part.isBare) (cut [] none rest) := by
  cases part with
  | literal text free => exact fill_literal free
  | bare => exact fill_closed List.not_mem_nil
  | numbered digits hsome decimal =>
      have hfree : '}' ∉ digits := fun hclose => absurd (decimal '}' hclose) (by decide)
      rw [Part.source, List.append_assoc, List.singleton_append, fill_closed hfree,
        position?_numbered hsome decimal fits, if_neg (by simpa using hsome)]
      rfl

theorem countP_first (part : Part) (parts : List Part) : (part :: parts).countP Part.isBare =
    [part].countP Part.isBare + parts.countP Part.isBare := by
  rw [← List.countP_append, List.singleton_append]

theorem fill_parts (parts : List Part) (fits : args.length ≤ 2 ^ 64) :
    fill args bare (cut [] none (parts.flatMap Part.source ++ rest)) =
      (parts.mapIdx fun i part => part.shown args (bare + ordinal parts i)).flatten ++
        fill args (bare + parts.countP Part.isBare) (cut [] none rest) := by
  induction parts generalizing bare with
  | nil => rfl
  | cons part parts ih =>
      have hordinal : ∀ i, bare + [part].countP Part.isBare + ordinal parts i =
          bare + ordinal (part :: parts) (i + 1) := by
        intro i
        rw [ordinal, ordinal, List.take_succ_cons, countP_first part (parts.take i),
          Nat.add_assoc]
      have hcount : bare + [part].countP Part.isBare + parts.countP Part.isBare =
          bare + (part :: parts).countP Part.isBare := by
        rw [countP_first part parts, Nat.add_assoc]
      rw [List.flatMap_cons, List.append_assoc, fill_part part fits, ih, hcount, List.mapIdx_cons,
        List.flatten_cons, List.append_assoc]
      simp only [hordinal]
      rfl

theorem fill_tail (w : Written) : fill args bare (cut [] none w.tail) = w.tail := by
  obtain ⟨parts, _ | text, hunclosed⟩ := w
  · rfl
  · have hfree : '}' ∉ text := hunclosed text rfl
    simp only [Written.tail, Option.elim_some]
    rw [cut, if_pos rfl, cut_unclosed hfree]
    simp [fill]

/-- Without arguments every brace stays where it is. -/
theorem fill_nil (bare : Nat) (seen : List Char) (opened : Option (List Char)) (text : List Char) :
    fill [] bare (cut seen opened text) =
      seen.reverse ++ opened.elim [] (fun inner => '{' :: inner.reverse) ++ text := by
  induction text generalizing bare seen opened with
  | nil => cases opened <;> simp [cut, fill]
  | cons c text ih =>
      cases opened with
      | none =>
          by_cases hopen : c = '{'
          · simp [cut, ih, hopen]
          · simp [cut, if_neg hopen, ih]
      | some inner =>
          by_cases hclose : c = '}'
          · cases hposition : position? inner.reverse bare <;>
              simp [cut, fill, ih, hposition, hclose]
          · simp [cut, if_neg hclose, ih]

/-- A template shows each of its parts in its place, and without arguments nothing changes in any
text. A list of arguments has no more members than there are machine words. -/
theorem format_shows (w : Written) (args : List String) (fits : args.length ≤ 2 ^ 64) :
    format (String.ofList w.source) args = String.ofList (w.shown args) ∧
      ∀ template, format template [] = template := by
  constructor
  · rw [format, pieces, String.toList_ofList, Written.source, fill_parts w.parts fits, fill_tail]
    simp only [Nat.zero_add]
    rfl
  · intro template
    rw [format, pieces, fill_nil]
    exact String.ofList_toList

namespace TemplateWitness

/-- Bare placeholders and numbered ones, some of them out of range, a closing brace that closes
nothing, and an open one at the end. -/
def letter : Written where
  parts := [.bare, .numbered ['1', '2'] (by decide) (List.all_eq_true.mp (by decide)),
    .literal ['}', ' '] (by decide),
    .numbered ['0', '0'] (by decide) (List.all_eq_true.mp (by decide)), .bare, .bare]
  opened := some ['{', '0']
  unclosed := by decide

/-- The first argument looks like a placeholder, and is not taken for one. -/
theorem letter_shows : (["{1}", "b"] : List String).length ≤ 2 ^ 64 ∧
    String.ofList letter.source = "{}{12}\x7d {00}{}{}\x7b\x7b0" ∧
    format (String.ofList letter.source) ["{1}", "b"] = "{1}{12}\x7d {1}b{}\x7b\x7b0" ∧
    format "\x7b {0}\x7d {}" [] = "\x7b {0}\x7d {}" := by
  have hfits : (["{1}", "b"] : List String).length ≤ 2 ^ 64 := by decide
  obtain ⟨hshown, hsame⟩ := format_shows letter ["{1}", "b"] hfits
  have hletter : String.ofList (letter.shown ["{1}", "b"]) = "{1}{12}\x7d {1}b{}\x7b\x7b0" := by
    decide +kernel
  exact ⟨hfits, by decide +kernel, hshown.trans hletter, hsame _⟩

end TemplateWitness

end PluginHost.Text.Template
