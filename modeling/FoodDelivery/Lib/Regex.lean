import Mathlib.Data.List.Infix
import Mathlib.Data.List.Range

/-!
# Regular expressions as text

A fragment of the usual pattern language: literals, `.`, the anchors, groups, alternation, the
quantifiers `*`, `+` and `?`, and the backslash before what is neither letter nor digit.  `parse`
reads a pattern from its text, and gives nothing outside the fragment; `finds` looks for a match
anywhere in a text, comparing characters by what `fold` makes of them.

* `escape`: a backslash before each special character.
* `parse_escape`: **an escaped text is read as the literal that it is**.
* `finds_literal`: a literal is found exactly in the texts that it is a part of.
-/

namespace Regex

inductive Pattern
  | empty
  | char (c : Char)
  | any
  | lineStart
  | lineEnd
  | seq (p q : Pattern)
  | alt (p q : Pattern)
  | many (p : Pattern)
  deriving DecidableEq, Repr

/-! ## Matching -/

section Matching

variable {α : Type} [DecidableEq α] (fold : Char → α) (text : List Char)

/-- The positions reached from some positions by any number of steps, `fuel` at most. -/
def iterate (step : Nat → List Nat) : Nat → Nat → List Nat
  | 0, i => [i]
  | fuel + 1, i => i :: (step i).flatMap (iterate step fuel)

/-- Where a match that starts at a position can end. -/
def Pattern.ends : Pattern → Nat → List Nat
  | empty, i => [i]
  | char c, i => if (text[i]?).any (fold · = fold c) then [i + 1] else []
  | any, i => if (text[i]?).any (· ≠ '\n') then [i + 1] else []
  | lineStart, i => if i = 0 then [i] else []
  | lineEnd, i =>
    if i = text.length ∨ (i + 1 = text.length ∧ text[i]? = some '\n') then [i] else []
  | seq p q, i => (p.ends i).flatMap q.ends
  | alt p q, i => p.ends i ++ q.ends i
  | many p, i => iterate p.ends text.length i

/-- The pattern matches somewhere in the text. -/
def finds (p : Pattern) : Bool :=
  (List.range (text.length + 1)).any fun i => p.ends fold text i ≠ []

end Matching

/-! ## Reading a pattern -/

/-- The characters that stand for something else than themselves. -/
def specials : List Char :=
  ['.', '*', '+', '?', '^', '$', '{', '}', '(', ')', '|', '[', ']', '\\']

/-- A quantifier after a pattern, and what comes after it. -/
def quantify (p : Pattern) : List Char → Option (Pattern × List Char)
  | '*' :: s => some (.many p, s)
  | '+' :: s => some (.seq p (.many p), s)
  | '?' :: s => some (.alt p .empty, s)
  -- a repetition count
  | '{' :: _ => none
  | s => some (p, s)

mutual

/-- Sequences with `|` between them. -/
def parseAlt : Nat → List Char → Option (Pattern × List Char)
  | 0, _ => none
  | fuel + 1, s =>
    match parseSeq fuel s with
    | some (p, '|' :: s') => (parseAlt fuel s').map fun r => (.alt p r.1, r.2)
    | o => o

/-- Atoms one after the other, up to a `|` or a closing bracket. -/
def parseSeq : Nat → List Char → Option (Pattern × List Char)
  | 0, _ => none
  | _ + 1, [] => some (.empty, [])
  | _ + 1, '|' :: s => some (.empty, '|' :: s)
  | _ + 1, ')' :: s => some (.empty, ')' :: s)
  | fuel + 1, c :: s =>
    match parseAtom fuel c s with
    | none => none
    | some (p, s') =>
      match quantify p s' with
      | none => none
      | some (q, s'') => (parseSeq fuel s'').map fun r => (.seq q r.1, r.2)

/-- One atom, from its first character on. -/
def parseAtom : Nat → Char → List Char → Option (Pattern × List Char)
  | 0, _, _ => none
  | fuel + 1, c, s =>
    match c, s with
    | '(', s =>
      match parseAlt fuel s with
      | some (p, ')' :: s') => some (p, s')
      | _ => none
    | '.', s => some (.any, s)
    | '^', s => some (.lineStart, s)
    | '$', s => some (.lineEnd, s)
    | '\\', d :: s => if d.isAlphanum then none else some (.char d, s)
    | '\\', [] => none
    | c, s => if c ∈ ['[', '*', '+', '?', '{'] then none else some (.char c, s)

end

/-- The pattern with this text. -/
def parse (s : List Char) : Option Pattern :=
  match parseAlt (3 * s.length + 3) s with
  | some (p, []) => some p
  | _ => none

/-! ## Escaping -/

/-- A backslash before each special character. -/
def escape (s : List Char) : List Char :=
  s.flatMap fun c => if c ∈ specials then ['\\', c] else [c]

/-- The characters one after the other. -/
def literal : List Char → Pattern
  | [] => .empty
  | c :: s => .seq (.char c) (literal s)

theorem escape_cons (c : Char) (s : List Char) :
    escape (c :: s) = (if c ∈ specials then ['\\', c] else [c]) ++ escape s := rfl

/-- Escaping adds nothing but backslashes. -/
theorem mem_escape {c : Char} (hc : c ≠ '\\') (s : List Char) : c ∈ escape s ↔ c ∈ s := by
  rw [escape, List.mem_flatMap]
  constructor
  · rintro ⟨d, hd, hmem⟩
    have hcd : c = d := by
      split at hmem <;> simpa [hc] using hmem
    exact hcd ▸ hd
  · intro h
    refine ⟨c, h, ?_⟩
    split <;> simp

/-- An escaped text is empty, or starts with a backslash or with what is not special. -/
theorem escape_cases (s : List Char) : escape s = [] ∨
    ∃ c s', escape s = c :: s' ∧ (c = '\\' ∨ c ∉ specials) := by
  cases s with
  | nil => exact Or.inl rfl
  | cons c s =>
    refine Or.inr ?_
    rw [escape_cons]
    by_cases hc : c ∈ specials
    · rw [if_pos hc]
      exact ⟨'\\', c :: escape s, rfl, Or.inl rfl⟩
    · rw [if_neg hc]
      exact ⟨c, escape s, rfl, Or.inr hc⟩

/-- No quantifier comes first in an escaped text. -/
theorem quantify_escape (p : Pattern) (s : List Char) :
    quantify p (escape s) = some (p, escape s) := by
  rcases escape_cases s with h | ⟨c, s', h, hc⟩
  · rw [h]
    rfl
  · rw [h]
    unfold quantify
    split
    all_goals first
      | rfl
      | (rename_i heq; cases heq; simp [specials] at hc)

theorem not_alphanum_of_special {c : Char} (h : c ∈ specials) : c.isAlphanum = false := by
  simp only [specials, List.mem_cons, List.not_mem_nil, or_false] at h
  rcases h with
    rfl | rfl | rfl | rfl | rfl | rfl | rfl | rfl | rfl | rfl | rfl | rfl | rfl | rfl <;> decide

theorem parseAtom_escaped {c : Char} (hc : c ∈ specials) (fuel : Nat) (s : List Char) :
    parseAtom (fuel + 1) '\\' (c :: s) = some (.char c, s) := by
  simp [parseAtom, not_alphanum_of_special hc]

theorem parseAtom_plain {c : Char} (hc : c ∉ specials) (fuel : Nat) (s : List Char) :
    parseAtom (fuel + 1) c s = some (.char c, s) := by
  unfold parseAtom
  split
  case h_7 =>
    rw [if_neg]
    simp only [specials, List.mem_cons, List.not_mem_nil, or_false, not_or] at hc ⊢
    tauto
  all_goals simp [specials] at hc

/-- One character of an escaped text is read as itself. -/
theorem parseSeq_escape_cons (fuel : Nat) (c : Char) (s : List Char) :
    parseSeq (fuel + 2) (escape (c :: s)) =
      (parseSeq (fuel + 1) (escape s)).map fun r => (.seq (.char c) r.1, r.2) := by
  rw [escape_cons]
  by_cases hc : c ∈ specials
  · rw [if_pos hc]
    show parseSeq (fuel + 2) ('\\' :: c :: escape s) = _
    rw [parseSeq, parseAtom_escaped hc]
    · simp only [quantify_escape]
    · simp
    · simp
  · rw [if_neg hc]
    show parseSeq (fuel + 2) (c :: escape s) = _
    rw [parseSeq, parseAtom_plain hc]
    · simp only [quantify_escape]
    · rintro rfl
      simp [specials] at hc
    · rintro rfl
      simp [specials] at hc

theorem parseSeq_escape (s : List Char) : ∀ fuel, s.length < fuel →
    parseSeq (fuel + 1) (escape s) = some (literal s, []) := by
  induction s with
  | nil => intro fuel _; rfl
  | cons c s ih =>
    intro fuel hfuel
    obtain ⟨fuel, rfl⟩ := Nat.exists_eq_succ_of_ne_zero (Nat.ne_of_gt (Nat.zero_lt_of_lt hfuel))
    rw [parseSeq_escape_cons, ih fuel (by simpa using hfuel)]
    rfl

theorem length_le_escape (s : List Char) : s.length ≤ (escape s).length := by
  induction s with
  | nil => exact Nat.le_refl 0
  | cons c s ih =>
    rw [escape_cons, List.length_append, List.length_cons]
    split
    · simp only [List.length_cons, List.length_nil]
      omega
    · simp only [List.length_cons, List.length_nil]
      omega

/-- **An escaped text is read as the literal that it is.** -/
theorem parse_escape (s : List Char) : parse (escape s) = some (literal s) := by
  have hfuel := length_le_escape s
  have hseq : parseSeq (3 * (escape s).length + 2) (escape s) = some (literal s, []) :=
    parseSeq_escape s (3 * (escape s).length + 1) (by omega)
  unfold parse
  rw [parseAlt, hseq]

/-! ## Finding a literal -/

section Finding

variable {α : Type} [DecidableEq α] {fold : Char → α} {text : List Char}

theorem ends_literal (s : List Char) : ∀ i, (literal s).ends fold text i =
    if ((text.drop i).take s.length).map fold = s.map fold then [i + s.length] else [] := by
  induction s with
  | nil => intro i; simp [literal, Pattern.ends]
  | cons c s ih =>
    intro i
    simp only [literal, Pattern.ends]
    cases hi : text[i]? with
    | none =>
      have hdrop : text.drop i = [] := List.drop_eq_nil_of_le (List.getElem?_eq_none_iff.mp hi)
      simp [hdrop]
    | some d =>
      obtain ⟨hlt, hd⟩ := List.getElem?_eq_some_iff.mp hi
      have hdrop : text.drop i = d :: text.drop (i + 1) := by
        rw [← hd]
        exact List.drop_eq_getElem_cons hlt
      rw [hdrop, Option.any_some]
      by_cases hc : fold d = fold c
      · have hlen : i + 1 + s.length = i + (s.length + 1) := by omega
        simp [hc, ih, hlen]
      · simp [hc]

/-- **A literal is found exactly in the texts that it is a part of.** -/
theorem finds_literal (s : List Char) :
    finds fold text (literal s) = true ↔ s.map fold <:+: text.map fold := by
  have hends : ∀ i, (literal s).ends fold text i ≠ [] ↔
      ((text.drop i).take s.length).map fold = s.map fold := by
    intro i
    rw [ends_literal]
    split <;> simp_all
  rw [finds, List.any_eq_true]
  simp only [decide_eq_true_eq, List.mem_range, hends]
  constructor
  · rintro ⟨i, _, hi⟩
    rw [← hi]
    exact ((List.take_prefix _ _).isInfix.trans (List.drop_suffix i text).isInfix).map fold
  · rintro ⟨pre, post, happend⟩
    have hlength := congrArg List.length happend
    simp only [List.length_append, List.length_map] at hlength
    refine ⟨pre.length, by omega, ?_⟩
    rw [List.map_take, List.map_drop, ← happend, List.append_assoc, List.drop_left,
      ← List.length_map (f := fold), List.take_left]

end Finding

end Regex
