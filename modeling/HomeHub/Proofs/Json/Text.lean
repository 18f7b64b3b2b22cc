import HomeHub.Json.Printer
import HomeHub.Json.Nesting
import HomeHub.Proofs.Json.Scan
import Mathlib.Tactic.SplitIfs

/-!
# String literals

A character stands in a literal as itself, or escaped in one of several ways. Each of them is read as
that character, so a literal is read as its string, in front of any text. What is written for a string is
one of its literals.
-/
namespace HomeHub.Json
open Scan

def IsHexUnit (digits : List Char) (n : Nat) : Prop :=
  digits.length = 4 ∧ ∃ values, digits.mapM hexDigit? = some values ∧
    values.foldl (fun n d => 16 * n + d) 0 = n

/-- How a character stands in a literal. Behind the basic plane it is escaped by two surrogates. -/
inductive SpellsChar (c : Char) : List Char → Prop
  | plain : c ≠ '"' → c ≠ '\\' → ¬c < ' ' → SpellsChar c [c]
  | short {mark : Char} : shortEscapes.lookup mark = some c → SpellsChar c ['\\', mark]
  | unit {digits : List Char} : IsHexUnit digits c.toNat → SpellsChar c ('\\' :: 'u' :: digits)
  | pair {digits digits' : List Char} {high low : Nat} : IsHexUnit digits high → 0xD800 ≤ high →
      high ≤ 0xDBFF → IsHexUnit digits' low → 0xDC00 ≤ low → low ≤ 0xDFFF →
      c.toNat = (high - 0xD800) * 0x400 + (low - 0xDC00) + 0x10000 →
      SpellsChar c ('\\' :: 'u' :: (digits ++ '\\' :: 'u' :: digits'))

/-- What stands between the quotes of a literal. -/
inductive SpellsText : (text body : List Char) → Prop
  | nil : SpellsText [] []
  | cons {c : Char} {piece text body : List Char} : SpellsChar c piece → SpellsText text body →
      SpellsText (c :: text) (piece ++ body)

def IsLiteral (s : String) (literal : List Char) : Prop :=
  ∃ body, SpellsText s.toList body ∧ literal = '"' :: (body ++ ['"'])

theorem readsTo_hexUnit {digits : List Char} {n : Nat} (h : IsHexUnit digits n) (rest : List Char) :
    ReadsTo hexUnit (digits ++ rest) n rest := by
  obtain ⟨hlength, values, hvalues, rfl⟩ := h
  have hsize : ¬Text.byteSize (digits ++ rest) < 4 := by
    have := Text.length_le_byteSize (digits ++ rest)
    rw [List.length_append] at this
    omega
  have htake : (digits ++ rest).take 4 = digits := List.take_left' hlength
  have hdrop : (digits ++ rest).drop 4 = rest := List.drop_left' hlength
  refine .inl fun place => ⟨⟨place.line, place.column + 4⟩, ?_⟩
  simp only [hexUnit, if_neg hsize, htake, hdrop, hvalues]

/-- The two hexadecimal digits that differ among the escapes of control characters. -/
theorem mapM_hexDigit?_hexDigit {n : Nat} (h : n < 32) :
    ['0', '0', hexDigit (n / 16), hexDigit (n % 16)].mapM hexDigit? =
      some [0, 0, n / 16, n % 16] := by
  revert n
  decide

theorem readsTo_escape_short {mark meant : Char} (h : shortEscapes.lookup mark = some meant)
    (rest : List Char) : ReadsTo escape (mark :: rest) meant rest := by
  refine reads_bind (reads_peek _) ?_
  simp only [List.head?_cons, h]
  exact reads_bind (reads_skip _ _) (reads_pure _ _)

theorem readsTo_escape_unicode {text rest : List Char} {c : Char}
    (h : ReadsTo unicodeEscape text c rest) : ReadsTo escape ('u' :: text) c rest :=
  reads_bind (reads_peek _) (reads_bind (reads_skip _ _) h)

/-- No character is a surrogate. -/
theorem readsTo_unicodeEscape_unit {c : Char} {digits : List Char} (h : IsHexUnit digits c.toNat)
    (rest : List Char) : ReadsTo unicodeEscape (digits ++ rest) c rest := by
  have hvalid : c.toNat < 0xD800 ∨ 0xDFFF < c.toNat ∧ c.toNat < 0x110000 := c.valid
  refine reads_bind (readsTo_hexUnit h rest) ?_
  rw [if_neg (by omega), if_neg (by omega), Char.ofNat_toNat]
  exact reads_pure c rest

theorem readsTo_surrogateMark (mark : Char) (rest : List Char) :
    ReadsTo (surrogateMark mark) (mark :: rest) () rest := by
  refine reads_bind (reads_peek _) ?_
  simp only [List.head?_cons, if_true]
  exact reads_skip _ _

theorem readsTo_unicodeEscape_pair {c : Char} {digits digits' : List Char} {high low : Nat}
    (h : IsHexUnit digits high) (hhigh : 0xD800 ≤ high ∧ high ≤ 0xDBFF) (h' : IsHexUnit digits' low)
    (hlow : 0xDC00 ≤ low ∧ low ≤ 0xDFFF)
    (hc : c.toNat = (high - 0xD800) * 0x400 + (low - 0xDC00) + 0x10000) (rest : List Char) :
    ReadsTo unicodeEscape (digits ++ '\\' :: 'u' :: (digits' ++ rest)) c rest := by
  refine reads_bind (readsTo_hexUnit h _) ?_
  rw [if_neg (by omega), if_pos hhigh]
  refine reads_bind (readsTo_surrogateMark _ _) (reads_bind (readsTo_surrogateMark _ _) ?_)
  refine reads_bind (readsTo_hexUnit h' rest) ?_
  rw [if_pos hlow, ← hc, Char.ofNat_toNat]
  exact reads_pure c rest

theorem readsTo_textStep_escape {text rest : List Char} {c : Char} (h : ReadsTo escape text c rest)
    (read : List Char) : ReadsTo (textStep read) ('\\' :: text) (.inl (c :: read)) rest :=
  reads_bind (reads_peek _)
    (reads_bind (reads_skip _ _) (reads_bind h (reads_pure _ _)))

theorem readsTo_textStep_plain {c : Char} (hquote : c ≠ '"') (hslash : c ≠ '\\') (hc : ¬c < ' ')
    (read rest : List Char) : ReadsTo (textStep read) (c :: rest) (.inl (c :: read)) rest := by
  refine reads_bind (reads_peek _) ?_
  simp only [List.head?_cons]
  rw [if_neg hc]
  exact reads_bind (reads_skip _ _) (reads_pure _ _)

theorem readsTo_textStep {c : Char} {piece : List Char} (h : SpellsChar c piece)
    (read rest : List Char) : ReadsTo (textStep read) (piece ++ rest) (.inl (c :: read)) rest := by
  cases h with
  | plain hquote hslash hcontrol => exact readsTo_textStep_plain hquote hslash hcontrol read rest
  | short hmark => exact readsTo_textStep_escape (readsTo_escape_short hmark rest) read
  | unit hunit =>
    have hescape := readsTo_unicodeEscape_unit hunit rest
    exact readsTo_textStep_escape (readsTo_escape_unicode hescape) read
  | pair hhigh hleast hmost hlow hleast' hmost' hc =>
    have hescape := readsTo_unicodeEscape_pair hhigh ⟨hleast, hmost⟩ hlow ⟨hleast', hmost'⟩ hc rest
    simp only [List.cons_append, List.append_assoc]
    exact readsTo_textStep_escape (readsTo_escape_unicode hescape) read

theorem readsTo_textStep_quote (read rest : List Char) :
    ReadsTo (textStep read) ('"' :: rest) (.inr (String.ofList read.reverse)) rest :=
  reads_bind (reads_peek _) (reads_bind (reads_skip _ _) (reads_pure _ _))

theorem SpellsChar.one_le_length {c : Char} {piece : List Char} (h : SpellsChar c piece) :
    1 ≤ piece.length := by
  cases h <;> simp

theorem SpellsText.length_le {text body : List Char} (h : SpellsText text body) :
    text.length ≤ body.length := by
  induction h with
  | nil => exact Nat.le_refl 0
  | cons hpiece _ ih =>
    have := hpiece.one_le_length
    simp only [List.length_append, List.length_cons]
    omega

theorem readsTo_iterate_textStep {text body : List Char} (h : SpellsText text body)
    (read rest : List Char) (fuel : Nat) (hfuel : text.length < fuel) :
    ReadsTo (iterate textStep fuel read) (body ++ '"' :: rest)
      (String.ofList (read.reverse ++ text)) rest := by
  induction h generalizing read fuel with
  | nil =>
    obtain ⟨fuel, rfl⟩ := Nat.exists_eq_succ_of_ne_zero (Nat.ne_zero_of_lt hfuel)
    rw [List.append_nil]
    exact reads_iterate_last (readsTo_textStep_quote read rest) fuel
  | @cons c piece text body hpiece _ ih =>
    obtain ⟨fuel, rfl⟩ := Nat.exists_eq_succ_of_ne_zero (Nat.ne_zero_of_lt hfuel)
    have hnext := ih (c :: read) fuel (by simpa using hfuel)
    rw [List.reverse_cons, List.append_assoc, List.singleton_append] at hnext
    rw [List.append_assoc]
    exact reads_iterate_next (readsTo_textStep hpiece read _) hnext

theorem readsTo_textBody_of_spells {text : String} {body : List Char}
    (h : SpellsText text.toList body) (rest : List Char) :
    ReadsTo textBody (body ++ '"' :: rest) text rest := by
  refine reads_loop fun fuel hfuel => ?_
  have hle := h.length_le
  rw [List.length_append] at hfuel
  have hread := readsTo_iterate_textStep h [] rest fuel (by omega)
  rwa [List.reverse_nil, List.nil_append, String.ofList_toList] at hread

theorem spellsChar_writeChar (c : Char) : SpellsChar c (writeChar c) := by
  unfold writeChar
  split_ifs with hself hb hf hn hr ht hcontrol
  · rcases hself with rfl | rfl <;> exact .short rfl
  · exact .short (hb ▸ rfl)
  · exact .short (hf ▸ rfl)
  · exact .short (hn ▸ rfl)
  · exact .short (hr ▸ rfl)
  · exact .short (ht ▸ rfl)
  · have hc : c.toNat < 32 := hcontrol
    refine .unit ⟨rfl, _, mapM_hexDigit?_hexDigit hc, ?_⟩
    simp only [List.foldl_cons, List.foldl_nil]
    omega
  · exact .plain (fun h => hself (Or.inl h)) (fun h => hself (Or.inr h)) hcontrol

theorem spellsText_writeText (text : List Char) : SpellsText text (text.flatMap writeChar) := by
  induction text with
  | nil => exact .nil
  | cons c text ih => exact .cons (spellsChar_writeChar c) ih

theorem isLiteral_writeText (s : String) : IsLiteral s (writeText s) :=
  ⟨_, spellsText_writeText s.toList, rfl⟩

/-- The body of a written string is read back, wherever it stands. -/
theorem readsTo_textBody (text : String) (rest : List Char) :
    ReadsTo textBody (text.toList.flatMap writeChar ++ '"' :: rest) text rest :=
  readsTo_textBody_of_spells (spellsText_writeText text.toList) rest

theorem readsTo_memberName_of_isLiteral {name : String} {literal : List Char}
    (h : IsLiteral name literal) (rest : List Char) :
    ReadsTo memberName (literal ++ rest) name rest := by
  obtain ⟨body, hbody, rfl⟩ := h
  rw [List.cons_append, List.append_assoc, List.singleton_append]
  exact reads_bind (reads_skip _ _) (readsTo_textBody_of_spells hbody rest)

theorem readsTo_memberName (text : String) (rest : List Char) :
    ReadsTo memberName (writeText text ++ rest) text rest :=
  readsTo_memberName_of_isLiteral (isLiteral_writeText text) rest

end HomeHub.Json
