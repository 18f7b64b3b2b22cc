import HomeHub.Markup.Reference

/-!
# Escaped values

Writing the five characters that have an entity as references, and all others as themselves. Reading
the references of a value that is so written gives the value again.
-/
namespace HomeHub.Markup

/-- The reference of a character that has an entity. -/
def escapeChar : Char → List Char
  | '<' => ['&', 'l', 't', ';']
  | '>' => ['&', 'g', 't', ';']
  | '&' => ['&', 'a', 'm', 'p', ';']
  | '\'' => ['&', 'a', 'p', 'o', 's', ';']
  | '"' => ['&', 'q', 'u', 'o', 't', ';']
  | c => [c]

def escape (value : List Char) : List Char := value.flatMap escapeChar

theorem escape_cons (c : Char) (value : List Char) :
    escape (c :: value) = escapeChar c ++ escape value := List.flatMap_cons

theorem not_mem_escapeChar {c : Char} (hc : c = '<' ∨ c = '>' ∨ c = '\'' ∨ c = '"') (d : Char) :
    c ∉ escapeChar d := by
  unfold escapeChar
  split
  iterate 5 rcases hc with rfl | rfl | rfl | rfl <;> decide
  rintro hmem
  obtain rfl := List.mem_singleton.mp hmem
  rcases hc with rfl | rfl | rfl | rfl <;> contradiction

/-- No markup and no quote is left in an escaped value. -/
theorem not_mem_escape {c : Char} (hc : c = '<' ∨ c = '>' ∨ c = '\'' ∨ c = '"')
    (value : List Char) : c ∉ escape value := by
  intro hmem
  obtain ⟨d, -, hd⟩ := List.mem_flatMap.mp hmem
  exact not_mem_escapeChar hc d hd

theorem unescapeFrom_cons {c : Char} (hc : c ≠ '&') (size position : Nat) (rest : List Char) :
    unescapeFrom size position (c :: rest) =
      (unescapeFrom size (position + c.utf8Size) rest).map (c :: ·) := by
  rw [unescapeFrom, if_neg hc]
  rfl

theorem splitReference_append {name : List Char} (h : name.all isNameChar) (rest : List Char) :
    splitReference (name ++ ';' :: rest) = some (name, rest) := by
  have hname := List.all_eq_true.mp h
  rw [splitReference, List.dropWhile_append_of_pos hname, List.takeWhile_append_of_pos hname,
    List.dropWhile_cons_of_neg (by decide), List.takeWhile_cons_of_neg (by decide)]
  simp

theorem unescapeFrom_reference {name : List Char} {c : Char} (hname : name.all isNameChar)
    (hresolve : ∀ position, resolve position name = .ok c) (size position : Nat) (rest : List Char) :
    unescapeFrom size position ('&' :: name ++ ';' :: rest) =
      (unescapeFrom size (position + Text.byteSize name + 2) rest).map (c :: ·) := by
  have hsplit := splitReference_append hname rest
  rw [List.cons_append, unescapeFrom, if_pos rfl]
  split
  · rw [hsplit] at *
    contradiction
  · obtain ⟨rfl, rfl⟩ := Prod.mk.inj (Option.some.inj (hsplit.symm.trans ‹_›))
    rw [hresolve]
    rfl

/-- The reference of a character is read as the character, wherever it stands. -/
theorem exists_unescapeFrom_escapeChar (c : Char) (size position : Nat) (rest : List Char) :
    ∃ position', unescapeFrom size position (escapeChar c ++ rest) =
      (unescapeFrom size position' rest).map (c :: ·) := by
  have hreference {c : Char} (name : List Char) (hname : name.all isNameChar)
      (hresolve : ∀ position, resolve position name = .ok c) :
      ∃ position', unescapeFrom size position ('&' :: name ++ ';' :: rest) =
        (unescapeFrom size position' rest).map (c :: ·) :=
    ⟨_, unescapeFrom_reference hname hresolve size position rest⟩
  unfold escapeChar
  split
  · exact hreference ['l', 't'] (by decide) fun _ => rfl
  · exact hreference ['g', 't'] (by decide) fun _ => rfl
  · exact hreference ['a', 'm', 'p'] (by decide) fun _ => rfl
  · exact hreference ['a', 'p', 'o', 's'] (by decide) fun _ => rfl
  · exact hreference ['q', 'u', 'o', 't'] (by decide) fun _ => rfl
  · exact ⟨_, unescapeFrom_cons ‹_› size position rest⟩

theorem unescapeFrom_escape (value : List Char) (size position : Nat) :
    unescapeFrom size position (escape value) = .ok value := by
  induction value generalizing position with
  | nil => rw [escape, List.flatMap_nil, unescapeFrom]
  | cons c rest ih =>
    obtain ⟨position', hchar⟩ := exists_unescapeFrom_escapeChar c size position (escape rest)
    rw [escape_cons, hchar, ih]
    rfl

theorem unescape_escape (value : List Char) : unescape (escape value) = .ok value :=
  unescapeFrom_escape value _ 0

end HomeHub.Markup
