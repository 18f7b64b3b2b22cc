import HomeHub.Markup.Event
import Mathlib.Data.List.Basic

/-!
# Pieces of markup

A piece of markup stands between a `<` and the first `>` that may close it. It starts an element, ends the
innermost one, or is passed over. Reading a text takes its pieces in order.
-/
namespace HomeHub

theorem bind_eq_ok_iff {ε α β : Type} {x : Except ε α} {f : α → Except ε β} {b : β} :
    x >>= f = .ok b ↔ ∃ a, x = .ok a ∧ f a = .ok b := by
  cases x <;> simp [bind, Except.bind]

namespace Markup

/-- The first `>` that a test accepts stands behind a content. -/
structure IsClosedBy (test : List Char → Bool) (content : List Char) : Prop where
  closed : test content.reverse
  first : ∀ before after, content = before ++ '>' :: after → ¬test before.reverse

theorem splitClosing_eq_some_iff {test : List Char → Bool} {before text content rest : List Char} :
    splitClosing test before text = some (content, rest) ↔
      ∃ inner, content = before.reverse ++ inner ∧ text = inner ++ '>' :: rest ∧
        test (inner.reverse ++ before) ∧
        ∀ a b, inner = a ++ '>' :: b → ¬test (a.reverse ++ before) := by
  induction text generalizing before with
  | nil => simp [splitClosing]
  | cons c tail ih =>
    rw [splitClosing]
    split_ifs with hclose
    · obtain ⟨hc, htest⟩ : c = '>' ∧ test before := by simpa using hclose
      constructor
      · intro h
        obtain ⟨rfl, rfl⟩ := Prod.mk.inj (Option.some.inj h)
        exact ⟨[], by simp, by simp [hc], htest, by simp⟩
      · rintro ⟨inner, rfl, htext, -, hfirst⟩
        cases inner with
        | nil =>
          obtain ⟨-, rfl⟩ := List.cons.inj htext
          simp
        | cons d inner =>
          obtain ⟨rfl, -⟩ := List.cons.inj htext
          exact absurd htest (hfirst [] inner (by rw [hc]; rfl))
    · have hopen : ¬(c = '>' ∧ test before) := by simpa using hclose
      rw [ih]
      constructor
      · rintro ⟨inner, rfl, rfl, htest, hfirst⟩
        refine ⟨c :: inner, by simp, rfl, by simpa using htest, ?_⟩
        rintro a b hsplit
        cases a with
        | nil =>
          obtain ⟨rfl, -⟩ := List.cons.inj hsplit
          exact fun htest => hopen ⟨rfl, htest⟩
        | cons d a =>
          obtain ⟨rfl, rfl⟩ := List.cons.inj hsplit
          simpa using hfirst a b rfl
      · rintro ⟨inner, rfl, htext, htest, hfirst⟩
        cases inner with
        | nil =>
          obtain ⟨rfl, -⟩ := List.cons.inj htext
          exact absurd ⟨rfl, htest⟩ hopen
        | cons d inner =>
          obtain ⟨rfl, rfl⟩ := List.cons.inj htext
          refine ⟨inner, by simp, rfl, by simpa using htest, fun a b hsplit => ?_⟩
          simpa using hfirst (c :: a) b (by rw [hsplit]; rfl)

theorem splitClosing_iff {test : List Char → Bool} {text content rest : List Char} :
    splitClosing test [] text = some (content, rest) ↔
      text = content ++ '>' :: rest ∧ IsClosedBy test content := by
  rw [splitClosing_eq_some_iff]
  constructor
  · rintro ⟨inner, rfl, htext, htest, hfirst⟩
    exact ⟨htext, by simpa using htest, fun a b hsplit => by simpa using hfirst a b hsplit⟩
  · rintro ⟨htext, htest, hfirst⟩
    exact ⟨content, rfl, htext, by simpa using htest, fun a b hsplit => by simpa using hfirst a b hsplit⟩

theorem splitClosing_of_isClosedBy {test : List Char → Bool} {content : List Char}
    (h : IsClosedBy test content) (rest : List Char) :
    splitClosing test [] (content ++ '>' :: rest) = some (content, rest) :=
  splitClosing_iff.mpr ⟨rfl, h⟩

/-- Comments, character data, document types and instructions, from their `!` or `?` on. -/
inductive IsPassedOver : List Char → Prop
  | comment {inside : List Char} :
    IsClosedBy endsComment ("!--".toList ++ inside) → IsPassedOver ("!--".toList ++ inside)
  | characterData {inside : List Char} :
    IsClosedBy endsCharacterData ("![CDATA[".toList ++ inside) →
      IsPassedOver ("![CDATA[".toList ++ inside)
  | doctype {word declared : List Char} :
    word.map Char.toUpper = "DOCTYPE".toList → ¬declared.all isMarkupBlank →
      IsClosedBy endsDoctype ('!' :: word ++ declared) → IsPassedOver ('!' :: word ++ declared)
  | instruction {c : Char} {more : List Char} :
    IsClosedBy endsInstruction ('?' :: c :: more) → IsPassedOver ('?' :: c :: more)

theorem IsPassedOver.head?_eq {content : List Char} (h : IsPassedOver content) :
    content.head? = some '!' ∨ content.head? = some '?' := by
  cases h with
  | comment _ | characterData _ | doctype _ _ _ => exact Or.inl rfl
  | instruction _ => exact Or.inr rfl

theorem close_eq_ok_iff {test : List Char → Bool} {fault : TextFault}
    {accepts : List Char → Except TextFault Unit} {text rest : List Char} :
    (match splitClosing test [] text with
      | none => .error fault
      | some (content, rest) => accepts content >>= fun _ => .ok rest) = Except.ok rest ↔
      ∃ content, text = content ++ '>' :: rest ∧ IsClosedBy test content ∧
        accepts content = .ok () := by
  constructor
  · intro h
    split at h
    · cases h
    · rename_i content tail hsplit
      obtain ⟨htext, hclosed⟩ := splitClosing_iff.mp hsplit
      obtain ⟨_, haccepts, ⟨⟩⟩ := bind_eq_ok_iff.mp h
      exact ⟨content, htext, hclosed, haccepts⟩
  · rintro ⟨content, htext, hclosed, haccepts⟩
    rw [splitClosing_iff.mpr ⟨htext, hclosed⟩]
    exact bind_eq_ok_iff.mpr ⟨(), haccepts, rfl⟩

theorem toUpper_eq_iff {c : Char} : c.toUpper = 'D' ↔ c = 'D' ∨ c = 'd' := by
  constructor
  · intro h
    unfold Char.toUpper at h
    split_ifs at h with hlower
    · rw [Char.ext_iff] at h
      dsimp only at h
      have hsum : 'D'.val = 'd'.val + ('A'.val - 'a'.val) := by decide
      rw [hsum, UInt32.add_left_inj] at h
      exact Or.inr (Char.ext h)
    · exact Or.inl h
  · rintro (rfl | rfl) <;> rfl

theorem passDeclaration_eq_ok_iff {tail rest : List Char} :
    passDeclaration ('!' :: tail) = .ok rest ↔
      ∃ content, '!' :: tail = content ++ '>' :: rest ∧ IsPassedOver content := by
  constructor
  · intro h
    unfold passDeclaration at h
    split at h
    · obtain ⟨content, htext, hclosed, haccepts⟩ := close_eq_ok_iff.mp h
      split_ifs at haccepts with hstart
      obtain ⟨inside, rfl⟩ := List.isPrefixOf_iff_prefix.mp hstart
      exact ⟨_, htext, .characterData hclosed⟩
    · obtain ⟨content, htext, hclosed, haccepts⟩ := close_eq_ok_iff.mp h
      split_ifs at haccepts with hstart
      obtain ⟨inside, rfl⟩ := List.isPrefixOf_iff_prefix.mp hstart
      exact ⟨_, htext, .comment hclosed⟩
    · split_ifs at h
      obtain ⟨content, htext, hclosed, haccepts⟩ := close_eq_ok_iff.mp h
      dsimp only at haccepts
      split_ifs at haccepts with hword hblank
      cases content with
      | nil => cases hword
      | cons c more =>
        obtain ⟨rfl, -⟩ := List.cons.inj htext
        have hsplit : '!' :: more = '!' :: more.take 7 ++ more.drop 7 := by simp
        rw [hsplit] at htext hclosed
        exact ⟨_, htext, .doctype (List.cons.inj hword).2 hblank hclosed⟩
    · cases h
  · rintro ⟨content, htext, hpassed⟩
    rw [htext]
    cases hpassed with
    | comment hclosed => exact close_eq_ok_iff.mpr ⟨_, rfl, hclosed, rfl⟩
    | characterData hclosed => exact close_eq_ok_iff.mpr ⟨_, rfl, hclosed, rfl⟩
    | @doctype word declared hword hblank hclosed =>
      have hlength : word.length = 7 := by
        have hlengths := congrArg List.length hword
        rwa [List.length_map] at hlengths
      have htake : (('!' :: word ++ declared).take "!DOCTYPE".toList.length).map Char.toUpper =
          "!DOCTYPE".toList := by
        change '!' :: ((word ++ declared).take 7).map Char.toUpper = '!' :: "DOCTYPE".toList
        rw [List.take_left' hlength, hword]
      have hsize : ('!' :: word).length = "!DOCTYPE".toList.length := by simp [hlength]
      have hdrop : ('!' :: word ++ declared).drop "!DOCTYPE".toList.length = declared :=
        List.drop_left' hsize
      obtain ⟨c, more, rfl, hc, -⟩ := List.map_eq_cons_iff.mp hword
      rcases toUpper_eq_iff.mp hc with rfl | rfl <;>
        exact close_eq_ok_iff.mpr ⟨_, rfl, hclosed, by simp only [htake, hdrop, hblank]; rfl⟩
    | instruction hclosed => cases htext

theorem passInstruction_eq_ok_iff {tail rest : List Char} :
    passInstruction ('?' :: tail) = .ok rest ↔
      ∃ content, '?' :: tail = content ++ '>' :: rest ∧ IsPassedOver content := by
  unfold passInstruction
  constructor
  · intro h
    split at h
    · rename_i c d more rest' hsplit
      obtain ⟨htext, hclosed⟩ := splitClosing_iff.mp hsplit
      obtain ⟨rfl, -⟩ := List.cons.inj htext
      obtain rfl := Except.ok.inj h
      exact ⟨_, htext, .instruction hclosed⟩
    · cases h
  · rintro ⟨content, htext, hpassed⟩
    cases hpassed with
    | comment _ | characterData _ | doctype _ _ _ => cases htext
    | instruction hclosed => rw [splitClosing_iff.mpr ⟨htext, hclosed⟩]

/-- Starts like neither a declaration nor an instruction nor an end tag, and ends outside of quotes. -/
structure IsTagText (content : List Char) : Prop where
  first : ∀ c, content.head? = some c → c ≠ '!' ∧ c ≠ '?' ∧ c ≠ '/'
  closed : IsClosedBy outsideQuotes content

/-- A piece between its `<` and its `>`: the elements open before it, its content, its event if it has one,
and the elements open behind it. -/
inductive IsPiece : List (List Char) → List Char → Option Event → List (List Char) → Prop
  | passed {opened : List (List Char)} {content : List Char} :
    IsPassedOver content → IsPiece opened content none opened
  | ending {outer : List (List Char)} {content : List Char} :
    IsClosedBy outsideQuotes content →
      IsPiece (endName content :: outer) ('/' :: content) (some .ending) outer
  | tag {opened : List (List Char)} {content : List Char} :
    IsTagText content →
      IsPiece opened content (some (tagEvent content)) (openElement (tagEvent content) opened)

theorem closeElement_eq_ok_iff {content : List Char} {opened outer : List (List Char)} :
    closeElement content opened = .ok outer ↔ opened = endName content :: outer := by
  cases opened with
  | nil => simp [closeElement]
  | cons innermost rest =>
    rw [closeElement]
    split_ifs with hname
    · simp [hname]
    · simp [Ne.symm hname]

section

variable {opened opened' : List (List Char)} {text content rest : List Char} {event : Option Event}

theorem exists_isPiece_of_readMarkup (h : readMarkup opened text = .ok (event, opened', rest)) :
    ∃ content, text = content ++ '>' :: rest ∧ IsPiece opened content event opened' := by
  unfold readMarkup at h
  split at h
  · obtain ⟨_, hpass, ⟨⟩⟩ := bind_eq_ok_iff.mp h
    obtain ⟨content, htext, hpassed⟩ := passDeclaration_eq_ok_iff.mp hpass
    exact ⟨content, htext, .passed hpassed⟩
  · obtain ⟨_, hpass, ⟨⟩⟩ := bind_eq_ok_iff.mp h
    obtain ⟨content, htext, hpassed⟩ := passInstruction_eq_ok_iff.mp hpass
    exact ⟨content, htext, .passed hpassed⟩
  · split at h
    · cases h
    · rename_i content _ hsplit
      obtain ⟨rfl, hclosed⟩ := splitClosing_iff.mp hsplit
      obtain ⟨_, hclose, ⟨⟩⟩ := bind_eq_ok_iff.mp h
      obtain rfl := closeElement_eq_ok_iff.mp hclose
      exact ⟨'/' :: content, rfl, .ending hclosed⟩
  · rename_i hdeclaration hinstruction hending
    split at h
    · cases h
    · rename_i content _ hsplit
      obtain ⟨rfl, hclosed⟩ := splitClosing_iff.mp hsplit
      cases h
      refine ⟨content, rfl, .tag ⟨fun c hc => ?_, hclosed⟩⟩
      obtain ⟨more, rfl⟩ := List.head?_eq_some_iff.mp hc
      refine ⟨?_, ?_, ?_⟩ <;> rintro rfl
      · exact hdeclaration _ rfl
      · exact hinstruction _ rfl
      · exact hending _ rfl

theorem readMarkup_of_isPassedOver (h : IsPassedOver content) (opened : List (List Char))
    (rest : List Char) : readMarkup opened (content ++ '>' :: rest) = .ok (none, opened, rest) := by
  rcases h.head?_eq with hhead | hhead <;> obtain ⟨more, rfl⟩ := List.head?_eq_some_iff.mp hhead
  · exact bind_eq_ok_iff.mpr ⟨rest, passDeclaration_eq_ok_iff.mpr ⟨_, rfl, h⟩, rfl⟩
  · exact bind_eq_ok_iff.mpr ⟨rest, passInstruction_eq_ok_iff.mpr ⟨_, rfl, h⟩, rfl⟩

theorem readMarkup_of_isTagText (h : IsTagText content) (opened : List (List Char))
    (rest : List Char) : readMarkup opened (content ++ '>' :: rest) =
      .ok (some (tagEvent content), openElement (tagEvent content) opened, rest) := by
  have hfirst {c : Char} {tail : List Char} (htext : content ++ '>' :: rest = c :: tail) :
      c ≠ '!' ∧ c ≠ '?' ∧ c ≠ '/' := by
    cases content with
    | nil =>
      obtain ⟨rfl, -⟩ := List.cons.inj htext
      decide
    | cons d more =>
      obtain ⟨rfl, -⟩ := List.cons.inj htext
      exact h.first d rfl
  unfold readMarkup
  split
  · exact absurd rfl (hfirst ‹_›).1
  · exact absurd rfl (hfirst ‹_›).2.1
  · exact absurd rfl (hfirst ‹_›).2.2
  · rw [splitClosing_of_isClosedBy h.closed]

theorem readMarkup_eq_ok_iff : readMarkup opened text = .ok (event, opened', rest) ↔
    ∃ content, text = content ++ '>' :: rest ∧ IsPiece opened content event opened' := by
  refine ⟨exists_isPiece_of_readMarkup, ?_⟩
  rintro ⟨content, rfl, hpiece⟩
  cases hpiece with
  | passed hpassed => exact readMarkup_of_isPassedOver hpassed opened rest
  | ending hclosed =>
    rw [List.cons_append, readMarkup, splitClosing_of_isClosedBy hclosed]
    exact bind_eq_ok_iff.mpr ⟨opened', closeElement_eq_ok_iff.mpr rfl, rfl⟩
  | tag htag => exact readMarkup_of_isTagText htag opened rest

end

def Events.prepend (before : List Event) (after : Events) : Events :=
  ⟨before ++ after.events, after.fault⟩

/-- The first `<` of a text decides how it is read. -/
theorem eventsFrom_eq (opened : List (List Char)) (text : List Char) :
    eventsFrom opened text =
      match text.dropWhile (· ≠ '<') with
      | [] => ⟨[], none⟩
      | _ :: inside =>
        match readMarkup opened inside with
        | .error fault => ⟨[], some fault⟩
        | .ok (event, opened, rest) => (eventsFrom opened rest).prepend event.toList := by
  rw [eventsFrom]
  split
  · rename_i hdrop
    rw [hdrop]
  · rename_i c hdrop
    rw [hdrop]
    rfl
  · rename_i c inside hne hdrop
    rw [hdrop]
    dsimp only
    split
    · rename_i fault hread
      rw [hread]
    · rename_i event opened' rest hread
      rw [hread]
      rfl

section

variable {opened opened' : List (List Char)} {stray text content rest : List Char}
  {event : Option Event}

theorem dropWhile_stray (h : '<' ∉ stray) (text : List Char) :
    (stray ++ text).dropWhile (· ≠ '<') = text.dropWhile (· ≠ '<') :=
  List.dropWhile_append_of_pos fun _ hc => decide_eq_true fun heq => h (heq ▸ hc)

theorem eventsFrom_stray_append (h : '<' ∉ stray) (text : List Char) :
    eventsFrom opened (stray ++ text) = eventsFrom opened text := by
  rw [eventsFrom_eq, dropWhile_stray h, ← eventsFrom_eq]

theorem eventsFrom_nil (opened : List (List Char)) : eventsFrom opened [] = ⟨[], none⟩ :=
  eventsFrom_eq opened []

theorem eventsFrom_stray (h : '<' ∉ stray) : eventsFrom opened stray = ⟨[], none⟩ := by
  rw [← List.append_nil stray, eventsFrom_stray_append h, eventsFrom_nil]

theorem eventsFrom_stray_cons (hstray : '<' ∉ stray) (inside : List Char) :
    eventsFrom opened (stray ++ '<' :: inside) =
      match readMarkup opened inside with
      | .error fault => ⟨[], some fault⟩
      | .ok (event, opened, rest) => (eventsFrom opened rest).prepend event.toList := by
  have hdrop : ('<' :: inside).dropWhile (· ≠ '<') = '<' :: inside := rfl
  rw [eventsFrom_stray_append hstray, eventsFrom_eq, hdrop]

/-- A piece gives its event, whatever follows it. -/
theorem eventsFrom_piece (hstray : '<' ∉ stray) (h : IsPiece opened content event opened')
    (rest : List Char) :
    eventsFrom opened (stray ++ '<' :: (content ++ '>' :: rest)) =
      (eventsFrom opened' rest).prepend event.toList := by
  rw [eventsFrom_stray_cons hstray, readMarkup_eq_ok_iff.mpr ⟨content, rfl, h⟩]

/-- A text is read piece by piece, up to its last piece or to one that is refused. -/
@[elab_as_elim]
theorem eventsFrom_induction {motive : List (List Char) → List Char → Prop}
    (stray : ∀ opened stray, '<' ∉ stray → motive opened stray)
    (refused : ∀ opened text fault, eventsFrom opened text = ⟨[], some fault⟩ → motive opened text)
    (piece : ∀ opened stray content event opened' rest, '<' ∉ stray →
      IsPiece opened content event opened' → motive opened' rest →
        motive opened (stray ++ '<' :: (content ++ '>' :: rest)))
    (opened : List (List Char)) (text : List Char) : motive opened text := by
  -- on the length of the text, as a piece may be all of it
  induction hn : text.length using Nat.strongRecOn generalizing opened text with
  | ind n ih =>
    subst hn
    by_cases hmem : '<' ∈ text
    · obtain ⟨before, inside, rfl, hbefore⟩ := List.eq_append_cons_of_mem hmem
      cases hread : readMarkup opened inside with
      | error fault => exact refused opened _ fault (by rw [eventsFrom_stray_cons hbefore, hread])
      | ok found =>
        obtain ⟨event, opened', rest⟩ := found
        obtain ⟨content, rfl, hpiece⟩ := readMarkup_eq_ok_iff.mp hread
        refine piece opened before content event opened' rest hbefore hpiece ?_
        refine ih rest.length ?_ opened' rest rfl
        simp only [List.length_append, List.length_cons]
        omega
    · exact stray opened text hmem

end

def openBehind (opened : List (List Char)) : Event → List (List Char)
  | .starting tag => tag.name :: opened
  | .empty _ => opened
  | .ending => opened.tail

theorem IsPiece.openBehind_eq {opened opened' : List (List Char)} {content : List Char}
    {event : Option Event} (h : IsPiece opened content event opened') :
    event.toList.foldl openBehind opened = opened' := by
  cases h with
  | passed _ | ending _ => rfl
  | tag _ =>
    unfold tagEvent
    split <;> rfl

end Markup

end HomeHub
