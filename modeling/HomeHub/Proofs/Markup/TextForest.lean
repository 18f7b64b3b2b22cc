import HomeHub.Proofs.Markup.Forest
import HomeHub.Proofs.Markup.Pieces

/-!
# The forest of a text

A text in which every element is closed is a forest: its tags with what may stand between them. Such a text
is read without a fault as a spelling of its forest, and every text that is read without a fault and closes
all elements has a forest, and only one.
-/
namespace HomeHub.Markup

namespace Forest

/-- The texts of a forest. Between two tags there may be any characters but `<`, and markup that is passed
over. -/
inductive HasText : Forest → List Char → Prop
  | stray {stray : List Char} : '<' ∉ stray → HasText nil stray
  | passed {f : Forest} {stray content after : List Char} : '<' ∉ stray → IsPassedOver content →
    HasText f after → HasText f (stray ++ '<' :: (content ++ '>' :: after))
  | empty {tag : Tag} {rest : Forest} {stray after : List Char} : '<' ∉ stray →
    IsTagText (tag.content ++ ['/']) → HasText rest after →
      HasText (cons tag nil rest) (stray ++ '<' :: (tag.content ++ ['/'] ++ '>' :: after))
  | pair {tag : Tag} {inside rest : Forest} {stray within ending after : List Char} : '<' ∉ stray →
    IsTagText tag.content → tag.content.getLast? ≠ some '/' → HasText inside within →
      IsClosedBy outsideQuotes ending → endName ending = tag.name → HasText rest after →
        HasText (cons tag inside rest) (stray ++ '<' :: (tag.content ++ '>' ::
          (within ++ '<' :: ('/' :: ending ++ '>' :: after))))

def roots : Forest → List Tag
  | nil => []
  | cons tag _ rest => tag :: rest.roots

def append : Forest → Forest → Forest
  | nil, g => g
  | cons tag inside rest, g => cons tag inside (rest.append g)

theorem elements_append (f g : Forest) (around : List String) :
    (f.append g).elements around = f.elements around ++ g.elements around := by
  induction f with
  | nil => rfl
  | cons tag inside rest _ ihRest => simp [append, elements, ihRest]

variable {f g : Forest} {s t : List Char}

theorem HasText.stray_append (hs : '<' ∉ s) (h : g.HasText t) : g.HasText (s ++ t) := by
  have hmore {stray : List Char} (hstray : '<' ∉ stray) : '<' ∉ s ++ stray := by
    simp [hs, hstray]
  cases h with
  | stray hstray => exact .stray (hmore hstray)
  | passed hstray hpassed hafter =>
    rw [← List.append_assoc]
    exact .passed (hmore hstray) hpassed hafter
  | empty hstray htag hafter =>
    rw [← List.append_assoc]
    exact .empty (hmore hstray) htag hafter
  | pair hstray htag hlast hinside hending hname hafter =>
    rw [← List.append_assoc]
    exact .pair (hmore hstray) htag hlast hinside hending hname hafter

/-- Texts one after the other are a text of the forests side by side. -/
theorem HasText.append (hf : f.HasText s) (hg : g.HasText t) : (f.append g).HasText (s ++ t) := by
  induction hf with
  | stray hstray => exact hg.stray_append hstray
  | passed hstray hpassed _ ih =>
    simpa using HasText.passed hstray hpassed ih
  | empty hstray htag _ ih =>
    simpa [Forest.append] using HasText.empty hstray htag ih
  | pair hstray htag hlast hinside hending hname _ _ ih =>
    simpa [Forest.append] using HasText.pair hstray htag hlast hinside hending hname ih

end Forest

theorem tagEvent_selfClosed (tag : Tag) : tagEvent (tag.content ++ ['/']) = .empty tag := by
  simp [tagEvent]

theorem tagEvent_of_getLast?_ne {content : List Char} (h : content.getLast? ≠ some '/') :
    tagEvent content = .starting ⟨content⟩ := by
  rw [tagEvent]
  split
  · rw [List.getLast?_eq_head?_reverse, ‹content.reverse = _›] at h
    exact absurd rfl h
  · rfl

theorem tagEvent_cases (content : List Char) :
    (∃ tag : Tag, content = tag.content ++ ['/'] ∧ tagEvent content = .empty tag) ∨
      (content.getLast? ≠ some '/' ∧ tagEvent content = .starting ⟨content⟩) := by
  by_cases hlast : content.getLast? = some '/'
  · obtain ⟨inner, rfl⟩ := List.getLast?_eq_some_iff.mp hlast
    exact Or.inl ⟨⟨inner⟩, rfl, tagEvent_selfClosed ⟨inner⟩⟩
  · exact Or.inr ⟨hlast, tagEvent_of_getLast?_ne hlast⟩

theorem isPiece_empty {tag : Tag} (h : IsTagText (tag.content ++ ['/'])) (opened : List (List Char)) :
    IsPiece opened (tag.content ++ ['/']) (some (.empty tag)) opened := by
  have hpiece : IsPiece opened _ _ _ := .tag h
  rwa [tagEvent_selfClosed] at hpiece

theorem isPiece_starting {tag : Tag} (h : IsTagText tag.content)
    (hlast : tag.content.getLast? ≠ some '/') (opened : List (List Char)) :
    IsPiece opened tag.content (some (.starting tag)) (tag.name :: opened) := by
  have hpiece : IsPiece opened _ _ _ := .tag h
  rwa [tagEvent_of_getLast?_ne hlast] at hpiece

namespace Forest

/-- A text of a forest is read as a spelling of it, wherever it stands. -/
theorem HasText.exists_eventsFrom {f : Forest} {text : List Char} (h : f.HasText text) :
    ∃ events, f.Spells events ∧ ∀ opened rest,
      eventsFrom opened (text ++ rest) = (eventsFrom opened rest).prepend events := by
  induction h with
  | stray hstray => exact ⟨[], .nil, fun _ _ => eventsFrom_stray_append hstray _⟩
  | passed hstray hpassed _ ih =>
    obtain ⟨events, hspells, hread⟩ := ih
    refine ⟨events, hspells, fun opened rest => ?_⟩
    simp only [List.append_assoc, List.cons_append]
    rw [eventsFrom_piece hstray (.passed hpassed), hread]
    rfl
  | @empty tag _ _ _ hstray htag _ ih =>
    obtain ⟨events, hspells, hread⟩ := ih
    refine ⟨.empty tag :: events, .empty hspells, fun opened rest => ?_⟩
    have hsplit := eventsFrom_piece hstray (isPiece_empty htag opened)
    simp only [List.append_assoc, List.cons_append] at hsplit ⊢
    rw [hsplit, hread]
    rfl
  | @pair tag _ _ _ _ ending _ hstray htag hlast _ hclosed hname _ ihInside ihRest =>
    obtain ⟨within, hwithin, hreadWithin⟩ := ihInside
    obtain ⟨behind, hbehind, hreadBehind⟩ := ihRest
    refine ⟨.starting tag :: within ++ .ending :: behind, .pair hwithin hbehind,
      fun opened rest => ?_⟩
    have hend : IsPiece (tag.name :: opened) ('/' :: ending) (some .ending) opened :=
      hname ▸ .ending hclosed
    have hsplit := eventsFrom_piece List.not_mem_nil hend
    simp only [List.append_assoc, List.cons_append, List.nil_append] at hsplit ⊢
    rw [eventsFrom_piece hstray (isPiece_starting htag hlast opened), hreadWithin, hsplit, hreadBehind]
    simp [Events.prepend]

theorem ofText_eq (text : List Char) : Events.ofText text = eventsFrom [] text := by
  unfold Events.ofText
  split
  · have hmark : '<' ∉ ['\ufeff'] := by decide
    exact (eventsFrom_stray_append hmark _).symm
  · rfl

/-- What closes the elements that are open, the innermost first. -/
inductive Closes : List (List Char) → List Char → Prop
  | nil : Closes [] []
  | cons {outer : List (List Char)} {f : Forest} {ending within remaining : List Char} :
    IsClosedBy outsideQuotes ending → f.HasText within → Closes outer remaining →
      Closes (endName ending :: outer) ('<' :: ('/' :: ending ++ '>' :: (within ++ remaining)))

/-- A text that is read without a fault and leaves no element open starts with a forest and goes on with
what closes the elements that are open before it. -/
theorem exists_hasText_of_eventsFrom (opened : List (List Char)) (text : List Char)
    (hfault : (eventsFrom opened text).fault = none)
    (hclosed : (eventsFrom opened text).events.foldl openBehind opened = []) :
    ∃ (f : Forest) (within remaining : List Char), text = within ++ remaining ∧ f.HasText within ∧
      Closes opened remaining := by
  induction opened, text using eventsFrom_induction with
  | stray opened stray hstray =>
    rw [eventsFrom_stray hstray] at hclosed
    obtain rfl : opened = [] := hclosed
    exact ⟨nil, stray, [], by simp, .stray hstray, .nil⟩
  | refused opened text fault heq =>
    rw [heq] at hfault
    cases hfault
  | piece opened stray content event opened' rest hstray hpiece ih =>
    rw [eventsFrom_piece hstray hpiece] at hfault hclosed
    rw [Events.prepend, List.foldl_append, hpiece.openBehind_eq] at hclosed
    obtain ⟨f, within, remaining, rfl, hf, hcloses⟩ := ih hfault hclosed
    cases hpiece with
    | passed hpassed =>
      exact ⟨f, _, remaining, by simp, .passed hstray hpassed hf, hcloses⟩
    | ending hending =>
      exact ⟨nil, stray, _, rfl, .stray hstray, .cons hending hf hcloses⟩
    | tag htag =>
      rcases tagEvent_cases content with ⟨tag, rfl, hevent⟩ | ⟨hlast, hevent⟩
      · rw [hevent] at hcloses
        exact ⟨cons tag nil f, _, remaining, by simp, .empty hstray htag hf, hcloses⟩
      · rw [hevent] at hcloses
        obtain ⟨outer, hopened⟩ : ∃ outer, outer = openElement (.starting ⟨content⟩) opened := ⟨_, rfl⟩
        rw [← hopened] at hcloses
        cases hcloses with
        | nil => cases hopened
        | @cons outer g ending within' remaining hending hg hcloses =>
          obtain ⟨hname, rfl⟩ := List.cons.inj hopened
          have htext : (cons ⟨content⟩ f g).HasText _ :=
            .pair hstray htag hlast hf hending hname hg
          exact ⟨_, _, remaining, by simp, htext, hcloses⟩

section

variable {f g : Forest} {events others : List Event}

theorem Spells.foldl_openBehind (h : f.Spells events) (opened : List (List Char)) :
    events.foldl openBehind opened = opened := by
  induction h generalizing opened with
  | nil => rfl
  | empty _ ih => exact ih opened
  | pair _ _ ihInside ihRest =>
    simp only [List.cons_append, List.foldl_cons, List.foldl_append, openBehind, ihInside,
      List.tail_cons, ihRest]

/-- Up to the end of a spelling both forests and what follows them agree. -/
theorem Spells.eq_of_append_eq (hf : f.Spells events) (hg : g.Spells others)
    {rest rest' : List Event} (h : events ++ .ending :: rest = others ++ .ending :: rest') :
    f = g ∧ rest = rest' := by
  induction hf generalizing g others rest rest' with
  | nil =>
    cases hg with
    | nil => exact ⟨rfl, (List.cons.inj h).2⟩
    | empty _ | pair _ _ => cases (List.cons.inj h).1
  | empty _ ih =>
    cases hg with
    | nil | pair _ _ => cases (List.cons.inj h).1
    | empty hrest =>
      obtain ⟨htag, htail⟩ := List.cons.inj h
      obtain ⟨rfl, rfl⟩ := ih hrest htail
      cases htag
      exact ⟨rfl, rfl⟩
  | pair _ _ ihInside ihRest =>
    cases hg with
    | nil | empty _ => cases (List.cons.inj h).1
    | pair hinside hrest =>
      simp only [List.append_assoc, List.cons_append] at h
      obtain ⟨htag, htail⟩ := List.cons.inj h
      obtain ⟨rfl, hbehind⟩ := ihInside hinside htail
      obtain ⟨rfl, rfl⟩ := ihRest hrest hbehind
      cases htag
      exact ⟨rfl, rfl⟩

theorem Spells.unique (hf : f.Spells events) (hg : g.Spells events) : f = g :=
  (hf.eq_of_append_eq hg (rfl : events ++ .ending :: [] = _)).1

end

theorem HasText.exists_ofText {f : Forest} {text : List Char} (h : f.HasText text) :
    ∃ events, Events.ofText text = ⟨events, none⟩ ∧ f.Spells events := by
  obtain ⟨events, hspells, hread⟩ := h.exists_eventsFrom
  have htext := hread [] []
  rw [List.append_nil, eventsFrom_nil, Events.prepend, List.append_nil] at htext
  exact ⟨events, by rw [ofText_eq, htext], hspells⟩

theorem exists_hasText_of_ofText {text : List Char} {events : List Event}
    (htext : Events.ofText text = ⟨events, none⟩) (hclosed : events.foldl openBehind [] = []) :
    ∃ f : Forest, f.HasText text := by
  rw [ofText_eq] at htext
  obtain ⟨f, within, remaining, rfl, hf, hcloses⟩ :=
    exists_hasText_of_eventsFrom [] text (by rw [htext]) (by rw [htext, hclosed])
  cases hcloses
  exact ⟨f, by rwa [List.append_nil]⟩

/-- The texts of a forest are those that are read as a spelling of it. -/
theorem hasText_iff {f : Forest} {text : List Char} :
    f.HasText text ↔ ∃ events, Events.ofText text = ⟨events, none⟩ ∧ f.Spells events := by
  refine ⟨HasText.exists_ofText, ?_⟩
  rintro ⟨events, htext, hspells⟩
  obtain ⟨g, hg⟩ := exists_hasText_of_ofText htext (hspells.foldl_openBehind [])
  obtain ⟨others, hothers, hspells'⟩ := hg.exists_ofText
  cases htext.symm.trans hothers
  exact hspells.unique hspells' ▸ hg

theorem HasText.unique {f g : Forest} {text : List Char} (hf : f.HasText text)
    (hg : g.HasText text) : f = g := by
  obtain ⟨events, htext, hspells⟩ := hasText_iff.mp hf
  obtain ⟨others, hothers, hspells'⟩ := hasText_iff.mp hg
  cases htext.symm.trans hothers
  exact hspells.unique hspells'

end Forest

end HomeHub.Markup
