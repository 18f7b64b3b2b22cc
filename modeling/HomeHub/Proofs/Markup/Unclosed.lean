import HomeHub.Proofs.Markup.TextForest

/-!
# Texts that stop too early

What precedes a cut has no other events than the whole text. Before the end tag of an element these are none
at all, or they leave the element open.
-/
namespace HomeHub.Markup

/-- A text that goes on keeps the events it has. -/
theorem eventsFrom_isPrefix (opened : List (List Char)) (text more : List Char) :
    (eventsFrom opened text).events <+: (eventsFrom opened (text ++ more)).events := by
  induction opened, text using eventsFrom_induction with
  | stray opened stray hstray =>
    rw [eventsFrom_stray hstray]
    exact List.nil_prefix
  | refused opened text fault heq =>
    rw [heq]
    exact List.nil_prefix
  | piece opened stray content event opened' rest hstray hpiece ih =>
    rw [eventsFrom_piece hstray hpiece]
    simp only [List.append_assoc, List.cons_append]
    rw [eventsFrom_piece hstray hpiece]
    exact (List.prefix_append_right_inj _).mpr ih

theorem splitClosing_eq_none {test : List Char → Bool} {content : List Char}
    (h : IsClosedBy test content) : splitClosing test [] content = none := by
  refine Option.eq_none_iff_forall_ne_some.mpr fun ⟨inner, rest⟩ hsplit => ?_
  obtain ⟨hcontent, hinner⟩ := splitClosing_iff.mp hsplit
  exact h.first inner rest hcontent hinner.closed

theorem eventsFrom_unclosed {ending : List Char} (h : IsClosedBy outsideQuotes ending)
    (opened : List (List Char)) : eventsFrom opened ('<' :: '/' :: ending) = ⟨[], some .openTag⟩ := by
  have hread : readMarkup opened ('/' :: ending) = .error .openTag := by
    simp [readMarkup, splitClosing_eq_none h]
  have heq : eventsFrom opened ('<' :: '/' :: ending) = _ :=
    eventsFrom_stray_cons List.not_mem_nil ('/' :: ending)
  rw [heq, hread]

namespace Forest

/-- Inside of a forest all that is open around it stays open. -/
theorem Spells.isSuffix_foldl_openBehind {f : Forest} {events before : List Event}
    (h : f.Spells events) (hbefore : before <+: events) (opened : List (List Char)) :
    opened <:+ before.foldl openBehind opened := by
  induction h generalizing before opened with
  | nil =>
    obtain rfl := List.prefix_nil.mp hbefore
    exact List.suffix_refl _
  | empty _ ih =>
    rcases List.prefix_cons_iff.mp hbefore with rfl | ⟨before, rfl, hrest⟩
    · exact List.suffix_refl _
    · exact ih hrest opened
  | @pair tag _ _ within after hwithin _ ihInside ihRest =>
    rcases List.prefix_cons_iff.mp hbefore with rfl | ⟨before, rfl, hrest⟩
    · exact List.suffix_refl _
    · rw [List.foldl_cons, openBehind]
      rcases List.prefix_or_prefix_of_prefix hrest (List.prefix_append within _) with hinside | ⟨before, rfl⟩
      · exact (List.suffix_cons tag.name opened).trans (ihInside hinside _)
      · rw [List.foldl_append, hwithin.foldl_openBehind]
        rcases List.prefix_cons_iff.mp ((List.prefix_append_right_inj within).mp hrest) with
          rfl | ⟨before, rfl, hafter⟩
        · exact List.suffix_cons tag.name opened
        · exact ihRest hafter opened

end Forest

/-- One element up to the `>` of its end tag, behind what may stand before it. -/
inductive IsUnclosed (tag : Tag) (inside : Forest) : List Char → Prop
  | intro {prolog within ending : List Char} : Forest.nil.HasText prolog → IsTagText tag.content →
    tag.content.getLast? ≠ some '/' → inside.HasText within → IsClosedBy outsideQuotes ending →
      IsUnclosed tag inside
        (prolog ++ '<' :: (tag.content ++ '>' :: (within ++ '<' :: '/' :: ending)))

section

variable {tag : Tag} {inside : Forest} {text cut : List Char}

theorem IsUnclosed.exists_eventsFrom (h : IsUnclosed tag inside text) :
    ∃ within, inside.Spells within ∧
      eventsFrom [] text = ⟨.starting tag :: within, some .openTag⟩ := by
  obtain ⟨hprolog, htag, hlast, hinside, hending⟩ := h
  obtain ⟨before, hbefore, hreadBefore⟩ := hprolog.exists_eventsFrom
  cases hbefore
  obtain ⟨within, hwithin, hreadWithin⟩ := hinside.exists_eventsFrom
  have hstart (rest : List Char) : eventsFrom [] ('<' :: (tag.content ++ '>' :: rest)) =
      (eventsFrom [tag.name] rest).prepend [.starting tag] :=
    eventsFrom_piece List.not_mem_nil (isPiece_starting htag hlast []) rest
  refine ⟨within, hwithin, ?_⟩
  rw [hreadBefore, hstart, hreadWithin, eventsFrom_unclosed hending]
  simp [Events.prepend]

/-- What precedes a cut has no event, or the element has begun and is open. -/
theorem IsUnclosed.events_of_isPrefix (h : IsUnclosed tag inside text) (hcut : cut <+: text) :
    (Events.ofText cut).events = [] ∨
      (Events.ofText cut).events.foldl openBehind [] ≠ [] := by
  obtain ⟨within, hwithin, hread⟩ := h.exists_eventsFrom
  obtain ⟨more, rfl⟩ := hcut
  have hevents := eventsFrom_isPrefix [] cut more
  rw [hread] at hevents
  rw [Forest.ofText_eq]
  rcases List.prefix_cons_iff.mp hevents with hnil | ⟨before, hbefore, hprefix⟩
  · exact Or.inl hnil
  · refine Or.inr fun hclosed => ?_
    rw [hbefore] at hclosed
    have hopen := hwithin.isSuffix_foldl_openBehind hprefix [tag.name]
    rw [show before.foldl openBehind [tag.name] = [] from hclosed] at hopen
    cases List.suffix_nil.mp hopen

end

end HomeHub.Markup
