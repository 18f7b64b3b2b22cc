import HomeHub.Proofs.Forecast.AssemblyRun

/-!
# The document of a forest

However a forest is written as events, they are assembled to the document that its elements make, and
are refused exactly when an element is unsound or a part is missing.
-/
namespace HomeHub.Forecast
open Markup

theorem mem_consulted {ps : List Element} {p : Element} :
    p ∈ consulted ps ↔ (p ∈ ps ∧ ¬isModel p) ∨ ps.find? isModel = some p := by
  induction ps with
  | nil => simp [consulted]
  | cons q rest ih =>
    by_cases hq : isModel q
    · simp only [consulted, hq, if_true, List.mem_cons, List.mem_filter, List.find?_cons_of_pos,
        Option.some.injEq]
      constructor
      · rintro (rfl | ⟨hmem, hp⟩)
        · exact Or.inr rfl
        · exact Or.inl ⟨Or.inr hmem, by simpa using hp⟩
      · rintro (⟨rfl | hmem, hp⟩ | rfl)
        · exact absurd hq hp
        · exact Or.inr ⟨hmem, by simpa using hp⟩
        · exact Or.inl rfl
    · rw [consulted, if_neg hq, List.mem_cons, ih, List.find?_cons_of_neg hq, List.mem_cons]
      constructor
      · rintro (rfl | ⟨hmem, hp⟩ | hfind)
        · exact Or.inl ⟨Or.inl rfl, hq⟩
        · exact Or.inl ⟨Or.inr hmem, hp⟩
        · exact Or.inr hfind
      · rintro (⟨rfl | hmem, hp⟩ | hfind)
        · exact Or.inl rfl
        · exact Or.inr (Or.inl ⟨hmem, hp⟩)
        · exact Or.inr (Or.inr hfind)

theorem not_isRefused_iff {f : Forest} : ¬IsRefused f ↔
    (∀ p ∈ consulted (f.elements []), IsSound p) ∧ (∃ p ∈ f.elements [], isRoot p) ∧
      (∃ p ∈ f.elements [], isModel p) ∧ ∃ p ∈ f.elements [], isProduct p := by
  simp [IsRefused]

theorem mem_elements_of_mem_below {f : Forest} {around : List String} {p q : Element}
    (hp : p ∈ f.elements around) (hq : q ∈ p.below) : q ∈ f.elements around := by
  induction f generalizing around with
  | nil => simp [Forest.elements] at hp
  | cons tag inside rest ihInside ihRest =>
    rw [Forest.elements, List.cons_append, List.mem_cons, List.mem_append] at hp ⊢
    rcases hp with rfl | hp | hp
    · exact Or.inr (Or.inl hq)
    · exact Or.inr (Or.inl (ihInside hp))
    · exact Or.inr (Or.inr (ihRest hp))

theorem HasTimestamp.unique {tag : Tag} {name : String} {s t : Instant}
    (hs : HasTimestamp tag name s) (ht : HasTimestamp tag name t) : s = t := by
  obtain ⟨attributes, text, ha, hn, hr⟩ := hs
  obtain ⟨attributes', text', ha', hn', hr'⟩ := ht
  obtain rfl := Except.ok.inj (ha.symm.trans ha')
  obtain rfl := Option.some.inj (hn.symm.trans hn')
  exact Except.ok.inj (hr.symm.trans hr')

theorem IsEntryOf.unique {time : Element} {a b : Entry} (ha : IsEntryOf time a)
    (hb : IsEntryOf time b) : a = b := by
  obtain ⟨validFrom, validTo, conditions⟩ := a
  obtain ⟨validFrom', validTo', conditions'⟩ := b
  obtain rfl : validFrom = validFrom' := ha.validFrom.unique hb.validFrom
  obtain rfl : validTo = validTo' := ha.validTo.unique hb.validTo
  obtain rfl : conditions = conditions' :=
    SortedMap.ext_get? fun name => (ha.conditions name).trans (hb.conditions name).symm
  rfl

theorem IsDocumentOf.unique {f : Forest} {a b : Document} (ha : IsDocumentOf f a)
    (hb : IsDocumentOf f b) : a = b := by
  obtain ⟨nextRun, entries⟩ := a
  obtain ⟨nextRun', entries'⟩ := b
  obtain ⟨model, hm, hrun⟩ := ha.nextRun
  obtain ⟨model', hm', hrun'⟩ := hb.nextRun
  obtain rfl := Option.some.inj (hm.symm.trans hm')
  obtain rfl : nextRun = nextRun' := hrun.unique hrun'
  have hright : Relator.RightUnique IsEntryOf := fun _ _ _ h h' => h.unique h'
  obtain rfl : entries = entries' := hright.forall₂ ha.entries hb.entries
  rfl

/-- Under each name an entry keeps what it has and else takes the first variable of that name. -/
theorem get?_addVariables {ps : List Element}
    (hps : ∀ v ∈ ps.filter isVariable, ∃ attributes, v.tag.attributes = .ok attributes)
    (entry : Entry) (name : String) :
    (addVariables entry ps).conditions.get? name = (entry.conditions.get? name).or
      (((ps.filter isVariable).find? fun v => v.name = name).bind fun v =>
        v.tag.attributes.toOption) := by
  unfold addVariables
  generalize ps.filter isVariable = vs at hps ⊢
  induction vs generalizing entry with
  | nil => simp
  | cons v rest ih =>
    obtain ⟨attributes, hv⟩ := hps v List.mem_cons_self
    rw [List.foldl_cons, ih _ fun u hu => hps u (List.mem_cons_of_mem v hu)]
    simp only [addVariableOf, hv, Assembly.addVariable, SortedMap.get?_insertNew]
    by_cases h : v.name = name
    · subst h
      cases entry.conditions.get? v.name <;> simp [hv, Except.toOption]
    · have h' : name ≠ v.name := fun he => h he.symm
      simp [h, h']

theorem ends_addVariables (entry : Entry) (ps : List Element) :
    (addVariables entry ps).validFrom = entry.validFrom ∧
      (addVariables entry ps).validTo = entry.validTo := by
  unfold addVariables
  induction ps.filter isVariable generalizing entry with
  | nil => exact ⟨rfl, rfl⟩
  | cons v rest ih =>
    have hstep : (addVariableOf entry v).validFrom = entry.validFrom ∧
        (addVariableOf entry v).validTo = entry.validTo := by
      unfold addVariableOf
      split <;> exact ⟨rfl, rfl⟩
    rw [List.foldl_cons, (ih _).1, (ih _).2]
    exact hstep

/-- The parts that may be missing, in the order in which they are asked for. -/
def missingPart (f : Forest) : Option DocumentFault :=
  if !(f.elements []).any isRoot then some .noRoot
  else if !(f.elements []).any isModel then some .noModel
  else if !(f.elements []).any isProduct then some .noProduct
  else none

theorem isRefused_iff {f : Forest} : IsRefused f ↔
    faultAfter false (f.elements []) ≠ none ∨ missingPart f ≠ none := by
  have hfault : faultAfter false (f.elements []) = none ↔
      ∀ p ∈ consulted (f.elements []), IsSound p := by
    simp only [faultAfter, consultedAfter, Bool.false_eq_true, if_false, List.findSome?_eq_none_iff,
      faultAt_eq_none_iff]
  have hmissing : missingPart f = none ↔ (∃ p ∈ f.elements [], isRoot p) ∧
      (∃ p ∈ f.elements [], isModel p) ∧ ∃ p ∈ f.elements [], isProduct p := by
    simp only [missingPart, ← List.any_eq_true]
    cases (f.elements []).any isRoot <;> cases (f.elements []).any isModel <;>
      cases (f.elements []).any isProduct <;> simp
  rw [Ne, Ne, hfault, hmissing, IsRefused, not_and_or, not_and_or]
  simp only [not_forall, not_exists, exists_prop, not_and]

/-- The entry of a time element whose variables can all be read. -/
theorem isEntryOf_entryOf {p : Element} (hp : isTime p) (hsound : IsSound p)
    (hbelow : ∀ v ∈ p.below.filter isVariable, IsSound v) :
    ∃ entry, entryOf p = some entry ∧ IsEntryOf p entry := by
  obtain ⟨validFrom, hfrom⟩ := hsound.validFrom hp
  obtain ⟨validTo, hto⟩ := hsound.validTo hp
  let blank : Entry := ⟨validFrom, validTo, .empty⟩
  have hread : Assembly.readEntry p.tag = .ok blank := readEntry_eq_ok_iff.mpr ⟨hfrom, hto, rfl⟩
  have hentry : entryOf p = some (addVariables blank p.below) := by
    rw [entryOf, blankEntryOf, hread]
    rfl
  have hattributes : ∀ v ∈ p.below.filter isVariable, ∃ attributes,
      v.tag.attributes = .ok attributes := fun v hv =>
    (hbelow v hv).attributes (List.mem_filter.mp hv).2
  obtain ⟨hfrom', hto'⟩ := ends_addVariables blank p.below
  refine ⟨addVariables blank p.below, hentry, ?_, ?_, fun name => ?_⟩
  · rw [hfrom']
    exact hfrom
  · rw [hto']
    exact hto
  · rw [get?_addVariables hattributes]
    rfl

theorem forall₂_filterMap_entryOf {ps : List Element}
    (h : ∀ p ∈ ps, ∃ entry, entryOf p = some entry ∧ IsEntryOf p entry) :
    List.Forall₂ IsEntryOf ps (ps.filterMap entryOf) := by
  induction ps with
  | nil => exact .nil
  | cons p rest ih =>
    obtain ⟨entry, he, hentry⟩ := h p List.mem_cons_self
    rw [List.filterMap_cons_some he]
    exact .cons hentry (ih fun q hq => h q (List.mem_cons_of_mem p hq))

theorem finish_absorb (ps : List Element) :
    (Assembly.start.absorb ps).finish =
      if !ps.any isRoot then .error .noRoot
      else
        match (ps.find? isModel).bind nextRunOf with
        | none => .error .noModel
        | some nextRun =>
          if ps.any isProduct then .ok ⟨nextRun, (ps.filter isTime).filterMap entryOf⟩
          else .error .noProduct := by
  have hrun : (Assembly.start.absorb ps).nextRun = (ps.find? isModel).bind nextRunOf := by
    cases h : ps.find? isModel <;> simp [Assembly.absorb, Assembly.start, h]
  rw [Assembly.finish, hrun]
  rfl

theorem finish_absorb_elements {f : Forest} (hsound : ∀ p ∈ consulted (f.elements []), IsSound p) :
    (∃ fault, missingPart f = some fault ∧
      (Assembly.start.absorb (f.elements [])).finish = .error fault) ∨
    (missingPart f = none ∧ ∃ document,
      (Assembly.start.absorb (f.elements [])).finish = .ok document ∧ IsDocumentOf f document) := by
  have hother {p : Element} (hp : p ∈ f.elements []) (h : ¬isModel p) : IsSound p :=
    hsound p (mem_consulted.mpr (Or.inl ⟨hp, h⟩))
  have hentry : ∀ p ∈ (f.elements []).filter isTime,
      ∃ entry, entryOf p = some entry ∧ IsEntryOf p entry := by
    intro p hp
    obtain ⟨hp, ht⟩ := List.mem_filter.mp hp
    refine isEntryOf_entryOf ht (hother hp (not_isModel_of_isTime ht)) fun v hv => ?_
    obtain ⟨hv, hvariable⟩ := List.mem_filter.mp hv
    exact hother (mem_elements_of_mem_below hp hv) (not_isModel_of_isVariable hvariable)
  rw [finish_absorb, missingPart]
  cases hroot : (f.elements []).any isRoot with
  | false => exact Or.inl ⟨.noRoot, by simp⟩
  | true =>
    cases hmodel : (f.elements []).find? isModel with
    | none =>
      have hany : (f.elements []).any isModel = false := by
        simpa using hmodel
      exact Or.inl ⟨.noModel, by simp [hany]⟩
    | some model =>
      have hany : (f.elements []).any isModel := List.any_eq_true.mpr
        ⟨model, List.mem_of_find?_eq_some hmodel, List.find?_some hmodel⟩
      obtain ⟨t, ht⟩ := (hsound model (mem_consulted.mpr (Or.inr hmodel))).nextRun
        (List.find?_some hmodel)
      have hrun : nextRunOf model = some t := by
        rw [nextRunOf, readModel_eq_ok_iff.mpr ht]
        rfl
      cases hproduct : (f.elements []).any isProduct with
      | false => exact Or.inl ⟨.noProduct, by simp [hany, hrun]⟩
      | true =>
        refine Or.inr ⟨by simp [hany], ⟨t, _⟩, by simp [hrun]; rfl, ⟨model, hmodel, ht⟩, ?_⟩
        exact forall₂_filterMap_entryOf hentry

def assemble (events : List Event) : Except DocumentFault Document :=
  events.foldlM Assembly.step .start >>= Assembly.finish

/-- Every spelling of a forest is assembled to the same. -/
theorem assemble_of_spells {f : Forest} {events : List Event} (h : f.Spells events) :
    assemble events =
      match faultAfter false (f.elements []) with
      | some fault => .error fault
      | none => (Assembly.start.absorb (f.elements [])).finish := by
  have hrun := Assembly.foldlM_step_of_spells h (a := .start) (Or.inl rfl)
  rw [assemble, hrun]
  change Assembly.settle (faultAfter false (f.elements [])) _ >>= _ = _
  cases faultAfter false (f.elements []) <;> rfl

/-- Without a fault the assembly ends in a document of the forest, or a part is missing. -/
theorem assemble_of_faultAfter_eq_none {f : Forest} {events : List Event} (h : f.Spells events)
    (hf : faultAfter false (f.elements []) = none) :
    (IsRefused f ∧ ∃ fault, assemble events = .error fault) ∨
    (¬IsRefused f ∧ ∃ document, assemble events = .ok document ∧ IsDocumentOf f document) := by
  have hsound : ∀ p ∈ consulted (f.elements []), IsSound p := fun p hp =>
    faultAt_eq_none_iff.mp (List.findSome?_eq_none_iff.mp hf p hp)
  rw [isRefused_iff, assemble_of_spells h, hf]
  rcases finish_absorb_elements hsound with ⟨fault, hmissing, hfinish⟩ | ⟨hmissing, hdocument⟩
  · exact Or.inl ⟨by simp [hmissing], fault, hfinish⟩
  · exact Or.inr ⟨by simp [hmissing], hdocument⟩

theorem assemble_eq_ok_iff {f : Forest} {events : List Event} (h : f.Spells events)
    {document : Document} :
    assemble events = .ok document ↔ ¬IsRefused f ∧ IsDocumentOf f document := by
  cases hf : faultAfter false (f.elements []) with
  | some fault =>
    have hrefused : IsRefused f := isRefused_iff.mpr (Or.inl (by simp [hf]))
    simp [assemble_of_spells h, hf, hrefused]
  | none =>
    rcases assemble_of_faultAfter_eq_none h hf with
      ⟨hrefused, fault, hfault⟩ | ⟨hnot, other, hother, hof⟩
    · simp [hfault, hrefused]
    · rw [hother]
      constructor
      · rintro ⟨⟩
        exact ⟨hnot, hof⟩
      · rintro ⟨-, hdocument⟩
        rw [hof.unique hdocument]

/-- The events of a forest are refused exactly if an element that is consulted is unsound, the first of
which is told, or a part is missing. Otherwise they are assembled to the one document of the forest. -/
theorem assemble_eq_reading {f : Forest} {events : List Event} (h : f.Spells events) :
    ((∃ fault, assemble events = .error fault) ↔ IsRefused f) ∧
    (∀ before p after, consulted (f.elements []) = before ++ p :: after →
      (∀ q ∈ before, IsSound q) → ¬IsSound p →
        ∃ fault, faultAt p = some fault ∧ assemble events = .error fault) ∧
    (∀ document, assemble events = .ok document ↔ ¬IsRefused f ∧ IsDocumentOf f document) ∧
    ∀ other, f.Spells other → assemble other = assemble events := by
  have hcases : (IsRefused f ∧ ∃ fault, assemble events = .error fault) ∨
      (¬IsRefused f ∧ ∃ document, assemble events = .ok document ∧ IsDocumentOf f document) := by
    cases hf : faultAfter false (f.elements []) with
    | none => exact assemble_of_faultAfter_eq_none h hf
    | some fault =>
      refine Or.inl ⟨isRefused_iff.mpr (Or.inl (by simp [hf])), fault, ?_⟩
      rw [assemble_of_spells h, hf]
  refine ⟨⟨?_, ?_⟩, ?_, fun document => ⟨?_, ?_⟩, ?_⟩
  · rintro ⟨fault, hfault⟩
    rcases hcases with ⟨hrefused, -⟩ | ⟨-, document, hdocument, -⟩
    · exact hrefused
    · rw [hdocument] at hfault
      cases hfault
  · intro hrefused
    exact (hcases.resolve_right fun hdocument => hdocument.1 hrefused).2
  · intro before p after hsplit hbefore hp
    obtain ⟨fault, hfault⟩ := Option.ne_none_iff_exists'.mp (mt faultAt_eq_none_iff.mp hp)
    refine ⟨fault, hfault, ?_⟩
    have hfirst : faultAfter false (f.elements []) = some fault := by
      change (consulted (f.elements [])).findSome? faultAt = some fault
      exact List.findSome?_eq_some_iff.mpr
        ⟨before, p, after, hsplit, hfault, fun q hq => faultAt_eq_none_iff.mpr (hbefore q hq)⟩
    rw [assemble_of_spells h, hfirst]
  · intro hdocument
    rcases hcases with ⟨-, fault, hfault⟩ | ⟨hsound, other, hother, hof⟩
    · rw [hdocument] at hfault
      cases hfault
    · rw [hdocument] at hother
      cases hother
      exact ⟨hsound, hof⟩
  · rintro ⟨hsound, hof⟩
    obtain ⟨-, other, hother, hof'⟩ := hcases.resolve_left fun hrefused => hsound hrefused.1
    rw [hother, hof.unique hof']
  · intro other hother
    rw [assemble_of_spells hother, assemble_of_spells h]

/-- A forecast of one entry, in which a variable is repeated in a second location. -/
def repeatedVariable : Forest :=
  let element (content : String) (inside : Forest) : Forest := .cons ⟨content.toList⟩ inside .nil
  let location (content : String) (rest : Forest) : Forest :=
    .cons ⟨"location".toList⟩ (element content .nil) rest
  let model := element "model nextrun='2026-01-01T06:00:00Z'" .nil
  let time := element "time from='2026-01-01T00:00:00Z' to='2026-01-01T01:00:00Z'"
    (location "fog percent='5'" (location "fog percent='9'" .nil))
  element "weatherdata" (.cons ⟨"meta".toList⟩ model (element "product" time))

/-- The first of the two variables counts. -/
theorem isDocumentOf_repeatedVariable : repeatedVariable.Spells repeatedVariable.events ∧
    IsDocumentOf repeatedVariable ⟨.ofSecond 1767247200,
      [⟨.ofSecond 1767225600, .ofSecond 1767229200, .ofList [("fog", .ofList [("percent", "5")])]⟩]⟩ :=
  ⟨repeatedVariable.spells_events,
    (((assemble_eq_reading repeatedVariable.spells_events).2.2.1 _).mp (by decide +kernel)).2⟩

end HomeHub.Forecast
