import HomeHub.Proofs.Forecast.Elements
import HomeHub.Proofs.SortedMap

/-!
# Assembling a document from the tags of its elements

Taking the tags of a forest one by one does to an assembly what the elements say all at once. The
induction keeps that an entry is under way only inside a time element.
-/
namespace HomeHub.Forecast
open Markup

def addVariableOf (entry : Entry) (v : Element) : Entry :=
  match v.tag.attributes with
  | .ok attributes => Assembly.addVariable entry v.name attributes
  | .error _ => entry

def addVariables (entry : Entry) (ps : List Element) : Entry :=
  (ps.filter isVariable).foldl addVariableOf entry

theorem addVariables_singleton (entry : Entry) (v : Element) :
    addVariables entry [v] = if isVariable v then addVariableOf entry v else entry := by
  cases h : isVariable v <;> simp [addVariables, h]

def nextRunOf (model : Element) : Option Instant := (Assembly.readModel model.tag).toOption

def blankEntryOf (time : Element) : Option Entry := (Assembly.readEntry time.tag).toOption

def entryOf (time : Element) : Option Entry :=
  (blankEntryOf time).map fun entry => addVariables entry time.below

/-- The elements that are consulted when the first model has or has not been seen before. -/
def consultedAfter (sawModel : Bool) (ps : List Element) : List Element :=
  if sawModel then ps.filter fun p => !isModel p else consulted ps

def faultAfter (sawModel : Bool) (ps : List Element) : Option DocumentFault :=
  (consultedAfter sawModel ps).findSome? faultAt

theorem consulted_append (ps qs : List Element) :
    consulted (ps ++ qs) = consulted ps ++ consultedAfter (ps.find? isModel).isSome qs := by
  induction ps with
  | nil => simp [consulted, consultedAfter]
  | cons p rest ih =>
    by_cases h : isModel p
    · simp [consulted, consultedAfter, h]
    · simp [consulted, h, ih]

theorem faultAfter_append (sawModel : Bool) (ps qs : List Element) :
    faultAfter sawModel (ps ++ qs) =
      (faultAfter sawModel ps).or (faultAfter (sawModel || (ps.find? isModel).isSome) qs) := by
  cases sawModel with
  | true => simp [faultAfter, consultedAfter]
  | false => simp [faultAfter, consultedAfter, consulted_append]

namespace Assembly

/-- The assembly after some elements none of which is at fault. -/
def absorb (a : Assembly) (ps : List Element) : Assembly :=
  { a with
    sawRoot := a.sawRoot || ps.any isRoot
    sawProduct := a.sawProduct || ps.any isProduct
    sawModel := a.sawModel || (ps.find? isModel).isSome
    nextRun := if a.sawModel then a.nextRun else ((ps.find? isModel).map nextRunOf).getD a.nextRun
    current := a.current.map fun entry => addVariables entry ps
    entries := a.entries ++ (ps.filter isTime).filterMap entryOf }

def note (a : Assembly) (p : Element) : Assembly :=
  { a with
    path := p.name :: a.path
    sawRoot := a.sawRoot || isRoot p
    sawProduct := a.sawProduct || isProduct p
    sawModel := a.sawModel || isModel p
    nextRun := if a.sawModel || !isModel p then a.nextRun else nextRunOf p
    current := if isTime p then blankEntryOf p else a.current.map fun entry => addVariables entry [p] }

/-- Entries are under way only inside time elements. -/
def IsCoherent (a : Assembly) : Prop :=
  a.current = none ∨ ["weatherdata", "product", "time"] <+: a.path.reverse

def settle (fault : Option DocumentFault) (a : Assembly) : Except DocumentFault Assembly :=
  match fault with
  | some fault => .error fault
  | none => .ok a

theorem settle_bind_settle {first second : Option DocumentFault} {a b : Assembly}
    {next : Assembly → Except DocumentFault Assembly} (h : next a = settle second b) :
    settle first a >>= next = settle (first.or second) b := by
  cases first with
  | some fault => rfl
  | none => exact h

theorem absorb_nil (a : Assembly) : a.absorb [] = a := by
  simp [absorb, addVariables]

theorem absorb_absorb (a : Assembly) (ps qs : List Element) :
    (a.absorb ps).absorb qs = a.absorb (ps ++ qs) := by
  cases hs : a.sawModel <;> cases hm : ps.find? isModel <;>
    simp [absorb, hs, hm, addVariables, Function.comp_def, Bool.or_assoc]

theorem faultAfter_singleton (sawModel : Bool) (p : Element) :
    faultAfter sawModel [p] = if sawModel && isModel p then none else faultAt p := by
  cases sawModel <;> cases h : isModel p <;> simp [faultAfter, consultedAfter, consulted, h]

section

variable (a : Assembly) (tag : Tag) (inside : Forest)

theorem isRoot_at : isRoot ⟨a.path.reverse, tag, inside⟩ = decide (a.path = []) :=
  decide_eq_decide.mpr List.reverse_eq_iff

theorem isProduct_at : isProduct ⟨a.path.reverse, tag, inside⟩ =
    decide (a.path = rootPath ∧ String.ofList tag.name = "product") :=
  decide_eq_decide.mpr (and_congr_left' List.reverse_eq_iff)

theorem isModel_at : isModel ⟨a.path.reverse, tag, inside⟩ =
    decide (a.path = metaPath ∧ String.ofList tag.name = "model") :=
  decide_eq_decide.mpr (and_congr_left' List.reverse_eq_iff)

theorem isTime_at : isTime ⟨a.path.reverse, tag, inside⟩ =
    decide (a.path = productPath ∧ String.ofList tag.name = "time") :=
  decide_eq_decide.mpr (and_congr_left' List.reverse_eq_iff)

theorem isVariable_at :
    isVariable ⟨a.path.reverse, tag, inside⟩ = decide (a.path = locationPath) :=
  decide_eq_decide.mpr List.reverse_eq_iff

theorem enter_eq_settle :
    a.enter tag = settle (faultAfter a.sawModel [⟨a.path.reverse, tag, inside⟩])
      (a.note ⟨a.path.reverse, tag, inside⟩) := by
  let name := String.ofList tag.name
  change (a.interpret name tag >>= fun b => .ok { b with path := name :: b.path }) = _
  simp only [faultAfter_singleton, faultAt, note, isRoot_at, isProduct_at, isModel_at, isTime_at,
    isVariable_at, addVariables_singleton, interpret, bind, Except.bind, settle]
  by_cases hroot : a.path = []
  · by_cases hname : name = "weatherdata" <;>
      simp [hroot, hname, name, Element.name, rootPath, metaPath, productPath, locationPath]
  by_cases hproduct : a.path = rootPath ∧ name = "product"
  · simp [hproduct, name, Element.name, rootPath, locationPath]
  by_cases hmodel : a.path = metaPath ∧ name = "model"
  · cases hs : a.sawModel
    · cases hr : readModel tag <;>
        simp [hmodel, hr, name, Element.name, nextRunOf, rootPath, metaPath, locationPath,
          Except.toOption]
    · simp [hmodel, hs, name, Element.name, rootPath, metaPath, locationPath]
  by_cases htime : a.path = productPath ∧ name = "time"
  · cases hr : readEntry tag <;>
      simp [htime, hr, name, Element.name, blankEntryOf, rootPath, metaPath, productPath,
        Except.toOption]
  by_cases hvariable : a.path = locationPath
  · cases hr : readAttributes tag with
    | error fault =>
      simp [hvariable, name, rootPath, metaPath, productPath, locationPath]
    | ok attributes =>
      have hattributes := readAttributes_eq_ok_iff.mp hr
      simp [hvariable, hattributes, name, Element.name, addVariableOf, rootPath, metaPath,
        productPath, locationPath]
  · simp [hroot, hproduct, hmodel, htime, hvariable, name, Element.name]

end

/-- Nothing inside a time element is the element of an entry. -/
theorem filter_isTime_below {p : Element} (h : isTime p) : p.below.filter isTime = [] := by
  obtain ⟨haround, hname⟩ := of_decide_eq_true h
  refine List.filter_eq_nil_iff.mpr fun q hq ht => ?_
  have hlen := (Forest.around_of_mem_elements hq).length_le
  simp [haround, (of_decide_eq_true ht).1] at hlen

theorem note_of_isTime (a : Assembly) {p : Element} (h : isTime p) :
    a.note p = { a with path := "time" :: a.path, current := blankEntryOf p } := by
  obtain ⟨haround, hname⟩ := of_decide_eq_true h
  simp [note, h, isRoot, isProduct, isModel, haround, hname]

theorem note_of_not_isTime (a : Assembly) {p : Element} (h : ¬isTime p) :
    a.note p = { a.absorb [p] with path := p.name :: a.path } := by
  cases hs : a.sawModel <;> cases hm : isModel p <;> simp [note, absorb, h, hs, hm]

theorem leave_of_ne {a : Assembly} {name : String} (h : ¬(name = "time" ∧ a.path = productPath)) :
    { a with path := name :: a.path }.leave = a := by
  simp [leave, h]

/-- The end of an element completes what its start tag and all inside of it did. -/
theorem leave_absorb_note {a : Assembly} (ha : a.IsCoherent) {p : Element}
    (hp : p.around = a.path.reverse) :
    ((a.note p).absorb p.below).leave = a.absorb (p :: p.below) := by
  by_cases ht : isTime p
  · obtain ⟨haround, hname⟩ := of_decide_eq_true ht
    have hpath : a.path = productPath := by
      rw [← a.path.reverse_reverse, ← hp, haround]
      rfl
    have hcurrent : a.current = none := by
      refine ha.resolve_right fun h => ?_
      have hlen := h.length_le
      simp [hpath, productPath] at hlen
    have hplain : isRoot p = false ∧ isProduct p = false ∧ isModel p = false := by
      simp [isRoot, isProduct, isModel, haround]
    obtain ⟨hroot, hproduct, hmodel⟩ := hplain
    rw [note_of_isTime a ht]
    cases hblank : blankEntryOf p <;>
      simp [absorb, leave, ht, hcurrent, hpath, filter_isTime_below ht, hroot, hproduct, hmodel,
        entryOf, hblank]
  · have hpath : ¬(p.name = "time" ∧ a.path = productPath) := by
      rintro ⟨hname, hpath⟩
      refine ht (decide_eq_true ⟨?_, hname⟩)
      rw [hp, hpath]
      rfl
    calc ((a.note p).absorb p.below).leave
        = { (a.absorb [p]).absorb p.below with path := p.name :: a.path }.leave := by
          rw [note_of_not_isTime a ht]
          rfl
      _ = (a.absorb [p]).absorb p.below :=
          leave_of_ne (a := (a.absorb [p]).absorb p.below) hpath
      _ = a.absorb (p :: p.below) := absorb_absorb a [p] p.below

/-- Inside of an element an entry is under way only if that is so around it or starts there. -/
theorem isCoherent_note {a : Assembly} (ha : a.IsCoherent) {p : Element}
    (hp : p.around = a.path.reverse) : (a.note p).IsCoherent := by
  by_cases ht : isTime p
  · obtain ⟨haround, hname⟩ := of_decide_eq_true ht
    refine Or.inr ?_
    simp [note_of_isTime a ht, ← hp, haround]
  · rw [note_of_not_isTime a ht]
    rcases ha with hnone | hinside
    · exact Or.inl (by simp [absorb, hnone])
    · refine Or.inr (hinside.trans ?_)
      simp

theorem isCoherent_absorb {a : Assembly} (ha : a.IsCoherent) (ps : List Element) :
    (a.absorb ps).IsCoherent :=
  ha.imp_left fun hnone => by simp [absorb, hnone]

theorem faultAfter_nil (sawModel : Bool) : faultAfter sawModel [] = none := by
  cases sawModel <;> rfl

theorem sawModel_note (a : Assembly) (p : Element) :
    (a.note p).sawModel = (a.sawModel || ([p].find? isModel).isSome) := by
  cases h : isModel p <;> simp [note, h]

/-- One element: its start tag, what is inside of it, its end, and what comes after it. -/
theorem enter_bind_eq_settle {a : Assembly} (ha : a.IsCoherent) {tag : Tag} {inside : Forest}
    {p : Element} (hp : p = ⟨a.path.reverse, tag, inside⟩) (ps : List Element)
    (within after : Assembly → Except DocumentFault Assembly)
    (hwithin : within (a.note p) =
      settle (faultAfter (a.note p).sawModel p.below) ((a.note p).absorb p.below))
    (hafter : after (a.absorb (p :: p.below)) =
      settle (faultAfter (a.absorb (p :: p.below)).sawModel ps)
        ((a.absorb (p :: p.below)).absorb ps)) :
    (a.enter tag >>= fun b => within b >>= fun c => after c.leave) =
      settle (faultAfter a.sawModel (p :: p.below ++ ps)) (a.absorb (p :: p.below ++ ps)) := by
  have hsplit : p :: p.below ++ ps = [p] ++ (p.below ++ ps) := rfl
  have hsaw : (a.absorb (p :: p.below)).sawModel =
      ((a.note p).sawModel || (p.below.find? isModel).isSome) := by
    rw [sawModel_note, absorb, ← List.singleton_append, List.find?_append, Option.isSome_or,
      Bool.or_assoc]
  have hinner : (within (a.note p) >>= fun c => after c.leave) =
      settle ((faultAfter (a.note p).sawModel p.below).or
        (faultAfter (a.absorb (p :: p.below)).sawModel ps)) (a.absorb (p :: p.below ++ ps)) := by
    rw [hwithin, ← absorb_absorb]
    refine settle_bind_settle ?_
    rw [leave_absorb_note ha (by rw [hp]), hafter]
  rw [hsplit, faultAfter_append, faultAfter_append, ← sawModel_note, ← hsaw, ← hsplit,
    enter_eq_settle a tag inside, ← hp]
  exact settle_bind_settle hinner

/-- Taking the tags of a forest inside the open elements does what its elements say. -/
theorem foldlM_step_of_spells {f : Forest} {events : List Event} (h : f.Spells events)
    {a : Assembly} (ha : a.IsCoherent) :
    events.foldlM step a =
      settle (faultAfter a.sawModel (f.elements a.path.reverse))
        (a.absorb (f.elements a.path.reverse)) := by
  induction h generalizing a with
  | nil =>
    rw [Forest.elements, absorb_nil, faultAfter_nil]
    rfl
  | @empty tag rest after _ ih =>
    let p : Element := ⟨a.path.reverse, tag, .nil⟩
    have hwithin : Except.ok (a.note p) =
        settle (faultAfter (a.note p).sawModel p.below) ((a.note p).absorb p.below) := by
      rw [show p.below = [] from rfl, faultAfter_nil, absorb_nil]
      rfl
    have hafter := ih (isCoherent_absorb ha (p :: p.below))
    have helement := enter_bind_eq_settle ha (p := p) rfl (rest.elements a.path.reverse) .ok
      (fun c => after.foldlM step c) hwithin hafter
    rw [List.foldlM_cons, step, bind_assoc]
    exact helement
  | @pair tag inside rest within after _ _ ihInside ihRest =>
    let p : Element := ⟨a.path.reverse, tag, inside⟩
    have hpath : (a.note p).path.reverse = p.around ++ [p.name] := by simp [note, p]
    have hwithin := ihInside (isCoherent_note ha (p := p) rfl)
    rw [hpath] at hwithin
    have hafter := ihRest (isCoherent_absorb ha (p :: p.below))
    have helement := enter_bind_eq_settle ha (p := p) rfl (rest.elements a.path.reverse)
      (fun b => within.foldlM step b) (fun c => after.foldlM step c) hwithin hafter
    simp only [List.cons_append, List.foldlM_cons, List.foldlM_append]
    exact helement

end Assembly

end HomeHub.Forecast
