import HomeHub.Proofs.Forecast.ForestDocument
import HomeHub.Proofs.Markup.TextForest

/-!
# Accepted texts

A text is read as a forecast exactly if it is a text of a forest that is not refused. The forest may have
any number of roots: all their elements make one document, and what stands around them is passed over.
-/
namespace HomeHub.Forecast
open Markup

namespace Assembly

section

variable {a b : Assembly}

theorem eq_of_settle_eq_ok {fault : Option DocumentFault} (h : settle fault a = .ok b) : b = a := by
  cases fault with
  | some fault => cases h
  | none => exact (Except.ok.inj h).symm

theorem path_enter {tag : Tag} (h : a.enter tag = .ok b) :
    b.path = String.ofList tag.name :: a.path := by
  rw [enter_eq_settle a tag .nil] at h
  rw [eq_of_settle_eq_ok h]
  rfl

theorem path_leave (a : Assembly) : a.leave.path = a.path.tail := by
  unfold leave
  split
  · rename_i hpath
    rw [hpath]
    rfl
  · rename_i hpath
    rw [hpath]
    split <;> rfl

variable {opened : List (List Char)}

theorem path_step {event : Event} (h : a.step event = .ok b)
    (hpath : a.path = opened.map String.ofList) :
    b.path = (openBehind opened event).map String.ofList := by
  cases event with
  | starting tag => rw [path_enter h, hpath, openBehind, List.map_cons]
  | empty tag =>
    obtain ⟨entered, henter, ⟨⟩⟩ := bind_eq_ok_iff.mp h
    rw [path_leave, path_enter henter, hpath, openBehind, List.tail_cons]
  | ending =>
    obtain rfl := Except.ok.inj h
    rw [path_leave, hpath, openBehind, List.map_tail]

/-- The path is always that of the elements that are open in the text. -/
theorem path_run {events : List Event} (h : events.foldlM step a = .ok b)
    (hpath : a.path = opened.map String.ofList) :
    b.path = (events.foldl openBehind opened).map String.ofList := by
  induction events generalizing a opened with
  | nil =>
    obtain rfl := Except.ok.inj h
    exact hpath
  | cons event rest ih =>
    rw [List.foldlM_cons] at h
    obtain ⟨c, hstep, hrest⟩ := bind_eq_ok_iff.mp h
    exact ih hrest (path_step hstep hpath)

theorem path_of_finish {document : Document} (h : a.finish = .ok document) : a.path = [] := by
  by_contra hne
  simp [finish, hne] at h

end

end Assembly

/-- Only events that leave no element open are assembled to a document. -/
theorem foldl_openBehind_of_assemble {events : List Event} {document : Document}
    (h : assemble events = .ok document) : events.foldl openBehind [] = [] := by
  obtain ⟨a, hrun, hfinish⟩ := bind_eq_ok_iff.mp h
  have hpath : a.path = (events.foldl openBehind []).map String.ofList :=
    Assembly.path_run hrun rfl
  rw [Assembly.path_of_finish hfinish] at hpath
  exact List.map_eq_nil_iff.mp hpath.symm

theorem Document.read_eq_ok_iff {text : String} {document : Document} :
    Document.read text = .ok document ↔
      ∃ events, Events.ofText text.toList = ⟨events, none⟩ ∧ assemble events = .ok document := by
  unfold Document.read
  obtain ⟨events, fault⟩ := Events.ofText text.toList
  cases hrun : events.foldlM Assembly.step .start <;> cases fault <;>
    simp [hrun, assemble, bind, Except.bind]

theorem map_tag_filter_elements (f : Forest) (around : List String) :
    ((f.elements around).filter fun p => decide (p.around = around)).map Element.tag = f.roots := by
  induction f generalizing around with
  | nil => rfl
  | cons tag inside rest _ ihRest =>
    have hinside : (inside.elements (around ++ [String.ofList tag.name])).filter
        (fun p => decide (p.around = around)) = [] := by
      refine List.filter_eq_nil_iff.mpr fun p hp heq => ?_
      have hlength := (Forest.around_of_mem_elements hp).length_le
      rw [of_decide_eq_true heq, List.length_append, List.length_singleton] at hlength
      omega
    rw [Forest.elements, List.cons_append, List.filter_cons_of_pos (by simp), List.filter_append,
      hinside, List.nil_append, List.map_cons, ihRest, Forest.roots]

/-- Any number of roots is accepted if they have the right name. -/
theorem roots_of_not_isRefused {f : Forest} (h : ¬IsRefused f) :
    f.roots ≠ [] ∧ ∀ root ∈ f.roots, String.ofList root.name = "weatherdata" := by
  have hroots : ((f.elements []).filter isRoot).map Element.tag = f.roots :=
    map_tag_filter_elements f []
  rw [← hroots]
  constructor
  · intro hnil
    have hnone := List.filter_eq_nil_iff.mp (List.map_eq_nil_iff.mp hnil)
    exact h (Or.inr (Or.inl hnone))
  · intro root hmem
    obtain ⟨p, hp, rfl⟩ := List.mem_map.mp hmem
    obtain ⟨hp, hroot⟩ := List.mem_filter.mp hp
    have hmodel : ¬isModel p := by
      have haround : p.around = [] := of_decide_eq_true hroot
      simp [isModel, haround]
    by_contra hname
    exact h (Or.inl ⟨p, mem_consulted.mpr (Or.inl ⟨hp, hmodel⟩),
      fun hsound => hname (hsound.rootName hroot)⟩)

theorem Document.read_eq_ok_iff_exists_forest {text : String} {document : Document} :
    Document.read text = .ok document ↔
      ∃ f : Forest, f.HasText text.toList ∧ ¬IsRefused f ∧ IsDocumentOf f document := by
  rw [read_eq_ok_iff]
  constructor
  · rintro ⟨events, htext, hassemble⟩
    obtain ⟨f, hf⟩ := Forest.exists_hasText_of_ofText htext (foldl_openBehind_of_assemble hassemble)
    obtain ⟨others, hothers, hspells⟩ := hf.exists_ofText
    obtain rfl : events = others := by
      rw [htext] at hothers
      exact congrArg Events.events hothers
    exact ⟨f, hf, (assemble_eq_ok_iff hspells).mp hassemble⟩
  · rintro ⟨f, hf, haccepted⟩
    obtain ⟨events, htext, hspells⟩ := hf.exists_ofText
    exact ⟨events, htext, (assemble_eq_ok_iff hspells).mpr haccepted⟩

/-- A text is accepted exactly if it is a text of a forest that is not refused, and then it is so of one
forest only. The roots of that forest are any number of `weatherdata` elements, and the document is made
of the elements of all of them. -/
theorem Document.read_eq_ok_iff_hasText {text : String} {document : Document} :
    Document.read text = .ok document ↔
      ∃ f : Forest, f.HasText text.toList ∧ (∀ g : Forest, g.HasText text.toList → g = f) ∧
        (f.roots ≠ [] ∧ ∀ root ∈ f.roots, String.ofList root.name = "weatherdata") ∧
        ¬IsRefused f ∧ IsDocumentOf f document := by
  rw [read_eq_ok_iff_exists_forest]
  constructor
  · rintro ⟨f, hf, hnot, hdocument⟩
    exact ⟨f, hf, fun g hg => hg.unique hf, roots_of_not_isRefused hnot, hnot, hdocument⟩
  · rintro ⟨f, hf, -, -, hnot, hdocument⟩
    exact ⟨f, hf, hnot, hdocument⟩

theorem not_isRefused_append {f g : Forest} (hf : ¬IsRefused f) (hg : ¬IsRefused g) :
    ¬IsRefused (f.append g) := by
  rw [not_isRefused_iff] at hf hg ⊢
  obtain ⟨hsoundf, hroot, hmodel, hproduct⟩ := hf
  have hinto {p : Element} (hp : p ∈ f.elements []) : p ∈ (f.append g).elements [] := by
    rw [Forest.elements_append]
    exact List.mem_append_left _ hp
  refine ⟨fun p hp => ?_, hroot.imp fun _ => And.imp_left hinto, hmodel.imp fun _ => And.imp_left hinto,
    hproduct.imp fun _ => And.imp_left hinto⟩
  rw [mem_consulted, Forest.elements_append, List.mem_append, List.find?_append,
    Option.or_eq_some_iff] at hp
  rcases hp with ⟨hp | hp, hother⟩ | hfind | ⟨-, hfind⟩
  · exact hsoundf p (mem_consulted.mpr (Or.inl ⟨hp, hother⟩))
  · exact hg.1 p (mem_consulted.mpr (Or.inl ⟨hp, hother⟩))
  · exact hsoundf p (mem_consulted.mpr (Or.inr hfind))
  · exact hg.1 p (mem_consulted.mpr (Or.inr hfind))

theorem IsDocumentOf.append {f g : Forest} {a b : Document} (ha : IsDocumentOf f a)
    (hb : IsDocumentOf g b) :
    IsDocumentOf (f.append g) ⟨a.nextRun, a.entries ++ b.entries⟩ := by
  obtain ⟨model, hmodel, hrun⟩ := ha.nextRun
  refine ⟨⟨model, ?_, hrun⟩, ?_⟩
  · rw [Forest.elements_append, List.find?_append, hmodel, Option.some_or]
  · rw [Forest.elements_append, List.filter_append]
    exact List.rel_append ha.entries hb.entries

/-- Two forecasts one after the other are read as one, with the next run of the first. -/
theorem Document.read_append {s t : String} {a b : Document} (ha : Document.read s = .ok a)
    (hb : Document.read t = .ok b) :
    Document.read (s ++ t) = .ok ⟨a.nextRun, a.entries ++ b.entries⟩ := by
  obtain ⟨f, hf, hnotf, hfa⟩ := read_eq_ok_iff_exists_forest.mp ha
  obtain ⟨g, hg, hnotg, hgb⟩ := read_eq_ok_iff_exists_forest.mp hb
  refine read_eq_ok_iff_exists_forest.mpr
    ⟨f.append g, ?_, not_isRefused_append hnotf hnotg, hfa.append hgb⟩
  rw [String.toList_append]
  exact hf.append hg

/-- Two roots with text around them, neither of which is a forecast by itself. -/
def splitForecast : Forest :=
  let element (content : String) (inside rest : Forest) : Forest := .cons ⟨content.toList⟩ inside rest
  let model := element "model nextrun='2026-01-01T06:00:00Z'" .nil .nil
  element "weatherdata" (element "meta" model .nil) (element "weatherdata" (element "product" .nil .nil) .nil)

theorem splitForecast_read :
    let head := "<weatherdata><meta><model nextrun='2026-01-01T06:00:00Z'></model></meta></weatherdata>"
    let body := "<weatherdata><product></product></weatherdata>"
    let text := "fog" ++ head ++ ", rain" ++ body
    splitForecast.HasText text.toList ∧ (∀ g : Forest, g.HasText text.toList → g = splitForecast) ∧
      splitForecast.roots.length = 2 ∧ Document.read text = .ok ⟨.ofSecond 1767247200, []⟩ ∧
      Document.read head = .error .noProduct ∧ Document.read body = .error .noModel := by
  intro head body text
  have htext : splitForecast.HasText text.toList :=
    Forest.hasText_iff.mpr ⟨splitForecast.events, by decide +kernel, splitForecast.spells_events⟩
  exact ⟨htext, fun g hg => hg.unique htext, by decide +kernel, by decide +kernel, by decide +kernel,
    by decide +kernel⟩

end HomeHub.Forecast
