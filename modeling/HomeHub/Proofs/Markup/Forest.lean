import HomeHub.Markup.Event

/-!
# Forests of elements

Elements side by side, each with the forest inside of it. A forest has several spellings as events, as
an element with nothing inside may be one empty tag or a start tag and an end tag.
-/
namespace HomeHub.Markup

inductive Forest where
  | nil
  | cons (tag : Tag) (inside rest : Forest)
  deriving DecidableEq, Repr

/-- An element where it stands: the names around it from the outermost in, its tag, its inside. -/
structure Element where
  around : List String
  tag : Tag
  inside : Forest
  deriving DecidableEq, Repr

def Element.name (p : Element) : String := String.ofList p.tag.name

namespace Forest

/-- The events that a forest may be written as. -/
inductive Spells : Forest → List Event → Prop
  | nil : Spells nil []
  | empty {tag : Tag} {rest : Forest} {after : List Event} :
    Spells rest after → Spells (cons tag nil rest) (.empty tag :: after)
  | pair {tag : Tag} {inside rest : Forest} {within after : List Event} :
    Spells inside within → Spells rest after →
      Spells (cons tag inside rest) (.starting tag :: within ++ .ending :: after)

/-- The spelling without empty tags. -/
def events : Forest → List Event
  | nil => []
  | cons tag inside rest => .starting tag :: inside.events ++ .ending :: rest.events

theorem spells_events (f : Forest) : f.Spells f.events := by
  induction f with
  | nil => exact .nil
  | cons tag inside rest ihInside ihRest => exact .pair ihInside ihRest

/-- All elements of a forest that stands inside elements of these names, in document order. -/
def elements (around : List String) : Forest → List Element
  | nil => []
  | cons tag inside rest =>
    ⟨around, tag, inside⟩ :: inside.elements (around ++ [String.ofList tag.name]) ++
      rest.elements around

theorem around_of_mem_elements {f : Forest} {around : List String} {p : Element}
    (h : p ∈ f.elements around) : around <+: p.around := by
  induction f generalizing around with
  | nil => simp [elements] at h
  | cons tag inside rest ihInside ihRest =>
    rw [elements, List.cons_append, List.mem_cons, List.mem_append] at h
    rcases h with rfl | h | h
    · exact List.prefix_refl _
    · exact (List.prefix_append _ _).trans (ihInside h)
    · exact ihRest h

end Forest

def Element.below (p : Element) : List Element := p.inside.elements (p.around ++ [p.name])

end HomeHub.Markup
