import HomeHub.Proofs.Markup.TextForest
import HomeHub.Proofs.Markup.WrittenTag
import Mathlib.Data.List.TakeWhile

/-!
# Written forests

A forest of plain tags as a text without anything between the tags. An element with nothing inside is
written as an empty tag or as a start tag and an end tag. The text is one of the texts of the forest.
-/
namespace HomeHub.Markup

/-- The quote that is open behind a character. -/
def quoteStep (quote : Option Char) (c : Char) : Option Char :=
  match quote with
  | none => if c = '"' ∨ c = '\'' then some c else none
  | some q => if c = q then none else some q

theorem outsideQuotes_eq (before : List Char) :
    outsideQuotes before = (before.reverse.foldl quoteStep none).isNone := rfl

theorem foldl_quoteStep_none {text : List Char} (hdouble : '"' ∉ text) (hsingle : '\'' ∉ text) :
    text.foldl quoteStep none = none := by
  induction text with
  | nil => rfl
  | cons c rest ih =>
    obtain ⟨hc, hrest⟩ := not_or.mp (mt List.mem_cons.mpr hdouble)
    obtain ⟨hc', hrest'⟩ := not_or.mp (mt List.mem_cons.mpr hsingle)
    have hstep : quoteStep none c = none := by
      rw [quoteStep, if_neg]
      rintro (rfl | rfl) <;> contradiction
    rw [List.foldl_cons, hstep, ih hrest hrest']

theorem foldl_quoteStep_some {quote : Char} {text : List Char} (h : quote ∉ text) :
    text.foldl quoteStep (some quote) = some quote := by
  induction text with
  | nil => rfl
  | cons c rest ih =>
    obtain ⟨hc, hrest⟩ := not_or.mp (mt List.mem_cons.mpr h)
    rw [List.foldl_cons, quoteStep, if_neg (Ne.symm hc), ih hrest]

theorem foldl_quoteStep_name {name : List Char} (h : isXmlName name) :
    name.foldl quoteStep none = none :=
  foldl_quoteStep_none (not_mem_of_isXmlName h (by decide)) (not_mem_of_isXmlName h (by decide))

theorem foldl_quoteStep_writeAttribute {name : List Char} (h : isXmlName name) (value : List Char) :
    (writeAttribute name value).foldl quoteStep none = none := by
  have hname := foldl_quoteStep_name h
  have hvalue := foldl_quoteStep_some (not_mem_escape (c := '"') (by decide) value)
  simp only [writeAttribute, List.foldl_append, List.foldl_cons, List.foldl_nil, List.cons_append]
  rw [show quoteStep none ' ' = none from rfl, hname, show quoteStep none '=' = none from rfl,
    show quoteStep none '"' = some '"' from rfl, hvalue]
  rfl

theorem foldl_quoteStep_writeAttributes {attributes : List (String × String)}
    (h : ∀ a ∈ attributes, isXmlName a.1.toList) :
    (writeAttributes attributes).foldl quoteStep none = none := by
  induction attributes with
  | nil => rfl
  | cons a rest ih =>
    rw [writeAttributes, List.flatMap_cons, List.foldl_append,
      foldl_quoteStep_writeAttribute (h a List.mem_cons_self)]
    exact ih fun b hb => h b (List.mem_cons_of_mem a hb)

theorem not_mem_writeAttributes {attributes : List (String × String)}
    (h : ∀ a ∈ attributes, isXmlName a.1.toList) : '>' ∉ writeAttributes attributes := by
  intro hmem
  obtain ⟨a, ha, hmem⟩ := List.mem_flatMap.mp hmem
  have hname := not_mem_of_isXmlName (c := '>') (h a ha) (by decide)
  have hvalue := not_mem_escape (c := '>') (by decide) a.2.toList
  simp [writeAttribute, hname, hvalue] at hmem

/-- A tag that can stand between angle brackets, and whose name can. -/
structure Tag.IsPlain (tag : Tag) : Prop where
  first : ∃ first rest, tag.content = first :: rest ∧ first ≠ '!' ∧ first ≠ '?' ∧ first ≠ '/'
  noClosing : '>' ∉ tag.content
  noSlash : tag.content.getLast? ≠ some '/'
  quotes : tag.content.foldl quoteStep none = none
  nameQuotes : tag.name.foldl quoteStep none = none

theorem Tag.isPlain_write {name : List Char} (hname : isXmlName name)
    {attributes : List (String × String)} (h : ∀ a ∈ attributes, isXmlName a.1.toList) :
    (Tag.write name attributes).IsPlain := by
  have hnames {c : Char} (hc : c ∈ markupChars) : c ∉ name := not_mem_of_isXmlName hname hc
  refine ⟨?_, ?_, ?_, ?_, ?_⟩
  · obtain ⟨first, rest, rfl⟩ : ∃ first rest, name = first :: rest :=
      List.exists_cons_of_ne_nil fun hnil => by simp [hnil, isXmlName] at hname
    have hfirst {c : Char} (hc : c ∈ markupChars) : first ≠ c := by
      rintro rfl
      exact hnames hc List.mem_cons_self
    exact ⟨first, rest ++ writeAttributes attributes, rfl, hfirst (by decide), hfirst (by decide),
      hfirst (by decide)⟩
  · intro hmem
    rcases List.mem_append.mp hmem with hmem | hmem
    · exact hnames (by decide) hmem
    · exact not_mem_writeAttributes h hmem
  · intro hlast
    rcases List.eq_nil_or_concat attributes with rfl | ⟨before, a, rfl⟩
    · have hmem := List.mem_of_getLast? (by simpa [write, writeAttributes] using hlast)
      exact hnames (by decide) hmem
    · have hcontent : (write name (before.concat a)).content = name ++ writeAttributes before ++
          ' ' :: a.1.toList ++ '=' :: '"' :: escape a.2.toList ++ ['"'] := by
        simp [write, writeAttributes, writeAttribute]
      rw [hcontent, List.getLast?_concat] at hlast
      cases hlast
  · rw [write, List.foldl_append, foldl_quoteStep_name hname, foldl_quoteStep_writeAttributes h]
  · rw [name_write hname, foldl_quoteStep_name hname]

namespace Tag

def opening (tag : Tag) : List Char := '<' :: tag.content ++ ['>']

def closing (tag : Tag) : List Char := '<' :: '/' :: tag.name ++ ['>']

def selfClosed (tag : Tag) : List Char := '<' :: tag.content ++ ['/', '>']

end Tag

theorem endName_name (tag : Tag) : endName tag.name = tag.name := by
  have hplain : ∀ c ∈ tag.name, isMarkupBlank c = false := fun c hc => by
    simpa using List.mem_takeWhile_imp hc
  rw [endName]
  split
  · rfl
  · rw [List.dropWhile_eq_self_iff.mpr, List.reverse_reverse]
    exact fun hl => by simpa using hplain _ (List.mem_reverse.mp (List.getElem_mem hl))

theorem isClosedBy_of_not_mem {test : List Char → Bool} {content : List Char} (hnone : '>' ∉ content)
    (htest : test content.reverse) : IsClosedBy test content :=
  ⟨htest, fun before after hsplit => absurd (by simp [hsplit]) hnone⟩

theorem isClosedBy_outsideQuotes {content : List Char} (hnone : '>' ∉ content)
    (hquotes : content.foldl quoteStep none = none) : IsClosedBy outsideQuotes content := by
  refine isClosedBy_of_not_mem hnone ?_
  rw [outsideQuotes_eq, List.reverse_reverse, hquotes]
  rfl

namespace Tag.IsPlain

variable {tag : Tag} (h : tag.IsPlain)

include h

theorem isTagText : IsTagText tag.content := by
  obtain ⟨first, rest, hcontent, hfirst⟩ := h.first
  refine ⟨fun c hc => ?_, isClosedBy_outsideQuotes h.noClosing h.quotes⟩
  rw [hcontent] at hc
  exact Option.some.inj hc ▸ hfirst

theorem isTagText_selfClosed : IsTagText (tag.content ++ ['/']) := by
  obtain ⟨first, rest, hcontent, hfirst⟩ := h.first
  refine ⟨fun c hc => ?_, isClosedBy_outsideQuotes (by simpa using h.noClosing) ?_⟩
  · rw [hcontent] at hc
    exact Option.some.inj hc ▸ hfirst
  · rw [List.foldl_append, h.quotes]
    rfl

theorem isClosedBy_name : IsClosedBy outsideQuotes tag.name :=
  have hstart : tag.name <+: tag.content := List.takeWhile_prefix _
  isClosedBy_outsideQuotes (fun hmem => h.noClosing (hstart.subset hmem)) h.nameQuotes

end Tag.IsPlain

namespace Forest

/-- The text of a forest; elements with nothing inside are empty tags or not. -/
def write (selfClosing : Bool) : Forest → List Char
  | nil => []
  | cons tag inside rest =>
    (if selfClosing ∧ inside = nil then tag.selfClosed
      else tag.opening ++ inside.write selfClosing ++ tag.closing) ++ rest.write selfClosing

def AllTags (p : Tag → Prop) : Forest → Prop
  | nil => True
  | cons tag inside rest => p tag ∧ inside.AllTags p ∧ rest.AllTags p

theorem hasText_write {f : Forest} (h : f.AllTags Tag.IsPlain) (selfClosing : Bool) :
    f.HasText (f.write selfClosing) := by
  induction f with
  | nil => exact .stray List.not_mem_nil
  | cons tag inside after ihInside ihAfter =>
    obtain ⟨htag, hinside, hafter⟩ := h
    rw [write]
    split_ifs with hself
    · obtain ⟨-, rfl⟩ := hself
      have htext := HasText.empty List.not_mem_nil htag.isTagText_selfClosed (ihAfter hafter)
      simpa [Tag.selfClosed] using htext
    · have htext := HasText.pair List.not_mem_nil htag.isTagText htag.noSlash (ihInside hinside)
        htag.isClosedBy_name (endName_name tag) (ihAfter hafter)
      simpa [Tag.opening, Tag.closing] using htext

theorem exists_ofText_write {f : Forest} (h : f.AllTags Tag.IsPlain) (selfClosing : Bool) :
    ∃ events, f.Spells events ∧ Events.ofText (f.write selfClosing) = ⟨events, none⟩ := by
  obtain ⟨events, htext, hspells⟩ := (hasText_write h selfClosing).exists_ofText
  exact ⟨events, hspells, htext⟩

end Forest

end HomeHub.Markup
