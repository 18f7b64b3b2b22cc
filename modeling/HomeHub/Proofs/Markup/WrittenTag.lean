import HomeHub.Markup.Tag
import HomeHub.Proofs.Markup.Escape

/-!
# Written tags

A tag of an XML name and attributes of XML names. Its name and its attributes are read back, each
value character for character.
-/
namespace HomeHub.Markup

/-- The code points that a name may start with. -/
def nameStartRanges : List (Nat × Nat) :=
  [(0x3a, 0x3a), (0x41, 0x5a), (0x5f, 0x5f), (0x61, 0x7a), (0xc0, 0xd6), (0xd8, 0xf6),
    (0xf8, 0x2ff), (0x370, 0x37d), (0x37f, 0x1fff), (0x200c, 0x200d), (0x2070, 0x218f),
    (0x2c00, 0x2fef), (0x3001, 0xd7ff), (0xf900, 0xfdcf), (0xfdf0, 0xfffd), (0x10000, 0xeffff)]

/-- The code points that a name may have behind its start only. -/
def nameRestRanges : List (Nat × Nat) :=
  [(0x2d, 0x2e), (0x30, 0x39), (0xb7, 0xb7), (0x300, 0x36f), (0x203f, 0x2040)]

def isInRanges (ranges : List (Nat × Nat)) (c : Char) : Bool :=
  ranges.any fun r => decide (r.1 ≤ c.toNat) && decide (c.toNat ≤ r.2)

def isXmlName : List Char → Bool
  | [] => false
  | c :: rest =>
    isInRanges nameStartRanges c && rest.all (isInRanges (nameStartRanges ++ nameRestRanges))

def markupChars : List Char :=
  [' ', '\t', '\n', '\r', '"', '\'', '=', '<', '>', '/', '!', '?', '&']

theorem not_mem_of_isXmlName {name : List Char} (h : isXmlName name) {c : Char}
    (hc : c ∈ markupChars) : c ∉ name := by
  have hmarkup : markupChars.all fun d => !isInRanges (nameStartRanges ++ nameRestRanges) d := by
    decide
  cases name with
  | nil => exact List.not_mem_nil
  | cons first rest =>
    rw [isXmlName, Bool.and_eq_true, List.all_eq_true] at h
    intro hmem
    have hname : isInRanges (nameStartRanges ++ nameRestRanges) c := by
      rcases List.mem_cons.mp hmem with rfl | hmem
      · rw [isInRanges, List.any_append, Bool.or_eq_true]
        exact Or.inl h.1
      · exact h.2 c hmem
    simpa [hname] using List.all_eq_true.mp hmarkup c hc

theorem not_isMarkupBlank_of_isXmlName {name : List Char} (h : isXmlName name) {c : Char}
    (hc : c ∈ name) : isMarkupBlank c = false := by
  refine Bool.eq_false_iff.mpr fun hblank => not_mem_of_isXmlName h ?_ hc
  simp only [isMarkupBlank, Bool.or_eq_true, decide_eq_true_eq] at hblank
  rcases hblank with ((rfl | rfl) | rfl) | rfl <;> decide

def writeAttribute (name value : List Char) : List Char :=
  ' ' :: name ++ '=' :: '"' :: escape value ++ ['"']

def writeAttributes (attributes : List (String × String)) : List Char :=
  attributes.flatMap fun a => writeAttribute a.1.toList a.2.toList

def Tag.write (name : List Char) (attributes : List (String × String)) : Tag :=
  ⟨name ++ writeAttributes attributes⟩

/-- Attributes that may stand in one tag. -/
structure AreAttributes (attributes : List (String × String)) : Prop where
  names : ∀ a ∈ attributes, isXmlName a.1.toList
  distinct : attributes.Pairwise fun a b => a.1 ≠ b.1

theorem Remainder.skipBlanks_cons {c : Char} (hc : isMarkupBlank c = false) (position : Nat)
    (rest : List Char) : (Remainder.mk position (c :: rest)).skipBlanks = ⟨position, c :: rest⟩ := by
  simp [skipBlanks, span, hc, Text.byteSize]

theorem Remainder.span_append {test : Char → Bool} {taken : List Char} (htaken : ∀ c ∈ taken, test c)
    {c : Char} (hc : test c = false) (position : Nat) (rest : List Char) :
    (Remainder.mk position (taken ++ c :: rest)).span test =
      (taken, ⟨position + Text.byteSize taken, c :: rest⟩) := by
  simp [span, List.takeWhile_append_of_pos htaken, List.dropWhile_append_of_pos htaken, hc]

theorem quotedValue_escape (position : Nat) (value rest : List Char) :
    ∃ position', quotedValue ⟨position, '"' :: escape value ++ '"' :: rest⟩ =
      .ok (escape value, ⟨position', rest⟩) := by
  have hquote : ∀ c ∈ escape value, decide (c ≠ '"') := fun c hc =>
    decide_eq_true fun h => not_mem_escape (by decide) value (h ▸ hc)
  have hspan := Remainder.span_append hquote (c := '"') (by decide) (position + 1) rest
  refine ⟨position + 1 + Text.byteSize (escape value) + 1, ?_⟩
  rw [quotedValue, List.cons_append, Remainder.skipBlanks_cons (by decide)]
  simp only [true_or, if_true, hspan]

theorem readAttribute_write {earlier : List (List Char × Nat)} {first : Char} {more : List Char}
    (hname : isXmlName (first :: more)) (hnew : ∀ e ∈ earlier, e.1 ≠ first :: more)
    (position : Nat) (value rest : List Char) :
    ∃ position', readAttribute earlier position first
        (more ++ '=' :: '"' :: escape value ++ '"' :: rest) =
      .ok (⟨first :: more, position, value⟩, ⟨position', rest⟩) := by
  have hmore (c : Char) (hc : c ∈ more) : c ≠ '=' && !isMarkupBlank c := by
    have hc := List.mem_cons_of_mem first hc
    have hne : c ≠ '=' := fun h => not_mem_of_isXmlName hname (by decide) (h ▸ hc)
    simp [hne, not_isMarkupBlank_of_isXmlName hname hc]
  have hspan := Remainder.span_append hmore (c := '=') (by decide) (position + first.utf8Size)
    ('"' :: escape value ++ '"' :: rest)
  have hlookup : earlier.lookup (first :: more) = none := by
    refine List.lookup_eq_none_iff.mpr fun e he => ?_
    simpa using (hnew e he).symm
  obtain ⟨position', hvalue⟩ := quotedValue_escape
    (position + first.utf8Size + Text.byteSize more + 1) value rest
  refine ⟨position', ?_⟩
  simp only [List.append_assoc, List.cons_append] at hspan hvalue ⊢
  simp only [readAttribute, attributeName, hspan, passEquals,
    Remainder.skipBlanks_cons (show isMarkupBlank '=' = false by decide), hlookup, hvalue,
    unescape_escape, bind, Except.bind]

theorem attributesFrom_eq {r : Remainder} {first : Char} {rest : List Char}
    (htext : r.skipBlanks.text = first :: rest) {earlier : List (List Char × Nat)}
    {found : Attribute} {after : Remainder}
    (hread : readAttribute earlier r.skipBlanks.position first rest = .ok (found, after))
    (sofar : SortedMap String String) :
    attributesFrom earlier sofar r = attributesFrom ((found.name, found.position) :: earlier)
      (sofar.insert (String.ofList found.name) (String.ofList found.value)) after := by
  rw [attributesFrom]
  split
  · rw [htext] at *
    contradiction
  · obtain ⟨rfl, rfl⟩ := List.cons.inj (htext.symm.trans ‹_›)
    split
    · rw [hread] at *
      contradiction
    · obtain ⟨rfl, rfl⟩ := Prod.mk.inj (Except.ok.inj (hread.symm.trans ‹_›))
      rfl

/-- The names read so far are those of the attributes that were written before. -/
theorem attributesFrom_write {attributes : List (String × String)} (h : AreAttributes attributes)
    {earlier : List (List Char × Nat)} (hnew : ∀ e ∈ earlier, ∀ a ∈ attributes, e.1 ≠ a.1.toList)
    (sofar : SortedMap String String) (position : Nat) :
    attributesFrom earlier sofar ⟨position, writeAttributes attributes⟩ =
      .ok (attributes.foldl (fun m a => m.insert a.1 a.2) sofar) := by
  induction attributes generalizing earlier sofar position with
  | nil =>
    rw [attributesFrom]
    rfl
  | cons a rest ih =>
    obtain ⟨name, value⟩ := a
    obtain ⟨hdistinct, hrest⟩ := List.pairwise_cons.mp h.distinct
    have hname := h.names _ List.mem_cons_self
    obtain ⟨first, more, hsplit⟩ : ∃ first more, name.toList = first :: more :=
      List.exists_cons_of_ne_nil fun hnil => by simp [hnil, isXmlName] at hname
    rw [hsplit] at hname
    have hblank := not_isMarkupBlank_of_isXmlName hname List.mem_cons_self
    obtain ⟨position', hread⟩ := readAttribute_write hname
      (fun e he => hsplit ▸ hnew e he _ List.mem_cons_self) (position + 1) value.toList
      (writeAttributes rest)
    have hskip : (Remainder.mk position (writeAttributes ((name, value) :: rest))).skipBlanks =
        ⟨position + 1, first :: (more ++ '=' :: '"' :: escape value.toList ++
          '"' :: writeAttributes rest)⟩ := by
      have hspace : isMarkupBlank ' ' := by decide
      have hsize : Text.byteSize [' '] = 1 := by decide
      simp [writeAttributes, writeAttribute, hsplit, Remainder.skipBlanks, Remainder.span, hspace,
        hblank, hsize]
    have hnext := attributesFrom_eq (r := ⟨position, writeAttributes ((name, value) :: rest)⟩)
      (by rw [hskip]) (by rw [hskip]; exact hread) sofar
    rw [hnext, ih ⟨fun b hb => h.names b (List.mem_cons_of_mem _ hb), hrest⟩]
    · simp [← hsplit]
    · intro e he b hb
      rcases List.mem_cons.mp he with rfl | he
      · exact hsplit ▸ fun heq => hdistinct b hb (String.toList_inj.mp heq)
      · exact hnew e he b (List.mem_cons_of_mem _ hb)

namespace Tag

variable {name : List Char} (hname : isXmlName name) (attributes : List (String × String))

include hname

theorem name_write : (write name attributes).name = name := by
  have hplain : ∀ c ∈ name, !isMarkupBlank c := fun c hc => by
    rw [not_isMarkupBlank_of_isXmlName hname hc]
    rfl
  rw [Tag.name, write, List.takeWhile_append_of_pos hplain]
  cases attributes with
  | nil => simp [writeAttributes]
  | cons a rest => simp [writeAttributes, writeAttribute, isMarkupBlank]

theorem attributes_write (h : AreAttributes attributes) :
    (write name attributes).attributes = .ok (.ofList attributes) := by
  have hdrop : (write name attributes).content.drop name.length = writeAttributes attributes :=
    List.drop_left
  rw [Tag.attributes, name_write hname, hdrop]
  exact attributesFrom_write h (fun e he => absurd he List.not_mem_nil) .empty _

end Tag

end HomeHub.Markup
