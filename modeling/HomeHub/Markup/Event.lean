import HomeHub.Markup.Tag

/-!
# The tags of a text

A text is read as its start tags, empty tags and end tags in order; what stands between them is
passed over. Reading stops at the first fault, so a text is a list of tags and perhaps a fault.
-/
namespace HomeHub.Markup

inductive Event where
  | starting (tag : Tag)
  | empty (tag : Tag)
  | ending
  deriving DecidableEq, Repr

inductive TextFault where
  | openTag
  | openComment
  | openCharacterData
  | openDoctype
  | openInstruction
  | unknownDeclaration
  | unnamedDoctype
  | mismatch (expected found : String)
  | unopened (name : String)
  deriving DecidableEq, Repr

def TextFault.message : TextFault → String
  | openTag => "syntax error: tag not closed: `>` not found before end of input"
  | openComment => "syntax error: comment not closed: `-->` not found before end of input"
  | openCharacterData => "syntax error: CDATA not closed: `]]>` not found before end of input"
  | openDoctype => "syntax error: DOCTYPE not closed: `>` not found before end of input"
  | openInstruction =>
    "syntax error: processing instruction or xml declaration not closed: `?>` not found before end of input"
  | unknownDeclaration => "syntax error: unknown or missed symbol in markup"
  | unnamedDoctype =>
    "ill-formed document: `<!DOCTYPE>` declaration does not contain a name of a document type"
  | mismatch expected found =>
    s!"ill-formed document: expected `</{expected}>`, but `</{found}>` was found"
  | unopened name => s!"ill-formed document: close tag `</{name}>` does not match any open tag"

/-- What precedes the first `>` that satisfies a test of what precedes it, and what follows it. -/
def splitClosing (test : (before : List Char) → Bool) (before : List Char) :
    List Char → Option (List Char × List Char)
  | [] => none
  | c :: rest =>
    if c == '>' && test before then some (before.reverse, rest)
    else splitClosing test (c :: before) rest

theorem length_splitClosing {test : List Char → Bool} {before text content rest : List Char}
    (h : splitClosing test before text = some (content, rest)) : rest.length < text.length := by
  induction text generalizing before with
  | nil => simp [splitClosing] at h
  | cons c tail ih =>
    rw [splitClosing] at h
    split at h
    · injection h with h
      injection h with _ h
      subst h
      simp
    · have := ih h
      simp only [List.length_cons]
      omega

/-- Whether quotes opened before are closed again. -/
def outsideQuotes (before : List Char) : Bool :=
  let step (quote : Option Char) (c : Char) : Option Char :=
    match quote with
    | none => if c = '"' ∨ c = '\'' then some c else none
    | some q => if c = q then none else some q
  (before.reverse.foldl step none).isNone

/-- A comment ends behind two dashes that are not those of its start. -/
def endsComment (before : List Char) : Bool :=
  match before with
  | '-' :: '-' :: rest => 3 ≤ rest.length
  | _ => false

def endsCharacterData (before : List Char) : Bool :=
  match before with
  | ']' :: ']' :: _ => true
  | _ => false

/-- A document type may hold declarations in brackets of their own. -/
def endsDoctype (before : List Char) : Bool := before.count '<' = before.count '>'

def endsInstruction (before : List Char) : Bool := before.head? = some '?'

/-- A declaration from its exclamation mark on: what follows it, or why it is refused. -/
def passDeclaration (text : List Char) : Except TextFault (List Char) :=
  let close (test : List Char → Bool) (fault : TextFault) (accepts : List Char → Except TextFault Unit) :
      Except TextFault (List Char) :=
    match splitClosing test [] text with
    | none => .error fault
    | some (content, rest) => accepts content >>= fun _ => .ok rest
  match text with
  | _ :: '[' :: _ =>
    close endsCharacterData .openCharacterData fun content =>
      if "![CDATA[".toList.isPrefixOf content then .ok () else .error .openCharacterData
  | _ :: '-' :: _ =>
    close endsComment .openComment fun content =>
      if "!--".toList.isPrefixOf content then .ok () else .error .openComment
  | _ :: c :: _ =>
    if c = 'D' ∨ c = 'd' then
      close endsDoctype .openDoctype fun content =>
        let word := "!DOCTYPE".toList
        if (content.take word.length).map Char.toUpper = word then
          if (content.drop word.length).all isMarkupBlank then .error .unnamedDoctype else .ok ()
        else .error .openDoctype
    else .error .unknownDeclaration
  | _ => .error .unknownDeclaration

/-- An instruction from its question mark on: what follows it. -/
def passInstruction (text : List Char) : Except TextFault (List Char) :=
  match splitClosing endsInstruction [] text with
  | some (_ :: _ :: _, rest) => .ok rest
  | _ => .error .openInstruction

def endName (content : List Char) : List Char :=
  if content.all isMarkupBlank then content
  else (content.reverse.dropWhile isMarkupBlank).reverse

/-- Closes the innermost open element, which must have the name of the end tag. -/
def closeElement (content : List Char) :
    List (List Char) → Except TextFault (List (List Char))
  | [] => .error (.unopened (String.ofList (endName content)))
  | innermost :: outer =>
    if endName content = innermost then .ok outer
    else .error (.mismatch (String.ofList innermost) (String.ofList (endName content)))

/-- A start tag, or an empty one if it ends in a slash. -/
def tagEvent (content : List Char) : Event :=
  match content.reverse with
  | '/' :: rest => .empty ⟨rest.reverse⟩
  | _ => .starting ⟨content⟩

def openElement (event : Event) (opened : List (List Char)) : List (List Char) :=
  match event with
  | .starting tag => tag.name :: opened
  | _ => opened

/-- One piece of markup behind its `<`: its event if it has one, the elements open after it, and the
rest of the text. -/
def readMarkup (opened : List (List Char)) (text : List Char) :
    Except TextFault (Option Event × List (List Char) × List Char) :=
  match text with
  | '!' :: _ => do .ok (none, opened, ← passDeclaration text)
  | '?' :: _ => do .ok (none, opened, ← passInstruction text)
  | '/' :: inside =>
    match splitClosing outsideQuotes [] inside with
    | none => .error .openTag
    | some (content, rest) => do .ok (some .ending, ← closeElement content opened, rest)
  | _ =>
    match splitClosing outsideQuotes [] text with
    | none => .error .openTag
    | some (content, rest) =>
      let event := tagEvent content
      .ok (some event, openElement event opened, rest)

theorem length_passDeclaration {text rest : List Char} (h : passDeclaration text = .ok rest) :
    rest.length < text.length := by
  have close {test : List Char → Bool} {fault : TextFault}
      {accepts : List Char → Except TextFault Unit}
      (h : (match splitClosing test [] text with
        | none => .error fault
        | some (content, rest) => accepts content >>= fun _ => .ok rest) = Except.ok rest) :
      rest.length < text.length := by
    split at h
    · simp at h
    · rename_i content tail hs
      have := length_splitClosing hs
      simp only [bind, Except.bind] at h
      split at h
      · simp at h
      · injection h with h
        subst h
        exact this
  unfold passDeclaration at h
  simp only at h
  split at h
  · exact close h
  · exact close h
  · split at h
    · exact close h
    · simp at h
  · simp at h

theorem length_passInstruction {text rest : List Char} (h : passInstruction text = .ok rest) :
    rest.length < text.length := by
  unfold passInstruction at h
  split at h
  · rename_i hs
    injection h with h
    subst h
    exact length_splitClosing hs
  · simp at h

theorem length_readMarkup {opened opened' : List (List Char)} {text rest : List Char}
    {event : Option Event} (h : readMarkup opened text = .ok (event, opened', rest)) :
    rest.length ≤ text.length := by
  unfold readMarkup at h
  split at h
  · simp only [bind, Except.bind] at h
    split at h
    · simp at h
    · rename_i hd
      have := length_passDeclaration hd
      simp only [Except.ok.injEq, Prod.mk.injEq] at h
      obtain ⟨_, _, rfl⟩ := h
      simp only [List.length_cons] at this ⊢
      omega
  · simp only [bind, Except.bind] at h
    split at h
    · simp at h
    · rename_i hd
      have := length_passInstruction hd
      simp only [Except.ok.injEq, Prod.mk.injEq] at h
      obtain ⟨_, _, rfl⟩ := h
      simp only [List.length_cons] at this ⊢
      omega
  · split at h
    · simp at h
    · rename_i hs
      have := length_splitClosing hs
      simp only [bind, Except.bind] at h
      split at h
      · simp at h
      · simp only [Except.ok.injEq, Prod.mk.injEq] at h
        obtain ⟨_, _, rfl⟩ := h
        simp only [List.length_cons]
        omega
  · split at h
    · simp at h
    · rename_i hs
      have := length_splitClosing hs
      simp only [Except.ok.injEq, Prod.mk.injEq] at h
      obtain ⟨_, _, rfl⟩ := h
      omega

/-- The tags of a text up to its end or its first fault. -/
structure Events where
  events : List Event
  fault : Option TextFault
  deriving DecidableEq, Repr

/-- The tags of a text inside elements that are open, the innermost first. -/
def eventsFrom (opened : List (List Char)) (text : List Char) : Events :=
  match _h : text.dropWhile (· ≠ '<') with
  | [] => ⟨[], none⟩
  | [_] => ⟨[], some .openTag⟩
  | _ :: inside =>
    match _hm : readMarkup opened inside with
    | .error fault => ⟨[], some fault⟩
    | .ok (event, opened, rest) =>
      let after := eventsFrom opened rest
      ⟨event.toList ++ after.events, after.fault⟩
termination_by text.length
decreasing_by
  have h1 := (List.dropWhile_sublist (· ≠ '<') (l := text)).length_le
  rw [_h] at h1
  have h2 := length_readMarkup _hm
  simp only [List.length_cons] at h1
  omega

/-- The tags of a whole text, which may start with a byte order mark. -/
def Events.ofText (text : List Char) : Events :=
  match text with
  | '\ufeff' :: rest => eventsFrom [] rest
  | text => eventsFrom [] text

end HomeHub.Markup
