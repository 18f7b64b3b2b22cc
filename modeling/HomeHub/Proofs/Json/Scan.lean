import HomeHub.Json.Scan

/-!
# Laws of scanners

A scanner reads a value off the front of a text when it does so from any place: places only serve
messages. What a scanner ensures holds of every value that it ends with. A text that no value is read
from is refused, whatever the reason.
-/
namespace HomeHub.Json.Scan

variable {α β σ : Type}

theorem bind_bind {γ : Type} (first : Scan α) (next : α → Scan β) (last : β → Scan γ) :
    (first >>= next) >>= last = first >>= fun a => next a >>= last := by
  funext c
  simp only [bind]
  cases first c <;> rfl

/-- From a text the scanner never ends with a value. -/
def Refuses (scan : Scan α) (text : List Char) : Prop :=
  ∀ place value c, scan ⟨text, place⟩ ≠ .done value c

/-- From a text the scanner ends with a value and leaves a rest, or it refuses the text. It does not
refuse where it is sure to read. -/
def ReadsIf (sure : Prop) (scan : Scan α) (text : List Char) (value : α) (rest : List Char) : Prop :=
  (∀ place, ∃ place', scan ⟨text, place⟩ = .done value ⟨rest, place'⟩) ∨ ¬sure ∧ Refuses scan text

/-- From a text the scanner ends with a value and leaves a rest. -/
abbrev ReadsTo (scan : Scan α) (text : List Char) (value : α) (rest : List Char) : Prop :=
  ReadsIf True scan text value rest

variable {sure : Prop}

theorem ReadsIf.done {scan : Scan α} {text rest : List Char} {value : α}
    (h : ReadsTo scan text value rest) (place : Place) :
    ∃ place', scan ⟨text, place⟩ = .done value ⟨rest, place'⟩ :=
  h.elim (· place) fun hrefuses => absurd trivial hrefuses.1

theorem ReadsIf.weaken {scan : Scan α} {text rest : List Char} {value : α}
    (h : ReadsTo scan text value rest) : ReadsIf sure scan text value rest := .inl h.done

theorem reads_pure (value : α) (text : List Char) : ReadsIf sure (pure value) text value text :=
  .inl fun place => ⟨place, rfl⟩

theorem refuses_failHere (cause : Cause) (text : List Char) : Refuses (failHere cause : Scan α) text :=
  fun _ _ _ h => by cases h

theorem refuses_failNext (cause : Cause) (text : List Char) : Refuses (failNext cause : Scan α) text :=
  fun _ _ _ h => by cases h

section

variable {first : Scan α} {next : α → Scan β} {text middle rest : List Char} {a : α} {b : β}

theorem refuses_bind_first (h : Refuses first text) : Refuses (first >>= next) text := by
  intro place value c heq
  simp only [bind] at heq
  split at heq
  · exact h _ _ _ ‹_›
  · cases heq
  · cases heq

theorem refuses_bind (hfirst : ReadsTo first text a middle) (hnext : Refuses (next a) middle) :
    Refuses (first >>= next) text := by
  intro place value c heq
  obtain ⟨place', hfirst⟩ := hfirst.done place
  simp only [bind, hfirst] at heq
  exact hnext _ _ _ heq

theorem reads_bind (hfirst : ReadsIf sure first text a middle)
    (hnext : ReadsIf sure (next a) middle b rest) : ReadsIf sure (first >>= next) text b rest := by
  rcases hfirst with hfirst | ⟨hsure, hfirst⟩
  · rcases hnext with hnext | ⟨hsure, hnext⟩
    · refine .inl fun place => ?_
      obtain ⟨place', hfirst⟩ := hfirst place
      obtain ⟨place'', hnext⟩ := hnext place'
      exact ⟨place'', by simp only [bind, hfirst, hnext]⟩
    · exact .inr ⟨hsure, refuses_bind (.inl hfirst) hnext⟩
  · exact .inr ⟨hsure, refuses_bind_first hfirst⟩

end

/-- From a text the scanner ends with the value of an outcome and leaves a rest, or it refuses the text
if there is none. -/
def Gives (scan : Scan α) (text : List Char) (outcome : Option α) (rest : List Char) : Prop :=
  match outcome with
  | some value => ReadsTo scan text value rest
  | none => Refuses scan text

section

variable {first : Scan α} {next : α → Scan β} {text middle rest : List Char}

theorem gives_bind {outcome : Option α} {following : α → Option β}
    (hfirst : Gives first text outcome middle)
    (hnext : ∀ a, Gives (next a) middle (following a) rest) :
    Gives (first >>= next) text (outcome.bind following) rest := by
  cases outcome with
  | none => exact refuses_bind_first hfirst
  | some a =>
    have hnext := hnext a
    rw [Option.bind_some]
    cases hfollowing : following a with
    | none =>
      rw [hfollowing] at hnext
      exact refuses_bind hfirst hnext
    | some b =>
      rw [hfollowing] at hnext
      exact reads_bind hfirst hnext

theorem gives_map {outcome : Option α} (f : α → β) (h : Gives first text outcome rest) :
    Gives (first >>= fun a => pure (f a)) text (outcome.map f) rest := by
  rw [Option.map_eq_bind]
  exact gives_bind h fun a => reads_pure (f a) rest

theorem gives_after {a : α} {outcome : Option β} (hfirst : ReadsTo first text a middle)
    (hnext : Gives (next a) middle outcome rest) : Gives (first >>= next) text outcome rest :=
  match outcome with
  | none => refuses_bind hfirst hnext
  | some _ => reads_bind hfirst hnext

end

theorem reads_peek (text : List Char) : ReadsIf sure peek text text.head? text :=
  .inl fun place => ⟨place, rfl⟩

theorem reads_skip (c : Char) (rest : List Char) : ReadsIf sure skip (c :: rest) () rest :=
  .inl fun _ => ⟨_, rfl⟩

def IsBlank (text : List Char) : Prop := ∀ c ∈ text, Cursor.isJsonBlank c

theorem isBlank_nil : IsBlank [] := fun _ h => absurd h List.not_mem_nil

theorem reads_blanks {blank : List Char} (hblank : IsBlank blank) {rest : List Char}
    (hrest : ∀ c ∈ rest.head?, Cursor.isJsonBlank c = false) :
    ReadsIf sure blanks (blank ++ rest) () rest := by
  have hdrop : rest.dropWhile Cursor.isJsonBlank = rest := by
    cases rest with
    | nil => rfl
    | cons c tail => exact List.dropWhile_cons_of_neg (by simp [hrest c rfl])
  refine .inl fun place => ⟨((blank ++ rest).takeWhile Cursor.isJsonBlank).foldl Place.after place, ?_⟩
  simp only [blanks, Cursor.skipBlanks, Cursor.skipWhile, List.dropWhile_append_of_pos hblank, hdrop]

theorem reads_peekToken {blank : List Char} (hblank : IsBlank blank) {c : Char}
    (hc : Cursor.isJsonBlank c = false) (rest : List Char) :
    ReadsIf sure peekToken (blank ++ c :: rest) (some c) (c :: rest) :=
  reads_bind (reads_blanks hblank fun d hd => by cases hd; exact hc) (reads_peek _)

section

variable {step : σ → Scan (σ ⊕ α)} {s s' : σ} {value : α} {text middle rest : List Char}

theorem reads_iterate_last (hstep : ReadsIf sure (step s) text (.inr value) rest) (fuel : Nat) :
    ReadsIf sure (iterate step (fuel + 1) s) text value rest :=
  reads_bind hstep (reads_pure value rest)

theorem reads_iterate_next (hstep : ReadsIf sure (step s) text (.inl s') middle) {fuel : Nat}
    (hnext : ReadsIf sure (iterate step fuel s') middle value rest) :
    ReadsIf sure (iterate step (fuel + 1) s) text value rest :=
  reads_bind hstep hnext

theorem reads_loop
    (h : ∀ fuel, text.length < fuel → ReadsIf sure (iterate step fuel s) text value rest) :
    ReadsIf sure (loop step s) text value rest :=
  h (text.length + 1) (Nat.lt_succ_self _)

end

/-- Every value that the scanner ends with satisfies a condition. -/
def Ensures (scan : Scan α) (post : α → Prop) : Prop :=
  ∀ c value c', scan c = .done value c' → post value

theorem ensures_pure {value : α} {post : α → Prop} (h : post value) :
    Ensures (pure value) post := by
  intro c v c' heq
  cases heq
  exact h

theorem ensures_bind {first : Scan α} {next : α → Scan β} {mid : α → Prop} {post : β → Prop}
    (hfirst : Ensures first mid) (hnext : ∀ a, mid a → Ensures (next a) post) :
    Ensures (first >>= next) post := by
  intro c v c' heq
  simp only [bind] at heq
  split at heq
  · exact hnext _ (hfirst _ _ _ ‹_›) _ _ _ heq
  · cases heq
  · cases heq

theorem ensures_true (scan : Scan α) : Ensures scan fun _ => True := fun _ _ _ _ => trivial

/-- What follows a scanner decides alone. -/
theorem ensures_then {first : Scan α} {next : α → Scan β} {post : β → Prop}
    (hnext : ∀ a, Ensures (next a) post) : Ensures (first >>= next) post :=
  ensures_bind (ensures_true first) fun a _ => hnext a

theorem ensures_failHere (cause : Cause) (post : α → Prop) : Ensures (failHere cause) post := by
  intro c v c' heq
  cases heq

theorem ensures_failNext (cause : Cause) (post : α → Prop) : Ensures (failNext cause) post := by
  intro c v c' heq
  cases heq

/-- An invariant of the steps of a loop holds until its end. -/
theorem ensures_loop (invariant : σ → Prop) {step : σ → Scan (σ ⊕ α)} {post : α → Prop}
    (hstep : ∀ s, invariant s → Ensures (step s) (Sum.elim invariant post)) {s : σ}
    (hs : invariant s) : Ensures (loop step s) post := by
  have hiterate (fuel : Nat) : ∀ s, invariant s → Ensures (iterate step fuel s) post := by
    induction fuel with
    | zero => exact fun _ _ => ensures_failHere _ _
    | succ fuel ih =>
      intro s hs
      refine ensures_bind (hstep s hs) fun result hresult => ?_
      cases result with
      | inl s' => exact ih s' hresult
      | inr value => exact ensures_pure hresult
  exact fun c => hiterate (c.rest.length + 1) s hs c

end HomeHub.Json.Scan
