import HomeHub.Json.Record
import HomeHub.Proofs.Json.Typed

/-!
# Records that are read back

A record is read back from what is written for it when its fields are: each field that is written puts
its value back into the record, and each that is left out may be missing and leaves the record as it is.
-/
namespace HomeHub.Json
open Scan

variable {α : Type} {levels : Nat}

/-- A field of a record `a` takes a record read so far to the next one. -/
def Field.Restores (levels : Nat) (a b : α) (field : Field α) (b' : α) : Prop :=
  match field.write a with
  | some j => ∃ set, Decodes (field.read levels) j set ∧ set b = b'
  | none => field.presence ≠ .required ∧ b = b'

section

variable {β : Type} {name : String} {presence : Presence} {decoder : Decoder β} {put : β → α → α}

theorem Field.restores_put {a b : α} {write : α → Json} {x : β}
    (h : Decodes (decoder levels) (write a) x) :
    (Field.mk name presence (decoder.map put) fun a => some (write a)).Restores levels a b (put x b) :=
  ⟨put x, Decoder.decodes_map put h, rfl⟩

/-- A field that is left out when there is nothing to write. -/
theorem Field.restores_optional {a b : α} {write : β → Json} {get : α → Option β}
    (h : ∀ x, Decodes (decoder.optional levels) (write x) (some x)) {put : Option β → α → α}
    (hnone : put none b = b) :
    (Field.mk name .nullable (decoder.optional.map put) fun a => (get a).map write).Restores levels a b
      (put (get a) b) := by
  unfold Field.Restores
  cases hget : get a with
  | none =>
    simp only [hget, Option.map_none]
    exact ⟨by decide, hnone.symm⟩
  | some x =>
    simp only [hget, Option.map_some]
    exact ⟨put (some x), Decoder.decodes_map put (h x), rfl⟩

theorem Decoder.ensures_put {post : β → Prop} {post' : α → Prop} (h : Ensures (decoder levels) post)
    (hput : ∀ x a, post x → post' a → post' (put x a)) :
    Ensures (decoder.map put levels) fun set => ∀ a, post' a → post' (set a) :=
  ensures_map put h fun x hx a => hput x a hx

end

/-- A member of an object takes the record read so far, and the names seen, to the next ones. -/
def Record.Reads (r : Record α) (levels : Nat) (s : α × List String) (m : String × Json)
    (s' : α × List String) : Prop :=
  ∀ blank spelled rest, IsBlank blank → IsWritten m.2 spelled → Follows rest →
    ReadsTo (r.readMember levels s m.1) (':' :: (blank ++ (spelled ++ rest))) s' rest

theorem find?_name {fields : List (Field α)} (hnames : (fields.map Field.name).Nodup)
    {field : Field α} (h : field ∈ fields) : fields.find? (·.name = field.name) = some field := by
  induction fields with
  | nil => exact absurd h List.not_mem_nil
  | cons first fields ih =>
    obtain ⟨hfirst, hnames⟩ := List.nodup_cons.mp hnames
    rcases List.mem_cons.mp h with rfl | hmem
    · exact List.find?_cons_of_pos (by simp)
    · have hne : first.name ≠ field.name := fun heq =>
        hfirst (heq ▸ List.mem_map_of_mem (f := Field.name) hmem)
      rw [List.find?_cons_of_neg (by simpa using hne)]
      exact ih hnames hmem

def writtenMembers (a : α) (fields : List (Field α)) : List (String × Json) :=
  fields.filterMap fun field => (field.write a).map fun v => (field.name, v)

/-- Members of an object take a record read so far through its fields, in their order. A field without a
member may be missing and leaves the record as it is. -/
inductive Fills (levels : Nat) : α → List (Field α) → List (String × Json) → α → Prop
  | done (b : α) : Fills levels b [] [] b
  | member {b b' : α} {field : Field α} {fields : List (Field α)} {members : List (String × Json)}
      {j : Json} {set : α → α} : Decodes (field.read levels) j set →
      Fills levels (set b) fields members b' →
      Fills levels b (field :: fields) ((field.name, j) :: members) b'
  | missing {b b' : α} {field : Field α} {fields : List (Field α)} {members : List (String × Json)} :
      field.presence ≠ .required → Fills levels b fields members b' →
      Fills levels b (field :: fields) members b'

theorem fills_writtenMembers {a b b' : α} {fields : List (Field α)}
    (h : Leads (Field.Restores levels a) b fields b') :
    Fills levels b fields (writtenMembers a fields) b' := by
  induction h with
  | done b => exact .done b
  | @next s s' s'' field fields hfield _ ih =>
    unfold Field.Restores at hfield
    split at hfield
    · rename_i j hwrite
      obtain ⟨set, hset, rfl⟩ := hfield
      have hmembers : writtenMembers a (field :: fields) =
          (field.name, j) :: writtenMembers a fields := by simp [writtenMembers, hwrite]
      exact hmembers ▸ .member hset ih
    · rename_i hwrite
      obtain ⟨hpresence, rfl⟩ := hfield
      have hmembers : writtenMembers a (field :: fields) = writtenMembers a fields := by
        simp [writtenMembers, hwrite]
      exact hmembers ▸ .missing hpresence ih

namespace Record

variable {r : Record α} {a b b' : α} {seen : List String}

theorem reads_field {field : Field α} (hfind : r.fields.find? (·.name = field.name) = some field)
    (hseen : field.name ∉ seen) {j : Json} {set : α → α} (h : Decodes (field.read levels) j set) :
    r.Reads levels (b, seen) (field.name, j) (set b, field.name :: seen) := by
  intro blank spelled rest hblank hspelled hrest
  unfold readMember
  simp only [hfind, List.contains_iff_mem, hseen, if_false]
  exact reads_bind (reads_colon _)
    (reads_bind ((h spelled hspelled).reads blank rest hblank hrest) (reads_pure _ _))

/-- The names seen do not matter to what is read, as long as no name comes twice. -/
theorem leads_members {fields : List (Field α)} {members : List (String × Json)}
    (h : Fills levels b fields members b')
    (hfind : ∀ field ∈ fields, r.fields.find? (·.name = field.name) = some field)
    (hnames : (fields.map Field.name).Nodup) (hseen : ∀ field ∈ fields, field.name ∉ seen) :
    ∃ seen', Leads (r.Reads levels) (b, seen) members (b', seen') ∧ seen ⊆ seen' ∧
      ∀ field ∈ fields, field.presence = .required → field.name ∈ seen' := by
  induction h generalizing seen with
  | done b => exact ⟨seen, .done _, List.Subset.refl _, fun field h => absurd h List.not_mem_nil⟩
  | @member b b' field fields members j set hset _ ih =>
    obtain ⟨hfind, hfinds⟩ := List.forall_mem_cons.mp hfind
    obtain ⟨hseen, hseens⟩ := List.forall_mem_cons.mp hseen
    obtain ⟨hname, hnames⟩ := List.nodup_cons.mp hnames
    have hother (later : Field α) (hlater : later ∈ fields) : later.name ≠ field.name := fun heq =>
      hname (heq ▸ List.mem_map_of_mem (f := Field.name) hlater)
    have hunseen : ∀ later ∈ fields, later.name ∉ field.name :: seen := fun later hlater =>
      List.not_mem_cons_of_ne_of_not_mem (hother later hlater) (hseens later hlater)
    obtain ⟨seen', hleads, hsubset, hrequired⟩ := ih hfinds hnames hunseen
    refine ⟨seen', .next (reads_field hfind hseen hset) hleads,
      fun name hmem => hsubset (List.mem_cons_of_mem _ hmem), ?_⟩
    exact List.forall_mem_cons.mpr ⟨fun _ => hsubset List.mem_cons_self, hrequired⟩
  | @missing b b' field fields members hpresence _ ih =>
    obtain ⟨-, hfinds⟩ := List.forall_mem_cons.mp hfind
    obtain ⟨-, hseens⟩ := List.forall_mem_cons.mp hseen
    obtain ⟨seen', hleads, hsubset, hrequired⟩ := ih hfinds (List.nodup_cons.mp hnames).2 hseens
    exact ⟨seen', hleads, hsubset,
      List.forall_mem_cons.mpr ⟨fun h => absurd h hpresence, hrequired⟩⟩

/-- Members that fill the fields of a record from the default values are read as that record. -/
theorem decodes_members {members : List (String × Json)} (hnames : (r.fields.map Field.name).Nodup)
    (h : Fills levels r.blank r.fields members b) :
    Decodes (r.decoder (levels + 1)) (.object members) b := by
  obtain ⟨seen, hleads, -, hrequired⟩ := leads_members h
    (fun field hfield => find?_name hnames hfield) hnames fun _ _ => List.not_mem_nil
  have hmissing : (r.fields.find? fun field =>
      field.presence = .required && !seen.contains field.name) = none := by
    refine List.find?_eq_none.mpr fun field hfield => ?_
    simpa using hrequired field hfield
  intro spelled hspelled
  obtain ⟨list, hlist, rfl⟩ := hspelled.of_object
  refine Decoder.isSpelling_of_token (by decide) (by decide) fun rest _ => ?_
  refine reads_bracketedObject ?_
  have hfold : ReadsTo (foldMembers memberName (r.readMember levels) (r.blank, []))
      (list ++ '\x7d' :: rest) (b, seen) ('\x7d' :: rest) :=
    reads_foldMembers Prod.fst (fun m rest => readsTo_memberName m.1 rest)
      (fun _ _ _ blank spelled rest hstep => hstep blank spelled rest) hlist hleads rest
  refine reads_bind hfold ?_
  simp only [hmissing]
  exact reads_pure b _

/-- What is written for a record is read as the record to which its fields lead from the default
values, usually itself. -/
theorem decodes_record (hnames : (r.fields.map Field.name).Nodup)
    (h : Leads (Field.Restores levels a) r.blank r.fields b) :
    Decodes (r.decoder (levels + 1)) (r.toJson a) b :=
  decodes_members hnames (fills_writtenMembers h)

variable {post : α → Prop}

theorem ensures_fromItems {fields : List (Field α)}
    (hfields : ∀ field ∈ fields, Ensures (field.read levels) fun set => ∀ a, post a → post (set a))
    (first : Bool) (index : Nat) (ha : post a) :
    Ensures (r.fromItems levels fields first index a) post := by
  induction fields generalizing first index a with
  | nil => exact ensures_pure ha
  | cons field fields ih =>
    obtain ⟨hfield, hfields⟩ := List.forall_mem_cons.mp hfields
    refine ensures_then fun more => ?_
    split_ifs
    · exact ensures_bind hfield fun set hset => ih hfields _ _ (hset a ha)
    · exact ih hfields _ _ ha
    · exact ensures_raise _ _

theorem ensures_fromMembers
    (hfields : ∀ field ∈ r.fields, Ensures (field.read levels) fun set => ∀ a, post a → post (set a))
    (hblank : post r.blank) : Ensures (r.fromMembers levels) post := by
  have hfold : Ensures (foldMembers memberName (r.readMember levels) (r.blank, []))
      fun s => post s.1 := by
    refine ensures_foldMembers (fun s name hs => ?_) hblank
    unfold readMember
    split
    · exact ensures_then fun _ => ensures_then fun _ => ensures_pure hs
    · rename_i field hfind
      split_ifs
      · exact ensures_raise _ _
      · exact ensures_then fun _ => ensures_bind (hfields field (List.mem_of_find?_eq_some hfind))
          fun set hset => ensures_pure (hset _ hs)
  refine ensures_bind hfold fun s hs => ?_
  obtain ⟨a, seen⟩ := s
  simp only
  split
  · exact ensures_raise _ _
  · exact ensures_pure hs

/-- What the default values have and each field keeps, a record that was read has. -/
theorem ensures_record {post : Nat → α → Prop} (hblank : ∀ levels, post levels r.blank)
    (hfields : ∀ levels, ∀ field ∈ r.fields,
      Ensures (field.read levels) fun set => ∀ a, post levels a → post levels (set a)) (levels : Nat) :
    Ensures (r.decoder levels) (Below post levels) := by
  refine ensures_then fun first => ?_
  split
  · exact ensures_failNext _ _
  · rename_i below
    exact ensures_bracketed (ensures_fromItems (hfields below) _ _ (hblank below))
  · exact ensures_failNext _ _
  · rename_i below
    exact ensures_bracketed (ensures_fromMembers (hfields below) (hblank below))
  · exact (Decoder.ensures_mismatch _).imp fun _ => False.elim

end Record

end HomeHub.Json
