import HomeHub.Http.Service
import HomeHub.Proofs.SortedMap

/-!
# What the views of a node show

A view shows the last value of each number among those that it lists, so it depends on nothing else:
neither on values of other nodes, classes or genres nor on the order of values with different numbers.
Of several nodes with one id the first is viewed.
-/
namespace HomeHub.ZWave

variable {α κ β : Type}

def IsFirst (p : α → Prop) (list : List α) (a : α) : Prop :=
  ∃ before after, list = before ++ a :: after ∧ p a ∧ ∀ b ∈ before, ¬p b

def IsLast (p : α → Prop) (list : List α) (a : α) : Prop :=
  ∃ before after, list = before ++ a :: after ∧ p a ∧ ∀ b ∈ after, ¬p b

section

variable {p : α → Bool} {list : List α} {a : α}

theorem find?_eq_some_iff_isFirst : list.find? p = some a ↔ IsFirst (fun b => p b) list a := by
  rw [List.find?_eq_some_iff_append]
  constructor
  · rintro ⟨ha, before, after, rfl, hbefore⟩
    exact ⟨before, after, rfl, ha, by simpa using hbefore⟩
  · rintro ⟨before, after, rfl, ha, hbefore⟩
    exact ⟨ha, before, after, rfl, by simpa using hbefore⟩

theorem find?_reverse_eq_some_iff_isLast :
    list.reverse.find? p = some a ↔ IsLast (fun b => p b) list a := by
  rw [find?_eq_some_iff_isFirst]
  constructor
  · rintro ⟨before, after, hlist, ha, hbefore⟩
    refine ⟨after.reverse, before.reverse, ?_, ha, by simpa using hbefore⟩
    simpa using congrArg List.reverse hlist
  · rintro ⟨before, after, rfl, ha, hafter⟩
    exact ⟨after.reverse, before.reverse, by simp, ha, by simpa using hafter⟩

end

/-! ## Listings of values -/

/-- What a view is of: the values that it lists, their numbers, and what is shown of one. -/
structure Listing (κ β : Type) where
  lists : Value → Bool
  number : Value → κ
  Shows : Value → β → Prop

namespace Listing

variable [DecidableEq κ]

section

variable (listing : Listing κ β)

def isUnder (number : κ) (v : Value) : Bool := listing.lists v && decide (listing.number v = number)

/-- A view shows, under each number, the last value that is listed with it. -/
structure IsShownBy [Ord κ] (view : List Value → SortedMap κ β) : Prop where
  get?_iff : ∀ values number shown, (view values).get? number = some shown ↔
    ∃ v, IsLast (fun v => listing.isUnder number v) values v ∧ listing.Shows v shown
  /-- The numbers are those of the values that are listed. -/
  mem_keys_iff : ∀ values number,
    number ∈ (view values).keys ↔ ∃ v ∈ values, listing.lists v ∧ listing.number v = number
  /-- Only the values listed under each number count, and their order among themselves. -/
  eq_of_listed : ∀ values values',
    (∀ number, values.filter (listing.isUnder number) = values'.filter (listing.isUnder number)) →
      view values = view values'
  /-- The order of values with different numbers does not count. -/
  eq_of_perm : ∀ values values', values.Perm values' →
    ((values.filter listing.lists).map listing.number).Nodup → view values = view values'

end

variable {listing : Listing κ β} {values values' : List Value}

theorem isUnder_iff {number : κ} {v : Value} :
    listing.isUnder number v ↔ listing.lists v ∧ listing.number v = number := by
  simp [isUnder]

/-- With distinct numbers at most one value is under each. -/
theorem length_filter_isUnder_le (h : ((values.filter listing.lists).map listing.number).Nodup)
    (number : κ) : (values.filter (listing.isUnder number)).length ≤ 1 := by
  have hcount : (values.filter (listing.isUnder number)).length =
      ((values.filter listing.lists).map listing.number).count number := by
    rw [List.count_eq_countP, List.countP_map, List.countP_filter, List.countP_eq_length_filter]
    exact congrArg List.length (List.filter_congr fun v _ => Bool.and_comm _ _)
  rw [hcount]
  exact List.nodup_iff_count.mp h number

/-- A list of at most one value has no other order. -/
theorem filter_isUnder_eq_of_perm (hperm : values.Perm values')
    (h : ((values.filter listing.lists).map listing.number).Nodup) (number : κ) :
    values.filter (listing.isUnder number) = values'.filter (listing.isUnder number) := by
  have hfilter := hperm.filter (listing.isUnder number)
  have hlength := length_filter_isUnder_le h number
  revert hfilter hlength
  cases values.filter (listing.isUnder number) with
  | nil => exact fun hfilter _ => hfilter.nil_eq
  | cons v rest =>
    intro hfilter hlength
    obtain rfl : rest = [] := List.length_eq_zero_iff.mp (by simpa using hlength)
    exact (List.perm_singleton.mp hfilter.symm).symm

variable [Ord κ] [Std.TransOrd κ] [Std.LawfulEqOrd κ] {show_ : Value → β}

theorem get?_ofList (number : κ) :
    (SortedMap.ofList ((values.filter listing.lists).map fun v => (listing.number v, show_ v))).get?
      number = (values.reverse.find? (listing.isUnder number)).map show_ := by
  have hunder : (fun v => decide (listing.lists v ∧ decide (listing.number v = number) = true)) =
      listing.isUnder number := by
    funext v
    simp [isUnder]
  rw [SortedMap.get?_ofList_eq_find?, ← List.map_reverse, ← List.filter_reverse, List.find?_map,
    List.find?_filter, Option.map_map]
  exact congrArg (fun p => (values.reverse.find? p).map show_) hunder

theorem ofList_eq_of_listed
    (h : ∀ number, values.filter (listing.isUnder number) = values'.filter (listing.isUnder number)) :
    SortedMap.ofList ((values.filter listing.lists).map fun v => (listing.number v, show_ v)) =
      .ofList ((values'.filter listing.lists).map fun v => (listing.number v, show_ v)) := by
  refine SortedMap.ext_get? fun number => ?_
  rw [get?_ofList, get?_ofList, ← List.head?_filter, ← List.head?_filter, List.filter_reverse,
    List.filter_reverse, h]

theorem isShownBy_ofList (hshow : ∀ v shown, listing.Shows v shown ↔ show_ v = shown) :
    listing.IsShownBy fun values =>
      .ofList ((values.filter listing.lists).map fun v => (listing.number v, show_ v)) where
  get?_iff values number shown := by
    rw [get?_ofList, Option.map_eq_some_iff]
    simp only [find?_reverse_eq_some_iff_isLast, hshow]
  mem_keys_iff values number := by
    rw [SortedMap.mem_keys, get?_ofList, Option.isSome_map, List.find?_isSome]
    simp only [List.mem_reverse, isUnder_iff]
  eq_of_listed _ _ h := ofList_eq_of_listed h
  eq_of_perm _ _ hperm h := ofList_eq_of_listed (filter_isUnder_eq_of_perm hperm h)

end Listing

/-! ## What is shown of a value -/

structure ConfigParameter.IsOf (shown : ConfigParameter) (v : Value) : Prop where
  label : shown.label = v.label
  typeName : shown.typeName = v.typeName
  help : shown.help = v.help
  dataItems : shown.dataItems = v.dataItems
  data : shown.data = v.data
  most : shown.most = v.most
  least : shown.least = v.least

structure UserCode.IsOf (shown : UserCode) (v : Value) : Prop where
  string : ∀ text, v.data = .text text → shown.code = text
  null : v.data = .null → shown.code = ""
  other : (∀ text, v.data ≠ .text text) → v.data ≠ .null → shown.code = v.data.compact
  label : shown.label = v.label
  /-- A code is as long as it has characters. -/
  length : shown.length = shown.code.toList.length

structure ValueSummary.IsOf (shown : ValueSummary) (v : Value) : Prop where
  label : shown.label = v.label
  index : shown.index = v.index
  instanceNumber : shown.instanceNumber = v.instanceNumber
  pollIntensity : shown.pollIntensity = v.pollIntensity

structure GroupSummary.IsOf (shown : GroupSummary) (g : Group) : Prop where
  associations : shown.associations = g.associations
  associationInstances : shown.associationInstances = g.associationInstances
  label : shown.label = g.label
  maxAssociations : shown.maxAssociations = g.maxAssociations

def parameterListing : Listing UInt32 ConfigParameter where
  lists v := v.commandClass = 112
  number := Value.index
  Shows v shown := shown.IsOf v

def codeListing : Listing UInt32 UserCode where
  lists v := v.genre = .user && v.commandClass = 99
  number := Value.index
  Shows v shown := shown.IsOf v

def summaryListing (nodeId : UInt8) : Listing UInt64 ValueSummary where
  lists v := v.nodeId = nodeId
  number := Value.valueId
  Shows v shown := shown.IsOf v

section

variable {v : Value}

theorem ConfigParameter.isOf_iff {shown : ConfigParameter} : shown.IsOf v ↔ v.parameter = shown := by
  constructor
  · intro h
    cases shown
    cases h
    simp_all [Value.parameter]
  · rintro rfl
    constructor <;> rfl

theorem ValueSummary.isOf_iff {shown : ValueSummary} : shown.IsOf v ↔ v.summary = shown := by
  constructor
  · intro h
    cases shown
    cases h
    simp_all [Value.summary]
  · rintro rfl
    constructor <;> rfl

theorem GroupSummary.isOf_iff {shown : GroupSummary} {g : Group} :
    shown.IsOf g ↔ g.summary = shown := by
  constructor
  · intro h
    cases shown
    cases h
    simp_all [Group.summary]
  · rintro rfl
    constructor <;> rfl

theorem Value.isOf_userCode (v : Value) : v.userCode.IsOf v where
  string text h := by simp [userCode, codeText, h]
  null h := by simp [userCode, codeText, h]
  other htext hnull := by
    unfold userCode codeText
    cases hdata : v.data with
    | text text => exact absurd hdata (htext text)
    | null => exact absurd hdata hnull
    | _ => rfl
  label := rfl
  length := String.length_toList.symm

theorem UserCode.isOf_iff {shown : UserCode} : shown.IsOf v ↔ v.userCode = shown := by
  refine ⟨fun h => ?_, fun h => h ▸ v.isOf_userCode⟩
  have hown := v.isOf_userCode
  have hcode : v.userCode.code = shown.code := by
    by_cases htext : ∃ text, v.data = .text text
    · obtain ⟨text, htext⟩ := htext
      rw [hown.string text htext, h.string text htext]
    · have htext : ∀ text, v.data ≠ .text text := fun text ht => htext ⟨text, ht⟩
      by_cases hnull : v.data = .null
      · rw [hown.null hnull, h.null hnull]
      · rw [hown.other htext hnull, h.other htext hnull]
  have hlength : v.userCode.length = shown.length := by rw [hown.length, h.length, hcode]
  obtain ⟨code, label, length⟩ := shown
  exact UserCode.mk.injEq _ _ _ _ _ _ ▸ ⟨hcode, h.label.symm, hlength⟩

end

/-! ## Nodes -/

theorem Group.lookupEntry_summary {entries : List (UInt8 × Group)} {index : UInt8} :
    lookupEntry index (entries.map fun (i, g) => (i, g.summary)) =
      (lookupEntry index entries).map Group.summary := by
  induction entries with
  | nil => rfl
  | cons e rest ih =>
    obtain ⟨i, g⟩ := e
    rw [List.map_cons, lookupEntry, lookupEntry, ih]
    split <;> rfl

theorem Node.entries_groupSummaries (n : Node) :
    n.groupSummaries.entries = n.groups.entries.map fun (i, g) => (i, g.summary) :=
  SortedMap.entries_ofList (List.pairwise_map.mpr n.groups.inOrder)

/-- What is shown of a node, whatever its values are. -/
structure Node.ShowsLast (n : Node) : Prop where
  parameters : parameterListing.IsShownBy fun values => { n with values }.configParameters
  codes : n.commandClasses.contains 99 →
    codeListing.IsShownBy fun values => { n with values }.userCodes
  noCodes : ¬n.commandClasses.contains 99 → n.userCodes = .empty
  groupNumbers : n.groupSummaries.keys = n.groups.keys
  groups : ∀ index shown, n.groupSummaries.get? index = some shown ↔
    ∃ group, n.groups.get? index = some group ∧ shown.IsOf group

theorem Node.showsLast (n : Node) : n.ShowsLast where
  parameters := Listing.isShownBy_ofList fun _ _ => ConfigParameter.isOf_iff
  codes hclass := by
    have hcodes : (fun values => { n with values }.userCodes) = fun values =>
        .ofList ((values.filter codeListing.lists).map fun v => (v.index, v.userCode)) := by
      funext values
      have hhas : { n with values }.hasClass userCodeClass := hclass
      rw [userCodes, if_pos hhas, valuesOfClass, List.filter_filter]
      rfl
    rw [hcodes]
    exact Listing.isShownBy_ofList fun _ _ => UserCode.isOf_iff
  noCodes hclass := if_neg hclass
  groupNumbers := by
    rw [SortedMap.keys, entries_groupSummaries, List.map_map]
    rfl
  groups index shown := by
    rw [SortedMap.get?, entries_groupSummaries, Group.lookupEntry_summary, Option.map_eq_some_iff]
    simp only [GroupSummary.isOf_iff, SortedMap.get?]

theorem Node.groupSummaries_eq {n n' : Node} (h : n.groups = n'.groups) :
    n.groupSummaries = n'.groupSummaries := by
  unfold groupSummaries
  rw [h]

theorem Node.configParameters_eq {n n' : Node}
    (h : ∀ index, n.values.filter (parameterListing.isUnder index) =
      n'.values.filter (parameterListing.isUnder index)) : n.configParameters = n'.configParameters :=
  n.showsLast.parameters.eq_of_listed n.values n'.values h

theorem Node.userCodes_eq {n n' : Node}
    (hclass : n.commandClasses.contains 99 = n'.commandClasses.contains 99)
    (h : n.commandClasses.contains 99 → ∀ index, n.values.filter (codeListing.isUnder index) =
      n'.values.filter (codeListing.isUnder index)) : n.userCodes = n'.userCodes := by
  by_cases hhas : n.commandClasses.contains 99
  · have hmoved : { n with values := n'.values }.userCodes = n'.userCodes := by
      simp only [userCodes, hasClass, userCodeClass, hclass]
      rfl
    rw [← hmoved]
    exact (n.showsLast.codes hhas).eq_of_listed n.values n'.values (h hhas)
  · rw [n.showsLast.noCodes hhas, n'.showsLast.noCodes (hclass ▸ hhas)]

/-! ## Networks -/

theorem isShownBy_valueSummaries (id : UInt8) :
    (summaryListing id).IsShownBy fun values => valueSummaries values id :=
  Listing.isShownBy_ofList fun _ _ => ValueSummary.isOf_iff

/-- What a view of the node with an id depends on. -/
def Network.AgreeOn (id : UInt8) (net net' : Network) : Http.NodeView → Prop
  | .values => ∀ valueId, net.snapshot.entityValues.filter ((summaryListing id).isUnder valueId) =
      net'.snapshot.entityValues.filter ((summaryListing id).isUnder valueId)
  | .groups => Option.Rel (fun n n' : Node => n.groups = n'.groups) (net.node? id) (net'.node? id)
  | .config => Option.Rel (fun n n' : Node => ∀ index,
      n.values.filter (parameterListing.isUnder index) =
        n'.values.filter (parameterListing.isUnder index)) (net.node? id) (net'.node? id)
  | .userCodes => Option.Rel (fun n n' : Node =>
      n.commandClasses.contains 99 = n'.commandClasses.contains 99 ∧
        (n.commandClasses.contains 99 → ∀ index, n.values.filter (codeListing.isUnder index) =
          n'.values.filter (codeListing.isUnder index))) (net.node? id) (net'.node? id)

structure Network.ShowsLast (net : Network) (id : UInt8) : Prop where
  node?_iff : ∀ node,
    net.node? id = some node ↔ IsFirst (fun n => n.nodeId = id) net.snapshot.nodes node
  node : ∀ node, net.node? id = some node → node.ShowsLast
  /-- The values are those of the entities, whether or not there is a node. -/
  summaries : (summaryListing id).IsShownBy fun values =>
    valueSummaries { net with snapshot.entityValues := values }.entityValues id
  /-- Nothing else changes what is answered. -/
  answers : ∀ net' view, net.AgreeOn id net' view → ∀ (s : Http.Service) text,
    (readUpTo? 255 text).map UInt8.ofNat = some id →
      { s with network := some net }.nodeView view text =
        { s with network := some net' }.nodeView view text

theorem rel_cases {r : α → β → Prop} {x : Option α} {y : Option β} (h : Option.Rel r x y) :
    (x = none ∧ y = none) ∨ ∃ a b, x = some a ∧ y = some b ∧ r a b := by
  cases h with
  | none => exact Or.inl ⟨rfl, rfl⟩
  | some h => exact Or.inr ⟨_, _, rfl, rfl, h⟩

/-- The views of a node id are of the first node with it, and show the last of competing values. -/
theorem Network.views_showLast (net : Network) (id : UInt8) : net.ShowsLast id where
  node?_iff node := by
    rw [Network.node?, find?_eq_some_iff_isFirst]
    simp only [decide_eq_true_eq]
  node node _ := node.showsLast
  summaries := isShownBy_valueSummaries id
  answers net' view hagree s text hid := by
    simp only [Http.Service.nodeView, hid, Option.bind_some, Option.map_some, Option.getD_some]
    cases view with
    | values =>
      have hsummaries := (isShownBy_valueSummaries id).eq_of_listed _ _ hagree
      exact congrArg (fun view => Http.Response.json 200 (valuesJson view).compact) hsummaries
    | groups =>
      obtain ⟨hn, hn'⟩ | ⟨n, n', hn, hn', hgroups⟩ := rel_cases hagree
      · simp only [hn, hn']
      · simp only [hn, hn', Node.groupSummaries_eq hgroups]
    | config =>
      obtain ⟨hn, hn'⟩ | ⟨n, n', hn, hn', hlisted⟩ := rel_cases hagree
      · simp only [hn, hn']
      · simp only [hn, hn', Node.configParameters_eq hlisted]
    | userCodes =>
      obtain ⟨hn, hn'⟩ | ⟨n, n', hn, hn', hclass, hlisted⟩ := rel_cases hagree
      · simp only [hn, hn']
      · simp only [hn, hn', Node.userCodes_eq hclass hlisted]

/-- A lock with a code, and with a parameter that is listed twice, at last under another node's id. -/
def hallDoor : Node where
  nodeId := 4
  commandClasses := ClassSet.ofList [99, 112]
  values := [
    ⟨1, 4, 99, .user, 1, 1, "Guest", "", "String", .text "1é5", .null, .null, .null, 0⟩,
    ⟨2, 4, 99, .system, 1, 1, "Count", "", "Byte", .ofNat 30, .null, .null, .null, 0⟩,
    ⟨3, 4, 112, .config, 1, 5, "Beep", "", "Byte", .ofNat 1, .null, .null, .null, 0⟩,
    ⟨4, 7, 112, .config, 2, 5, "Buzz", "", "Byte", .ofNat 0, .null, .null, .null, 0⟩]
  groups := .empty

def hallDoors : Network := ⟨⟨[hallDoor, { hallDoor with values := [] }], []⟩, "zwcfg.json"⟩

example : (hallDoors.node? 4).map (fun n => (n.userCodes.entries, n.configParameters.entries)) =
    some ([(1, ⟨"1é5", "Guest", 3⟩)], [(5, ⟨"Buzz", "Byte", "", .null, .ofNat 0, .null, .null⟩)]) := by
  decide +kernel

end HomeHub.ZWave
