import Mathlib.Data.List.Nodup
import Mathlib.Tactic.SplitIfs
import TopicAlerts.Json.Reader
import TopicAlerts.Proofs.Faults

/-!
# JSON values with ordered members

A value is ordered if in each of its objects the keys increase, so that no key occurs twice.
`Json.set` keeps the keys of an object in order, and whatever is read from a text is ordered
(`Json.isOrdered_of_parse?`).
-/

namespace TopicAlerts.Json

/-- In all objects of the value the keys increase. -/
inductive IsOrdered : Json → Prop
  | null : IsOrdered .null
  | bool (b : Bool) : IsOrdered (.bool b)
  | num (n : Number) : IsOrdered (.num n)
  | str (s : String) : IsOrdered (.str s)
  /-- All items are ordered. -/
  | arr {items : List Json} (all : ∀ item ∈ items, IsOrdered item) : IsOrdered (.arr items)
  /-- The keys increase, and all values are ordered. -/
  | obj {members : Members} (keys : (members.map (·.1)).Pairwise (· < ·))
      (all : ∀ member ∈ members, IsOrdered member.2) : IsOrdered (.obj members)

/-- The items of an array in an ordered object are ordered. -/
theorem IsOrdered.item {entries : Members} {entry : String × Json} {items : List Json} {item : Json}
    (ordered : IsOrdered (.obj entries)) (member : entry ∈ entries)
    (holds_items : entry.2 = .arr items) (inside : item ∈ items) : IsOrdered item := by
  cases ordered with
  | obj _ all =>
    have array := all entry member
    rw [holds_items] at array
    cases array with
    | arr all => exact all item inside

theorem IsOrdered.member {members : Members} {member : String × Json}
    (ordered : IsOrdered (.obj members)) (inside : member ∈ members) : IsOrdered member.2 := by
  cases ordered with
  | obj _ all => exact all member inside

theorem sizeOf_snd_lt {members : Members} {member : String × Json} (inside : member ∈ members) :
    sizeOf member.2 < sizeOf (Json.obj members) := by
  obtain ⟨key, value⟩ := member
  have smaller := List.sizeOf_lt_of_mem inside
  simp only [Prod.mk.sizeOf_spec, Json.obj.sizeOf_spec] at smaller ⊢
  omega

/-- What is found is a member. -/
theorem mem_of_get? {members : Members} {key : String} {value : Json}
    (found : get? key members = some value) : (key, value) ∈ members := by
  obtain ⟨before, after, rfl, -⟩ := List.lookup_eq_some_iff.mp found
  exact List.mem_append_right before List.mem_cons_self

/-- Where no key occurs twice, every member is found under its key. -/
theorem get?_of_mem {members : Members} (distinct : (members.map (·.1)).Nodup)
    {member : String × Json} (inside : member ∈ members) :
    get? member.1 members = some member.2 := by
  unfold get?
  induction members with
  | nil => cases inside
  | cons first rest ih =>
    obtain ⟨absent, distinctRest⟩ := List.nodup_cons.mp distinct
    rcases List.mem_cons.mp inside with rfl | later
    · exact List.lookup_cons_self
    · obtain ⟨k, v⟩ := first
      have other : (member.1 == k) = false :=
        beq_eq_false_iff_ne.mpr fun same => absent (List.mem_map.mpr ⟨member, later, same⟩)
      rw [List.lookup_cons, other]
      exact ih distinctRest later

/-- The members of an ordered object are what is found in it. -/
theorem IsOrdered.get?_eq_some_iff {members : Members} {key : String} {value : Json}
    (ordered : IsOrdered (.obj members)) :
    get? key members = some value ↔ (key, value) ∈ members := by
  refine ⟨mem_of_get?, fun inside => ?_⟩
  cases ordered with
  | obj keys _ => exact get?_of_mem (keys.imp String.ne_of_lt) inside

/-! ## Setting a member -/

variable {key : String} {value : Json} {members : Members}

theorem mem_set {member : String × Json} (inside : member ∈ set key value members) :
    member = (key, value) ∨ member ∈ members := by
  induction members with
  | nil => exact .inl (List.mem_singleton.mp inside)
  | cons first rest ih =>
    obtain ⟨k, v⟩ := first
    unfold set at inside
    split_ifs at inside with smaller same
    · exact List.mem_cons.mp inside
    · rcases List.mem_cons.mp inside with new | old
      · exact .inl new
      · exact .inr (List.mem_cons_of_mem _ old)
    · rcases List.mem_cons.mp inside with rfl | later
      · exact .inr List.mem_cons_self
      · rcases ih later with new | old
        · exact .inl new
        · exact .inr (List.mem_cons_of_mem _ old)

theorem get?_cons (other key : String) (value : Json) (members : Members) :
    get? other ((key, value) :: members) =
      if other = key then some value else get? other members := by
  show List.lookup other ((key, value) :: members) =
    if other = key then some value else List.lookup other members
  rw [List.lookup_cons]
  by_cases same : other = key
  · rw [if_pos same, beq_iff_eq.mpr same]
  · rw [if_neg same, beq_eq_false_iff_ne.mpr same]

/-- The member that was put is found under its key, and the others are found as before. -/
theorem get?_set (other key : String) (value : Json) (members : Members) :
    get? other (set key value members) =
      if other = key then some value else get? other members := by
  induction members with
  | nil => exact get?_cons ..
  | cons first rest ih =>
    obtain ⟨k, v⟩ := first
    unfold set
    by_cases found : other = key
    · subst found
      rw [if_pos rfl] at ih ⊢
      split_ifs with smaller replaced
      · rw [get?_cons, if_pos rfl]
      · rw [get?_cons, if_pos rfl]
      · rw [get?_cons, if_neg replaced, ih]
    · rw [if_neg found] at ih ⊢
      split_ifs with smaller replaced
      · rw [get?_cons, if_neg found]
      · rw [get?_cons, get?_cons, if_neg found, if_neg (replaced ▸ found)]
      · rw [get?_cons, get?_cons, ih]

/-- A member is put at its place in the order of the keys. -/
theorem pairwise_set (ordered : (members.map (·.1)).Pairwise (· < ·)) :
    ((set key value members).map (·.1)).Pairwise (· < ·) := by
  induction members with
  | nil => exact List.pairwise_singleton _ _
  | cons first rest ih =>
    obtain ⟨k, v⟩ := first
    rw [List.map_cons, List.pairwise_cons] at ordered
    obtain ⟨isFirst, orderedRest⟩ := ordered
    unfold set
    split_ifs with smaller same
    · rw [List.map_cons, List.map_cons, List.pairwise_cons]
      refine ⟨fun other inside => ?_, List.pairwise_cons.mpr ⟨isFirst, orderedRest⟩⟩
      rcases List.mem_cons.mp inside with rfl | later
      · exact smaller
      · exact String.lt_trans smaller (isFirst other later)
    · rw [List.map_cons, List.pairwise_cons, same]
      exact ⟨isFirst, orderedRest⟩
    · rw [List.map_cons, List.pairwise_cons]
      have larger : k < key := Std.lt_of_le_of_ne (String.not_lt.mp smaller) (Ne.symm same)
      refine ⟨fun other inside => ?_, ih orderedRest⟩
      obtain ⟨member, found, rfl⟩ := List.mem_map.mp inside
      rcases mem_set found with rfl | old
      · exact larger
      · exact isFirst _ (List.mem_map_of_mem old)

theorem isOrdered_set (ordered : IsOrdered (.obj members)) (also : IsOrdered value) :
    IsOrdered (.obj (set key value members)) := by
  cases ordered with
  | obj keys all =>
    refine .obj (pairwise_set keys) fun member inside => ?_
    rcases mem_set inside with rfl | old
    · exact also
    · exact all member old

/-! ## Reading -/

mutual

/-- A value that is read is ordered. -/
theorem isOrdered_of_readValue {depth : Nat} {document : Document} {value : Json}
    (read : readValue depth document = .ok value) : IsOrdered value := by
  match document with
  | .null =>
    cases read
    exact .null
  | .bool b =>
    cases read
    exact .bool b
  | .number (some n) =>
    cases read
    exact .num n
  | .string (some s) =>
    cases read
    exact .str s
  | .number none => cases read
  | .string none => cases read
  | .broken => cases read
  | .array items closed =>
    unfold readValue at read
    obtain ⟨-, -, read⟩ := bind_eq_ok.mp read
    obtain ⟨values, readItems, read⟩ := bind_eq_ok.mp read
    obtain ⟨-, -, read⟩ := bind_eq_ok.mp read
    cases read
    exact .arr (isOrdered_of_readItems readItems)
  | .object members closed =>
    unfold readValue at read
    obtain ⟨-, -, read⟩ := bind_eq_ok.mp read
    obtain ⟨values, readMembers, read⟩ := bind_eq_ok.mp read
    obtain ⟨-, -, read⟩ := bind_eq_ok.mp read
    cases read
    refine isOrdered_of_readMembers readMembers (.obj List.Pairwise.nil ?_)
    intro member inside
    cases inside

theorem isOrdered_of_readItems {depth : Nat} {items : List Document} {values : List Json}
    (read : readItems depth items = .ok values) : ∀ value ∈ values, IsOrdered value := by
  match items with
  | [] =>
    cases read
    intro value inside
    cases inside
  | item :: rest =>
    unfold readItems at read
    obtain ⟨first, readFirst, read⟩ := bind_eq_ok.mp read
    obtain ⟨later, readLater, read⟩ := bind_eq_ok.mp read
    cases read
    intro value inside
    rcases List.mem_cons.mp inside with rfl | isLater
    · exact isOrdered_of_readValue readFirst
    · exact isOrdered_of_readItems readLater value isLater

/-- Members are set one after the other. -/
theorem isOrdered_of_readMembers {depth : Nat} {members : List (Option String × Document)}
    {done values : Members} (read : readMembers depth members done = .ok values)
    (before : IsOrdered (.obj done)) : IsOrdered (.obj values) := by
  match members with
  | [] =>
    cases read
    exact before
  | (none, _) :: _ => cases read
  | (some key, document) :: rest =>
    unfold readMembers at read
    obtain ⟨value, readFirst, read⟩ := bind_eq_ok.mp read
    exact isOrdered_of_readMembers read (isOrdered_set before (isOrdered_of_readValue readFirst))

end

/-- The value of a text is ordered. -/
theorem isOrdered_of_parse? {text : String} {value : Json} (read : parse? text = some value) :
    IsOrdered value := by
  have fromText : readString readValue text = .ok value := by
    unfold parse? at read
    cases result : readString readValue text with
    | error fault =>
      rw [result] at read
      cases read
    | ok other =>
      rw [result] at read
      cases read
      rfl
  unfold readString readUnits at fromText
  obtain ⟨other, readFrom, fromText⟩ := bind_eq_ok.mp fromText
  obtain ⟨-, -, fromText⟩ := bind_eq_ok.mp fromText
  cases fromText
  exact isOrdered_of_readValue readFrom

end TopicAlerts.Json
