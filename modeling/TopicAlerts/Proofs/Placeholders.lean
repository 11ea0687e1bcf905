import TopicAlerts.Proofs.OrderedJson
import TopicAlerts.Proofs.Substitution
import TopicAlerts.Proofs.TextParts

/-!
# Placeholders and fields

A rule follows the parts of its field down into the message, name by name. A template knows the
values of a message by one name each, the names on the way to it joined by points (`called`). The
two agree on a path by which no other way through the message is called, in particular on every path
if no name in the message has a point in it (`render_shows_resolved`).

Where a name has a point in it the two differ: the placeholder is filled, but no field leads there
(`dottedName_shown`). The same is so below an object with the empty name, which a template does not
see (`emptyName_shown`).
-/

namespace TopicAlerts

namespace Message

/-- The names lead to a value inside this one that is not an object. -/
def LeadsTo (value : Json) (names : List String) (leaf : Json) : Prop :=
  follow value names = some leaf ∧ ∀ members, leaf ≠ .obj members

variable {value leaf : Json} {members : Json.Members} {name : String} {names : List String}

theorem follow_cons (value : Json) (name : String) (names : List String) :
    follow value (name :: names) = (value.field? name).bind fun inner => follow inner names := by
  simp [follow, List.foldlM_cons]

theorem leadsTo_cons_iff : LeadsTo value (name :: names) leaf ↔
    ∃ inner, value.field? name = some inner ∧ LeadsTo inner names leaf := by
  unfold LeadsTo
  rw [follow_cons, Option.bind_eq_some_iff]
  constructor
  · rintro ⟨⟨inner, hinner, hfollow⟩, hleaf⟩
    exact ⟨inner, hinner, hfollow, hleaf⟩
  · rintro ⟨inner, hinner, hfollow, hleaf⟩
    exact ⟨⟨inner, hinner, hfollow⟩, hleaf⟩

theorem LeadsTo.ne_nil (h : LeadsTo (.obj members) names leaf) : names ≠ [] := by
  rintro rfl
  cases h.1
  exact h.2 members rfl

/-- Nothing but the value itself is reached inside a value that is not an object. -/
theorem leadsTo_of_leaf (hvalue : ∀ members, value ≠ .obj members) :
    LeadsTo value names leaf ↔ names = [] ∧ leaf = value := by
  cases names with
  | nil =>
    constructor
    · rintro ⟨hfollow, -⟩
      cases hfollow
      exact ⟨rfl, rfl⟩
    · rintro ⟨-, rfl⟩
      exact ⟨rfl, hvalue⟩
  | cons name names =>
    have hnone : value.field? name = none := by
      cases value with
      | obj members => exact absurd rfl (hvalue members)
      | _ => rfl
    rw [leadsTo_cons_iff, hnone]
    simp

end Message

/-! ## The variables of a message -/

namespace Template

open Message

/-- The name under which a member of an object is known that is itself known under a path. -/
def nameIn (path name : String) : String := if path.isEmpty then name else path ++ "." ++ name

theorem bindingsIn_eq_flatMap (path : String) (members : Json.Members) :
    bindingsIn path members =
      members.flatMap fun member => bindingsAt (nameIn path member.1) member.2 := by
  induction members with
  | nil => rfl
  | cons member rest ih =>
    obtain ⟨name, value⟩ := member
    rw [bindingsIn, ih]
    rfl

theorem bindingsAt_of_leaf {value : Json} (path : String)
    (hvalue : ∀ members, value ≠ .obj members) :
    bindingsAt path value = [(path, value.text)] := by
  cases value with
  | obj members => exact absurd rfl (hvalue members)
  | _ => rfl

/-- The variables of an object are spelled as its ways are, if those of its members are. -/
theorem mem_bindingsIn_iff {path key text : String} {members : Json.Members}
    (hordered : Json.IsOrdered (.obj members)) (spell : List String → String)
    (hmember : ∀ name inner, (name, inner) ∈ members →
      ((key, text) ∈ bindingsAt (nameIn path name) inner ↔ ∃ names leaf, LeadsTo inner names leaf ∧
        key = spell (name :: names) ∧ text = leaf.text)) :
    (key, text) ∈ bindingsIn path members ↔ ∃ names leaf, LeadsTo (.obj members) names leaf ∧
      key = spell names ∧ text = leaf.text := by
  rw [bindingsIn_eq_flatMap, List.mem_flatMap]
  constructor
  · rintro ⟨⟨name, inner⟩, hmem, hbound⟩
    obtain ⟨names, leaf, hleads, hkey, htext⟩ := (hmember name inner hmem).mp hbound
    have hinner := hordered.get?_eq_some_iff.mpr hmem
    exact ⟨name :: names, leaf, leadsTo_cons_iff.mpr ⟨inner, hinner, hleads⟩, hkey, htext⟩
  · rintro ⟨names, leaf, hleads, hkey, htext⟩
    cases names with
    | nil => exact absurd rfl hleads.ne_nil
    | cons name names =>
      obtain ⟨inner, hinner, hrest⟩ := leadsTo_cons_iff.mp hleads
      have hmem := hordered.get?_eq_some_iff.mp hinner
      exact ⟨(name, inner), hmem, (hmember name inner hmem).mpr ⟨names, leaf, hrest, hkey, htext⟩⟩

/-- Below a path the variables are spelled by the path and the ways that lead on from there. -/
theorem mem_bindingsAt_iff {path : String} (hpath : path ≠ "") (value : Json)
    (hordered : value.IsOrdered) (key text : String) :
    (key, text) ∈ bindingsAt path value ↔ ∃ names leaf, LeadsTo value names leaf ∧
      key = Text.join "." (path :: names) ∧ text = leaf.text := by
  by_cases hvalue : ∃ members, value = .obj members
  · obtain ⟨members, rfl⟩ := hvalue
    have hmember (name : String) (inner : Json) (hmem : (name, inner) ∈ members) :
        (key, text) ∈ bindingsAt (nameIn path name) inner ↔
          ∃ names leaf, LeadsTo inner names leaf ∧
            key = Text.join "." (path :: name :: names) ∧ text = leaf.text := by
      have hsmaller := Json.sizeOf_snd_lt hmem
      have hname : nameIn path name = path ++ "." ++ name := by simp [nameIn, hpath]
      have hne : path ++ "." ++ name ≠ "" := by simp [hpath]
      rw [hname, mem_bindingsAt_iff hne inner (hordered.member hmem) key text]
      simp [Text.join, String.append_assoc]
    exact mem_bindingsIn_iff hordered (fun names => Text.join "." (path :: names)) hmember
  · push Not at hvalue
    simp [bindingsAt_of_leaf path hvalue, leadsTo_of_leaf hvalue, Text.join]
termination_by sizeOf value

/-- The name of the variable that a way leads to. Empty names at its beginning are not seen. -/
def called (names : List String) : String := Text.join "." (names.dropWhile (·.isEmpty))

theorem called_cons {name : String} (hname : name ≠ "") (names : List String) :
    called (name :: names) = Text.join "." (name :: names) := by
  rw [called, List.dropWhile_cons_of_neg (by simpa using hname)]

theorem called_cons_empty (names : List String) : called ("" :: names) = called names := rfl

/-- Where no name was seen yet, the variables are called as the ways that lead to them are. -/
theorem mem_bindingsAt_empty_iff (value : Json) (hordered : value.IsOrdered) (key text : String) :
    (key, text) ∈ bindingsAt "" value ↔ ∃ names leaf, LeadsTo value names leaf ∧
      key = called names ∧ text = leaf.text := by
  by_cases hvalue : ∃ members, value = .obj members
  · obtain ⟨members, rfl⟩ := hvalue
    have hmember (name : String) (inner : Json) (hmem : (name, inner) ∈ members) :
        (key, text) ∈ bindingsAt (nameIn "" name) inner ↔
          ∃ names leaf, LeadsTo inner names leaf ∧
            key = called (name :: names) ∧ text = leaf.text := by
      have hname : nameIn "" name = name := by simp [nameIn]
      rw [hname]
      by_cases hne : name = ""
      · have hsmaller := Json.sizeOf_snd_lt hmem
        rw [hne, mem_bindingsAt_empty_iff inner (hordered.member hmem) key text]
        simp only [called_cons_empty]
      · rw [mem_bindingsAt_iff hne inner (hordered.member hmem) key text]
        simp only [called_cons hne]
    exact mem_bindingsIn_iff hordered called hmember
  · push Not at hvalue
    simp [bindingsAt_of_leaf "" hvalue, leadsTo_of_leaf hvalue, called, Text.join]
termination_by sizeOf value

/-- The variables of an object are called as the ways that lead to its leaves are. -/
theorem mem_bindings_iff {members : Json.Members} (hordered : Json.IsOrdered (.obj members))
    (key text : String) :
    (key, text) ∈ bindings ⟨.obj members⟩ ↔ ∃ names leaf, LeadsTo (.obj members) names leaf ∧
      key = called names ∧ text = leaf.text :=
  mem_bindingsAt_empty_iff (.obj members) hordered key text

/-! ## Rendering -/

theorem lookup_eq_some_of_forall {entries : List (String × String)} {key text : String}
    (hmem : (key, text) ∈ entries) (hunique : ∀ other, (key, other) ∈ entries → other = text) :
    entries.lookup key = some text := by
  cases hfound : entries.lookup key with
  | none =>
    have habsent := List.lookup_eq_none_iff.mp hfound (key, text) hmem
    simp at habsent
  | some other =>
    obtain ⟨before, after, rfl, -⟩ := List.lookup_eq_some_iff.mp hfound
    rw [hunique other (List.mem_append_right before List.mem_cons_self)]

/-- The template that is one placeholder with this name. -/
def placeholder (name : String) : String :=
  String.ofList (Segment.source (.placeholder name.toList))

/-- A template that is one placeholder gives the text of its variable, or stays as it is. -/
theorem render_placeholder {path : String} (hclosed : '}' ∉ path.toList) (message : Message) :
    render (placeholder path) message =
      (textOf? (bindings message) path).getD (placeholder path) := by
  have hsource : (placeholder path).toList = '$' :: '{' :: (path.toList ++ '}' :: []) :=
    String.toList_ofList
  have hsegments : segments (placeholder path).toList = [.placeholder path.toList] := by
    rw [hsource, segments_closed hclosed, segments]
  rw [← String.toList_inj, toList_render, hsegments, List.flatMap_singleton, Segment.fill, filled,
    String.ofList_toList]
  cases textOf? (bindings message) path with
  | none => exact hsource.symm
  | some text => rfl

/-- No way through the object but the one along the parts of the path is called by the path. -/
def IsOnlyWay (members : Json.Members) (path : String) : Prop :=
  ∀ names leaf, LeadsTo (.obj members) names leaf → called names = path →
    names = Text.split '.' path

section Agreement

variable {members : Json.Members} {path : String} (hordered : Json.IsOrdered (.obj members))
  (honly : IsOnlyWay members path)

include hordered honly

theorem textOf?_of_leadsTo {leaf : Json} (hpath : path ≠ "")
    (hstart : path.toList.head? ≠ some '.')
    (hleads : LeadsTo (.obj members) (Text.split '.' path) leaf) :
    textOf? (bindings ⟨.obj members⟩) path = some leaf.text := by
  have hcalled : path = called (Text.split '.' path) := by
    have hhead := Text.head?_split_ne hpath hstart
    have hjoin := Text.join_split path
    cases hnames : Text.split '.' path with
    | nil => exact absurd hnames hleads.ne_nil
    | cons name names =>
      rw [hnames] at hhead hjoin
      rw [called_cons fun hempty => hhead (by rw [hempty]; rfl), hjoin]
  apply lookup_eq_some_of_forall
  · rw [List.mem_reverse, mem_bindings_iff hordered]
    exact ⟨Text.split '.' path, leaf, hleads, hcalled, rfl⟩
  · intro text hmem
    rw [List.mem_reverse, mem_bindings_iff hordered] at hmem
    obtain ⟨names, other, hother, hspelled, rfl⟩ := hmem
    have hnames := honly names other hother hspelled.symm
    subst hnames
    have hsame := hother.1.symm.trans hleads.1
    cases hsame
    rfl

theorem textOf?_of_unresolved
    (hunresolved : follow (.obj members) (Text.split '.' path) = none) :
    textOf? (bindings ⟨.obj members⟩) path = none := by
  rw [textOf?, List.lookup_eq_none_iff]
  rintro ⟨key, text⟩ hmem
  rw [List.mem_reverse, mem_bindings_iff hordered] at hmem
  obtain ⟨names, leaf, hleads, rfl, rfl⟩ := hmem
  refine bne_iff_ne.mpr fun hspelled => ?_
  have hnames := honly names leaf hleads hspelled.symm
  subst hnames
  have hsome := hleads.1
  rw [hunresolved] at hsome
  cases hsome

end Agreement

/-- A way is called by its names, unless it starts below an object with the empty name. -/
theorem called_eq_join {members : Json.Members} {names : List String} {leaf : Json}
    (hempty : ∀ inner, Json.get? "" members ≠ some (.obj inner))
    (hleads : LeadsTo (.obj members) names leaf) : called names = Text.join "." names := by
  cases names with
  | nil => rfl
  | cons name rest =>
    by_cases hname : name = ""
    · obtain ⟨inner, hinner, hrest⟩ := leadsTo_cons_iff.mp hleads
      rw [hname] at hinner
      have hleaf : ∀ others, inner ≠ .obj others := by
        rintro others rfl
        exact hempty others hinner
      rw [hname, ((leadsTo_of_leaf hleaf).mp hrest).1]
      rfl
    · exact called_cons hname rest

/-- Where no other way through an object message is called by a path, the placeholder of the path
and the field of the path agree: a value that the field resolves to is shown, unless it is an object
itself or the path starts with a point, and a placeholder whose field resolves to nothing stays.
That is so of all paths if no name on the way to a value has a point in it and no object stands
under the empty name in the message. -/
theorem render_shows_resolved {members : Json.Members}
    (hordered : Json.IsOrdered (.obj members)) :
    (∀ path, path ≠ "" → '}' ∉ path.toList → IsOnlyWay members path →
      (path.toList.head? ≠ some '.' →
        ∀ value, resolve ⟨.obj members⟩ (some path) = some value → (∀ inner, value ≠ .obj inner) →
          render (placeholder path) ⟨.obj members⟩ = value.text) ∧
      (resolve ⟨.obj members⟩ (some path) = none →
        render (placeholder path) ⟨.obj members⟩ = placeholder path)) ∧
    ((∀ names leaf, LeadsTo (.obj members) names leaf → ∀ name ∈ names, '.' ∉ name.toList) →
      (∀ inner, Json.get? "" members ≠ some (.obj inner)) → ∀ path, IsOnlyWay members path) := by
  refine ⟨?_, ?_⟩
  · intro path hpath hclosed honly
    have hresolve : resolve ⟨.obj members⟩ (some path) =
        follow (.obj members) (Text.split '.' path) := by
      simp [resolve, hpath]
    rw [hresolve, render_placeholder hclosed]
    refine ⟨?_, ?_⟩
    · intro hstart value hvalue hleaf
      rw [textOf?_of_leadsTo hordered honly hpath hstart ⟨hvalue, hleaf⟩]
      rfl
    · intro hunresolved
      rw [textOf?_of_unresolved hordered honly hunresolved]
      rfl
  · rintro hpoints hempty _ names leaf hleads rfl
    rw [called_eq_join hempty hleads]
    exact (Text.split_join hleads.ne_nil (hpoints names leaf hleads)).symm

/-- A value inside an object, beside a name with a point in it. -/
def nestedLoad : Json.Members := [("load", .obj [("cpu", .num (.int 91))]), ("x.y", .num (.int 1))]

theorem names_of_leadsTo_nestedLoad {names : List String} {leaf : Json}
    (h : LeadsTo (.obj nestedLoad) names leaf) : names = ["load", "cpu"] ∨ names = ["x.y"] := by
  have hnumber (n : Int) (later : List String) (hrest : LeadsTo (.num (.int n)) later leaf) :
      later = [] := by
    have hleaf (members : Json.Members) : Json.num (.int n) ≠ .obj members := nofun
    exact ((leadsTo_of_leaf hleaf).mp hrest).1
  cases names with
  | nil => exact absurd rfl h.ne_nil
  | cons name later =>
    obtain ⟨inner, hinner, hrest⟩ := leadsTo_cons_iff.mp h
    rcases List.lookup_eq_some_iff.mp hinner with ⟨before, after, hmembers, -⟩
    have hmem : (name, inner) ∈ nestedLoad := by simp [hmembers]
    simp only [nestedLoad, List.mem_cons, List.not_mem_nil, or_false, Prod.mk.injEq] at hmem
    rcases hmem with ⟨rfl, rfl⟩ | ⟨rfl, rfl⟩
    · cases later with
      | nil => exact absurd rfl hrest.ne_nil
      | cons next last =>
        obtain ⟨inner, hinner, hlast⟩ := leadsTo_cons_iff.mp hrest
        have hnext : next = "cpu" ∧ inner = .num (.int 91) := by
          rcases List.lookup_eq_some_iff.mp hinner with ⟨before, after, hmembers, -⟩
          have hmem : (next, inner) ∈ [("cpu", Json.num (.int 91))] := by simp [hmembers]
          simpa using hmem
        obtain ⟨rfl, rfl⟩ := hnext
        exact .inl (by rw [hnumber 91 last hlast])
    · exact .inr (by rw [hnumber 1 later hrest])

theorem render_shows_resolved_nestedLoad :
    Json.IsOrdered (.obj nestedLoad) ∧ IsOnlyWay nestedLoad "load.cpu" ∧
      render (placeholder "load.cpu") ⟨.obj nestedLoad⟩ = "91" ∧
      render (placeholder "load.disk") ⟨.obj nestedLoad⟩ = placeholder "load.disk" := by
  have hload : Json.IsOrdered (.obj [("cpu", .num (.int 91))]) :=
    .obj (List.pairwise_singleton _ _) (List.forall_mem_singleton.mpr (.num _))
  have hordered : Json.IsOrdered (.obj nestedLoad) :=
    .obj (by decide) (List.forall_mem_cons.mpr ⟨hload, List.forall_mem_singleton.mpr (.num _)⟩)
  have honly (path : String) (hpath : path ≠ "x.y")
      (hcpu : path = "load.cpu" → Text.split '.' path = ["load", "cpu"]) :
      IsOnlyWay nestedLoad path := by
    rintro names leaf hleads rfl
    rcases names_of_leadsTo_nestedLoad hleads with rfl | rfl
    · exact (hcpu (by decide +kernel)).symm
    · exact absurd (by decide +kernel) hpath
  have hcpu := honly "load.cpu" (by decide) (fun _ => by decide +kernel)
  have hdisk := honly "load.disk" (by decide) (fun h => absurd h (by decide))
  have hagree := (render_shows_resolved hordered).1
  have hshown := (hagree "load.cpu" (by decide) (by decide) hcpu).1 (by decide) (.num (.int 91)) rfl
    nofun
  have hstays := (hagree "load.disk" (by decide) (by decide) hdisk).2 (by decide +kernel)
  refine ⟨hordered, hcpu, ?_, hstays⟩
  rw [hshown]
  decide +kernel

/-- A member `a.b` is shown in the place of its placeholder, though no field leads to it. -/
theorem dottedName_shown : ¬∀ (members : Json.Members) (path : String),
    Json.IsOrdered (.obj members) → path ≠ "" → '}' ∉ path.toList →
      (∀ value, resolve ⟨.obj members⟩ (some path) = some value → (∀ inner, value ≠ .obj inner) →
        render (placeholder path) ⟨.obj members⟩ = value.text) ∧
      (resolve ⟨.obj members⟩ (some path) = none →
        render (placeholder path) ⟨.obj members⟩ = placeholder path) := by
  intro hagree
  have hordered : Json.IsOrdered (.obj [("a.b", .num (.int 1))]) :=
    .obj (List.pairwise_singleton _ _) (List.forall_mem_singleton.mpr (.num _))
  have hstays := (hagree _ "a.b" hordered (by decide) (by decide)).2 (by decide +kernel)
  rw [render_placeholder (by decide)] at hstays
  revert hstays
  decide +kernel

/-- Below an object with the empty name, a placeholder is filled though no field leads there, and
the one of the field that does stays. -/
theorem emptyName_shown :
    let message : Message := ⟨.obj [("", .obj [("a", .num (.int 1))])]⟩
    (resolve message (some "a") = none ∧ render (placeholder "a") message = "1") ∧
      resolve message (some ".a") = some (.num (.int 1)) ∧
        render (placeholder ".a") message = placeholder ".a" := by
  intro message
  refine ⟨⟨by decide +kernel, ?_⟩, rfl, ?_⟩
  · rw [render_placeholder (by decide)]
    decide +kernel
  · rw [render_placeholder (by decide)]
    decide +kernel

end Template

end TopicAlerts
