import TopicAlerts.Proofs.CompactDocuments
import TopicAlerts.Rule.Document

/-!
# Rules read from their texts

The JSON of a specification, and that of a stored rule, are read as the specification
(`RuleSpec.read_spec`, `RuleSpec.read_rule`), as long as the documents inside of them are not
changed by a JSON text. The members that a stored rule has besides are passed over.
-/

namespace TopicAlerts

open Json

/-! ## Members -/

namespace Json

theorem Fits.members {depth : Nat} {members : Members} (hfits : Fits depth (.obj members)) :
    ∃ inner, depth = inner + 1 ∧ ∀ member ∈ members, Fits inner member.2 := by
  cases hfits with
  | @obj inner _ keys all => exact ⟨inner, rfl, all⟩

section Record

variable {δ α : Type} {record : Record δ α} {depth : Nat} {key : String} {value : Document}
  {rest : List (Option String × Document)} {draft next : δ}

/-- A known member is read into the draft. -/
theorem Record.readMembers_known {field : Record.Field δ}
    (hfield : record.fields.find? (·.name == key) = some field)
    (hunset : field.isSet draft = false) (hread : field.read draft depth value = .ok next) :
    record.readMembers depth ((some key, value) :: rest) draft =
      record.readMembers depth rest next := by
  rw [readMembers, hfield]
  dsimp only
  rw [if_neg (by simp [hunset]), hread]
  rfl

/-- Another member is passed over. -/
theorem Record.readMembers_other (hfield : record.fields.find? (·.name == key) = none)
    (hwhole : value.isWhole = true) :
    record.readMembers depth ((some key, value) :: rest) draft =
      record.readMembers depth rest draft := by
  rw [readMembers, hfield]
  dsimp only
  rw [hwhole]
  rfl

/-- Whether a record has a member of this name. -/
def Record.knows (record : Record δ α) (member : Option String × Document) : Bool :=
  match member.1 with
  | some key => (record.fields.find? (·.name == key)).isSome
  | none => true

/-- What is complete and not known may be left out. -/
theorem Record.readMembers_filter {members : List (Option String × Document)}
    (hwhole : ∀ member ∈ members, member.2.isWhole = true) :
    record.readMembers depth (members.filter record.knows) draft =
      record.readMembers depth members draft := by
  induction members generalizing draft with
  | nil => rfl
  | cons first rest ih =>
    obtain ⟨hfirst, hrest⟩ := List.forall_mem_cons.mp hwhole
    obtain ⟨_ | key, value⟩ := first
    · rfl
    · cases hfield : record.fields.find? (·.name == key) with
      | none =>
        have hunknown : record.knows (some key, value) = false := by simp [knows, hfield]
        rw [List.filter_cons_of_neg (by simp [hunknown]), ih hrest]
        exact (Record.readMembers_other hfield hfirst).symm
      | some field =>
        have hknown : record.knows (some key, value) = true := by simp [knows, hfield]
        rw [List.filter_cons_of_pos hknown, readMembers, readMembers, hfield]
        dsimp only
        refine ite_congr rfl (fun _ => rfl) fun _ => ?_
        exact congrArg (Result.under (.member key) (field.read draft depth value) >>= ·)
          (funext fun next => ih hrest)

theorem Record.read_object {members : List (Option String × Document)} {a : α}
    (hmembers : record.readMembers depth members record.empty = .ok draft)
    (hfinish : record.finish draft = .ok a) :
    record.read (depth + 1) (.object members true) = .ok a := by
  rw [Record.read]
  simp only [Nat.add_sub_cancel, hmembers]
  dsimp only [bind, Except.bind]
  rw [hfinish]
  rfl

end Record

/-- A list is read item by item. -/
theorem readList_documents {α : Type} {read : Reader α} {write : α → Json} {depth : Nat}
    {xs : List α} (hread : ∀ x ∈ xs, read depth (document (write x)) = .ok x) :
    readList read (depth + 1) (document (.arr (xs.map write))) = .ok xs := by
  have hitems : ∀ index, readList.go read depth index (documents (xs.map write)) = .ok xs := by
    induction xs with
    | nil => intro index; rfl
    | cons x rest ih =>
      intro index
      obtain ⟨hx, hrest⟩ := List.forall_mem_cons.mp hread
      rw [List.map_cons, documents, readList.go, hx, ih hrest]
      rfl
  rw [document, readList, Nat.add_sub_cancel, hitems]
  rfl

/-- An optional value is read as absent where it is `null`. -/
theorem readOption_document {α : Type} {read : Reader α} {write : α → Json} {depth : Nat}
    {a : Option α} (hread : ∀ x ∈ a, read depth (document (write x)) = .ok x)
    (hpresent : ∀ x ∈ a, document (write x) ≠ .null) :
    readOption read depth (document (ofOption write a)) = .ok a := by
  cases a with
  | none => rfl
  | some x =>
    rw [ofOption, readOption, hread x rfl]
    · rfl
    · exact hpresent x rfl

/-- A natural number of 64 bits stands in its document. -/
theorem document_nat {n : Nat} (hn : n < 2 ^ 64) :
    document (nat n) = .number (some (.int n)) := by
  have hword : (-2 ^ 63 : Int) ≤ n ∧ (n : Int) < 2 ^ 64 := by omega
  rw [nat, document, Number.reread_int hword]

theorem readUInt64_document (n : UInt64) (depth : Nat) :
    readUInt64 depth (document (nat n.toNat)) = .ok n := by
  have hn : n.toNat < 2 ^ 64 := n.toNat_lt
  have hword : (0 : Int) ≤ n.toNat ∧ (n.toNat : Int) ≤ 18446744073709551615 := by omega
  rw [document_nat hn, readUInt64, readInteger, if_pos hword]
  simp [Except.map]

theorem readUInt32_document (n : UInt32) (depth : Nat) :
    readUInt32 depth (document (nat n.toNat)) = .ok n := by
  have hn : n.toNat < 2 ^ 32 := n.toNat_lt
  have hword : (0 : Int) ≤ n.toNat ∧ (n.toNat : Int) ≤ 4294967295 := by omega
  rw [document_nat (by omega), readUInt32, readInteger, if_pos hword]
  simp [Except.map]

mutual

/-- The document of a value is complete. -/
theorem isWhole_document (value : Json) : (document value).isWhole = true := by
  match value with
  | .null | .bool _ | .num _ | .str _ => rfl
  | .arr items => simp [document, Document.isWhole, areWhole_documents items]
  | .obj members => simp [document, Document.isWhole, haveWhole_memberDocuments members]

theorem areWhole_documents (items : List Json) : Document.areWhole (documents items) = true := by
  match items with
  | [] => rfl
  | item :: rest =>
    simp [documents, Document.areWhole, isWhole_document item, areWhole_documents rest]

theorem haveWhole_memberDocuments (members : Members) :
    Document.haveWhole (memberDocuments members) = true := by
  match members with
  | [] => rfl
  | (key, value) :: rest =>
    simp [memberDocuments, Document.haveWhole, isWhole_document value,
      haveWhole_memberDocuments rest]

end

theorem isWhole_of_mem_memberDocuments {members : Members} {member : Option String × Document}
    (hmember : member ∈ memberDocuments members) : member.2.isWhole = true := by
  induction members with
  | nil => cases hmember
  | cons first rest ih =>
    rcases List.mem_cons.mp hmember with rfl | hlater
    · exact isWhole_document first.2
    · exact ih hlater

end Json

/-! ## Actions -/

variable {depth : Nat}

theorem readObject_document {members : Members} (hfits : Fits depth (.obj members)) :
    readObject depth (document (.obj members)) = .ok members := by
  cases hfits with
  | @obj inner _ keys all =>
    have hvalues : ∀ member ∈ members, readValue inner (document member.2) = .ok member.2 :=
      fun member hmember => (readValue_document_iff member.2 inner).mpr (all member hmember)
    rw [document, readObject, Nat.add_sub_cancel, (readMembers_self_iff keys).mpr hvalues]
    rfl

theorem Action.read_document {action : Action} (hfits : Fits depth action.toJson) :
    Action.read depth (document action.toJson) = .ok action := by
  obtain ⟨inner, rfl, hvalues⟩ := hfits.members
  have hread := readObject_document (hvalues ("params", _) List.mem_cons_self)
  have hkind : readText inner (document (.str action.kind)) = .ok action.kind := rfl
  have hmembers : Action.record.readMembers inner
      (memberDocuments [("params", .obj action.params), ("type", .str action.kind)]) {} =
        .ok ⟨some action.kind, some action.params⟩ := by
    refine (Record.readMembers_known rfl rfl (by exact bind_eq_ok.mpr ⟨_, hread, rfl⟩)).trans ?_
    refine (Record.readMembers_known rfl rfl (by exact bind_eq_ok.mpr ⟨_, hkind, rfl⟩)).trans ?_
    rfl
  exact Record.read_object hmembers rfl

/-! ## Rules -/

namespace RuleSpec

variable {spec : RuleSpec} {rule : Rule}

/-- The members of a specification, one after the other. -/
theorem readMembers_members (hactions : Fits (depth + 1) (.arr (spec.actions.map Action.toJson)))
    (hsource : Fits (depth + 1) spec.source) :
    RuleSpec.record.readMembers (depth + 1) (memberDocuments spec.members) {} =
      .ok ⟨some spec.name, some spec.topic, some spec.source, some spec.actions,
        some spec.enabled, some spec.description, some spec.periodMinutes, some spec.permits⟩ := by
  have hactions : readList Action.read (depth + 1)
      (document (.arr (spec.actions.map Action.toJson))) = .ok spec.actions := by
    cases hactions with
    | arr all =>
      refine readList_documents fun action haction => Action.read_document ?_
      exact all _ (List.mem_map_of_mem haction)
  have hdescription : readOption readText (depth + 1)
      (document (ofOption .str spec.description)) = .ok spec.description :=
    readOption_document (fun _ _ => rfl) (fun _ _ => nofun)
  have henabled : readBool (depth + 1) (document (.bool spec.enabled)) = .ok spec.enabled := rfl
  have hname : readText (depth + 1) (document (.str spec.name)) = .ok spec.name := rfl
  have hsource : readValue (depth + 1) (document spec.source) = .ok spec.source :=
    (readValue_document_iff _ _).mpr hsource
  have hperiod : readOption readUInt64 (depth + 1) (document
      (ofOption (fun minutes : UInt64 => nat minutes.toNat) spec.periodMinutes)) =
        .ok spec.periodMinutes :=
    readOption_document (fun minutes _ => readUInt64_document minutes _) (fun _ _ => nofun)
  have hpermits : readOption readUInt32 (depth + 1) (document
      (ofOption (fun permits : UInt32 => nat permits.toNat) spec.permits)) = .ok spec.permits :=
    readOption_document (fun permits _ => readUInt32_document permits _) (fun _ _ => nofun)
  have htopic : readText (depth + 1) (document (.str spec.topic)) = .ok spec.topic := rfl
  refine (Record.readMembers_known rfl rfl (by exact bind_eq_ok.mpr ⟨_, hactions, rfl⟩)).trans ?_
  refine (Record.readMembers_known rfl rfl (by exact bind_eq_ok.mpr ⟨_, hdescription, rfl⟩)).trans ?_
  refine (Record.readMembers_known rfl rfl (by exact bind_eq_ok.mpr ⟨_, henabled, rfl⟩)).trans ?_
  refine (Record.readMembers_known rfl rfl (by exact bind_eq_ok.mpr ⟨_, hname, rfl⟩)).trans ?_
  refine (Record.readMembers_known rfl rfl (by exact bind_eq_ok.mpr ⟨_, hsource, rfl⟩)).trans ?_
  refine (Record.readMembers_known rfl rfl (by exact bind_eq_ok.mpr ⟨_, hperiod, rfl⟩)).trans ?_
  refine (Record.readMembers_known rfl rfl (by exact bind_eq_ok.mpr ⟨_, hpermits, rfl⟩)).trans ?_
  refine (Record.readMembers_known rfl rfl (by exact bind_eq_ok.mpr ⟨_, htopic, rfl⟩)).trans ?_
  rfl

/-- The JSON of a specification is read as the specification. -/
theorem read_spec (hactions : Fits (depth + 1) (.arr (spec.actions.map Action.toJson)))
    (hsource : Fits (depth + 1) spec.source) :
    RuleSpec.read (depth + 2) (document spec.toJson) = .ok spec :=
  Record.read_object (readMembers_members hactions hsource) rfl

/-- The JSON of a stored rule has the members of its specification and three more. -/
theorem toJson_rule (rule : Rule) : rule.toJson = .obj [
    ("actions", .arr (rule.actions.map Action.toJson)),
    ("created_at_ms", int rule.createdAt.toInt),
    ("description", ofOption .str rule.description),
    ("enabled", .bool rule.enabled),
    ("id", .str rule.id),
    ("name", .str rule.name),
    ("rule", rule.source),
    ("throttle_period_minutes", ofOption (fun minutes => nat minutes.toNat) rule.periodMinutes),
    ("throttle_permits", ofOption (fun permits => nat permits.toNat) rule.permits),
    ("topic", .str rule.topic),
    ("updated_at_ms", int rule.updatedAt.toInt)] := rfl

/-- The JSON of a stored rule is read as its specification. -/
theorem read_rule (hactions : Fits (depth + 1) (.arr (rule.actions.map Action.toJson)))
    (hsource : Fits (depth + 1) rule.source) :
    RuleSpec.read (depth + 2) (document rule.toJson) = .ok rule.toRuleSpec := by
  obtain ⟨members, hjson, hknown⟩ : ∃ members, rule.toJson = .obj members ∧
      (memberDocuments members).filter RuleSpec.record.knows = memberDocuments rule.members :=
    ⟨_, toJson_rule rule, rfl⟩
  have hmembers := readMembers_members hactions hsource
  rw [← hknown, Record.readMembers_filter fun _ => isWhole_of_mem_memberDocuments] at hmembers
  rw [hjson, document]
  exact Record.read_object hmembers rfl

/-- What has to fit for the JSON of a stored rule to be read back. -/
theorem fits_of_toJson (hfits : Fits (depth + 2) rule.toJson) :
    Fits (depth + 1) (.arr (rule.actions.map Action.toJson)) ∧ Fits (depth + 1) rule.source := by
  rw [toJson_rule] at hfits
  obtain ⟨inner, hdepth, hvalues⟩ := hfits.members
  obtain rfl : inner = depth + 1 := by omega
  constructor
  · exact hvalues ("actions", .arr (rule.actions.map Action.toJson)) (by simp)
  · exact hvalues ("rule", rule.source) (by simp)

end RuleSpec

end TopicAlerts
