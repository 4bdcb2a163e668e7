import Folio.Page.Config
import Folio.Proofs.Json.Fields
import Folio.Toc.Json
import Folio.Token.Json

/-!
# What is written is read back

A document, a list of table entries and settings are read back from their JSON forms as they were,
whatever they hold. A token is written without the fields that are empty, and these are read as empty
when they are missing. Its nesting is always written, so it does not matter that a missing one is
zero whatever the kind.

Settings are also checked when they are read, so those with a depth that no heading can have are
refused, and all others are read back.
-/

namespace Folio

open Json

/-! ## Kinds -/

theorem Kind.isSound_toJson (k : Kind) : k.toJson.isSound = true := by
  cases k with
  | headingOpen level | headingClose level =>
    simp [toJson, level?, isSound, membersSound, inDoubleRange_uint8]
  | _ => rfl

theorem Kind.ofJson?_toJson (k : Kind) : Kind.ofJson? k.toJson = some k := by
  rw [Kind.ofJson?, if_pos k.isSound_toJson]
  cases k with
  | headingOpen level =>
    have hlevel := uint8?_toNat level
    simp [Kind.toJson, Kind.level?, Kind.name, ofSound?, required, unique?, string?, ofName?, hlevel]
  | headingClose level =>
    have hlevel := uint8?_toNat level
    simp [Kind.toJson, Kind.level?, Kind.name, ofSound?, required, unique?, string?, ofName?, hlevel]
  | _ => rfl

/-! ## Attributes -/

theorem attrsOfJson?_map (attrs : List (String × String)) :
    attrsOfJson? (.array (attrs.map attrToJson)) = some attrs := by
  have hread : ∀ attr, attrOfJson? (attrToJson attr) = some attr := fun _ => rfl
  exact mapM_map_of_read hread attrs

/-! ## Tokens -/

namespace Token

def members (t : Token) : List (String × Json) :=
  ("kind", t.kind.toJson) ::
    ((if t.tag.isEmpty then [] else [("tag", .string t.tag)]) ++
    ("content", .string t.content) ::
    ((if t.attrs.isEmpty then [] else [("attrs", .array (t.attrs.map attrToJson))]) ++
    (if t.children.isEmpty then [] else [("children", .array (listToJson t.children))]) ++
    [("nesting", .integer t.nesting.toInt)]))

theorem toJson_eq (t : Token) : t.toJson = .object t.members := by
  cases t
  rw [toJson]
  rfl

theorem mem_fieldNames (t : Token) : ∀ m ∈ t.members, m.1 ∈ fieldNames := by
  intro m hm
  simp only [members, List.mem_cons, List.mem_append, List.mem_ite_nil_left] at hm
  simp only [fieldNames]
  grind

theorem fields?_toJson (t : Token) : fields? fieldNames t.toJson = some t.members := by
  rw [toJson_eq, fields?_object t.mem_fieldNames]

theorem height_lt_of_mem_members {t : Token} {m : String × Json} (h : m ∈ t.members) :
    m.2.height < t.toJson.height := by
  rw [toJson_eq, height]
  exact Nat.lt_succ_of_le (height_le_membersHeight h)

theorem ofFields?_members {t : Token} {depth : Nat} {readChildren : Json → Option (List Token)}
    (hdepth : t.toJson.height ≤ depth + 1)
    (hchildren : t.children ≠ [] →
      readChildren (.array (listToJson t.children)) = some t.children) :
    ofFields? depth readChildren t.members = some t := by
  have hwithin : ∀ m ∈ t.members, m.2.height ≤ depth := fun m hm =>
    Nat.le_of_lt_succ (Nat.lt_of_lt_of_le (height_lt_of_mem_members hm) hdepth)
  have hkind : required (within depth Kind.ofJson?) ["kind"] t.members = some t.kind := by
    have hfound : unique? ["kind"] t.members = some (some t.kind.toJson) := by
      simp [unique?, members, apply_ite (List.filter _)]
    have hheight := hwithin ("kind", t.kind.toJson) (by simp [members])
    rw [required_of_unique hfound, within_of_le hheight, Kind.ofJson?_toJson]
  have htag : optional string? "" ["tag"] t.members = some t.tag := by
    have hfound : unique? ["tag"] t.members =
        some (if t.tag.isEmpty then none else some (.string t.tag)) := by
      cases h : t.tag.isEmpty <;> simp [unique?, members, h, apply_ite (List.filter _)]
    exact optional_of_left_out hfound (fun h => by simpa using h.symm) fun _ => rfl
  have hcontent : optional string? "" ["content"] t.members = some t.content := by
    have hfound : unique? ["content"] t.members = some (some (.string t.content)) := by
      simp [unique?, members, apply_ite (List.filter _)]
    rw [optional_of_unique hfound, string?]
  have hattrs : optional (within depth attrsOfJson?) [] ["attrs"] t.members = some t.attrs := by
    have hfound : unique? ["attrs"] t.members =
        some (if t.attrs.isEmpty then none else some (.array (t.attrs.map attrToJson))) := by
      cases h : t.attrs.isEmpty <;> simp [unique?, members, h, apply_ite (List.filter _)]
    refine optional_of_left_out hfound (fun h => (List.isEmpty_iff.mp h).symm) fun h => ?_
    have hheight := hwithin ("attrs", .array (t.attrs.map attrToJson)) (by simp [members, h])
    rw [within_of_le hheight, attrsOfJson?_map]
  have hbelow : optional readChildren [] ["children"] t.members = some t.children := by
    have hfound : unique? ["children"] t.members =
        some (if t.children.isEmpty then none else some (.array (listToJson t.children))) := by
      cases h : t.children.isEmpty <;> simp [unique?, members, h, apply_ite (List.filter _)]
    refine optional_of_left_out hfound (fun h => (List.isEmpty_iff.mp h).symm) fun h => ?_
    exact hchildren (by simpa using h)
  have hnesting : optional int8? 0 ["nesting"] t.members = some t.nesting := by
    have hfound : unique? ["nesting"] t.members = some (some (.integer t.nesting.toInt)) := by
      simp [unique?, members, apply_ite (List.filter _)]
    rw [optional_of_unique hfound, int8?_toInt]
  rw [ofFields?, hkind, htag, hcontent, hattrs, hbelow, hnesting]
  cases t
  rfl

/-- Siblings are read within a depth that their array keeps to, if each of them can be. -/
theorem listOfJson?_of_mapM {ts : List Token} {depth : Nat}
    (hdepth : (Json.array (listToJson ts)).height ≤ depth)
    (hread : ∀ inner, depth = inner + 2 → (listToJson ts).mapM (fun t => do
      ofFields? inner (listOfJson? inner) (← fields? fieldNames t)) = some ts) :
    listOfJson? depth (.array (listToJson ts)) = some ts := by
  match depth with
  | 0 => simp [height] at hdepth
  | 1 =>
    cases ts with
    | nil => rfl
    | cons t rest =>
      have hlt : t.kind.toJson.height < t.toJson.height :=
        height_lt_of_mem_members (m := ("kind", t.kind.toJson)) (by simp [members])
      rw [height, listToJson, elementsHeight] at hdepth
      omega
  | inner + 2 => exact hread inner rfl

mutual

theorem ofFields?_toJson (t : Token) {depth : Nat} (hdepth : t.toJson.height ≤ depth + 1) :
    (do ofFields? depth (listOfJson? depth) (← fields? fieldNames t.toJson)) = some t := by
  match t with
  | ⟨kind, tag, content, attrs, children, nesting⟩ =>
    rw [fields?_toJson]
    apply ofFields?_members hdepth
    intro hchildren
    have hmem : ("children", Json.array (listToJson children)) ∈
        members ⟨kind, tag, content, attrs, children, nesting⟩ := by
      simp [members, hchildren]
    have hlt := height_lt_of_mem_members hmem
    have hbelow : (Json.array (listToJson children)).height ≤ depth :=
      Nat.le_of_lt_succ (Nat.lt_of_lt_of_le hlt hdepth)
    refine listOfJson?_of_mapM hbelow fun inner hinner => mapM_listToJson children ?_
    rw [height] at hbelow
    omega

theorem mapM_listToJson (ts : List Token) {depth : Nat}
    (hdepth : elementsHeight (listToJson ts) ≤ depth + 1) :
    (listToJson ts).mapM (fun t => do
      ofFields? depth (listOfJson? depth) (← fields? fieldNames t)) = some ts := by
  match ts with
  | [] => rfl
  | t :: rest =>
    rw [listToJson, elementsHeight] at hdepth
    have ht : t.toJson.height ≤ depth + 1 := by omega
    have hrest : elementsHeight (listToJson rest) ≤ depth + 1 := by omega
    rw [listToJson, List.mapM_cons, ofFields?_toJson t ht, mapM_listToJson rest hrest]
    rfl

end

theorem ofJson?_toJson (t : Token) : Token.ofJson? t.toJson = some t :=
  ofFields?_toJson t (Nat.le_succ _)

theorem listOfJson?_listToJson (ts : List Token) :
    listOfJson? (Json.array (listToJson ts)).height (.array (listToJson ts)) = some ts := by
  refine listOfJson?_of_mapM (Nat.le_refl _) fun inner hinner => mapM_listToJson ts ?_
  rw [height] at hinner
  omega

end Token

theorem Document.ofJson?_toJson (doc : Document) : Document.ofJson? doc.toJson = some doc := by
  rw [Document.ofJson?, Document.toJson, Token.listOfJson?_listToJson]
  rfl

/-! ## Entries -/

theorem TocEntry.ofJson?_toJson (e : TocEntry) : TocEntry.ofJson? e.toJson = some e := by
  have hlevel := uint8?_toNat e.level
  simp [TocEntry.ofJson?, TocEntry.toJson, TocEntry.fields?, required, unique?, string?, hlevel]

theorem TocEntry.listOfJson?_listToJson (entries : List TocEntry) :
    TocEntry.listOfJson? (TocEntry.listToJson entries) = some entries :=
  mapM_map_of_read TocEntry.ofJson?_toJson entries

/-! ## Settings -/

namespace PipelineConfig

theorem rootOfJson?_elim (root : Option String) :
    rootOfJson? (root.elim .null .string) = some root := by
  cases root <;> rfl

theorem ofJson?_toJson (c : PipelineConfig) : PipelineConfig.ofJson? c.toJson = some c := by
  have hroot := rootOfJson?_elim c.sourceRoot
  have hlevel := uint8?_toNat c.tocMaxLevel
  simp [ofJson?, toJson, fields?, fieldNames, Json.optional, unique?, hroot, hlevel, bool?]

theorem load_toJson (c : PipelineConfig) :
    load c.toJson = if 1 ≤ c.tocMaxLevel ∧ c.tocMaxLevel ≤ 6 then .ok c
      else .error (.invalid (.levelOutOfRange c.tocMaxLevel)) := by
  have hload : load c.toJson = c.validate.mapError .invalid := by rw [load, ofJson?_toJson]
  by_cases h : 1 ≤ c.tocMaxLevel ∧ c.tocMaxLevel ≤ 6
  · have hvalid : c.validate = .ok c := by simp [validate, isValid, h]
    rw [hload, if_pos h, hvalid]
    rfl
  · have hrefused : c.validate = .error (.levelOutOfRange c.tocMaxLevel) := by
      simp [validate, isValid, h]
    rw [hload, if_neg h, hrefused]
    rfl

end PipelineConfig

/-! ## Round trips -/

/-- Whatever is written is read back as it was: every document, every list of entries, and all
settings whose depth is a level that a heading can have. Other settings are refused for their depth.
-/
theorem toJson_roundTrip :
    (∀ doc : Document, Document.ofJson? doc.toJson = some doc) ∧
      (∀ entries : List TocEntry,
        TocEntry.listOfJson? (TocEntry.listToJson entries) = some entries) ∧
      ∀ c : PipelineConfig, PipelineConfig.load c.toJson =
        if 1 ≤ c.tocMaxLevel ∧ c.tocMaxLevel ≤ 6 then .ok c
        else .error (.invalid (.levelOutOfRange c.tocMaxLevel)) :=
  ⟨Document.ofJson?_toJson, TocEntry.listOfJson?_listToJson, PipelineConfig.load_toJson⟩

end Folio
