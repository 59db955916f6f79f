import Mathlib.Data.List.Forall2
import Storekeeper.Proofs.Time.RoundTrip
import Storekeeper.Record.Basic

/-!
# Records written and read back

The document of a record is read as that record again, and so is every other form of the document:
an object with the same values under the names of the fields, in any order and with any other
members beside them, where a null may be left out, and the array of the values.  `Survives` is this
for one kind of record, and `survives_storing` that it holds for each of them.
-/

namespace Storekeeper

namespace Json

variable {key : String} {value : Json} {ms : Members}

/-- The value of the first member named `key`, if there is one and it is not null. -/
def present? (key : String) (ms : Members) : Option Json :=
  match get? key ms with
  | some .null => none
  | other => other

theorem present?_eq_some_iff :
  present? key ms = some value ↔ get? key ms = some value ∧ value ≠ .null
  := by
  unfold present?
  split
  · next hnull => simp [hnull, eq_comm]
  · next hother =>
    constructor
    · intro h
      refine ⟨h, ?_⟩
      rintro rfl
      exact hother h
    · exact And.left

/-- If no two members have one name, each of them is found. -/
theorem get?_of_mem (hnodup : (ms.map Prod.fst).Nodup) (h : (key, value) ∈ ms) :
  get? key ms = some value
  := by
  induction ms with
  | nil => cases h
  | cons m rest ih =>
    obtain ⟨k, v⟩ := m
    obtain ⟨hnew, hrest⟩ := List.nodup_cons.mp hnodup
    rcases List.mem_cons.mp h with hhead | htail
    · cases hhead
      exact if_pos rfl
    · have hmem : key ∈ rest.map Prod.fst := List.mem_map_of_mem (f := Prod.fst) htail
      have hne : k ≠ key := fun heq => hnew (heq ▸ hmem)
      rw [get?, if_neg hne]
      exact ih hrest htail

/-- The members of an object. -/
def members : Json → Members
  | .obj ms => ms
  | _ => []

end Json

namespace Decode

variable {α : Type} {d : Decoder α} {a : α} {name : String} {fields : List Field} {ms ms' : Json.Members} {j : Json}

/-! ### Values -/

theorem text_str (s : String) :
  text (.str s) = .ok s
  := rfl

theorem flag_bool (b : Bool) :
  flag (.bool b) = .ok b
  := rfl

theorem instant_text (t : Instant) :
  instant (.str t.text) = .ok t
  := by
  simp only [instant, Instant.text, String.toList_ofList, Time.readInstant_chars]

theorem optional_ofInstant? (t : Option Instant) :
  optional instant (.ofInstant? t) = .ok t
  := by
  cases t with
  | none => rfl
  | some t => simp only [Json.ofInstant?, optional, instant_text, Except.map]

theorem optional_ofText? (s : Option String) :
  optional text (.ofText? s) = .ok s
  := by
  cases s <;> rfl

/-! ### Forms of an object -/

/-- No two of the members `ms'` have one name, and under each of the given names they have the value
that `ms` has, where a null is as good as no member. -/
structure Restates (names : List String) (ms ms' : Json.Members) : Prop where
  nodup : (ms'.map Prod.fst).Nodup
  present : ∀ name ∈ names, Json.present? name ms' = Json.present? name ms

/-- A document is a form of members with the given names: an object that restates them, or the array
of their values. -/
inductive IsForm (names : List String) (ms : Json.Members) : Json → Prop where
  | object {ms' : Json.Members} (h : Restates names ms ms') : IsForm names ms (.obj ms')
  | array : IsForm names ms (.arr (ms.map Prod.snd))

/-- The members are the fields in order, each with a value that it can have. -/
def Fits (fields : List Field) (ms : Json.Members) : Prop :=
  List.Forall₂ (fun f m => f.name = m.1 ∧ f.fault m.2 = none) fields ms

theorem Fits.field (name : String) (h : d j = .ok a) (hrest : Fits fields ms) :
  Fits (field name d :: fields) ((name, j) :: ms)
  := by
  apply List.Forall₂.cons _ hrest
  simp only [Decode.field, h, and_self]

theorem Fits.map_name (h : Fits fields ms) :
  fields.map (·.name) = ms.map Prod.fst
  := by
  induction h with
  | nil => rfl
  | cons hhead _ ih => rw [List.map_cons, List.map_cons, hhead.1, ih]

theorem Fits.exists_of_mem {f : Field} (h : Fits fields ms) (hf : f ∈ fields) :
  ∃ value, (f.name, value) ∈ ms ∧ f.fault value = none
  := by
  induction h with
  | nil => cases hf
  | @cons f' m fields ms hhead _ ih =>
    rcases List.mem_cons.mp hf with rfl | htail
    · refine ⟨m.2, ?_, hhead.2⟩
      rw [hhead.1]
      exact List.mem_cons_self
    · obtain ⟨value, hmem, hfault⟩ := ih htail
      exact ⟨value, List.mem_cons_of_mem _ hmem, hfault⟩

theorem firstFault_eq_none (h : ∀ m ∈ ms, ∀ f ∈ fields, f.name = m.1 → f.fault m.2 = none) :
  firstFault fields ms = none
  := by
  rw [firstFault, List.findSome?_eq_none_iff]
  intro m hm
  cases hfind : fields.find? (·.name == m.1) with
  | none => rfl
  | some f =>
    have hname : f.name = m.1 := eq_of_beq (List.find?_some (p := fun f : Field => f.name == m.1) hfind)
    exact h m hm f (List.mem_of_find?_eq_some hfind) hname

namespace Restates

variable {names : List String} {value value' : Json}

theorem refl (hnodup : (ms.map Prod.fst).Nodup) :
  Restates names ms ms
  := ⟨hnodup, fun _ _ => rfl⟩

theorem eq_of_get? (h : Restates names ms ms') (hname : name ∈ names)
    (hget : Json.get? name ms = some value) (hget' : Json.get? name ms' = some value') :
  value' = value
  := by
  have hpresent := h.present name hname
  by_cases hnull : value' = .null
  · have hnone : Json.present? name ms' = none := by
      rw [Json.present?, hget', hnull]
    by_contra hne
    have hsome : Json.present? name ms = some value :=
      Json.present?_eq_some_iff.mpr ⟨hget, fun heq => hne (hnull.trans heq.symm)⟩
    cases hnone.symm.trans (hpresent.trans hsome)
  · have hsome := Json.present?_eq_some_iff.mpr ⟨hget', hnull⟩
    rw [hpresent, Json.present?_eq_some_iff, hget] at hsome
    exact (Option.some.inj hsome.1).symm

/-- Members that restate fitting ones have no faults either. -/
theorem firstFault_eq_none (hfits : Fits fields ms) (hnodup : (fields.map (·.name)).Nodup)
    (h : Restates (fields.map (·.name)) ms ms') :
  firstFault fields ms' = none
  := by
  apply Decode.firstFault_eq_none
  rintro ⟨_, value'⟩ hm f hf rfl
  obtain ⟨value, hmem, hfault⟩ := hfits.exists_of_mem hf
  have heq : value' = value :=
    h.eq_of_get? (List.mem_map_of_mem hf) (Json.get?_of_mem (hfits.map_name ▸ hnodup) hmem)
      (Json.get?_of_mem h.nodup hm)
  rwa [heq]

/-- A field that cannot be null is read of the members as of those that they restate. -/
theorem required (h : Restates names ms ms') (hname : name ∈ names) (hnull : ∀ a, d .null ≠ .ok a)
    (hread : Decode.required ms name d = .ok a) :
  Decode.required ms' name d = .ok a
  := by
  unfold Decode.required at hread
  split at hread
  · next value hget =>
    have hne : value ≠ .null := by
      rintro rfl
      exact hnull a hread
    have hpresent := h.present name hname
    rw [Json.present?_eq_some_iff.mpr ⟨hget, hne⟩, Json.present?_eq_some_iff] at hpresent
    rw [Decode.required, hpresent.1]
    exact hread
  · cases hread

end Restates

theorem possible_eq (ms : Json.Members) (name : String) (d : Decoder α) :
  possible ms name d
    = match Json.present? name ms with
      | some value => (d value).map some
      | none => .ok none
  := by
  unfold possible Json.present?
  cases Json.get? name ms with
  | none => rfl
  | some value => cases value <;> rfl

/-- A field that may be null is read of the members as of those that they restate. -/
theorem Restates.possible {names : List String} (h : Restates names ms ms') (hname : name ∈ names)
    (d : Decoder α) :
  Decode.possible ms' name d = Decode.possible ms name d
  := by
  rw [possible_eq, possible_eq, h.present name hname]

/-- Every form of fitting members is read as members that restate them. -/
theorem exists_members_of_isForm (hfits : Fits fields ms) (hnodup : (fields.map (·.name)).Nodup)
    (h : IsForm (fields.map (·.name)) ms j) (name : String) :
  ∃ ms', members name fields j = .ok ms' ∧ Restates (fields.map (·.name)) ms ms'
  := by
  have hself : Restates (fields.map (·.name)) ms ms := .refl (hfits.map_name ▸ hnodup)
  cases h with
  | @object ms' h =>
    refine ⟨ms', ?_, h⟩
    simp only [members, h.firstFault_eq_none hfits hnodup]
  | array =>
    refine ⟨ms, ?_, hself⟩
    have hlength : (ms.map Prod.snd).length = fields.length := by
      rw [List.length_map, ← List.length_map (f := Prod.fst), ← hfits.map_name, List.length_map]
    have hzip : (fields.map (·.name)).zip (ms.map Prod.snd) = ms := by
      rw [hfits.map_name, List.zip_map']
      exact List.map_id ms
    simp only [members, hzip, hself.firstFault_eq_none hfits hnodup, hlength, lt_irrefl, if_false]

end Decode

namespace Record

open Decode

/-- Records of a kind survive when they are stored: every form of a record's document is read as the
record, so whatever a record was read from, its document is read as it again, and the document
carries the identifier under which it is stored. -/
structure Survives {α : Type} (decode : Decoder α) (fields : List Field)
    (stored : α → StoredRecord) (id : α → String) : Prop where
  decode_form (a : α) (j : Json) :
    IsForm (fields.map (·.name)) (stored a).document.members j → decode j = .ok a
  decode_stored (a : α) : decode (stored a).document = .ok a
  decode_again (j : Json) (a : α) : decode j = .ok a → decode (stored a).document = .ok a
  id_stored (a : α) : (stored a).id = id a
  get?_id (a : α) : Json.get? "id" (stored a).document.members = some (.str (id a))

section

variable {α : Type} {decode : Decoder α} {fields : List Field} {stored : α → StoredRecord}
  {id : α → String}

/-- A document with the fields in order is a form of itself. -/
theorem Survives.of_decode_form
    (hform : ∀ (a : α) (j : Json), IsForm (fields.map (·.name)) (stored a).document.members j →
      decode j = .ok a)
    (hfits : ∀ a, Fits fields (stored a).document.members) (hnodup : (fields.map (·.name)).Nodup)
    (hobj : ∀ a, (stored a).document = .obj (stored a).document.members)
    (hid : ∀ a, (stored a).id = id a
      ∧ Json.get? "id" (stored a).document.members = some (.str (id a))) :
  Survives decode fields stored id
  := by
  have hself : ∀ a, decode (stored a).document = .ok a := by
    intro a
    rw [hobj a]
    exact hform a _ (.object (.refl ((hfits a).map_name ▸ hnodup)))
  exact {
    decode_form := hform
    decode_stored := hself
    decode_again := fun _ a _ => hself a
    id_stored := fun a => (hid a).1
    get?_id := fun a => (hid a).2 }

end

/-! ### Users -/

theorem UserRole.decode_name (r : UserRole) :
  UserRole.decode (.str r.name) = .ok r
  := by
  cases r <;> rfl

theorem User.fits (u : User) :
  Fits User.fields u.encode.members
  := .field "id" (text_str u.id) <| .field "name" (text_str u.name) <|
    .field "email" (text_str u.email) <| .field "role" u.role.decode_name <|
    .field "verified" (flag_bool u.verified) <|
    .field "created_at" (optional_ofInstant? u.createdAt) <|
    .field "updated_at" (optional_ofInstant? u.updatedAt) .nil

theorem User.decode_form (u : User) (j : Json)
    (h : IsForm (User.fields.map (·.name)) u.encode.members j) :
  User.decode j = .ok u
  := by
  obtain ⟨ms, hms, hr⟩ := exists_members_of_isForm u.fits (by decide) h "User"
  have hid : required ms "id" text = .ok u.id := hr.required (by decide) nofun rfl
  have hname : required ms "name" text = .ok u.name := hr.required (by decide) nofun rfl
  have hemail : required ms "email" text = .ok u.email := hr.required (by decide) nofun rfl
  have hrole : required ms "role" UserRole.decode = .ok u.role :=
    hr.required (by decide) nofun u.role.decode_name
  have hverified : required ms "verified" flag = .ok u.verified :=
    hr.required (by decide) nofun rfl
  have hcreated : possible ms "created_at" instant = .ok u.createdAt :=
    (hr.possible (by decide) instant).trans (optional_ofInstant? u.createdAt)
  have hupdated : possible ms "updated_at" instant = .ok u.updatedAt :=
    (hr.possible (by decide) instant).trans (optional_ofInstant? u.updatedAt)
  simp only [User.decode, hms, hid, hname, hemail, hrole, hverified, hcreated, hupdated, bind,
    Except.bind]
  rfl

/-! ### Projects -/

theorem Project.fits (p : Project) :
  Fits Project.fields p.encode.members
  := .field "id" (text_str p.id) <| .field "name" (text_str p.name) <|
    .field "description" (optional_ofText? p.description) <|
    .field "owner_id" (text_str p.ownerId) <|
    .field "created_at" (optional_ofInstant? p.createdAt) .nil

theorem Project.decode_form (p : Project) (j : Json)
    (h : IsForm (Project.fields.map (·.name)) p.encode.members j) :
  Project.decode j = .ok p
  := by
  obtain ⟨ms, hms, hr⟩ := exists_members_of_isForm p.fits (by decide) h "Project"
  have hid : required ms "id" text = .ok p.id := hr.required (by decide) nofun rfl
  have hname : required ms "name" text = .ok p.name := hr.required (by decide) nofun rfl
  have hdescription : possible ms "description" text = .ok p.description :=
    (hr.possible (by decide) text).trans (optional_ofText? p.description)
  have howner : required ms "owner_id" text = .ok p.ownerId := hr.required (by decide) nofun rfl
  have hcreated : possible ms "created_at" instant = .ok p.createdAt :=
    (hr.possible (by decide) instant).trans (optional_ofInstant? p.createdAt)
  simp only [Project.decode, hms, hid, hname, hdescription, howner, hcreated, bind, Except.bind]
  rfl

/-! ### Memberships -/

theorem MemberRole.decode_name (r : MemberRole) :
  MemberRole.decode (.str r.name) = .ok r
  := by
  cases r <;> rfl

theorem ProjectMember.fits (m : ProjectMember) :
  Fits ProjectMember.fields m.encode.members
  := .field "id" (text_str m.id) <| .field "project_id" (text_str m.projectId) <|
    .field "user_id" (text_str m.userId) <| .field "role" m.role.decode_name .nil

theorem ProjectMember.decode_form (m : ProjectMember) (j : Json)
    (h : IsForm (ProjectMember.fields.map (·.name)) m.encode.members j) :
  ProjectMember.decode j = .ok m
  := by
  obtain ⟨ms, hms, hr⟩ := exists_members_of_isForm m.fits (by decide) h "ProjectMember"
  have hid : required ms "id" text = .ok m.id := hr.required (by decide) nofun rfl
  have hproject : required ms "project_id" text = .ok m.projectId :=
    hr.required (by decide) nofun rfl
  have huser : required ms "user_id" text = .ok m.userId := hr.required (by decide) nofun rfl
  have hrole : required ms "role" MemberRole.decode = .ok m.role :=
    hr.required (by decide) nofun m.role.decode_name
  simp only [ProjectMember.decode, hms, hid, hproject, huser, hrole, bind, Except.bind]
  rfl

/-! ### Tasks -/

theorem TaskStatus.decode_name (s : TaskStatus) :
  TaskStatus.decode (.str s.name) = .ok s
  := by
  cases s <;> rfl

theorem ProjectTask.fits (t : ProjectTask) :
  Fits ProjectTask.fields t.encode.members
  := .field "id" (text_str t.id) <| .field "project_id" (text_str t.projectId) <|
    .field "title" (text_str t.title) <| .field "status" t.status.decode_name <|
    .field "assignee_id" (optional_ofText? t.assigneeId) .nil

theorem ProjectTask.decode_form (t : ProjectTask) (j : Json)
    (h : IsForm (ProjectTask.fields.map (·.name)) t.encode.members j) :
  ProjectTask.decode j = .ok t
  := by
  obtain ⟨ms, hms, hr⟩ := exists_members_of_isForm t.fits (by decide) h "ProjectTask"
  have hid : required ms "id" text = .ok t.id := hr.required (by decide) nofun rfl
  have hproject : required ms "project_id" text = .ok t.projectId :=
    hr.required (by decide) nofun rfl
  have htitle : required ms "title" text = .ok t.title := hr.required (by decide) nofun rfl
  have hstatus : required ms "status" TaskStatus.decode = .ok t.status :=
    hr.required (by decide) nofun t.status.decode_name
  have hassignee : possible ms "assignee_id" text = .ok t.assigneeId :=
    (hr.possible (by decide) text).trans (optional_ofText? t.assigneeId)
  simp only [ProjectTask.decode, hms, hid, hproject, htitle, hstatus, hassignee, bind, Except.bind]
  rfl

/-- Records of all kinds survive when they are stored. -/
theorem survives_storing :
  Survives User.decode User.fields User.stored User.id
    ∧ Survives Project.decode Project.fields Project.stored Project.id
    ∧ Survives ProjectMember.decode ProjectMember.fields ProjectMember.stored ProjectMember.id
    ∧ Survives ProjectTask.decode ProjectTask.fields ProjectTask.stored ProjectTask.id
  := by
  refine ⟨?_, ?_, ?_, ?_⟩
  · exact .of_decode_form User.decode_form User.fits (by decide) (fun _ => rfl)
      (fun _ => ⟨rfl, rfl⟩)
  · exact .of_decode_form Project.decode_form Project.fits (by decide) (fun _ => rfl)
      (fun _ => ⟨rfl, rfl⟩)
  · exact .of_decode_form ProjectMember.decode_form ProjectMember.fits (by decide) (fun _ => rfl)
      (fun _ => ⟨rfl, rfl⟩)
  · exact .of_decode_form ProjectTask.decode_form ProjectTask.fits (by decide) (fun _ => rfl)
      (fun _ => ⟨rfl, rfl⟩)

end Record

end Storekeeper
