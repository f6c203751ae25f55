import Community.Http.Identity
import Community.Proofs.Cache.Values
import Community.Proofs.Json.Parts
import Community.Relation.Input
import Community.Search.Basic

/-!
# What bodies show of users

Contact data and password hashes have names, and a body is `DiscreetTo` a caller if it
has members of these names nowhere but in the caller's own profile, and password
hashes not even there.

Only profiles have contact data at all:

> `Profile.IsMasked.lacks`: a profile without contact data has none of the members.

> `Profile.discreetTo_own`: a profile is discreet to its owner, whatever is in it.
-/

namespace Community

open Json

/-- The names of members that are not for everybody. -/
def User.personal : List String :=
  ["email", "phone", "password_hash"]

/-- Contact data is in the caller's own objects at most, and a password hash nowhere. -/
structure Json.DiscreetTo (caller : Http.Caller) (body : Json) : Prop where
  contact : ∀ part ∈ body.parts, (part.member? "email").isSome ∨
    (part.member? "phone").isSome →
    ∃ i, caller = .known i ∧ part.member? "id" = some (encode i.userId)
  passwordHash : ∀ part ∈ body.parts, part.member? "password_hash" = none

namespace Json

variable {caller : Http.Caller} {j : Json} {members : List (String × Json)}

/-- JSON without personal members is discreet to every caller. -/
theorem Lacks.discreetTo (h : j.Lacks User.personal) : j.DiscreetTo caller := by
  refine ⟨fun part hpart hcontact => ?_, fun part hpart => h part hpart _ (by decide)⟩
  rw [h part hpart "email" (by decide), h part hpart "phone" (by decide)] at hcontact
  simp at hcontact

/-- An object is discreet if its names are not personal and its values are discreet. -/
theorem discreetTo_obj (hnames : ∀ name ∈ User.personal, name ∉ members.map Prod.fst)
    (hmembers : ∀ m ∈ members, m.2.DiscreetTo caller) : (obj members).DiscreetTo caller := by
  refine ⟨fun part hpart hcontact => ?_, fun part hpart => ?_⟩
  · rcases mem_parts_obj.mp hpart with rfl | ⟨m, hm, hpart⟩
    · rw [member?_obj_eq_none (hnames "email" (by decide)),
        member?_obj_eq_none (hnames "phone" (by decide))] at hcontact
      simp at hcontact
    · exact (hmembers m hm).contact part hpart hcontact
  · rcases mem_parts_obj.mp hpart with rfl | ⟨m, hm, hpart⟩
    · exact member?_obj_eq_none (hnames "password_hash" (by decide))
    · exact (hmembers m hm).passwordHash part hpart

end Json

/-! ## Values without personal data -/

open User (personal)

instance : Omits personal Time.Timestamp := ⟨fun _ => lacks_str _⟩

instance {α : Type} [Tag α] : Omits personal α := ⟨fun _ => lacks_str _⟩

instance : Omits personal Category :=
  ⟨fun _ => lacks_obj (by simp [personal, Category.Columns.members])
    (by simp [Category.Columns.members])⟩

instance : Omits personal Content := ⟨fun _ => lacks_obj (by simp [personal]) (by simp)⟩
instance : Omits personal Goods := ⟨fun _ => lacks_obj (by simp [personal]) (by simp)⟩
instance : Omits personal Like := ⟨fun _ => lacks_obj (by simp [personal]) (by simp)⟩
instance : Omits personal Liker := ⟨fun _ => lacks_obj (by simp [personal]) (by simp)⟩
instance : Omits personal LikeOutcome := ⟨fun _ => lacks_obj (by simp [personal]) (by simp)⟩
instance : Omits personal Favorite := ⟨fun _ => lacks_obj (by simp [personal]) (by simp)⟩
instance :
    Omits personal FavoriteOutcome := ⟨fun _ => lacks_obj (by simp [personal]) (by simp)⟩
instance : Omits personal HistoryEntry := ⟨fun _ => lacks_obj (by simp [personal]) (by simp)⟩
instance : Omits personal HotKeyword := ⟨fun _ => lacks_obj (by simp [personal]) (by simp)⟩

namespace CategoryNode

mutual

/-- A node has the members of its category, and those below it. -/
theorem lacks_toJson (n : CategoryNode) : (toJson n).Lacks personal := by
  cases n with
  | node c ns =>
    have hcategory : ∀ m ∈ c.members, m.2.Lacks personal := by
      simp [Category.Columns.members]
    rw [toJson]
    refine lacks_obj (by simp [personal, Category.Columns.members]) fun m hm => ?_
    rcases List.mem_append.mp hm with hm | hm
    · exact hcategory m hm
    · cases List.mem_singleton.mp hm
      exact lacks_arr (lacks_toJsons ns)

/-- The nodes of a tree have no personal members. -/
theorem lacks_toJsons (ns : List CategoryNode) : ∀ j ∈ toJsons ns, j.Lacks personal := by
  cases ns with
  | nil => exact fun _ hj => absurd hj List.not_mem_nil
  | cons n ns =>
    intro j hj
    rw [toJsons] at hj
    rcases List.mem_cons.mp hj with rfl | hj
    · exact lacks_toJson n
    · exact lacks_toJsons ns j hj

end

end CategoryNode

instance : Omits personal CategoryNode := ⟨CategoryNode.lacks_toJson⟩

/-- A listing has no personal members but those of its rows. -/
theorem Listing.lacks_members {α : Type} [Encode α] {l : Listing α}
    (h : ∀ a ∈ l.items, (encode a).Lacks personal) :
    ∀ m ∈ l.members, m.2.Lacks personal := by
  have hitems : (encode l.items).Lacks personal := by
    refine lacks_arr fun item hitem => ?_
    obtain ⟨a, ha, rfl⟩ := List.mem_map.mp hitem
    exact h a ha
  simp [members, hitems]

/-- A listing of rows without personal members has none. -/
theorem Listing.lacks {α : Type} [Encode α] {l : Listing α}
    (h : ∀ a ∈ l.items, (encode a).Lacks personal) : (encode l).Lacks personal :=
  lacks_obj (by simp [personal, members]) (lacks_members h)

instance {α : Type} [Encode α] [Omits personal α] : Omits personal (Listing α) :=
  ⟨fun _ => Listing.lacks fun a _ => lacks_encode a⟩

/-- Nor has the result of a search whose hits have none. -/
theorem SearchResult.lacks {r : SearchResult}
    (h : ∀ hit ∈ r.page.items, (encode hit).Lacks personal) : (encode r).Lacks personal := by
  refine lacks_obj (by simp [personal, Listing.members]) fun m hm => ?_
  rcases List.mem_append.mp hm with hm | hm
  · simp only [List.mem_cons, List.not_mem_nil, or_false] at hm
    rcases hm with rfl | rfl | rfl <;> exact lacks_encode _
  · exact Listing.lacks_members h m hm

/-! ## Profiles -/

namespace Profile

/-- A profile without contact data. -/
structure IsMasked (p : Profile) : Prop where
  email : p.email = none
  phone : p.phone = none

/-- A masked profile is masked. -/
theorem isMasked_masked (p : Profile) : p.masked.IsMasked :=
  ⟨rfl, rfl⟩

variable {p : Profile} {caller : Http.Caller} {i : Http.Identity}

/-- A profile is one object, which has its identifier in it and nothing deeper that is
not for everybody. -/
theorem encode_eq_obj (p : Profile) : ∃ members, encode p = .obj members ∧
    members.lookup "id" = some (encode p.id) ∧ (∀ m ∈ members, m.2.Lacks personal) ∧
    "password_hash" ∉ members.map Prod.fst ∧
    (p.IsMasked → ∀ name ∈ personal, name ∉ members.map Prod.fst) := by
  obtain ⟨id, username, email, phone, nickname, avatar, bio, gender, location, status,
      role, loginCount, lastLoginAt, createdAt⟩ := p
  refine ⟨_, rfl, rfl, ?_, ?_, ?_⟩
  · cases email <;> cases phone <;> simp [given]
  · cases email <;> cases phone <;> simp [given]
  · rintro ⟨⟨⟩, ⟨⟩⟩
    simp [personal, given]

/-- The JSON of a masked profile has no personal members. -/
theorem IsMasked.lacks (h : p.IsMasked) : (encode p).Lacks personal := by
  obtain ⟨members, hencode, -, hmembers, -, hnames⟩ := encode_eq_obj p
  rw [hencode]
  exact lacks_obj (hnames h) hmembers

/-- One's own profile is discreet to oneself. -/
theorem discreetTo_own (hcaller : caller = .known i) (hid : p.id = i.userId) :
    (encode p).DiscreetTo caller := by
  obtain ⟨members, hencode, hown, hmembers, hhash, -⟩ := encode_eq_obj p
  rw [hencode]
  refine ⟨fun part hpart hcontact => ?_, fun part hpart => ?_⟩
  · rcases mem_parts_obj.mp hpart with rfl | ⟨m, hm, hpart⟩
    · exact ⟨i, hcaller, hid ▸ hown⟩
    · exact (hmembers m hm).discreetTo.contact part hpart hcontact
  · rcases mem_parts_obj.mp hpart with rfl | ⟨m, hm, hpart⟩
    · exact member?_obj_eq_none hhash
    · exact hmembers m hm part hpart "password_hash" (by decide)

end Profile

end Community
