import Community.Category.Tree
import Community.Page
import Community.Proofs.Category.Forest
import Community.Proofs.Json.Faithful
import Community.Proofs.Relation.Outcome
import Community.User.Basic

/-!
# What is kept is read as it was

The values that are read through the cache: categories and their forest, profiles, and lists
of profiles and of favourites. Each of them is faithful as long as its timestamps are of the
calendar, whatever its numbers are and however deep a forest is.
-/

namespace Community

open Json Time

variable {α : Type}

/-! ## Parts -/

/-- Numbers, texts and values that may be null all come back from their JSON. -/
theorem Json.Faithful.int (n : Int) : Faithful n :=
  YieldsOnly.int

theorem Json.Faithful.nat (n : Nat) : Faithful n :=
  YieldsOnly.nat n

theorem Json.Faithful.str (s : String) : Faithful s :=
  YieldsOnly.str s

theorem Json.Faithful.text? (s : Option String) : Faithful s :=
  Faithful.option fun a _ => ⟨.str a, nofun⟩

theorem Json.Faithful.int? (n : Option Int) : Faithful n :=
  Faithful.option fun a _ => ⟨.int a, nofun⟩

/-- A tag whose spelling is read as the tag itself comes back. -/
theorem Json.Faithful.tag [Tag α] {a : α} (h : Tag.ofText? (Tag.spelling a) = some a) :
    Faithful a := by
  refine ⟨_, ReadAs.str (Tag.spelling a), nofun, fun m b hb => ?_⟩
  rw [Tag.ofText?] at h
  simp only [decode, decodeVariant, decodeVariant.pick, h] at hb
  cases hb
  rfl

/-- What the text of a timestamp is read as, which is the timestamp itself if it
is of the calendar. -/
def Time.Timestamp.reread (t : Timestamp) : Timestamp :=
  (Timestamp.read? t.render).getD t

/-- A timestamp that the calendar has is not changed by being written and read. -/
theorem Time.Timestamp.reread_of_valid {t : Timestamp} (h : t.Valid) : t.reread = t := by
  rw [reread, Timestamp.read?_render h]
  rfl

/-- A written timestamp reads as its `reread`, and as nothing else. -/
theorem Json.YieldsOnly.timestamp (t : Timestamp) :
    YieldsOnly decode (encode t) t.reread := by
  refine ⟨_, ReadAs.str t.render, nofun, fun m b hb => ?_⟩
  simp only [decode, decodeTimestamp] at hb
  split at hb
  · next hread =>
    cases hb
    rw [Timestamp.reread, hread]
    rfl
  · cases hb

/-- A timestamp that the calendar has comes back. -/
theorem Json.Faithful.timestamp {t : Timestamp} (h : t.Valid) : Faithful t := by
  have hreread := YieldsOnly.timestamp t
  rwa [Timestamp.reread_of_valid h] at hreread

/-- Values of a list, each of which comes back as `f` has it. -/
theorem Json.YieldsOnly.each [Encode α] [Decode α] {as : List α} {f : α → α}
    (h : ∀ a ∈ as, YieldsOnly decode (encode a) (f a))
    (hopens : ∀ a ∈ as, Opens (encode a)) :
    YieldsOnly (decode (α := List α)) (encode as) (as.map f) := by
  refine YieldsOnly.list ?_ fun j hj => ?_
  · exact List.forall₂_map_left_iff.mpr
      (List.forall₂_map_right_iff.mpr (List.forall₂_same.mpr h))
  · obtain ⟨a, ha, rfl⟩ := List.mem_map.mp hj
    exact hopens a ha

/-- A list of values that come back comes back, if each is written with an opening of its
own. -/
theorem Json.Faithful.list [Encode α] [Decode α] {as : List α} (h : ∀ a ∈ as, Faithful a)
    (hopens : ∀ a ∈ as, Opens (encode a)) : Faithful as := by
  have hsame := YieldsOnly.each (f := id) h hopens
  rwa [List.map_id] at hsame

/-- What the rows of a listing read as, the listing reads as, row by row. -/
theorem Listing.yieldsOnly [Encode α] [Decode α] {l : Listing α} {f : α → α}
    (h : ∀ a ∈ l.items, YieldsOnly decode (encode a) (f a))
    (hopens : ∀ a ∈ l.items, Opens (encode a)) : YieldsOnly decode (encode l) (l.map f) := by
  have hfields := (Fields.YieldsOnly.pure (@Listing.mk α)).memberAs "datas" (.each h hopens)
    |>.member "total" (.nat l.total)
    |>.member "current_page" (.nat l.page)
    |>.member "page_size" (.nat l.size)
    |>.member "total_page" (.nat l.pages)
  exact hfields.decode
    (show ["datas", "total", "current_page", "page_size", "total_page"].Nodup by decide) _

/-- A listing whose rows come back comes back. -/
theorem Listing.faithful [Encode α] [Decode α] {l : Listing α}
    (h : ∀ a ∈ l.items, Faithful a) (hopens : ∀ a ∈ l.items, Opens (encode a)) :
    Faithful l := by
  have hsame := Listing.yieldsOnly (f := id) h hopens
  rwa [Listing.map, List.map_id] at hsame

/-! ## Categories -/

/-- The timestamps of a category are of the calendar. -/
structure Category.Columns.Dated {col : Type → Type} (c : Category.Columns col) : Prop where
  createdAt : c.createdAt.Valid
  updatedAt : c.updatedAt.Valid

/-- Every status is read from its spelling. -/
theorem ActiveStatus.ofText?_spelling (s : ActiveStatus) :
    Tag.ofText? (Tag.spelling s) = some s := by
  cases s <;> decide

/-- The members of a dated category are read as the category, and as nothing else. -/
theorem Category.yieldsOnly {c : Category} (h : c.Dated) : fields.YieldsOnly c.members c :=
  (Fields.YieldsOnly.pure (@Columns.mk Plain)).member "id" (.int c.id)
    |>.member "name" (.str c.name)
    |>.member "description" (.text? c.description)
    |>.member "parent_id" (.int c.parentId)
    |>.member "icon_url" (.text? c.iconUrl)
    |>.seq (.one "sort" YieldsOnly.int)
    |>.member "content_count" (.int c.contentCount)
    |>.member "status" (.tag (ActiveStatus.ofText?_spelling c.status))
    |>.member "created_at" (.timestamp h.createdAt)
    |>.member "updated_at" (.timestamp h.updatedAt)

/-- A dated category comes back. -/
theorem Category.faithful {c : Category} (h : c.Dated) : Faithful c :=
  (yieldsOnly h).decode (by decide) _

namespace CategoryNode

/-- The JSON of a list of nodes is that of each node in turn. -/
theorem toJsons_eq_map (ns : List CategoryNode) : toJsons ns = ns.map toJson := by
  induction ns with
  | nil => rfl
  | cons n ns ih => rw [toJsons, ih, List.map_cons]

/-- A node is written as an object. -/
theorem opens_toJson (n : CategoryNode) : Opens (toJson n) := by
  cases n with
  | node c ns =>
    rw [toJson]
    exact opens_obj _

theorem opens_of_mem {ns : List CategoryNode} {j : Json} (h : j ∈ toJsons ns) : Opens j := by
  rw [toJsons_eq_map] at h
  obtain ⟨n, -, rfl⟩ := List.mem_map.mp h
  exact opens_toJson n

mutual

/-- To however many levels a node is decoded, nothing but the node comes out. -/
theorem yieldsOnly (n : CategoryNode) (level : Nat) (h : ∀ x ∈ preorder level n, x.1.Dated)
    (depth : Nat) : YieldsOnly (decodeNode depth) (toJson n) n := by
  cases n with
  | node c ns =>
    rw [preorder] at h
    have hbelow := yieldsOnly_each ns (level + 1) fun x hx => h x (List.mem_cons_of_mem _ hx)
    have hlevels : ∀ levels, YieldsOnly (decodeNode (levels + 1)) (toJson (node c ns))
        (node c ns) := by
      intro levels
      refine YieldsOnly.flattened _ (Category.yieldsOnly (h _ List.mem_cons_self)) ?_ ?_
      · exact .one "children" (YieldsOnly.list (hbelow levels) fun _ => opens_of_mem)
      · show (Category.fields.names ++ ["children"]).Nodup
        decide
    cases depth with
    | succ levels => exact hlevels levels
    | zero =>
      -- with no level left nothing is decoded, whatever the text is read as
      obtain ⟨d, hread, hnull, -⟩ := hlevels 0
      exact ⟨d, hread, hnull, nofun⟩

/-- The nodes of a dated list are read one by one as themselves, at any depth that is left.
-/
theorem yieldsOnly_each (ns : List CategoryNode) (level : Nat)
    (h : ∀ x ∈ preorders level ns, x.1.Dated) (depth : Nat) :
    List.Forall₂ (YieldsOnly (decodeNode depth)) (toJsons ns) ns := by
  cases ns with
  | nil => exact .nil
  | cons n ns =>
    rw [preorders] at h
    exact .cons (yieldsOnly n level (fun x hx => h x (List.mem_append_left _ hx)) depth)
      (yieldsOnly_each ns level (fun x hx => h x (List.mem_append_right _ hx)) depth)

end

/-- A forest comes back as it was, or not at all if it is too deep. -/
theorem faithful {ns : List CategoryNode} (h : ∀ x ∈ preorders 0 ns, x.1.Dated) :
    Faithful ns := by
  refine Faithful.list (fun n hn => ?_) fun n _ => opens_toJson n
  have hnode := yieldsOnly n 0 fun x hx => h x (Category.preorder_subset_preorders hn 0 hx)
  exact YieldsOnly.choose (fun m _ => m.depth + 1) 0 hnode

end CategoryNode

/-! ## Profiles -/

/-- The timestamps of a user that are shown are of the calendar. -/
structure User.Columns.Dated {col : Type → Type} (u : User.Columns col) : Prop where
  lastLoginAt : ∀ t, u.lastLoginAt = some t → t.Valid
  createdAt : u.createdAt.Valid

@[inherit_doc User.Columns.Dated]
structure Profile.Dated (p : Profile) : Prop where
  lastLoginAt : ∀ t, p.lastLoginAt = some t → t.Valid
  createdAt : p.createdAt.Valid

/-- Every gender is read from its spelling. -/
theorem Gender.ofText?_spelling (g : Gender) : Tag.ofText? (Tag.spelling g) = some g := by
  cases g <;> decide

/-- Every status of a user is read from its spelling. -/
theorem UserStatus.ofText?_spelling (s : UserStatus) :
    Tag.ofText? (Tag.spelling s) = some s := by
  cases s <;> decide

/-- Every role is read from its spelling. -/
theorem UserRole.ofText?_spelling (r : UserRole) :
    Tag.ofText? (Tag.spelling r) = some r := by
  cases r <;> decide

/-- A member that is left out when there is nothing in it. -/
theorem Profile.yieldsOnly_given (name : String) (s : Option String) :
    (field name : Fields (Option String)).YieldsOnly (given name s) s := by
  cases s with
  | none => exact .leftOut name
  | some s => exact .one name (Faithful.text? (some s))

/-- A profile whose timestamps have been read from their texts. -/
def Profile.reread (p : Profile) : Profile :=
  { p with
    lastLoginAt := p.lastLoginAt.map Timestamp.reread,
    createdAt := p.createdAt.reread }

/-- Whatever the timestamps are, nothing else in a profile can change in its text. -/
theorem Profile.yieldsOnly (p : Profile) : YieldsOnly decode (encode p) p.reread := by
  have hcount : loginCountField.YieldsOnly
      [("login_count", encode p.loginCount)] p.loginCount :=
    .one "login_count" YieldsOnly.int
  have hlastLogin : YieldsOnly decode (encode p.lastLoginAt)
      (p.lastLoginAt.map Timestamp.reread) :=
    YieldsOnly.option fun t _ => ⟨.timestamp t, nofun⟩
  have hfields := (Fields.YieldsOnly.pure Profile.mk).member "id" (.int p.id)
    |>.member "username" (.str p.username)
    |>.seq (yieldsOnly_given "email" p.email)
    |>.seq (yieldsOnly_given "phone" p.phone)
    |>.member "nickname" (.text? p.nickname)
    |>.member "avatar" (.text? p.avatar)
    |>.member "bio" (.text? p.bio)
    |>.member "gender" (.tag (Gender.ofText?_spelling p.gender))
    |>.member "location" (.text? p.location)
    |>.member "status" (.tag (UserStatus.ofText?_spelling p.status))
    |>.member "role" (.tag (UserRole.ofText?_spelling p.role))
    |>.seq hcount
    |>.memberAs "last_login_at" hlastLogin
    |>.memberAs "created_at" (.timestamp p.createdAt)
  have hdecode := hfields.decode (by decide) "struct UserProfile"
  obtain ⟨id, username, email, phone, nickname, avatar, bio, gender, location, status,
      role, loginCount, lastLoginAt, createdAt⟩ := p
  -- which members there are depends on the contact data
  cases email <;> cases phone <;>
    simp only [given, List.append_nil, List.nil_append,
      List.cons_append] at hdecode <;> exact hdecode

/-- A profile whose times the calendar has reads as itself. -/
theorem Profile.reread_of_dated {p : Profile} (h : p.Dated) : p.reread = p := by
  have hlast : p.lastLoginAt.map Timestamp.reread = p.lastLoginAt := by
    cases hlogin : p.lastLoginAt with
    | none => rfl
    | some t => exact congrArg some (Timestamp.reread_of_valid (h.lastLoginAt t hlogin))
  rw [reread, hlast, Timestamp.reread_of_valid h.createdAt]

/-- A dated profile comes back. -/
theorem Profile.faithful {p : Profile} (h : p.Dated) : Faithful p := by
  have hreread := yieldsOnly p
  rwa [reread_of_dated h] at hreread

theorem Profile.opens (p : Profile) : Opens (encode p) :=
  opens_obj _

/-! ## Favourites -/

/-- The timestamps of a favourite are of the calendar. -/
structure Favorite.Columns.Dated {col : Type → Type} (f : Favorite.Columns col) : Prop where
  createdAt : f.createdAt.Valid
  updatedAt : f.updatedAt.Valid

/-- A favourite whose timestamps have been read from their texts. -/
def Favorite.reread (f : Favorite) : Favorite :=
  { f with createdAt := f.createdAt.reread, updatedAt := f.updatedAt.reread }

/-- Whatever the timestamps are, nothing else in a favourite can change in its text. -/
theorem Favorite.yieldsOnly (f : Favorite) : YieldsOnly decode (encode f) f.reread := by
  have hfields := (Fields.YieldsOnly.pure (@Columns.mk Plain)).member "id" (.int f.id)
    |>.member "favorite_type" (.tag (FavoriteType.ofText?_spelling f.favoriteType))
    |>.member "target_id" (.int f.targetId)
    |>.member "user_id" (.int f.userId)
    |>.member "target_title" (.text? f.targetTitle)
    |>.member "target_cover" (.text? f.targetCover)
    |>.member "target_author_id" (.int? f.targetAuthorId)
    |>.member "user_nickname" (.text? f.userNickname)
    |>.member "status" (.tag (RelationStatus.ofText?_spelling f.status))
    |>.memberAs "created_at" (.timestamp f.createdAt)
    |>.memberAs "updated_at" (.timestamp f.updatedAt)
  exact hfields.decode (by decide) _

/-- A dated favorite comes back. -/
theorem Favorite.faithful {f : Favorite} (h : f.Dated) : Faithful f := by
  have hreread := yieldsOnly f
  rwa [reread, Timestamp.reread_of_valid h.createdAt,
    Timestamp.reread_of_valid h.updatedAt] at hreread

end Community
