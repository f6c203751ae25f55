import Community.Proofs.Cache.Store
import Community.Proofs.Category.Depth
import Community.Proofs.Operation

/-!
# What is kept comes back as it was

Everything that the service keeps in its cache is written as text. None of it is lost there,
as long as its numbers are in the ranges of their columns and its timestamps are of the
calendar: names, titles and nicknames may be any text at all. There is one limit, which is on
the depth of the text:

> `kept_values_come_back`: each kind of value is decoded from its own text and read under
> its key until it expires. A forest in which a chain of nodes is longer than 63 is not
> decoded, and not found.
-/

namespace Community

open Json CategoryNode

variable {α : Type}

/-- What comes of a value that is kept: its text is decoded as `found`, and so is what the
cache has under its key, as long as it is live and has not been replaced. -/
structure Cache.Recalls [Encode α] [Decode α] (a : α) (found : Option α) : Prop where
  decoded : (parse (encode a).render).toOption = found
  answered : ∀ (c c' : Cache) (key : String) (now later ttl : Nat),
    c.down .set = false → c'.down .get = false →
    c'.store.find? key = (c.set now key a ttl).store.find? key → later < now + 1000 * ttl →
    (c'.get later key).1 = found

/-- What the text of a value is decoded as is what the cache answers. -/
theorem Cache.recalls_of_decoded [Encode α] [Decode α] {a : α} {found : Option α}
    (h : (parse (encode a).render).toOption = found) : Cache.Recalls a found := by
  refine ⟨h, fun c c' key now later ttl hset hget hsame hlive => ?_⟩
  have hkept : c'.store.find? key = some ⟨key, (encode a).render, now + 1000 * ttl⟩ := by
    rw [hsame, Cache.set, Cache.setText, hset]
    exact Store.find?_set_self
  have htext : c'.getText later key = (some (encode a).render, c'.note (.get key .hit)) := by
    rw [Cache.getText, hget, Store.get_of_live hkept hlive]
    rfl
  rw [Cache.get, htext]
  dsimp only
  cases hparse : (parse (encode a).render : Except Json.Fault α) with
  | ok b => rw [← h, hparse]; rfl
  | error f => rw [← h, hparse]; rfl

/-- What is parsed as itself is recalled as itself. -/
theorem Cache.recalls_self [Encode α] [Decode α] {a : α}
    (h : parse (encode a).render = .ok a) : Cache.Recalls a (some a) :=
  recalls_of_decoded (by rw [h]; rfl)

/-! ## Profiles -/

/-- The numbers of a profile are in their ranges, its timestamps of the calendar. -/
structure Profile.Fits (p : Profile) : Prop where
  id : Text.IsInt64 p.id
  loginCount : Text.IsInt32 p.loginCount
  lastLoginAt : ∀ t, p.lastLoginAt = some t → t.Valid
  createdAt : p.createdAt.Valid

/-- A member that is left out when there is nothing in it. -/
theorem Profile.reads_given {k : Nat} (name : String) (s : Option String) :
    (field name : Fields (Option String)).Reads k (given name s) s := by
  cases s with
  | none => exact .leftOut name
  | some s => exact .one name (ReadsBack.text? (some s))

/-- Which members there are depends on the contact data. -/
theorem Profile.reads {k : Nat} {p : Profile} (h : p.Fits) :
    ∃ ms, encode p = .obj ms ∧ fields.Reads k ms p := by
  have hcount : loginCountField.Reads k
      [("login_count", encode p.loginCount)] p.loginCount :=
    .one "login_count" (.int32 h.loginCount)
  have hfields := (Fields.Reads.pure (k := k) Profile.mk).member "id" (.int64 h.id)
    |>.member "username" (.str p.username)
    |>.seq (reads_given "email" p.email)
    |>.seq (reads_given "phone" p.phone)
    |>.member "nickname" (.text? p.nickname)
    |>.member "avatar" (.text? p.avatar)
    |>.member "bio" (.text? p.bio)
    |>.member "gender" (.tag (Gender.ofText?_spelling p.gender))
    |>.member "location" (.text? p.location)
    |>.member "status" (.tag (UserStatus.ofText?_spelling p.status))
    |>.member "role" (.tag (UserRole.ofText?_spelling p.role))
    |>.seq hcount
    |>.member "last_login_at" (.option fun t ht => ⟨.timestamp (h.lastLoginAt t ht), nofun⟩)
    |>.member "created_at" (.timestamp h.createdAt)
  refine ⟨_, congrArg Json.obj ?_, hfields⟩
  simp only [List.append_assoc, List.cons_append, List.nil_append]

/-- A profile whose numbers and times are in range comes back. -/
theorem Profile.readsBack {k : Nat} {p : Profile} (h : p.Fits) : ReadsBack (k + 1) p := by
  obtain ⟨ms, hencode, hreads⟩ := reads (k := k) h
  exact hreads.readsBack (by decide) hencode rfl

/-! ## Lists -/

/-- The numbers of a page are unsigned ones of 64 bits. -/
structure Listing.Fits (l : Listing α) : Prop where
  total : l.total ≤ Text.word64Max
  page : l.page ≤ Text.word64Max
  size : l.size ≤ Text.word64Max
  pages : l.pages ≤ Text.word64Max

section Listings

variable [Encode α] [Decode α] {k : Nat} {l : Listing α}

/-- A listing is read from its members, if its rows come back. -/
theorem Listing.reads (h : l.Fits) (hitems : ∀ a ∈ l.items, ReadsBack k a)
    (hopens : ∀ a ∈ l.items, Opens (encode a)) : fields.Reads (k + 1) l.members l :=
  (Fields.Reads.pure (@Listing.mk α)).member "datas" (.list hitems hopens)
    |>.member "total" (.nat h.total)
    |>.member "current_page" (.nat h.page)
    |>.member "page_size" (.nat h.size)
    |>.member "total_page" (.nat h.pages)

/-- So a listing comes back. -/
theorem Listing.readsBack (h : l.Fits) (hitems : ∀ a ∈ l.items, ReadsBack k a)
    (hopens : ∀ a ∈ l.items, Opens (encode a)) : ReadsBack (k + 2) l :=
  (reads h hitems hopens).readsBack
    (show ["datas", "total", "current_page", "page_size", "total_page"].Nodup by
      decide) rfl rfl

end Listings

/-! ## At the limit -/

/-- A chain of `n` nodes above a leaf. -/
def CategoryNode.tower : Nat → CategoryNode
  | 0 => node Category.sample []
  | n + 1 => node Category.sample [tower n]

/-- A tower of so many levels on a node is one level higher. -/
theorem CategoryNode.heights_tower (n : Nat) : heights [tower n] = n + 1 := by
  induction n with
  | zero => rfl
  | succ n ih => rw [tower, heights, height, ih, heights, Nat.max_zero, Nat.add_comm]

theorem Category.fits_sample : Category.sample.Fits :=
  ⟨⟨by decide, by decide⟩, ⟨by decide, by decide⟩, ⟨by decide, by decide⟩,
    ⟨by decide, by decide⟩, by decide, by decide⟩

/-- All of its nodes are in range. -/
theorem CategoryNode.fits_tower (n : Nat) {level : Nat} :
    ∀ x ∈ preorders level [tower n], x.1.Fits := by
  induction n generalizing level with
  | zero =>
    intro x hx
    obtain rfl := List.mem_singleton.mp hx
    exact Category.fits_sample
  | succ n ih =>
    intro x hx
    rw [tower, preorders, preorder, preorders, List.append_nil] at hx
    rcases List.mem_cons.mp hx with rfl | hx
    · exact Category.fits_sample
    · exact ih x hx

/-- What a cache that was empty answers just before the value expires that it was given. -/
def Cache.echo [Encode α] [Decode α] (a : α) : Option α :=
  (((({ policy := {} } : Cache).set 0 "key" a 5000).get 4999999 "key") : Option α × Cache).1

/-- What the cache recalls is what comes back when a value is set and got. -/
theorem Cache.Recalls.echo_eq [Encode α] [Decode α] {a : α} {found : Option α}
    (h : Cache.Recalls a found) : Cache.echo a = found :=
  h.answered { policy := {} } _ "key" 0 4999999 5000 rfl rfl rfl (by decide)

/-! ## All that is kept -/

/-- Every value that is kept comes back as it was: a category, a profile with contact data or
without, a page of profiles or of favourites, and the outcome of a toggle. A forest comes
back if no chain of nodes in it is longer than 63; any other is an error when it is decoded,
and missing when it is looked up. -/
theorem kept_values_come_back :
    (∀ c : Category, c.Fits → Cache.Recalls c (some c)) ∧
    (∀ p : Profile, p.Fits → Cache.Recalls p (some p)) ∧
    (∀ l : Listing Profile, l.Fits → (∀ p ∈ l.items, p.Fits) → Cache.Recalls l (some l)) ∧
    (∀ l : Listing Favorite, l.Fits → (∀ f ∈ l.items, f.Fits) → Cache.Recalls l (some l)) ∧
    (∀ o : LikeOutcome, o.record.Fits → Cache.Recalls o (some o)) ∧
    (∀ o : FavoriteOutcome, o.record.Fits → Cache.Recalls o (some o)) ∧
    ∀ ns : List CategoryNode, (∀ x ∈ preorders 0 ns, x.1.Fits) →
      ((∀ chain, Chain ns chain → chain.length ≤ 63) → Cache.Recalls ns (some ns)) ∧
      ((∃ chain, Chain ns chain ∧ 63 < chain.length) → Cache.Recalls ns none) := by
  refine ⟨fun c hc => ?_, fun p hp => ?_, fun l hl hitems => ?_, fun l hl hitems => ?_,
    fun o ho => ?_,
    fun o ho => ?_, fun ns hns => ⟨fun hchains => ?_, fun ⟨chain, hchain, hlong⟩ => ?_⟩⟩
  · exact Cache.recalls_self ((Category.readsBack (k := 0) hc).parse_render (by decide))
  · exact Cache.recalls_self ((Profile.readsBack (k := 0) hp).parse_render (by decide))
  · have hback : ReadsBack 3 l :=
      Listing.readsBack hl (fun p hp => Profile.readsBack (k := 0) (hitems p hp))
        fun p _ => p.opens
    exact Cache.recalls_self (hback.parse_render (by decide))
  · have hback : ReadsBack 3 l :=
      Listing.readsBack hl (fun f hf => Favorite.readsBack (k := 0) (hitems f hf))
        fun f _ => opens_obj _
    exact Cache.recalls_self (hback.parse_render (by decide))
  · exact Cache.recalls_self (LikeOutcome.parse_render ho)
  · exact Cache.recalls_self (FavoriteOutcome.parse_render ho)
  · exact Cache.recalls_self (CategoryNode.parse_render hns (heights_le_iff.mpr hchains))
  · obtain ⟨f, hf⟩ := parse_render_of_deep (fun x hx => (hns x hx).dated)
      (Nat.lt_of_lt_of_le hlong hchain.length_le)
    exact Cache.recalls_of_decoded (by rw [hf]; rfl)

/-- A category, a profile with marks that have to be escaped and a leap second, lists of one
item and the outcomes of two toggles come back. Of two towers of categories, the one of 63
nodes does and the one of 64 does not. -/
theorem kept_values_come_back_sample :
    let p : Profile := { Profile.owned User.sample with
      phone := some "+1 555"
      nickname := some "\"Ada\"\n\x01 \\ \u266a"
      lastLoginAt := some ⟨2016, 12, 31, 18, 59, 60, 120000000, -300⟩ }
    let like := Like.ofToggle 1 ⟨.content, 7, none, none, none, none⟩ (.ofMicros 1000) 1
    let favorite := Favorite.ofToggle 1 ⟨.content, 7, none, none, none, none⟩
      (.ofMicros 1001) 1
    (Category.sample.Fits ∧ p.Fits ∧ like.Fits ∧ favorite.Fits) ∧
      Cache.echo Category.sample = some Category.sample ∧ Cache.echo p = some p ∧
      Cache.echo (Listing.of [p] 1 .first) = some (Listing.of [p] 1 .first) ∧
      Cache.echo (Listing.of [favorite] 1 .first) = some (Listing.of [favorite] 1 .first) ∧
      Cache.echo (LikeOutcome.mk true like) = some ⟨true, like⟩ ∧
      Cache.echo (FavoriteOutcome.mk true favorite) = some ⟨true, favorite⟩ ∧
      Cache.echo [tower 62] = some [tower 62] ∧ Cache.echo [tower 63] = none := by
  intro p like favorite
  have hone : Text.IsInt64 1 := ⟨by decide, by decide⟩
  have hseven : Text.IsInt64 7 := ⟨by decide, by decide⟩
  have hp : p.Fits :=
    ⟨hone, ⟨by decide, by decide⟩, fun t ht => by cases ht; decide, by decide⟩
  have hlike : like.Fits := ⟨hone, hseven, hone, nofun, by decide, by decide⟩
  have hfavorite : favorite.Fits := ⟨hone, hseven, hone, nofun, by decide, by decide⟩
  obtain ⟨hcategories, hprofiles, hprofilePages, hfavoritePages, hlikes,
      hfavorites, hforests⟩ :=
    kept_values_come_back
  have hlow : ∀ chain, Chain [tower 62] chain → chain.length ≤ 63 :=
    heights_le_iff.mp (Nat.le_of_eq (heights_tower 62))
  have hhigh : ∃ chain, Chain [tower 63] chain ∧ 63 < chain.length := by
    obtain ⟨chain, hchain, hlength⟩ := exists_chain_length_eq (heights_tower 63)
    exact ⟨chain, hchain, by omega⟩
  refine ⟨⟨Category.fits_sample, hp, hlike, hfavorite⟩,
    (hcategories _ Category.fits_sample).echo_eq, (hprofiles p hp).echo_eq,
    (hprofilePages _ ⟨by decide, by decide, by decide, by decide⟩ fun q hq => ?_).echo_eq,
    (hfavoritePages _ ⟨by decide, by decide, by decide, by decide⟩ fun f hf => ?_).echo_eq,
    (hlikes ⟨true, like⟩ hlike).echo_eq, (hfavorites ⟨true, favorite⟩ hfavorite).echo_eq,
    ((hforests _ (fits_tower 62)).1 hlow).echo_eq,
    ((hforests _ (fits_tower 63)).2 hhigh).echo_eq⟩
  · rw [List.mem_singleton.mp hq]
    exact hp
  · rw [List.mem_singleton.mp hf]
    exact hfavorite

end Community
