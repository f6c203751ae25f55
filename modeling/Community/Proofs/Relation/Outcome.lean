import Community.Proofs.Json.Record
import Community.Proofs.Time.Timestamp
import Community.Relation.Input

/-!
# Outcomes of toggles are read back

The outcome of a toggle is kept as text. It comes back as it was, as long as its numbers fit
in 64 bits and its timestamps are of the calendar (`LikeOutcome.parse_render`,
`FavoriteOutcome.parse_render`). Titles, nicknames and pictures may be any text at all.
-/

namespace Community

open Json Time

/-- A signed 64-bit number. -/
def Text.IsInt64 (n : Int) : Prop :=
  int64Min ≤ n ∧ n ≤ int64Max

/-- A number of 64 bits comes back. -/
theorem Json.ReadsBack.int64 {k : Nat} {n : Int} (h : Text.IsInt64 n) : ReadsBack k n :=
  .int h.1 h.2

/-- A tag whose spelling is read as the tag itself comes back. -/
theorem Json.ReadsBack.tag {α : Type} [Tag α] {k : Nat} {a : α}
    (h : Tag.ofText? (Tag.spelling a) = some a) : ReadsBack k a := by
  refine ⟨_, ReadAs.str (Tag.spelling a), nofun, fun m hm => ?_⟩
  show decodeVariant (Tag.title α) (Tag.table α) m _ = _
  rw [Tag.ofText?] at h
  simp only [decodeVariant, decodeVariant.pick, h]

/-- A timestamp that the calendar has comes back. -/
theorem Json.ReadsBack.timestamp {k : Nat} {t : Timestamp} (h : t.Valid) :
    ReadsBack k t := by
  refine ⟨_, ReadAs.str t.render, nofun, fun m hm => ?_⟩
  show decodeTimestamp m _ = _
  simp only [decodeTimestamp, Timestamp.read?_render h]

theorem Json.ReadsBack.text? {k : Nat} (s : Option String) : ReadsBack k s :=
  .option fun a _ => ⟨.str a, nofun⟩

theorem Json.ReadsBack.int64? {k : Nat} {n : Option Int}
    (h : ∀ a, n = some a → Text.IsInt64 a) : ReadsBack k n :=
  .option fun a ha => ⟨.int64 (h a ha), nofun⟩

/-! ## Likes -/

/-- The numbers of a like are of 64 bits, its timestamps of the calendar. -/
structure Like.Columns.Fits {col : Type → Type} (l : Like.Columns col) : Prop where
  id : Text.IsInt64 l.id
  targetId : Text.IsInt64 l.targetId
  userId : Text.IsInt64 l.userId
  targetAuthorId : ∀ a, l.targetAuthorId = some a → Text.IsInt64 a
  createdAt : l.createdAt.Valid
  updatedAt : l.updatedAt.Valid

/-- Every type of like is read from its spelling. -/
theorem LikeType.ofText?_spelling (t : LikeType) :
    Tag.ofText? (Tag.spelling t) = some t := by
  cases t <;> decide

/-- Every status of a relation is read from its spelling. -/
theorem RelationStatus.ofText?_spelling (s : RelationStatus) :
    Tag.ofText? (Tag.spelling s) = some s := by
  cases s <;> decide

/-- A like whose numbers and times are in range comes back. -/
theorem Like.readsBack {k : Nat} {l : Like} (h : l.Fits) : ReadsBack (k + 1) l := by
  have hfields := (Fields.Reads.pure (k := k) (@Columns.mk Plain)).member "id" (.int64 h.id)
    |>.member "like_type" (.tag (LikeType.ofText?_spelling l.likeType))
    |>.member "target_id" (.int64 h.targetId)
    |>.member "user_id" (.int64 h.userId)
    |>.member "target_title" (.text? l.targetTitle)
    |>.member "target_author_id" (.int64? h.targetAuthorId)
    |>.member "user_nickname" (.text? l.userNickname)
    |>.member "user_avatar" (.text? l.userAvatar)
    |>.member "status" (.tag (RelationStatus.ofText?_spelling l.status))
    |>.member "created_at" (.timestamp h.createdAt)
    |>.member "updated_at" (.timestamp h.updatedAt)
  exact hfields.readsBack (by decide) rfl rfl

/-- The outcome of a toggle is parsed from its marker as it was: a replay answers the first
outcome. -/
theorem LikeOutcome.parse_render {o : LikeOutcome} (h : o.record.Fits) :
    parse (encode o).render = .ok o := by
  have hfields := (Fields.Reads.pure (k := 1) LikeOutcome.mk).member "liked" (.bool o.liked)
    |>.member "record" (Like.readsBack h)
  exact (hfields.readsBack (by decide) rfl rfl).parse_render (by decide)

/-! ## Favourites -/

/-- The numbers of a favourite are of 64 bits, its timestamps of the calendar. -/
structure Favorite.Columns.Fits {col : Type → Type} (f : Favorite.Columns col) : Prop where
  id : Text.IsInt64 f.id
  targetId : Text.IsInt64 f.targetId
  userId : Text.IsInt64 f.userId
  targetAuthorId : ∀ a, f.targetAuthorId = some a → Text.IsInt64 a
  createdAt : f.createdAt.Valid
  updatedAt : f.updatedAt.Valid

/-- Every type of favorite is read from its spelling. -/
theorem FavoriteType.ofText?_spelling (t : FavoriteType) :
    Tag.ofText? (Tag.spelling t) = some t := by
  cases t <;> decide

/-- A favorite whose numbers and times are in range comes back. -/
theorem Favorite.readsBack {k : Nat} {f : Favorite} (h : f.Fits) : ReadsBack (k + 1) f := by
  have hfields := (Fields.Reads.pure (k := k) (@Columns.mk Plain)).member "id" (.int64 h.id)
    |>.member "favorite_type" (.tag (FavoriteType.ofText?_spelling f.favoriteType))
    |>.member "target_id" (.int64 h.targetId)
    |>.member "user_id" (.int64 h.userId)
    |>.member "target_title" (.text? f.targetTitle)
    |>.member "target_cover" (.text? f.targetCover)
    |>.member "target_author_id" (.int64? h.targetAuthorId)
    |>.member "user_nickname" (.text? f.userNickname)
    |>.member "status" (.tag (RelationStatus.ofText?_spelling f.status))
    |>.member "created_at" (.timestamp h.createdAt)
    |>.member "updated_at" (.timestamp h.updatedAt)
  exact hfields.readsBack (by decide) rfl rfl

/-- So is the outcome of the toggle of a favorite. -/
theorem FavoriteOutcome.parse_render {o : FavoriteOutcome} (h : o.record.Fits) :
    parse (encode o).render = .ok o := by
  have hfields := (Fields.Reads.pure (k := 1) FavoriteOutcome.mk).member "favorited"
      (.bool o.favorited)
    |>.member "record" (Favorite.readsBack h)
  exact (hfields.readsBack (by decide) rfl rfl).parse_render (by decide)

end Community
