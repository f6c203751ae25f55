import Community.Database.Record
import Community.Proofs.Operation

/-!
# Texts and the widths of their columns

Requests are checked for the lengths of their texts, and columns are declared for so
many characters. The two were written down independently. A row fits its table if no
text is longer than its column is wide; what is made here of requests without issues
is compared with that.

> `Category.fits_ofRequest_iff`, `Category.fits_changed_iff`, `Like.fits_ofToggle_iff`,
> `Like.fits_toggled_iff`, `Favorite.fits_ofToggle_iff`, `Favorite.fits_toggled_iff`,
> `User.fits_changed_iff`: there are seven texts that the checks let be longer than their
> columns, and these alone decide whether the row fits.

All other texts fit whatever a request without issues says.
-/

namespace Community

open Database Time Text

/-! ## Columns and rows -/

/-- Whether a column takes a value: no text that is longer than the column is wide. -/
def Database.ColumnInfo.takes (info : ColumnInfo) (value : Json) : Bool :=
  match info.width, Record.text? value with
  | some width, some s => s.length ≤ width
  | _, _ => true

/-- Whether the columns of the table take what a row has for them. -/
def Database.Record.fits {ρ α : Type} [Entity ρ α] [Record ρ] (r : ρ) : Bool :=
  (schema (Entity.name ρ)).columns.all fun info =>
    info.takes (((Record.columns r).lookup info.name).getD .null)

/-- The text has at most so many characters, if there is one. -/
def Within (most : Nat) (text? : Option String) : Prop :=
  ∀ s ∈ text?, s.length ≤ most

/-- A text that is short enough for one width is short enough for a larger one. -/
theorem Within.mono {n m : Nat} {text? : Option String} (h : Within n text?) (hle : n ≤ m) :
    Within m text? :=
  fun s hs => Nat.le_trans (h s hs) hle

/-- A text that may take the place of one that is short enough. -/
theorem within_orElse_iff {most : Nat} {new old : Option String} (hold : Within most old) :
    Within most (new <|> old) ↔ Within most new := by
  cases new with
  | none => exact iff_of_true hold fun _ hs => by cases hs
  | some s => rfl

/-- The spellings of the tag are short enough for the columns that hold tags. -/
class Tag.Short (α : Type) [Tag α] : Prop where
  length_spelling_le : ∀ a : α, (Tag.spelling a).length ≤ 16

instance : Tag.Short ActiveStatus := ⟨fun a => by cases a <;> decide⟩
instance : Tag.Short Gender := ⟨fun a => by cases a <;> decide⟩
instance : Tag.Short UserStatus := ⟨fun a => by cases a <;> decide⟩
instance : Tag.Short UserRole := ⟨fun a => by cases a <;> decide⟩
instance : Tag.Short LikeType := ⟨fun a => by cases a <;> decide⟩
instance : Tag.Short FavoriteType := ⟨fun a => by cases a <;> decide⟩
instance : Tag.Short RelationStatus := ⟨fun a => by cases a <;> decide⟩
instance : Tag.Short SearchType := ⟨fun a => by cases a <;> decide⟩

namespace Database.ColumnInfo

variable (name default : String) (width : Nat) (value : Json)

@[simp]
theorem takes_key : key.takes value = true := rfl

@[simp]
theorem takes_required : (required name).takes value = true := rfl

@[simp]
theorem takes_optional : (optional name).takes value = true := rfl

@[simp]
theorem takes_counter : (counter name).takes value = true := rfl

@[simp]
theorem takes_time : (time name).takes value = true := rfl

/-- A text column takes the texts that are no longer than its width. -/
@[simp]
theorem takes_text (s : String) :
    (text name width).takes (encode s) = decide (s.length ≤ width) := rfl

/-- A text column that may be null takes null, and the texts within its width. -/
@[simp]
theorem takes_optionalText (s : Option String) :
    (optionalText name width).takes (encode s) = true ↔ Within width s := by
  cases s with
  | none => exact iff_of_true rfl fun _ hs => by cases hs
  | some s =>
    exact decide_eq_true_iff.trans ⟨fun h t ht => by cases ht; exact h, fun h => h s rfl⟩

/-- A column of tags takes every tag whose spellings are all short. -/
@[simp]
theorem takes_tag {α : Type} [Tag α] [Tag.Short α] (a : α) :
    (tag name default).takes (Record.ofTag (.tag a)) = true :=
  decide_eq_true (Tag.Short.length_spelling_le a)

/-- So does the plain text column a tag is kept in where it has no default. -/
@[simp]
theorem takes_text_tag {α : Type} [Tag α] [Tag.Short α] (a : α) :
    (text name 16).takes (Record.ofTag (.tag a)) = true :=
  decide_eq_true (Tag.Short.length_spelling_le a)

@[simp]
theorem name_text : (text name width).name = name := rfl

@[simp]
theorem name_optionalText : (optionalText name width).name = name := rfl

@[simp]
theorem name_tag : (tag name default).name = name := rfl

end Database.ColumnInfo

/-- A category fits its row when its name and its icon's address do. -/
theorem Category.fits_stored_iff (c : Category) :
    Record.fits c.stored = true ↔ c.name.length ≤ 100 ∧ Within 500 c.iconUrl := by
  simp [Record.fits, schema, Entity.name, Record.columns, List.lookup_cons, Columns.stored]

/-- A user fits its row when seven texts are within their widths. -/
theorem User.fits_stored_iff (u : User) :
    Record.fits u.stored = true ↔ u.username.length ≤ 64 ∧ Within 255 u.email ∧
    Within 32 u.phone ∧
      Within 255 u.passwordHash ∧ Within 100 u.nickname ∧ Within 500 u.avatar ∧
      Within 100 u.location := by
  simp [Record.fits, schema, Entity.name, Record.columns, List.lookup_cons, Columns.stored]

/-- A like fits its row when the three texts it keeps for display do. -/
theorem Like.fits_stored_iff (l : Like) :
    Record.fits l.stored = true ↔
      Within 200 l.targetTitle ∧ Within 100 l.userNickname ∧ Within 500 l.userAvatar := by
  simp [Record.fits, schema, Entity.name, Record.columns, List.lookup_cons, Columns.stored]

/-- A favorite fits its row when the three texts it keeps for display do. -/
theorem Favorite.fits_stored_iff (f : Favorite) :
    Record.fits f.stored = true ↔
      Within 200 f.targetTitle ∧ Within 500 f.targetCover ∧ Within 100 f.userNickname := by
  simp [Record.fits, schema, Entity.name, Record.columns, List.lookup_cons, Columns.stored]

/-- An entry of the history fits its row when the keyword does. -/
theorem HistoryEntry.fits_stored_iff (e : HistoryEntry) :
    Record.fits e.stored = true ↔ e.keyword.length ≤ 200 := by
  simp [Record.fits, schema, Entity.name, Record.columns, List.lookup_cons, Columns.stored]

/-- A hot search fits its row when the keyword does. -/
theorem HotSearch.fits_stored_iff (h : HotSearch) :
    Record.fits h.stored = true ↔ h.keyword.length ≤ 200 := by
  simp [Record.fits, schema, Entity.name, Record.columns, List.lookup_cons, Columns.stored]

/-! ## Requests without issues -/

/-- A text that passes a check with an upper bound is no longer than the bound. -/
theorem Check.length_le {field s : String} {least : Option Nat} {most : Nat}
    (h : length field least (some most) s = []) : s.length ≤ most := by
  rw [length] at h
  split at h
  · next hbounds => exact of_decide_eq_true (Bool.and_eq_true_iff.mp hbounds).2
  · cases h

/-- So is a text that may be left out. -/
theorem Check.within {field : String} {least : Option Nat} {most : Nat}
    {text? : Option String} (h : given (length field least (some most)) text? = []) :
    Within most text? := by
  rintro s rfl
  exact length_le h

/-- Trimming makes no text longer. -/
theorem Text.length_trim_le (s : String) : (trim s).length ≤ s.length := by
  have hdrop : ∀ cs : List Char, (dropBlanks cs).length ≤ cs.length := fun cs =>
    (List.dropWhile_suffix _).length_le
  have hback := hdrop (dropBlanks s.toList).reverse
  have hfront := hdrop s.toList
  rw [List.length_reverse] at hback
  rw [trim, String.length_ofList, trimChars, List.length_reverse, ← String.length_toList]
  omega

/-- A text that is given in place of another is as short as both. -/
theorem length_getD_le {most : Nat} {new : Option String} {old : String}
    (hnew : Within most new) (hold : old.length ≤ most) : (new.getD old).length ≤ most := by
  cases new with
  | none => exact hold
  | some s => exact hnew s rfl

namespace Category

variable {now : Timestamp} {id : Int}

/-- Of a request that passed its checks only the icon's address can be too wide: the check
takes 512 characters, the column 500. -/
theorem fits_ofRequest_iff {r : NewCategory} (h : r.issues = []) :
    Record.fits (ofRequest r now id).stored = true ↔ Within 500 r.iconUrl := by
  rw [NewCategory.issues, List.append_eq_nil_iff, List.append_eq_nil_iff,
    List.append_eq_nil_iff] at h
  have hname : (trim r.name).length ≤ 100 := by
    have := length_trim_le r.name
    have := Check.length_le h.1.1.1
    omega
  exact (fits_stored_iff _).trans (and_iff_right hname)

/-- The same holds of the change of a category. -/
theorem fits_changed_iff {r : CategoryChange} {c : Category} (h : r.issues = [])
    (hc : Record.fits c.stored = true) :
    Record.fits (c.changed r now).stored = true ↔ Within 500 r.iconUrl := by
  rw [CategoryChange.issues, List.append_eq_nil_iff, List.append_eq_nil_iff,
    List.append_eq_nil_iff] at h
  obtain ⟨hold, hicon⟩ := (fits_stored_iff c).mp hc
  have hgiven : Within 100 (r.name.map trim) := by
    rintro s hs
    obtain ⟨raw, hraw, rfl⟩ := Option.map_eq_some_iff.mp hs
    have := length_trim_le raw
    have := Check.within h.1.1.1 raw hraw
    omega
  rw [fits_stored_iff, and_iff_right (show (c.changed r now).name.length ≤ 100 from
    length_getD_le hgiven hold)]
  exact within_orElse_iff hicon

end Category

namespace Like

variable {userId id : Int} {r : LikeToggle} {now : Timestamp}

/-- Of a like that passed its checks the title and the avatar can be too wide. -/
theorem fits_ofToggle_iff (h : r.issues = []) :
    Record.fits (ofToggle userId r now id).stored = true ↔
      Within 200 r.targetTitle ∧ Within 500 r.userAvatar := by
  rw [LikeToggle.issues, List.append_eq_nil_iff, List.append_eq_nil_iff,
    List.append_eq_nil_iff] at h
  have hnickname : Within 100 r.userNickname := (Check.within h.1.2).mono (by decide)
  exact (fits_stored_iff _).trans (and_congr_right fun _ => and_iff_right hnickname)

/-- A further toggle does not change the title. -/
theorem fits_toggled_iff {l : Like} (h : r.issues = []) (hl : Record.fits l.stored = true) :
    Record.fits (Columns.toggled l r now).stored = true ↔ Within 500 r.userAvatar := by
  rw [LikeToggle.issues, List.append_eq_nil_iff, List.append_eq_nil_iff,
    List.append_eq_nil_iff] at h
  obtain ⟨htitle, hold, havatar⟩ := (fits_stored_iff l).mp hl
  have hnickname : Within 100 (r.userNickname <|> l.userNickname) :=
    (within_orElse_iff hold).mpr ((Check.within h.1.2).mono (by decide))
  refine (fits_stored_iff _).trans
    ((and_iff_right htitle).trans ((and_iff_right hnickname).trans ?_))
  exact within_orElse_iff havatar

end Like

namespace Favorite

variable {userId id : Int} {r : FavoriteToggle} {now : Timestamp}

/-- Of a favorite that passed its checks the title and the cover can be too wide. -/
theorem fits_ofToggle_iff (h : r.issues = []) :
    Record.fits (ofToggle userId r now id).stored = true ↔
      Within 200 r.targetTitle ∧ Within 500 r.targetCover := by
  rw [FavoriteToggle.issues, List.append_eq_nil_iff, List.append_eq_nil_iff,
    List.append_eq_nil_iff] at h
  have hnickname : Within 100 r.userNickname := (Check.within h.2).mono (by decide)
  exact (fits_stored_iff _).trans (and_congr_right fun _ => and_iff_left hnickname)

/-- A favorite that is turned takes the title and the cover of the call, and these can be too
wide. -/
theorem fits_toggled_iff {f : Favorite} (hf : Record.fits f.stored = true) :
    Record.fits (Columns.toggled f r now).stored = true ↔
      Within 200 r.targetTitle ∧ Within 500 r.targetCover := by
  obtain ⟨htitle, hcover, hnickname⟩ := (fits_stored_iff f).mp hf
  refine (fits_stored_iff _).trans (and_congr (within_orElse_iff htitle) ?_)
  exact (and_iff_left hnickname).trans (within_orElse_iff hcover)

end Favorite

/-- Of a change of the profile the address of mail and the avatar can be too wide. -/
theorem User.fits_changed_iff {r : ProfileChange} {u : User} {now : Timestamp}
    (h : r.issues = []) (hu : Record.fits u.stored = true) :
    Record.fits (u.changed r now).stored = true ↔
    Within 255 r.email ∧ Within 500 r.avatar := by
  rw [ProfileChange.issues, List.append_eq_nil_iff, List.append_eq_nil_iff,
    List.append_eq_nil_iff, List.append_eq_nil_iff, List.append_eq_nil_iff] at h
  obtain ⟨husername, hemail, hphone, hhash, hnickname, havatar, hlocation⟩ :=
    (fits_stored_iff u).mp hu
  have husername' : (r.username.getD u.username).length ≤ 64 :=
    length_getD_le ((Check.within h.1.1.1.1.1).mono (by decide)) husername
  have hnickname' : Within 100 (r.nickname <|> u.nickname) :=
    (within_orElse_iff hnickname).mpr ((Check.within h.1.1.1.2).mono (by decide))
  have hlocation' : Within 100 (r.location <|> u.location) :=
    (within_orElse_iff hlocation).mpr (Check.within h.2)
  refine (fits_stored_iff _).trans
    ⟨fun ⟨_, hnew, _, _, _, havatar', _⟩ => ?_, fun ⟨hnew, havatar'⟩ => ?_⟩
  · exact ⟨(within_orElse_iff hemail).mp hnew, (within_orElse_iff havatar).mp havatar'⟩
  · exact ⟨husername', (within_orElse_iff hemail).mpr hnew, hphone, hhash, hnickname',
      (within_orElse_iff havatar).mpr havatar', hlocation'⟩

section Traces

variable {r : SearchRequest} {now : Timestamp}

/-- The entry of a search that passed its checks always fits. -/
theorem HistoryEntry.fits_ofSearch (h : r.issues = []) (userId : Int) (total : Nat)
    (id : Int) :
    Record.fits (ofSearch userId r.keyword r.searchType total now id).stored = true :=
  (fits_stored_iff _).mpr (Nat.le_trans (Check.length_le h) (by decide))

/-- So does the hot search of its keyword. -/
theorem HotSearch.fits_ofKeyword (h : r.issues = []) (id : Int) :
    Record.fits (ofKeyword r.keyword now id).stored = true :=
  (fits_stored_iff _).mpr (Nat.le_trans (Check.length_le h) (by decide))

/-- Counting changes no text. -/
theorem HotSearch.fits_counted (h : Row) (count : Int) (now : Timestamp) :
    Record.fits { h with searchCount := count, updatedAt := now } = Record.fits h := rfl

end Traces

end Community
