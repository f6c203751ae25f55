import Community.Proofs.Cache.Dated
import Community.Proofs.Schema.Width
import Community.Proofs.Search.Trace

/-!
# What requests without issues write

The service writes texts into six tables. Whether a text is too long for its column is up to
the request alone, and there are seven texts for which the checks do not see to it: the icon
of a category, the title of a liked thing and the picture of the one who likes it, the title
and the picture of a favourite, and the mail address and the picture of a user.

> `accepted_texts_fit`: an operation that writes something writes what fits exactly if those
> of these texts that it writes are short enough. If they always are, nothing that is
> written ever fails to fit.

One table with texts is written at a time, but for the two of a search; all
others are as they were.
-/

namespace Community

open Procedure Database Time

namespace Database

variable {ρ α : Type} [Entity ρ α] {P : ρ → Prop} {db db' : Database}

/-- An update keeps what every row has, if changing a row keeps it. -/
theorem Every.update [LawfulEntity ρ] {pick : ρ → Bool} {change : ρ → ρ} {changed : List ρ}
    (hdb : Every ρ P db) (hchange : ∀ r, P r → P (change r))
    (h : update pick change db = .ok (changed, db')) : Every ρ P db' := by
  obtain ⟨t, ht, -, -, rfl⟩ := update_eq_ok h
  intro s hs
  rw [rowsOf_withTable] at hs
  obtain ⟨r, hr, rfl⟩ := List.mem_map.mp hs
  split
  · exact hchange r (hdb.rows ht r hr)
  · exact hdb.rows ht r hr

/-- So does a write that may fail without a trace. -/
theorem Every.afterTry {β : Type} {q : Database → Except Fault (β × Database)}
    (hdb : Every ρ P db) (h : ∀ b db', q db = .ok (b, db') → Every ρ P db') :
    Every ρ P (afterTry q db) := by
  unfold Database.afterTry
  split
  · next b db' hq => exact h b db' hq
  · exact hdb

section Deciding

variable [LawfulEntity ρ]

/-- A new row decides for its table. -/
theorem every_insert_iff {q : Prop} {make : Int → ρ} {r : ρ} (hdb : Every ρ P db)
    (hmake : ∀ id, P (make id) ↔ q) (h : insert make db = .ok (r, db')) :
    Every ρ P db' ↔ q := by
  refine ⟨fun hevery => ?_, fun hq => hdb.insert (fun id => (hmake id).mpr hq) h⟩
  obtain ⟨t, id, -, -, rfl, -, -, rfl⟩ := insert_eq_ok h
  refine (hmake id).mp (hevery _ ?_)
  rw [rowsOf_withTable]
  exact List.mem_append_right _ List.mem_cons_self

/-- A row that takes the place of another decides for its table. -/
theorem every_replace_iff {x y : ρ} (hdb : Every ρ P db) (h : replace x db = .ok (y, db')) :
    Every ρ P db' ↔ P x := by
  refine ⟨fun hevery => ?_, fun hx => hdb.replace hx h⟩
  obtain ⟨t, before, r, after, -, -, -, -, -, -, rfl⟩ := replace_eq_ok h
  refine hevery _ ?_
  rw [rowsOf_withTable]
  exact List.mem_append_right _ List.mem_cons_self

/-- The row that is made or changed decides for its table. -/
theorem every_upsert_iff {q : Prop} {Q : α → Prop} {pick : ρ → Bool} {make : Int → ρ}
    {change : α → ρ} {a : α} (hdb : Every ρ P db)
    (hread : ∀ r b, Entity.read? r = some b → P r → Q b)
    (hmake : findFirst pick db = .ok none → ∀ id, P (make id) ↔ q)
    (hchange : ∀ b, findFirst pick db = .ok (some b) → Q b → (P (change b) ↔ q))
    (h : upsert pick make change db = .ok (a, db')) : Every ρ P db' ↔ q := by
  obtain ⟨found, hfound, h⟩ := bind_eq_ok h
  cases found with
  | none =>
    obtain ⟨⟨x, db₁⟩, hinsert, h⟩ := bind_eq_ok h
    obtain ⟨b, -, h⟩ := bind_eq_ok h
    cases h
    exact every_insert_iff hdb (hmake hfound) hinsert
  | some b =>
    obtain ⟨⟨x, db₁⟩, hreplace, h⟩ := bind_eq_ok h
    obtain ⟨c, -, h⟩ := bind_eq_ok h
    cases h
    exact (every_replace_iff hdb hreplace).trans
      (hchange b hfound (hdb.findFirst hread hfound))

/-- What holds of every row of a table is not affected by a change of others. -/
theorem every_agreeOff_iff {names : List TableName} (hagree : AgreeOff names db db')
    (hname : Entity.name ρ ∉ names) : Every ρ P db' ↔ Every ρ P db := by
  rw [Every, Every, rowsOf_agreeOff hagree hname]

end Deciding

/-- The rows of a table fit its columns. -/
abbrev AllFit (ρ : Type) {α : Type} [Entity ρ α] [Record ρ] (db : Database) : Prop :=
  Every ρ (fun r => Record.fits r = true) db

instance [DecidablePred P] : Decidable (Every ρ P db) :=
  inferInstanceAs (Decidable (∀ r ∈ rowsOf ρ db, P r))

/-- The rows of a table fit its columns, if it is one into which texts are written. -/
def TextsFit (db : Database) : TableName → Prop
  | .user => AllFit User.Row db
  | .category => AllFit Category.Row db
  | .like => AllFit Like.Row db
  | .favorite => AllFit Favorite.Row db
  | .history => AllFit HistoryEntry.Row db
  | .hotSearch => AllFit HotSearch.Row db
  | _ => True

instance (db : Database) : DecidablePred db.TextsFit
  | .user => inferInstanceAs (Decidable (AllFit User.Row db))
  | .category => inferInstanceAs (Decidable (AllFit Category.Row db))
  | .like => inferInstanceAs (Decidable (AllFit Like.Row db))
  | .favorite => inferInstanceAs (Decidable (AllFit Favorite.Row db))
  | .history => inferInstanceAs (Decidable (AllFit HistoryEntry.Row db))
  | .hotSearch => inferInstanceAs (Decidable (AllFit HotSearch.Row db))
  | .content | .comment | .dynamic | .goods => inferInstanceAs (Decidable True)

/-- The rows of the tables into which texts are written fit their columns. -/
def FitsSchema (db : Database) : Prop :=
  ∀ name, db.TextsFit name

instance (db : Database) : Decidable db.FitsSchema :=
  decidable_of_iff (∀ name ∈ (Tag.all : List TableName), db.TextsFit name)
    ⟨fun h name => h name (by cases name <;> decide), fun h name _ => h name⟩

/-- No texts are written into the tables that have counters. -/
theorem textsFit_of_target {name : TableName} (h : name ∈ targetTables) :
    db.TextsFit name := by
  cases name with
  | content | comment | dynamic | goods => trivial
  | _ => exact absurd h (by decide)

section Footprint

variable {names : List TableName}

/-- A table that is not written fits as before. -/
theorem FitsSchema.textsFit {name : TableName} (h : db.FitsSchema)
    (hagree : AgreeOff names db db') (hname : name ∉ names) : db'.TextsFit name := by
  have hbefore := h name
  cases name with
  | user | category | like | favorite | history | hotSearch =>
    exact Every.agreeOff hbefore hagree hname
  | _ => trivial

/-- After a change only the tables that it names are to be measured again. -/
theorem FitsSchema.of_agreeOff (h : db.FitsSchema) (hagree : AgreeOff names db db')
    (hnames : ∀ name ∈ names, db'.TextsFit name) : db'.FitsSchema := by
  intro name
  by_cases hname : name ∈ names
  · exact hnames name hname
  · exact h.textsFit hagree hname

/-- Where texts are written into one table only, that table decides. -/
theorem FitsSchema.agreeOff_iff (table : TableName) (h : db.FitsSchema)
    (hagree : AgreeOff names db db')
    (hothers : ∀ name ∈ names, name ≠ table → db'.TextsFit name) :
    db'.FitsSchema ↔ db'.TextsFit table := by
  refine ⟨fun hafter => hafter table,
    fun htable => h.of_agreeOff hagree fun name hname => ?_⟩
  by_cases heq : name = table
  · rw [heq]
    exact htable
  · exact hothers name hname heq

end Footprint

end Database

/-! ## Refused requests -/

/-- What is wrong with the request of an operation. -/
def Operation.issues : Operation → List Issue
  | createCategory r => r.issues
  | changeCategory _ r => r.issues
  | toggleLike _ r _ => r.issues
  | toggleFavorite _ r _ => r.issues
  | search r .. => r.issues
  | changeProfile _ r => r.issues
  | _ => []

/-- What does not pass its checks is refused before anything is done. -/
theorem Procedure.perform_refused {α : Type} {issues : List Issue} (h : issues ≠ [])
    (f : Unit → Procedure α) (w : World) :
    (check (Problem.ofIssues issues) >>= f).perform w = (.error (.invalid issues), w) := by
  rw [perform_bind, perform_check, Problem.ofIssues, if_neg (by simpa using h)]

/-- An operation that is refused for its request changes nothing. -/
theorem Operation.next_of_issues {op : Operation} (h : op.issues ≠ []) (w : World) :
    op.next w = w := by
  cases op with
  | createCategory | changeCategory | toggleLike | toggleFavorite | changeProfile =>
    rw [next, run, snd_perform_silently]
    exact congrArg Prod.snd (perform_refused h _ w)
  | search r userId page =>
    have hkeyword : (Search.ensureKeyword r).perform w = (.error (.invalid r.issues), w) :=
      perform_refused h _ w
    rw [next, run, snd_perform_silently, Search.run, perform_bind, hkeyword]
  | _ => exact absurd rfl h

/-! ## Operations with narrow requests -/

/-- The texts of the request that its checks let be longer than their columns are not. The
title of a like is written with the first toggle only. -/
def Operation.IsNarrow (db : Database) : Operation → Prop
  | createCategory r => Within 500 r.iconUrl
  | changeCategory _ r => Within 500 r.iconUrl
  | toggleLike userId r _ =>
    (Like.find userId r.likeType r.targetId db = .ok none → Within 200 r.targetTitle) ∧
      Within 500 r.userAvatar
  | toggleFavorite _ r _ => Within 200 r.targetTitle ∧ Within 500 r.targetCover
  | changeProfile _ r => Within 255 r.email ∧ Within 500 r.avatar
  | _ => True

section Writes

variable {w : World} {now : Timestamp} {db db' : Database}

/-- A category that was created fits exactly when its icon's address is short enough. -/
theorem Category.allFit_create_iff {r : NewCategory} (hr : r.issues = [])
    (hw : AllFit Row w.database)
    (hchanged : ((create r).perform w).2.database ≠ w.database) :
    AllFit Row ((create r).perform w).2.database ↔ Within 500 r.iconUrl := by
  rcases hperform : (create r).perform w with ⟨p | c, w'⟩
  · rw [failsCleanly_create r w p w' hperform] at hperform
    exact absurd (congrArg (fun x => x.2.database) hperform) hchanged
  · obtain ⟨-, db, hadd, rfl⟩ := create_eq_ok hperform
    exact every_insert_iff hw (fun id => fits_ofRequest_iff hr) hadd

/-- So does one that was changed. -/
theorem Category.allFit_change_iff {id : Int} {r : CategoryChange} (hr : r.issues = [])
    (hw : AllFit Row w.database)
    (hchanged : ((change id r).perform w).2.database ≠ w.database) :
    AllFit Row ((change id r).perform w).2.database ↔ Within 500 r.iconUrl := by
  rcases hperform : (change id r).perform w with ⟨p | c, w'⟩
  · rw [failsCleanly_change id r w p w' hperform] at hperform
    exact absurd (congrArg (fun x => x.2.database) hperform) hchanged
  · obtain ⟨c, hfind, -, -, db, hreplace, rfl⟩ := change_eq_ok hperform
    have hc : Record.fits c.stored = true :=
      hw.findFirst (fun _ _ hread hrow => Columns.stored_of_read? hread ▸ hrow) hfind
    exact (every_replace_iff hw hreplace).trans (fits_changed_iff hr hc)

/-- A removal leaves none but rows that were there. -/
theorem Category.every_remove {P : Row → Prop} {id : Int} (hw : Every Row P w.database) :
    Every Row P ((remove id).perform w).2.database := by
  rcases hperform : (remove id).perform w with ⟨p | c, w'⟩
  · rw [failsCleanly_remove id w p w' hperform]
    exact hw
  · obtain ⟨-, -, was, db, herase, rfl⟩ := remove_eq_ok hperform
    obtain ⟨⟨n, db⟩, hdelete, herase⟩ := bind_eq_ok herase
    cases herase
    exact hw.delete hdelete

/-- A profile that was changed fits exactly when its two addresses are short enough. -/
theorem User.allFit_change_iff {id : Int} {r : ProfileChange} (hr : r.issues = [])
    (hw : AllFit Row w.database)
    (hchanged : ((change id r).perform w).2.database ≠ w.database) :
    AllFit Row ((change id r).perform w).2.database ↔
    Within 255 r.email ∧ Within 500 r.avatar := by
  obtain ⟨u, row, hfind, hreplace⟩ := (database_change id r w).resolve_left hchanged
  have hu : Record.fits u.stored = true :=
    hw.findFirst (fun _ _ hread hrow => Columns.stored_of_read? hread ▸ hrow) hfind
  exact (every_replace_iff hw hreplace).trans (fits_changed_iff hr hu)

/-- The row that a toggle makes or turns over decides for its table. -/
theorem Relation.Toggling.every_run_iff {ρ α : Type} [Entity ρ α] [LawfulEntity ρ]
    (t : Toggling ρ α) {P : ρ → Prop} {q : Prop} {a : α} (hdb : Every ρ P db)
    (hmake : findFirst t.pick db = .ok none → ∀ id, P (t.write (t.make id)) ↔ q)
    (hturn : ∀ b, findFirst t.pick db = .ok (some b) → P (t.write b) →
      (P (t.write (t.turn b)) ↔ q))
    (h : t.run db = .ok (a, db')) : Every ρ P db' ↔ q := by
  obtain ⟨db₁, hflip, hcount⟩ := t.run_eq_ok h
  obtain ⟨n, hadjusted⟩ := Counter.count_eq_ok hcount
  -- the counter is a column of another table
  refine (every_agreeOff_iff hadjusted.agreeOff t.name_not_mem).trans ?_
  exact every_upsert_iff hdb (fun r b hread hrow => t.write_of_read? hread ▸ hrow)
    hmake hturn hflip

/-- A like that was toggled fits exactly when the avatar is short enough and, on its first
call, the title. -/
theorem Like.allFit_request_iff {userId : Int} {r : LikeToggle} {requestId : Option String}
    (hr : r.issues = []) (hw : AllFit Row w.database)
    (hchanged : ((request userId r requestId).perform w).2.database ≠ w.database) :
    AllFit Row ((request userId r requestId).perform w).2.database ↔
      (find userId r.likeType r.targetId w.database = .ok none → Within 200 r.targetTitle) ∧
        Within 500 r.userAvatar := by
  obtain ⟨l, htoggle⟩ := (database_request userId r requestId w).resolve_left hchanged
  refine (toggling userId r w.now).every_run_iff hw (fun hnone id => ?_)
    (fun l hsome hl => ?_) htoggle
  · exact (fits_ofToggle_iff hr).trans
      (and_congr_left fun _ => ⟨fun h _ => h, fun h => h hnone⟩)
  · refine (fits_toggled_iff hr hl).trans (and_iff_right fun hnone => ?_).symm
    cases hnone.symm.trans hsome

/-- A favorite that was toggled fits exactly when the title and the cover are short enough.
-/
theorem Favorite.allFit_request_iff {userId : Int} {r : FavoriteToggle}
    {requestId : Option String} (hr : r.issues = []) (hw : AllFit Row w.database)
    (hchanged : ((request userId r requestId).perform w).2.database ≠ w.database) :
    AllFit Row ((request userId r requestId).perform w).2.database ↔
      Within 200 r.targetTitle ∧ Within 500 r.targetCover := by
  obtain ⟨f, htoggle⟩ := (database_request userId r requestId w).resolve_left hchanged
  exact (toggling userId r w.now).every_run_iff hw (fun _ id => fits_ofToggle_iff hr)
    (fun f _ hf => fits_toggled_iff hf) htoggle

theorem HotSearch.allFit_increment {keyword : String} {counted : Bool} (hdb : AllFit Row db)
    (h : increment keyword now db = .ok (counted, db')) : AllFit Row db' := by
  obtain ⟨⟨rows, db₁⟩, hupdate, h⟩ := bind_eq_ok h
  cases h
  exact hdb.update (fun row hrow => (fits_counted row _ _).trans hrow) hupdate

theorem HotSearch.allFit_bump {r : SearchRequest} (hr : r.issues = []) (hdb : AllFit Row db)
    (h : bump r.keyword now db = .ok ((), db')) : AllFit Row db' := by
  obtain ⟨⟨counted, db₁⟩, hincrement, h⟩ := bind_eq_ok h
  have hfirst := allFit_increment hdb hincrement
  cases counted with
  | true =>
    cases h
    exact hfirst
  | false =>
    dsimp only at h
    rw [if_neg Bool.false_ne_true] at h
    split at h
    · next x db₂ hinsert =>
      cases h
      exact hfirst.insert (fun id => fits_ofKeyword hr id) hinsert
    · obtain ⟨⟨counted, db₂⟩, hincrement, h⟩ := bind_eq_ok h
      cases h
      exact allFit_increment hfirst hincrement
    · cases h

theorem Search.allFit_run {r : SearchRequest} (userId : Option Int) (p : Page)
    (hr : r.issues = []) (hhistory : AllFit HistoryEntry.Row w.database)
    (hhot : AllFit HotSearch.Row w.database) :
    AllFit HistoryEntry.Row ((run r userId p).perform w).2.database ∧
      AllFit HotSearch.Row ((run r userId p).perform w).2.database := by
  rcases hperform : (run r userId p).perform w with ⟨problem | result, w'⟩
  · rw [failsCleanly_run r userId p w problem w' hperform]
    exact ⟨hhistory, hhot⟩
  · rw [run_eq_ok hperform]
    have hlogged : AllFit HistoryEntry.Row
        (logged r userId result.resultCount w.now w.database) := by
      unfold logged
      split
      · exact hhistory.afterTry fun row db h =>
          hhistory.insert (fun id => HistoryEntry.fits_ofSearch hr _ _ id) h
      · exact hhistory
    have hbefore :=
      hhot.agreeOff
        (agreeOff_logged r userId result.resultCount w.now w.database) (by decide)
    have hbumped : AgreeOff [.hotSearch]
        (logged r userId result.resultCount w.now w.database)
        (traced r userId result.resultCount w.now w.database) :=
      agreeOff_afterTry fun _ _ h => HotSearch.agreeOff_bump h
    exact ⟨hlogged.agreeOff hbumped (by decide),
      hbefore.afterTry fun _ _ h => HotSearch.allFit_bump hr hbefore h⟩

end Writes

/-! ## Operations -/

/-- What an operation has written fits if its request is narrow, and only then. -/
theorem Operation.fits_next_iff {op : Operation} {w : World} (hw : w.database.FitsSchema)
    (hchanged : (op.next w).database ≠ w.database) :
    (op.next w).database.FitsSchema ↔ op.IsNarrow w.database := by
  have hr : op.issues = [] := by
    by_contra hissues
    exact hchanged (congrArg World.database (next_of_issues hissues w))
  have hagree := op.agreeOff_next w
  have hsingle : ∀ table : TableName, ∀ name ∈ [table], name ≠ table →
      (op.next w).database.TextsFit name :=
        fun _ name hname hne => absurd (List.mem_singleton.mp hname) hne
  have hcounted : ∀ (table : TableName) (counter : Counter), ∀ name ∈ [table, counter.table],
      name ≠ table → (op.next w).database.TextsFit name := by
    intro table counter name hname hne
    rw [List.mem_singleton.mp (List.mem_of_ne_of_mem hne hname)]
    exact textsFit_of_target counter.table_mem
  cases op with
  | createCategory r =>
    refine (hw.agreeOff_iff .category hagree (hsingle .category)).trans ?_
    rw [next, run, snd_perform_silently] at hchanged ⊢
    exact Category.allFit_create_iff hr (hw .category) hchanged
  | changeCategory id r =>
    refine (hw.agreeOff_iff .category hagree (hsingle .category)).trans ?_
    rw [next, run, snd_perform_silently] at hchanged ⊢
    exact Category.allFit_change_iff hr (hw .category) hchanged
  | removeCategory id =>
    refine (hw.agreeOff_iff .category hagree (hsingle .category)).trans
      (iff_of_true ?_ trivial)
    rw [next, run, snd_perform_silently]
    exact Category.every_remove (hw .category)
  | changeProfile id r =>
    refine (hw.agreeOff_iff .user hagree (hsingle .user)).trans ?_
    rw [next, run, snd_perform_silently] at hchanged ⊢
    exact User.allFit_change_iff hr (hw .user) hchanged
  | toggleLike userId r requestId =>
    refine (hw.agreeOff_iff .like hagree (hcounted .like _)).trans ?_
    rw [next, run, snd_perform_silently] at hchanged ⊢
    exact Like.allFit_request_iff hr (hw .like) hchanged
  | toggleFavorite userId r requestId =>
    refine (hw.agreeOff_iff .favorite hagree (hcounted .favorite _)).trans ?_
    rw [next, run, snd_perform_silently] at hchanged ⊢
    exact Favorite.allFit_request_iff hr (hw .favorite) hchanged
  | search r userId page =>
    have hrun := Search.allFit_run userId page hr (hw .history) (hw .hotSearch)
    rw [← snd_perform_silently] at hrun
    refine iff_of_true (hw.of_agreeOff hagree fun name hname => ?_) trivial
    rcases List.mem_pair.mp hname with rfl | rfl
    · exact hrun.1
    · exact hrun.2
  | _ =>
    exact iff_of_true (hw.of_agreeOff hagree fun _ hname =>
      absurd hname List.not_mem_nil) trivial

/-- The requests of an event are narrow, whatever is in the database. -/
def Event.IsNarrow : Event → Prop
  | call op => ∀ db, op.IsNarrow db
  | _ => True

/-- What requests write that are narrow fits. -/
theorem World.fitsSchema_after {w : World} {events : List Event} (hw : w.database.FitsSchema)
    (hevents : ∀ e ∈ events, e.IsNarrow) : (w.after events).database.FitsSchema := by
  refine after_induction (I := fun v => v.database.FitsSchema) hw fun v e he hv => ?_
  cases e with
  | call op =>
    by_cases hchanged : (op.next v).database = v.database
    · exact hchanged.symm ▸ hv
    · exact (Operation.fits_next_iff hv hchanged).mpr (hevents _ he v.database)
  | wait time => exact hv
  | closeCache => exact hv

/-- Of an operation that writes something, what is written fits if and only if its request is
narrow; and where all requests are, what is written fits throughout. -/
theorem accepted_texts_fit (w : World) (hw : w.database.FitsSchema) :
    (∀ op : Operation, (op.next w).database ≠ w.database →
      ((op.next w).database.FitsSchema ↔ op.IsNarrow w.database)) ∧
    ∀ events, (∀ e ∈ events, Event.IsNarrow e) → (w.after events).database.FitsSchema :=
  ⟨fun _ hchanged => Operation.fits_next_iff hw hchanged,
    fun _ hevents => World.fitsSchema_after hw hevents⟩

/-- A like with a title that is accepted and is one character too long. -/
def LikeToggle.longTitled : LikeToggle :=
  ⟨.content, 7, some (String.ofList (List.replicate 201 'a')), none, none, none⟩

theorem accepted_texts_fit_sample :
    let op := Operation.toggleLike 1 .longTitled none
    World.sample.database.FitsSchema ∧
      (op.next World.sample).database ≠ World.sample.database ∧
      ((op.next World.sample).database.FitsSchema ↔ op.IsNarrow World.sample.database) ∧
      (World.sample.after World.sampleRun).database.FitsSchema := by
  intro op
  have hsample : World.sample.database.FitsSchema := by decide
  have hchanged : (op.next World.sample).database ≠ World.sample.database := fun h =>
    absurd (congrArg (fun db => (rowsOf Like.Row db).length) h) (by decide +kernel)
  have hnarrow : ∀ e ∈ World.sampleRun, e.IsNarrow := by
    simp [World.sampleRun, Event.IsNarrow, Operation.IsNarrow, Within]
  obtain ⟨hstep, hrun⟩ := accepted_texts_fit World.sample hsample
  exact ⟨hsample, hchanged, hstep op hchanged, hrun World.sampleRun hnarrow⟩

/-- The title is written, and does not fit. -/
theorem long_title_is_written :
    LikeToggle.longTitled.issues = [] ∧ World.sample.database.FitsSchema ∧
      ¬(Operation.next (.toggleLike 1 .longTitled none)
        World.sample).database.FitsSchema := by
  decide +kernel

end Community
