import Community.Proofs.Json.Faithful
import Mathlib.Data.List.Perm.Basic

/-!
# A record around another is decoded again

The members of an inner record are read as values before they are decoded, so that none of
them may lie deeper than the text allows. `Legible k` says how many levels a value takes: a
flat one takes none, and a container one more than what is in it.

> `Yields.flattened`: from the members of both records, in any order, the two are decoded.

For the other direction, a decoder that came out well has entered every container on its way
(`decodeList_eq_ok`, `decodeFlattened_eq_ok`), and each of them took one level.
-/

namespace Community.Json

variable {α β γ : Type}

/-- The text of `j` is read as a value at every level. -/
def IsFlat (j : Json) : Prop :=
  ∃ d, ReadAs j d ∧ d.followed = true ∧ ∀ depth, (d.json? depth).isSome = true

/-- Null, texts and numbers of 64 bits are flat. -/
theorem IsFlat.null : IsFlat .null :=
  ⟨_, ReadAs.null, rfl, fun _ => rfl⟩

theorem IsFlat.str (s : String) : IsFlat (.str s) :=
  ⟨_, ReadAs.str s, rfl, fun _ => rfl⟩

theorem IsFlat.int {n : Int} (hlow : Text.int64Min ≤ n) (hhigh : n ≤ Text.int64Max) :
    IsFlat (.int n) := by
  refine ⟨_, ReadAs.int n, rfl, fun depth => ?_⟩
  rw [Draft.json?, Draft.value?_ofInt hlow (Int.le_trans hhigh (by decide))]
  rfl

theorem IsFlat.nat {n : Nat} (h : n ≤ Text.word64Max) : IsFlat (encode n) := by
  refine ⟨_, ReadAs.int n, rfl, fun depth => ?_⟩
  rw [Draft.json?, Draft.value?_ofInt (Int.le_trans (by decide) (Int.natCast_nonneg n))
    (Int.ofNat_le.mpr h)]
  rfl

/-- A text that may be null is flat. -/
theorem IsFlat.text? (s : Option String) : IsFlat (encode s) := by
  cases s with
  | none => exact .null
  | some s => exact .str s

/-! ## Values that take some levels -/

section Drafts

variable {ps : List Part} {vs : List (Json × Draft)} {depth : Nat}

/-- Members that can each be followed can be followed together. -/
theorem followedMembers_read (h : ∀ p ∈ ps, p.draft.followed = true) :
    Draft.followedMembers (ps.map Part.read) = true := by
  induction ps with
  | nil => rfl
  | cons p ps ih =>
    rw [List.map_cons, Part.read, Draft.followedMembers, h p List.mem_cons_self,
      ih fun q hq => h q (List.mem_cons_of_mem p hq)]
    rfl

/-- So can the items of a list. -/
theorem followedItems_read (h : ∀ v ∈ vs, v.2.followed = true) :
    Draft.followedItems (vs.map Prod.snd) = true := by
  induction vs with
  | nil => rfl
  | cons v vs ih =>
    rw [List.map_cons, Draft.followedItems, h v List.mem_cons_self,
      ih fun w hw => h w (List.mem_cons_of_mem v hw)]
    rfl

/-- Members that each become JSON do so together. -/
theorem jsonMembers?_read (h : ∀ p ∈ ps, (p.draft.json? depth).isSome = true) :
    (Draft.jsonMembers? depth (ps.map Part.read)).isSome = true := by
  induction ps with
  | nil => rfl
  | cons p ps ih =>
    obtain ⟨j, hj⟩ := Option.isSome_iff_exists.mp (h p List.mem_cons_self)
    obtain ⟨ms, hms⟩ :=
      Option.isSome_iff_exists.mp (ih fun q hq => h q (List.mem_cons_of_mem p hq))
    rw [List.map_cons, Part.read, Draft.jsonMembers?, hj, hms]
    rfl

/-- So do the items of a list. -/
theorem jsonItems?_read (h : ∀ v ∈ vs, (v.2.json? depth).isSome = true) :
    (Draft.jsonItems? depth (vs.map Prod.snd)).isSome = true := by
  induction vs with
  | nil => rfl
  | cons v vs ih =>
    obtain ⟨j, hj⟩ := Option.isSome_iff_exists.mp (h v List.mem_cons_self)
    obtain ⟨js, hjs⟩ :=
      Option.isSome_iff_exists.mp (ih fun w hw => h w (List.mem_cons_of_mem v hw))
    rw [List.map_cons, Draft.jsonItems?, hj, hjs]
    rfl

end Drafts

/-- The text of `j` is read as a value wherever more than `k` levels are left. -/
def Legible (k : Nat) (j : Json) : Prop :=
  ∃ d, ReadAs j d ∧ d.followed = true ∧ ∀ depth, k < depth → (d.json? depth).isSome = true

/-- What is flat is legible at every depth. -/
theorem IsFlat.legible {k : Nat} {j : Json} (h : IsFlat j) : Legible k j := by
  obtain ⟨d, hread, hfollowed, hjson⟩ := h
  exact ⟨d, hread, hfollowed, fun depth _ => hjson depth⟩

/-- Values that are each the image of some value are together the image of a list. -/
theorem exists_map_eq {f : α → β} {P : α → Prop} {bs : List β}
    (h : ∀ b ∈ bs, ∃ a, f a = b ∧ P a) : ∃ as : List α, as.map f = bs ∧ ∀ a ∈ as, P a := by
  induction bs with
  | nil => exact ⟨[], rfl, fun _ ha => absurd ha List.not_mem_nil⟩
  | cons b bs ih =>
    obtain ⟨a, rfl, ha⟩ := h b List.mem_cons_self
    obtain ⟨as, rfl, has⟩ := ih fun b' hb' => h b' (List.mem_cons_of_mem _ hb')
    exact ⟨a :: as, rfl, List.forall_mem_cons.mpr ⟨ha, has⟩⟩

/-- An object of legible members is legible one level deeper. -/
theorem Legible.obj {k : Nat} {ms : List (String × Json)} (h : ∀ e ∈ ms, Legible k e.2) :
    Legible (k + 1) (.obj ms) := by
  obtain ⟨ps, rfl, hps⟩ : ∃ ps : List Part, ps.map Part.written = ms ∧
      ∀ p ∈ ps, ReadAs p.value p.draft ∧
      p.draft.followed = true ∧ ∀ depth, k < depth →
      (p.draft.json? depth).isSome = true := by
    refine exists_map_eq fun e he => ?_
    obtain ⟨d, hd⟩ := h e he
    exact ⟨⟨e.1, e.2, d⟩, rfl, hd⟩
  refine ⟨_, ReadAs.obj fun p hp => (hps p hp).1, ?_, fun depth hdepth => ?_⟩
  · rw [Draft.followed, followedMembers_read fun p hp => (hps p hp).2.1]
    rfl
  · have hmembers : (Draft.jsonMembers? (depth - 1) (ps.map Part.read)).isSome = true :=
      jsonMembers?_read fun p hp => (hps p hp).2.2 _ (Nat.lt_sub_of_add_lt hdepth)
    rw [Draft.json?, if_neg (by simp; omega), Option.isSome_map, hmembers]

/-- A record without containers in it takes one level. -/
theorem Legible.obj_of_isFlat {ms : List (String × Json)} (h : ∀ e ∈ ms, IsFlat e.2) :
    Legible 1 (.obj ms) :=
  .obj fun e he => (h e he).legible

/-- So is a list of legible items that can be told apart from what follows. -/
theorem Legible.arr {k : Nat} {js : List Json} (h : ∀ j ∈ js, Legible k j)
    (hopens : ∀ j ∈ js, Opens j) : Legible (k + 1) (.arr js) := by
  obtain ⟨vs, rfl, hvs⟩ : ∃ vs : List (Json × Draft), vs.map Prod.fst = js ∧
      ∀ v ∈ vs, ReadAs v.1 v.2 ∧
      v.2.followed = true ∧ ∀ depth, k < depth → (v.2.json? depth).isSome = true := by
    refine exists_map_eq fun j hj => ?_
    obtain ⟨d, hd⟩ := h j hj
    exact ⟨(j, d), rfl, hd⟩
  refine ⟨_, ReadAs.arr (fun v hv => (hvs v hv).1) fun v hv =>
    hopens v.1 (List.mem_map_of_mem hv), ?_, fun depth hdepth => ?_⟩
  · rw [Draft.followed, followedItems_read fun v hv => (hvs v hv).2.1]
    rfl
  · have hitems : (Draft.jsonItems? (depth - 1) (vs.map Prod.snd)).isSome = true :=
      jsonItems?_read fun v hv => (hvs v hv).2.2 _ (Nat.lt_sub_of_add_lt hdepth)
    rw [Draft.json?, if_neg (by simp; omega), Option.isSome_map, hitems]

/-! ## One object for two records -/

/-- Where every member is known or becomes JSON, none is left unread. -/
theorem firstUnread_read {ps : List Part} {known : List String} {depth : Nat}
    (h : ∀ p ∈ ps, p.name ∈ known ∨ (p.draft.json? depth).isSome = true) (i : Nat) :
    decodeFlattened.firstUnread known depth i (ps.map Part.read) = none := by
  induction ps generalizing i with
  | nil => rfl
  | cons p ps ih =>
    have hp : (known.contains p.name || (p.draft.json? depth).isSome) = true := by
      rw [Bool.or_eq_true, List.contains_iff_mem]
      exact h p List.mem_cons_self
    rw [List.map_cons, Part.read, decodeFlattened.firstUnread]
    exact (if_pos hp).trans (ih (fun q hq => h q (List.mem_cons_of_mem p hq)) (i + 1))

/-- What is found does not depend on the order of the members. -/
theorem Fields.Finds.perm {k : Nat} {x : Fields α} {ps ps' : List Part}
    {missing : List String} {a : α} (h : x.Finds k ps missing a) (hps : ps'.Perm ps) :
    x.Finds k ps' missing a where
  names := ((hps.map Part.name).append_right missing).trans h.names
  read p hp := h.read p (hps.mem_iff.mp hp)
  built m all i hm hall := h.built m all i hm fun p hp => hall p (hps.mem_iff.mpr hp)

/-- A reordering of images consists of the images in another order. -/
theorem exists_eq_map_of_perm {f : α → β} {as : List α} {bs : List β}
    (h : bs.Perm (as.map f)) : ∃ as' : List α, bs = as'.map f ∧ as'.Perm as :=
  (congrFun₂ (List.eq_map_comp_perm f) bs as).mpr h

/-- The members of a record and those of the record around it, all in one object. -/
theorem Yields.flattened {outer : Fields α} {inner : Fields β} {join : α → β → γ} {k : Nat}
    {ms ns es : List (String × Json)} {a : α} {b : β} (wanted : String)
    (hinner : inner.Reads k ms b) (houter : outer.Reads k ns a) (hes : es.Perm (ms ++ ns))
    (hnodup : (inner.names ++ outer.names).Nodup) (hlegible : ∀ e ∈ ms, Legible k e.2) :
    Yields (decodeFlattened wanted outer inner join) (k + 1) (.obj es) (join a b) := by
  obtain ⟨ps, missing, rfl, hps⟩ := hinner
  obtain ⟨qs, more, rfl, hqs⟩ := houter
  rw [← List.map_append] at hes
  obtain ⟨all, rfl, hall⟩ := exists_eq_map_of_perm hes
  have hapart := apart_of_nodup hps.names hqs.names hnodup
  have hread : ∀ p ∈ all, ReadAs p.value p.draft := fun p hmem =>
    (List.mem_append.mp (hall.mem_iff.mp hmem)).elim (hps.read p) (hqs.read p)
  have hplain : ∀ p ∈ ps, p.draft.followed = true ∧
      ∀ depth, k < depth → (p.draft.json? depth).isSome = true := by
    intro p hp
    obtain ⟨d, hd, hplain⟩ := hlegible p.written (List.mem_map_of_mem hp)
    obtain rfl := hd.unique (hps.read p hp)
    exact hplain
  refine ⟨.obj (all.map Part.read) true, ReadAs.obj hread, nofun, fun m hm => ?_⟩
  obtain ⟨henter, hdepth⟩ := Mode.enter?_of_lt hm
  -- a member is one of the outer record, or a value that is kept for the inner one
  have hsplit : ∀ p ∈ all, p.name ∈ outer.names ∨ p ∈ ps := fun p hp =>
    (List.mem_append.mp (hall.mem_iff.mp hp)).symm.imp_left (hapart.taken p)
  have hdistinct : (all.map Part.name).Nodup :=
    (hall.map Part.name).nodup_iff.mpr hapart.distinct
  have hrefused : refusedName outer.names [] 0 (all.map Part.read) = none :=
    refusedName_read (fun p hp => (hsplit p hp).imp_right fun h => (hplain p h).1) hdistinct
      (fun _ _ => List.not_mem_nil) 0
  have hunread : decodeFlattened.firstUnread outer.names (m.depth - 1) 0
      (all.map Part.read) = none :=
    firstUnread_read (fun p hp => (hsplit p hp).imp_right fun h => (hplain p h).2 _ hdepth) 0
  have hbuilt := hqs.build_eq_ok (m := { m with depth := m.depth - 1 })
    (fun _ hq => hall.mem_iff.mpr (List.mem_append_right ps hq)) hdistinct
    (fun name hname hmem => hapart.outside name hname
      ((hall.map Part.name).mem_iff.mp hmem)) hdepth
  have hleft : (all.filter fun p => !outer.names.contains p.name).Perm ps := by
    have hfilter := hall.filter fun p => !outer.names.contains p.name
    rwa [hapart.filter_append] at hfilter
  have hrest := (hps.perm hleft).fromMembers_eq_ok (m := ⟨m.depth - 1, true, true⟩)
    (List.nodup_append.mp hnodup).1 hdepth
  simp only [decodeFlattened, henter, hrefused, hunread, if_pos, hbuilt, settle]
  rw [filter_read fun _ => rfl, hrest]

/-! ## Levels that a decoder has taken -/

/-- Going into a list or an object takes one level of the depth. -/
theorem Mode.enter?_eq_some {m m' : Mode} (h : m.enter? = some m') :
    m.depth = m'.depth + 1 ∧ 0 < m'.depth := by
  unfold enter? at h
  split at h
  · cases h
  · cases h
    dsimp only
    omega

/-- A field that is built was decoded from some draft. -/
theorem Fields.build_one_eq_ok {name : String} {inner : Decoder α} {m : Mode} {src : Members}
    {i : Nat} {a : α} (h : (Fields.one name inner none none).build m src i = .ok a) :
    ∃ d, inner m d = .ok a := by
  simp only [Fields.one, ite_self] at h
  split at h
  · split at h
    · next hinner =>
      cases h
      exact ⟨_, hinner⟩
    · cases h
  · cases h

/-- Every item of a decoded list was decoded from some draft. -/
theorem decodeItems_eq_ok {inner : Decoder α} {m : Mode} {closed : Bool} {i : Nat}
    {ds : List Draft} {as : List α} (h : decodeItems inner m closed i ds = .ok as) :
    ∀ a ∈ as, ∃ d, inner m d = .ok a := by
  induction ds generalizing i as with
  | nil =>
    rw [decodeItems] at h
    split at h <;> cases h
    exact fun a ha => absurd ha List.not_mem_nil
  | cons d ds ih =>
    rw [decodeItems] at h
    split at h
    · cases h
    · next b hb =>
      split at h
      · cases h
      · next bs hbs =>
        cases h
        intro a ha
        rcases List.mem_cons.mp ha with rfl | ha
        · exact ⟨d, hb⟩
        · exact ih hbs a ha

/-- So it is for the list itself, one level deeper. -/
theorem decodeList_eq_ok {inner : Decoder α} {m : Mode} {d : Draft} {as : List α}
    (h : decodeList inner m d = .ok as) :
    ∃ m', m.enter? = some m' ∧ ∀ a ∈ as, ∃ d', inner m' d' = .ok a := by
  unfold decodeList at h
  split at h
  · split at h
    · cases h
    · next m' hm => exact ⟨m', hm, decodeItems_eq_ok h⟩
  · exact absurd h (unwanted_ne_ok _ _ _)

/-- A flattened record was built from its own fields first, and joined with the rest. -/
theorem decodeFlattened_eq_ok {wanted : String} {outer : Fields α} {inner : Fields β}
    {join : α → β → γ} {m : Mode} {d : Draft} {c : γ}
    (h : decodeFlattened wanted outer inner join m d = .ok c) :
    ∃ m' src i a b, m.enter? = some m' ∧ outer.build m' src i = .ok a ∧ c = join a b := by
  unfold decodeFlattened at h
  split at h
  · split at h
    · cases h
    · next m' hm =>
      dsimp only at h
      split at h
      · cases h
      · next a ha =>
        split at h
        · cases h
        · next b _ =>
          cases h
          exact ⟨m', _, _, a, b, hm, settle_eq_ok ha, rfl⟩
  · exact absurd h (unwanted_ne_ok _ _ _)

end Community.Json
