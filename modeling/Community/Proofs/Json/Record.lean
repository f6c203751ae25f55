import Community.Json.Decoder
import Community.Proofs.Json.Draft
import Mathlib.Data.List.Forall2

/-!
# A record that was written is decoded again

> `ReadsBack k a`: the text of `a` is decoded as `a`, at every place with more than `k`
> levels to go.

For a record this comes from its members. `Fields.Reads` follows the declaration of the
record, member by member, and says of the part of it that is built so far which members it
asks for, those that are left out included; what other members the object has does not matter
to it, as long as no name occurs twice. `Fields.Reads.readsBack` closes the record.
-/

namespace Community.Json

variable {α β : Type}

/-- From the text of `j` the decoder gets `a`, at every place with more than
`k` levels to go. -/
def Yields (inner : Decoder α) (k : Nat) (j : Json) (a : α) : Prop :=
  ∃ d, ReadAs j d ∧ (d = .null → j = .null) ∧ ∀ m : Mode, k < m.depth → inner m d = .ok a

/-- The text of `a` is decoded as `a`, at every place with more than `k` levels to go. -/
def ReadsBack [Encode α] [Decode α] (k : Nat) (a : α) : Prop :=
  Yields decode k (encode a) a

/-- What is read within some depth is read within a greater one. -/
theorem Yields.mono {inner : Decoder α} {k k' : Nat} {j : Json} {a : α}
    (h : Yields inner k j a) (hk : k ≤ k') : Yields inner k' j a := by
  obtain ⟨d, hread, hnull, hdecode⟩ := h
  exact ⟨d, hread, hnull, fun m hm => hdecode m (Nat.lt_of_le_of_lt hk hm)⟩

/-- A text that was written is parsed. -/
theorem ReadsBack.parse_render [Encode α] [Decode α] {k : Nat} {a : α} (h : ReadsBack k a)
    (hk : k < 128) : parse (encode a).render = .ok a := by
  obtain ⟨d, hread, -, hdecode⟩ := h
  rw [parse, hread.read_render]
  dsimp only
  rw [hdecode Mode.start hk]
  rfl

/-! ## Single values -/

/-- An integer in the range of the decoder, which is one of 64 bits. -/
theorem Yields.int {lo hi n : Int} {wanted : String} {k : Nat} (hlow : lo ≤ n)
    (hhigh : n ≤ hi) (hlo : Text.int64Min ≤ lo) (hhi : hi ≤ Text.word64Max) :
    Yields (decodeInt lo hi wanted) k (.int n) n := by
  refine ⟨_, ReadAs.int n, nofun, fun m hm => ?_⟩
  simp only [decodeInt, Draft.value?_ofInt (Int.le_trans hlo hlow) (Int.le_trans hhigh hhi)]
  exact if_pos ⟨hlow, hhigh⟩

/-- A number of 64 bits comes back. -/
theorem ReadsBack.int {k : Nat} {n : Int} (hlow : Text.int64Min ≤ n)
    (hhigh : n ≤ Text.int64Max) : ReadsBack k n :=
  Yields.int hlow hhigh (Int.le_refl _) (by decide)

/-- An unsigned 64-bit number. -/
theorem ReadsBack.nat {k n : Nat} (h : n ≤ Text.word64Max) : ReadsBack k n := by
  have hint : Yields (decodeInt 0 Text.word64Max "u64") k (.int n) (n : Int) :=
    .int (Int.natCast_nonneg n) (Int.ofNat_le.mpr h) (by decide) (Int.le_refl _)
  obtain ⟨d, hread, hnull, hdecode⟩ := hint
  refine ⟨d, hread, hnull, fun m hm => ?_⟩
  show decodeWord64 m d = .ok n
  rw [decodeWord64, hdecode m hm]
  exact congrArg Except.ok (Int.toNat_natCast n)

theorem ReadsBack.bool {k : Nat} (b : Bool) : ReadsBack k b :=
  ⟨_, ReadAs.bool b, nofun, fun _ _ => rfl⟩

theorem ReadsBack.str {k : Nat} (s : String) : ReadsBack k s :=
  ⟨_, ReadAs.str s, nofun, fun _ _ => rfl⟩

/-- A value that may be missing, and is never written as one that is. -/
theorem ReadsBack.option [Encode α] [Decode α] {k : Nat} {o : Option α}
    (h : ∀ a, o = some a → ReadsBack k a ∧ encode a ≠ .null) : ReadsBack k o := by
  cases o with
  | none => exact ⟨_, ReadAs.null, fun _ => rfl, fun _ _ => rfl⟩
  | some a =>
    obtain ⟨⟨d, hread, hnull, hdecode⟩, hne⟩ := h a rfl
    refine ⟨d, hread, fun hd => absurd (hnull hd) hne, fun m hm => ?_⟩
    show decodeOption decode m d = .ok (some a)
    unfold decodeOption
    split
    · exact absurd (hnull rfl) hne
    · rw [hdecode m hm]
      rfl

/-! ## Lists -/

/-- Items that are read one by one are read as a list. -/
theorem Yields.items {inner : Decoder α} {k : Nat} {js : List Json} {as : List α}
    (h : List.Forall₂ (Yields inner k) js as) :
    ∃ ps : List (Json × Draft), ps.map Prod.fst = js ∧ (∀ p ∈ ps, ReadAs p.1 p.2) ∧
      ∀ (m : Mode) i, k < m.depth →
      decodeItems inner m true i (ps.map Prod.snd) = .ok as := by
  induction h with
  | nil => exact ⟨[], rfl, fun _ hp => absurd hp List.not_mem_nil, fun _ _ _ => rfl⟩
  | @cons j a js as hfirst _ ih =>
    obtain ⟨d, hread, -, hdecode⟩ := hfirst
    obtain ⟨ps, rfl, hreads, hrest⟩ := ih
    refine ⟨(j, d) :: ps, rfl, ?_, fun m i hm => ?_⟩
    · intro p hp
      rcases List.mem_cons.mp hp with rfl | hp
      · exact hread
      · exact hreads p hp
    · simp only [List.map_cons, decodeItems, hdecode m hm, hrest m (i + 1) hm]

/-- A container takes one level. -/
theorem Mode.enter?_of_lt {m : Mode} {k : Nat} (h : k + 1 < m.depth) :
    m.enter? = some { m with depth := m.depth - 1 } ∧ k < m.depth - 1 :=
  ⟨if_neg (by omega), Nat.lt_sub_of_add_lt h⟩

/-- The list around them takes one level of the depth. -/
theorem Yields.list {inner : Decoder α} {k : Nat} {js : List Json} {as : List α}
    (h : List.Forall₂ (Yields inner k) js as) (hopens : ∀ j ∈ js, Opens j) :
    Yields (decodeList inner) (k + 1) (.arr js) as := by
  obtain ⟨ps, rfl, hreads, hdecode⟩ := Yields.items h
  refine ⟨_, ReadAs.arr hreads fun p hp => hopens p.1 (List.mem_map_of_mem hp), nofun, ?_⟩
  intro m hm
  obtain ⟨henter, hdepth⟩ := Mode.enter?_of_lt hm
  simp only [decodeList, henter]
  exact hdecode _ 0 hdepth

/-- A list whose items come back comes back, one level deeper. -/
theorem ReadsBack.list [Encode α] [Decode α] {k : Nat} {as : List α}
    (h : ∀ a ∈ as, ReadsBack k a) (hopens : ∀ a ∈ as, Opens (encode a)) :
    ReadsBack (k + 1) as := by
  refine Yields.list (List.forall₂_map_left_iff.mpr (List.forall₂_same.mpr h)) fun j hj => ?_
  obtain ⟨a, ha, rfl⟩ := List.mem_map.mp hj
  exact hopens a ha

/-! ## Members of an object -/

/-- Among members of different names each is found under its own. -/
theorem findMember?_read {ps : List Part} (hnodup : (ps.map Part.name).Nodup) {p : Part}
    (hp : p ∈ ps) (i : Nat) :
    ∃ j, findMember? p.name i (ps.map Part.read) = some (j, p.draft) := by
  induction ps generalizing i with
  | nil => cases hp
  | cons q ps ih =>
    obtain ⟨hq, hnodup⟩ := List.nodup_cons.mp hnodup
    rcases List.mem_cons.mp hp with rfl | hp
    · exact ⟨i, if_pos rfl⟩
    · obtain ⟨j, hj⟩ := ih hnodup hp (i + 1)
      have hne : some q.name ≠ some p.name := fun heq =>
        hq (Option.some.inj heq ▸ List.mem_map_of_mem hp)
      exact ⟨j, (if_neg hne).trans hj⟩

/-- A name that no part has is not found. -/
theorem findMember?_eq_none {name : String} {ps : List Part} (h : name ∉ ps.map Part.name)
    (i : Nat) : findMember? name i (ps.map Part.read) = none := by
  induction ps generalizing i with
  | nil => rfl
  | cons p ps ih =>
    rw [List.map_cons, List.mem_cons, not_or] at h
    have hne : some p.name ≠ some name := fun heq => h.1 (Option.some.inj heq).symm
    exact (if_neg hne).trans (ih h.2 (i + 1))

/-- Members of different names are not refused. Those of which the names are
unknown are skipped. -/
theorem refusedName_read {ps : List Part} {known seen : List String}
    (hknown : ∀ p ∈ ps, p.name ∈ known ∨ p.draft.followed = true)
    (hnodup : (ps.map Part.name).Nodup) (hseen : ∀ p ∈ ps, p.name ∉ seen) (i : Nat) :
    refusedName known seen i (ps.map Part.read) = none := by
  induction ps generalizing seen i with
  | nil => rfl
  | cons q ps ih =>
    obtain ⟨hq, hnodup⟩ := List.nodup_cons.mp hnodup
    have hrest := fun p hp => hknown p (List.mem_cons_of_mem q hp)
    rw [List.map_cons, Part.read, refusedName]
    by_cases hname : q.name ∈ known
    · rw [if_pos hname, if_neg (hseen q List.mem_cons_self)]
      refine ih hrest hnodup (fun p hp hmem => ?_) (i + 1)
      rcases List.mem_cons.mp hmem with heq | hmem
      · exact hq (heq ▸ List.mem_map_of_mem hp)
      · exact hseen p (List.mem_cons_of_mem q hp) hmem
    · rw [if_neg hname, if_pos ((hknown q List.mem_cons_self).resolve_left hname)]
      exact ih hrest hnodup (fun p hp => hseen p (List.mem_cons_of_mem q hp)) (i + 1)

/-- The names of two records one after the other, those of members that are
left out included. -/
theorem names_append {ps qs : List Part} {missing more names names' : List String}
    (hps : (ps.map Part.name ++ missing).Perm names)
    (hqs : (qs.map Part.name ++ more).Perm names') :
    ((ps ++ qs).map Part.name ++ (missing ++ more)).Perm (names ++ names') := by
  have hnames := hps.append hqs
  rw [List.append_assoc] at hnames
  rw [List.map_append, List.append_assoc]
  exact ((List.perm_append_comm_assoc _ _ _).append_left _).trans hnames

/-! ## Records -/

/-- What a part of a record asks for: members that are there, with the draft that the text
of each is read as, and names of members that are left out. Wherever these are found so,
the part is built. -/
structure Fields.Finds (k : Nat) (x : Fields α) (ps : List Part) (missing : List String)
    (a : α) : Prop where
  names : (ps.map Part.name ++ missing).Perm x.names
  read : ∀ p ∈ ps, ReadAs p.value p.draft
  built : ∀ (m : Mode) (all : List (Option String × Draft)) (i : Nat), k < m.depth →
    (∀ p ∈ ps, ∃ j, findMember? p.name 0 all = some (j, p.draft)) →
    (∀ name ∈ missing, findMember? name 0 all = none) →
    x.build m (.ofObject all) i = .ok a

namespace Fields.Finds

variable {k : Nat} {x : Fields α} {ps all : List Part} {missing : List String}
  {a : α} {m : Mode}

/-- Among members of different names, those that are asked for are found as
they are asked for. -/
theorem build_eq_ok (h : x.Finds k ps missing a) (hsub : ps ⊆ all)
    (hnodup : (all.map Part.name).Nodup)
    (hmissing : ∀ name ∈ missing, name ∉ all.map Part.name) (hm : k < m.depth) :
    x.build m (.ofObject (all.map Part.read)) 0 = .ok a :=
  h.built m _ 0 hm (fun _ hp => findMember?_read hnodup (hsub hp) 0)
    fun name hname => findMember?_eq_none (hmissing name hname) 0

/-- A record whose fields have different names is read from the parts that it finds. -/
theorem fromMembers_eq_ok (h : x.Finds k ps missing a) (hnodup : x.names.Nodup)
    (hm : k < m.depth) : x.fromMembers m (ps.map Part.read) true = .ok a := by
  obtain ⟨hdistinct, -, hapart⟩ := List.nodup_append.mp (h.names.nodup_iff.mpr hnodup)
  have hknown : ∀ p ∈ ps, p.name ∈ x.names := fun p hp =>
    h.names.mem_iff.mp (List.mem_append_left _ (List.mem_map_of_mem hp))
  have hrefused : refusedName x.names [] 0 (ps.map Part.read) = none :=
    refusedName_read (fun p hp => .inl (hknown p hp)) hdistinct
      (fun _ _ => List.not_mem_nil) 0
  have hbuilt := h.build_eq_ok (fun _ hp => hp) hdistinct
    (fun name hname hmem => hapart name hmem name hname rfl) hm
  simp only [Fields.fromMembers, hrefused, hbuilt, settle, if_pos]

end Fields.Finds

/-- From the members `ms` the record `a` is built. -/
def Fields.Reads (k : Nat) (x : Fields α) (ms : List (String × Json)) (a : α) : Prop :=
  ∃ ps missing, ps.map Part.written = ms ∧ x.Finds k ps missing a

namespace Fields.Reads

variable {k : Nat}

theorem pure (a : α) : (Fields.pure a).Reads k [] a :=
  ⟨[], [], rfl, .nil, fun _ hp => absurd hp List.not_mem_nil, fun _ _ _ _ _ _ => rfl⟩

/-- A member that is written. -/
theorem one (name : String) {inner : Decoder α} {ifUnnamed ifMissing : Option α} {j : Json}
    {a : α} (ha : Yields inner k j a) :
    (Fields.one name inner ifUnnamed ifMissing).Reads k [(name, j)] a := by
  obtain ⟨d, hread, -, hdecode⟩ := ha
  refine ⟨[⟨name, j, d⟩], [], rfl, .refl _, fun p hp => ?_, fun m all i hm hall _ => ?_⟩
  · rw [List.mem_singleton.mp hp]
    exact hread
  · obtain ⟨at_, hfind⟩ := hall ⟨name, j, d⟩ (List.mem_singleton_self _)
    simp only [Fields.one, Members.ofObject, hfind, hdecode m hm]

/-- A member that is left out, because its value stands for an absent one. -/
theorem leftOut (name : String) {inner : Decoder α} {a : α} :
    (Fields.one name inner (some a) none).Reads k [] a := by
  refine ⟨[], [name], rfl, .refl _, fun _ hp => absurd hp List.not_mem_nil, ?_⟩
  intro m all i _ _ hmissing
  have hfind := hmissing name (List.mem_singleton_self _)
  simp only [Fields.one, Members.ofObject, hfind, if_pos]

/-- Some members, and then others. -/
theorem seq {f : Fields (β → α)} {x : Fields β} {ms ns : List (String × Json)} {g : β → α}
    {b : β} (hf : f.Reads k ms g) (hx : x.Reads k ns b) :
    (f.seq x).Reads k (ms ++ ns) (g b) := by
  obtain ⟨ps, missing, rfl, hps⟩ := hf
  obtain ⟨qs, more, rfl, hqs⟩ := hx
  refine ⟨ps ++ qs, missing ++ more, List.map_append, names_append hps.names hqs.names, ?_,
    fun m all i hm hall hmissing => ?_⟩
  · intro p hp
    exact (List.mem_append.mp hp).elim (hps.read p) (hqs.read p)
  · -- what is built so far does not ask for the new members, and finds its own
    -- in `all` as before
    have hfirst := hps.built m all i hm (fun p hp => hall p (List.mem_append_left _ hp))
      fun n hn => hmissing n (List.mem_append_left _ hn)
    have hlast := hqs.built m all (i + f.names.length) hm
      (fun p hp => hall p (List.mem_append_right _ hp))
      fun n hn => hmissing n (List.mem_append_right _ hn)
    simp only [Fields.seq, hfirst, hlast]

/-- One more member of a type of its own. -/
theorem member [Encode β] [Decode β] {f : Fields (β → α)} {g : β → α}
    {ms : List (String × Json)} {b : β} (hf : f.Reads k ms g) (name : String)
    (hb : ReadsBack k b) : (f.seq (field name)).Reads k (ms ++ [(name, encode b)]) (g b) :=
  hf.seq (.one name hb)

/-- A record is decoded from the object of its members, which are one level below it. -/
theorem decode {x : Fields α} {ms : List (String × Json)} {a : α} (h : x.Reads k ms a)
    (hnodup : x.names.Nodup) (wanted : String) :
    Yields (x.decode wanted) (k + 1) (.obj ms) a := by
  obtain ⟨ps, missing, rfl, hfinds⟩ := h
  refine ⟨_, ReadAs.obj hfinds.read, nofun, fun m hm => ?_⟩
  obtain ⟨henter, hdepth⟩ := Mode.enter?_of_lt hm
  simp only [Fields.decode, henter]
  exact hfinds.fromMembers_eq_ok hnodup hdepth

/-- A record is decoded from the object that it was written as. -/
theorem readsBack [Encode α] [Decode α] {x : Fields α} {ms : List (String × Json)} {a : α}
    {wanted : String} (h : x.Reads k ms a) (hnodup : x.names.Nodup)
    (hencode : encode a = .obj ms)
    (hdecode : (Decode.decode : Decoder α) = x.decode wanted) : ReadsBack (k + 1) a := by
  rw [ReadsBack, hencode, hdecode]
  exact h.decode hnodup wanted

end Fields.Reads

end Community.Json
