import Community.Proofs.Json.Flattened

/-!
# A value that does not name its kind

The kinds are tried one after the other, and the first that fits is taken. So a value is
decoded as what it was written from only if no kind before its own fits it too:

> `Refuses`: no value of a kind is decoded from the text.

> `Fields.Demands.refuses`: a record does not fit one that demands a member unknown to it.
> What other members the two have in common does not matter, nor which of them are left out.
-/

namespace Community.Json

variable {α β γ : Type}

/-- The text of `j` is read, but at no place does the decoder get a value from it. -/
def Refuses (inner : Decoder α) (j : Json) : Prop :=
  ∃ d, ReadAs j d ∧ ∀ m a, inner m d ≠ .ok a

/-- A function of what is read does not make more readable. -/
theorem Refuses.map {inner : Decoder α} {j : Json} (h : Refuses inner j) (f : α → β) :
    Refuses (fun m d => (inner m d).map f) j := by
  obtain ⟨d, hread, hrefused⟩ := h
  refine ⟨d, hread, fun m b hb => ?_⟩
  dsimp only at hb
  cases hinner : inner m d with
  | ok a => exact hrefused m a hinner
  | error fault =>
    rw [hinner] at hb
    cases hb

/-- A function of what is read gives the image. -/
theorem Yields.map {inner : Decoder α} {k : Nat} {j : Json} {a : α} (h : Yields inner k j a)
    (f : α → β) : Yields (fun m d => (inner m d).map f) k j (f a) := by
  obtain ⟨d, hread, hnull, hdecode⟩ := h
  refine ⟨d, hread, hnull, fun m hm => ?_⟩
  dsimp only
  rw [hdecode m hm]
  rfl

/-! ## The first kind that fits -/

section First

variable {wanted : String} {kind : Decoder α} {kinds : List (Decoder α)} {k : Nat}
  {j : Json} {a : α}

/-- What the first kind reads is read by the choice. -/
theorem Yields.first (h : Yields kind k j a) (hlegible : Legible k j) :
    Yields (decodeFirst wanted (kind :: kinds)) k j a := by
  obtain ⟨d, hread, hnull, hdecode⟩ := h
  obtain ⟨d', hread', -, hjson⟩ := hlegible
  obtain rfl := hread.unique hread'
  refine ⟨d, hread, hnull, fun m hm => ?_⟩
  obtain ⟨value, hvalue⟩ := Option.isSome_iff_exists.mp (hjson m.depth hm)
  have hkind := hdecode { m with buffered := true } hm
  simp only [decodeFirst, hvalue, List.findSome?_cons, hkind, Except.toOption]

/-- What the first kind refuses is left to the others. -/
theorem Yields.later (hrefused : Refuses kind j)
    (h : Yields (decodeFirst wanted kinds) k j a) :
    Yields (decodeFirst wanted (kind :: kinds)) k j a := by
  obtain ⟨d, hread, hnull, hdecode⟩ := h
  obtain ⟨d', hread', hrefused⟩ := hrefused
  obtain rfl := hread.unique hread'
  refine ⟨d, hread, hnull, fun m hm => ?_⟩
  have hkind : (kind { m with buffered := true } d).toOption = none := by
    cases hkind : kind { m with buffered := true } d with
    | ok b => exact absurd hkind (hrefused _ b)
    | error f => rfl
  have hrest := hdecode m hm
  rw [decodeFirst] at hrest ⊢
  rwa [List.findSome?_cons, hkind]

end First

/-! ## Members that a record demands -/

/-- From members without that name the record is not built. -/
def Fields.Demands (x : Fields α) (name : String) : Prop :=
  ∀ m ms i a, findMember? name 0 ms = none → x.build m (.ofObject ms) i ≠ .ok a

namespace Fields.Demands

variable {f : Fields (β → α)} {x : Fields β} {name : String}

/-- A field demands the member of its name. -/
theorem one {inner : Decoder α} : (Fields.one name inner none none).Demands name := by
  intro m ms i a hnone hbuild
  simp only [Fields.one, Members.ofObject, hnone, if_pos] at hbuild
  cases hbuild

/-- A record demands what a part of it demands. -/
theorem left (h : f.Demands name) : (f.seq x).Demands name := by
  intro m ms i a hnone hbuild
  simp only [Fields.seq] at hbuild
  split at hbuild
  · next g b hg _ => exact h m ms i g hnone hg
  · cases hbuild
  · cases hbuild
  · cases hbuild

theorem right (h : x.Demands name) : (f.seq x).Demands name := by
  intro m ms i a hnone hbuild
  simp only [Fields.seq] at hbuild
  split at hbuild
  · next g b _ hb => exact h m ms _ b hnone hb
  · cases hbuild
  · cases hbuild
  · cases hbuild

/-- No record is decoded from one that does not know a member it demands. -/
theorem refuses {x : Fields α} {y : Fields β} {k : Nat} {j : Json} {b : β}
    (h : x.Demands name) (hy : ∃ ms, j = .obj ms ∧ y.Reads k ms b) (hname : name ∉ y.names)
    (wanted : String) : Refuses (x.decode wanted) j := by
  obtain ⟨_, rfl, ps, missing, rfl, hfinds⟩ := hy
  refine ⟨_, ReadAs.obj hfinds.read, fun m a ha => ?_⟩
  have hunknown : name ∉ ps.map Part.name := fun hmem =>
    hname (hfinds.names.mem_iff.mp (List.mem_append_left missing hmem))
  unfold Fields.decode at ha
  dsimp only at ha
  split at ha
  · cases ha
  · exact h _ _ 0 a (findMember?_eq_none hunknown 0) (settle_eq_ok ha)

end Fields.Demands

end Community.Json
