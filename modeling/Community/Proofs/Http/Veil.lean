import Community.Proofs.Http.Traffic
import Community.Proofs.User.Hash

/-!
# Requests without password hashes

No request is answered from a password hash, and none writes one, so that a run goes the same
way in a database without the hashes:

> `respond_veiled`: through the veil over the hashes a request is answered as without it, and
> leaves the world as without it, seen through the veil.

> `World.served_veiled`: so does a run of requests.
-/

namespace Community

open Procedure

namespace Http

/-- Every endpoint does without the password hashes what it does with them. -/
theorem Endpoint.unaware_run (e : Endpoint) (v : Visit) : Unaware .hashes (e.run v) := by
  obtain rfl | ⟨p, hrun⟩ | ⟨op, hserves⟩ := e.run_cases v
  · exact .pure _
  · rw [hrun]
    exact .throw p
  generalize e.run v = a at hserves ⊢
  cases hserves with
  | categoryList => exact .bind (Category.unaware_list _ _) fun _ => .pure _
  | categoryTree => exact .bind Category.unaware_tree fun _ => .pure _
  | categoryView => exact .bind (Category.unaware_view _) fun _ => .pure _
  | categoryAncestors => exact .bind (Category.unaware_ancestors _) fun _ => .pure _
  | categoryCreate => exact .bind (Category.unaware_create _) fun _ => .pure _
  | categoryChange => exact .bind (Category.unaware_change _ _) fun _ => .pure _
  | categoryRemove => exact .bind (Category.unaware_remove _) fun _ => .pure _
  | likeToggle => exact .bind (Like.unaware_request _ _ _) fun _ => .pure _
  | likeMine => exact .bind (Like.unaware_mine _ _ _) fun _ => .pure _
  | likeCheck => exact .bind (Like.unaware_isLiked _ _ _) fun _ => .pure _
  | likeLikers => exact .bind (Like.unaware_likers _ _ _) fun _ => .pure _
  | favoriteToggle => exact .bind (Favorite.unaware_request _ _ _) fun _ => .pure _
  | favoriteList => exact .bind (Favorite.unaware_list _ _ _) fun _ => .pure _
  | favoriteCheck => exact .bind (Favorite.unaware_isKept _ _ _) fun _ => .pure _
  | search => exact .bind (Search.unaware_run _ _ _) fun _ => .pure _
  | searchHistory => exact .bind (Search.unaware_history _ _ _) fun _ => .pure _
  | searchHot => exact .bind (Search.unaware_hot _) fun _ => .pure _
  | userList => exact .bind (User.unaware_list _ _) fun _ => .pure _
  | userMe | userView => exact .bind (User.unaware_profile _ _) fun _ => .pure _
  | userChange => exact .bind (User.unaware_change _ _) fun _ => .pure _

/-- A service answers the same whatever the hashes of passwords are, and leaves them. -/
theorem respond_veiled (gateway : Gateway) (r : Request) (w : World) :
    respond gateway r (w.veiled .hashes)
      = ((respond gateway r w).1, (respond gateway r w).2.veiled .hashes) := by
  obtain ⟨response, -, hrespond⟩ | ⟨_, _, _, parameters, e, _, _, _, hrespond⟩ :=
    respond_eq gateway r
  · rw [hrespond, hrespond]
  · rw [hrespond, hrespond, (e.unaware_run _).perform_veiled w]

/-- A turn through a veil: other services write what they write without it. -/
def Turn.veiled (v : User.Veil) : Turn → Turn
  | rewrite db => rewrite (db.veiled v)
  | t => t

/-- So it is with what happens between two requests. -/
theorem Turn.next_veiled (gateway : Gateway) (t : Turn) (w : World) :
    (t.veiled .hashes).next gateway (w.veiled .hashes) =
      (t.next gateway w).veiled .hashes := by
  cases t with
  | request r => exact congrArg Prod.snd (respond_veiled gateway r w)
  | wait time => rfl
  | rewrite db => rfl

end Http

open Http

/-- A run without the password hashes is the run with them, but for the hashes. -/
theorem World.served_veiled (gateway : Gateway) (turns : List Turn) (w : World) :
    (w.veiled .hashes).served gateway (turns.map (Turn.veiled .hashes))
      = (w.served gateway turns).veiled .hashes := by
  induction turns generalizing w with
  | nil => rfl
  | cons t turns ih =>
    rw [List.map_cons, served_cons, served_cons, t.next_veiled, ih]

end Community
