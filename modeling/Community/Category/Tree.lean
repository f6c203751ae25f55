import Community.Category.Basic
import Community.Text.Blank

/-!
# The forest of categories

A list of categories, in display order, is assembled into a forest. Inactive categories are
left out. A category hangs below its parent if the parent is in the list and active;
otherwise it is a root. Siblings keep the order of the list.

A category whose chain of parents runs in a circle hangs below no root. Such categories are
reported and not dropped, as is an identifier that appears twice.
-/

namespace Community

open Json Text

/-- A category with the categories below it. -/
inductive CategoryNode
  | node (category : Category) (children : List CategoryNode)

namespace CategoryNode

/-- The category at the node. -/
def category : CategoryNode → Category
  | node c _ => c

/-- The nodes below the node. -/
def children : CategoryNode → List CategoryNode
  | node _ ns => ns

mutual

/-- How many nodes there are from here down. -/
def size : CategoryNode → Nat
  | node _ ns => 1 + sizes ns

@[inherit_doc size]
def sizes : List CategoryNode → Nat
  | [] => 0
  | n :: ns => size n + sizes ns

end

mutual

/-- The nodes from here down, each before those below it, with their depth. -/
def preorder (depth : Nat) : CategoryNode → List (Category × Nat × Nat)
  | node c ns => (c, depth, 1 + sizes ns) :: preorders (depth + 1) ns

@[inherit_doc preorder]
def preorders (depth : Nat) : List CategoryNode → List (Category × Nat × Nat)
  | [] => []
  | n :: ns => preorder depth n ++ preorders depth ns

end

mutual

/-- A node is written as its category with one more member. -/
def toJson : CategoryNode → Json
  | node c ns => .obj (c.members ++ [("children", .arr (toJsons ns))])

@[inherit_doc toJson]
def toJsons : List CategoryNode → List Json
  | [] => []
  | n :: ns => toJson n :: toJsons ns

end

instance : Encode CategoryNode := ⟨toJson⟩

/-- Reads a node with at most `depth` levels. -/
def decodeNode : Nat → Decoder CategoryNode
  | 0 => fun _ _ => .error .malformed
  | depth + 1 => decodeFlattened "struct CategoryNode"
      (Fields.one "children" (decodeList (decodeNode depth)) none none) Category.fields
      fun children category => node category children

/-- A node is at least one container, and containers lie at most as deep
as the mode allows. -/
instance : Decode CategoryNode := ⟨fun m d => decodeNode (m.depth + 1) m d, none⟩

end CategoryNode

/-- Why a list of categories is no forest. -/
inductive HierarchyFault
  | repeated (id : Int)
  | circle (ids : List Int)
  deriving DecidableEq, Repr

namespace HierarchyFault

/-- The fault in words. -/
def message : HierarchyFault → String
  | repeated id => "category " ++ toString id ++ " appears more than once"
  | circle ids =>
    "categories [" ++ ", ".intercalate (ids.map toString) ++ "] form a parent cycle"

end HierarchyFault

namespace Category

/-- The first identifier that was already seen. -/
def firstRepeated? : List Int → List Category → Option Int
  | _, [] => none
  | seen, c :: cs => if c.id ∈ seen then some c.id else firstRepeated? (c.id :: seen) cs

/-- Whether a category is at the top of the list: it has no parent there. -/
def isTop (all : List Category) (c : Category) : Bool :=
  c.isRoot || all.all fun p => p.id != c.parentId

/-- The categories of the list that hang directly below the one named `id`. -/
def below (all : List Category) (id : Int) : List Category :=
  all.filter fun c => !c.isRoot && c.parentId == id

/-- The node for a category, with at most `depth` levels below it. -/
def grow (all : List Category) : Nat → Category → CategoryNode
  | 0, c => .node c []
  | depth + 1, c => .node c ((below all c.id).map (grow all depth))

/-- The nodes for the categories at the top. No chain of parents is longer than the list. -/
def forest (all : List Category) : List CategoryNode :=
  (all.filter (isTop all)).map (grow all all.length)

/-- The categories that hang below no root. -/
def stranded (all : List Category) : List Category :=
  let reached := (CategoryNode.preorders 0 (forest all)).map fun (c, _) => c.id
  all.filter fun c => !reached.contains c.id

/-- Assembles a list of categories into a forest. -/
def buildForest (categories : List Category) : Except HierarchyFault (List CategoryNode) :=
  let all := categories.filter Columns.isActive
  match firstRepeated? [] all with
  | some id => .error (.repeated id)
  | none =>
    match stranded all with
    | [] => .ok (forest all)
    | lost => .error (.circle (lost.map Columns.id))

end Category

end Community
