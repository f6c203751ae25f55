import Community.Category.Tree
import Community.Database.Fault
import Community.Http.Fault
import Community.Report
import Community.Target.Counter
import Community.Validation

/-!
# Problems

The causes for which an operation does not succeed, and the report that each of
them is answered with.
-/

namespace Community

/-- Why an operation does not succeed. -/
inductive Problem
  | categoryMissing (id : Int)
  | userMissing (id : Int)
  /-- A relation points at nothing. -/
  | targetMissing (counter : Counter) (id : Int)
  | unauthorized
  | adminRequired
  | request (fault : Http.Fault)
  | selfParent
  | parentMissing (id : Int)
  /-- A category would hang below itself. -/
  | descendantParent
  | blankKeyword
  | invalid (issues : List Issue)
  | limitOutOfRange (largest found : Nat)
  | siblingName (name : String)
  | activeChildren (id : Int) (count : Nat)
  | usernameTaken
  | emailTaken
  | database (fault : Database.Fault)
  /-- The chain of parents of `start` comes back to a category it has passed. -/
  | circularParents (start through : Int)
  | hierarchy (fault : HierarchyFault)

namespace Problem

/-- The report that a problem is answered with. -/
def report : Problem → Report
  | categoryMissing id => ⟨.notFound, "Category " ++ toString id ++ " not found"⟩
  | userMissing id => ⟨.notFound, "User " ++ toString id ++ " not found"⟩
  | targetMissing counter id => ⟨.notFound, counter.label ++ " target " ++ toString id⟩
  | unauthorized => ⟨.unauthorized, ""⟩
  | adminRequired => ⟨.forbidden, "Administrator role required"⟩
  | request fault => ⟨.badRequest, fault.message⟩
  | selfParent => ⟨.badRequest, "A category cannot be its own parent"⟩
  | parentMissing id => ⟨.badRequest, "Parent category " ++ toString id ++ " does not exist"⟩
  | descendantParent => ⟨.badRequest, "A category cannot be moved below its own descendant"⟩
  | blankKeyword => ⟨.badRequest, "Keyword must not be blank"⟩
  | invalid issues => ⟨.validation, Issue.lines issues⟩
  | limitOutOfRange largest found => ⟨.validation, "limit must be between 1 and " ++
      toString largest ++ ", got " ++ toString found⟩
  | siblingName name =>
    ⟨.conflict, "Category '" ++ name ++ "' already exists under this parent"⟩
  | activeChildren id count => ⟨.conflict, "Category " ++ toString id ++ " still has " ++
      toString count ++ " active subcategories"⟩
  | usernameTaken => ⟨.conflict, "Username already taken"⟩
  | emailTaken => ⟨.conflict, "Email already registered"⟩
  | database .duplicate => ⟨.conflict, "Record already exists"⟩
  | database fault => ⟨.database, fault.message⟩
  | circularParents start through => ⟨.internal, "Category " ++ toString start ++
      " has a cyclic parent chain through " ++ toString through⟩
  | hierarchy fault => ⟨.internal, fault.message⟩

/-- No problem unless there are issues. -/
def ofIssues (issues : List Issue) : Except Problem Unit :=
  if issues.isEmpty then .ok () else .error (.invalid issues)

/-- The outcome of a statement, with its fault as a problem. -/
def ofStatement {α : Type} (outcome : Except Database.Fault α) : Except Problem α :=
  outcome.mapError .database

end Problem

end Community
