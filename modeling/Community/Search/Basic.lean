import Community.Page
import Community.Relation.Basic
import Community.Target.Basic
import Community.User.Basic
import Community.Validation

/-!
# Searches

A search looks for a keyword among contents, goods or users. It leaves an entry in the
history of the user who searched, and counts the keyword among the hot ones.
-/

namespace Community

open Time Json Text

/-- What is searched. -/
inductive SearchType
  | content
  | goods
  | user
  deriving DecidableEq, Repr

instance : Tag SearchType where
  title := "SearchType"
  all := [.content, .goods, .user]
  spelling
    | .content => "content"
    | .goods => "goods"
    | .user => "user"

/-- The search type that a text names: ASCII letters match in either case. -/
def SearchType.named? (raw : String) : Option SearchType :=
  Tag.ofText? (lowerAscii raw)

/-- A request to search. -/
structure SearchRequest where
  keyword : String
  searchType : SearchType

namespace SearchRequest

/-- How the request is read. -/
def fields : Fields SearchRequest :=
  SearchRequest.mk <$> field "keyword" <*> field "search_type"

instance : Decode SearchRequest := ⟨fields.decode "struct SearchInput", none⟩

/-- What is wrong with the request. -/
def issues (r : SearchRequest) : List Issue :=
  Check.length "keyword" (some 1) (some 100) r.keyword

end SearchRequest

/-! ## History -/

/-- The columns of an entry in the search history. -/
structure HistoryEntry.Columns (col : Type → Type) where
  id : Int
  userId : Int
  keyword : String
  searchType : col SearchType
  resultCount : Int
  createdAt : Timestamp

/-- An entry in the search history. -/
abbrev HistoryEntry := HistoryEntry.Columns Plain

/-- An entry in the search history as it is stored. -/
abbrev HistoryEntry.Row := HistoryEntry.Columns Column

namespace HistoryEntry

/-- The entry that a row holds, if its search type is one. -/
def Columns.read? (r : Row) : Option HistoryEntry := do
  let searchType ← r.searchType.read?
  return { r with searchType := searchType }

/-- The row that holds an entry. -/
def Columns.stored (e : HistoryEntry) : Row :=
  { e with searchType := .tag e.searchType }

/-- How an entry is read. -/
def fields : Fields HistoryEntry :=
  @Columns.mk Plain <$> field "id" <*> field "user_id" <*> field "keyword"
    <*> field (α := SearchType) "search_type" <*> field "result_count" <*> field "created_at"

instance : Encode HistoryEntry := ⟨fun e => .obj
  [("id", encode e.id), ("user_id", encode e.userId), ("keyword", encode e.keyword),
   ("search_type", .str (Tag.spelling (α := SearchType) e.searchType)),
   ("result_count", encode e.resultCount), ("created_at", encode e.createdAt)]⟩

instance : Decode HistoryEntry := ⟨fields.decode "struct Model", none⟩

end HistoryEntry

/-! ## Hot keywords -/

/-- The columns of a counted keyword. -/
structure HotSearch.Columns (col : Type → Type) where
  id : Int
  /-- Exactly as it was typed. -/
  keyword : String
  searchCount : Int
  /-- A boost given by editors, not touched by searches. -/
  trendScore : Float
  status : col ActiveStatus
  createdAt : Timestamp
  updatedAt : Timestamp

/-- A counted keyword. -/
abbrev HotSearch := HotSearch.Columns Plain

/-- A counted keyword as it is stored. -/
abbrev HotSearch.Row := HotSearch.Columns Column

namespace HotSearch

/-- The keyword that a row holds, if its status is one. -/
def Columns.read? (r : Row) : Option HotSearch := do
  let status ← r.status.read?
  return { r with status := status }

/-- The row that holds a keyword. -/
def Columns.stored (h : HotSearch) : Row :=
  { h with status := .tag h.status }

/-- How a counted keyword is read. -/
def fields : Fields HotSearch :=
  @Columns.mk Plain <$> field "id" <*> field "keyword" <*> field "search_count"
    <*> field "trend_score" <*> field (α := ActiveStatus) "status" <*> field "created_at"
    <*> field "updated_at"

instance : Encode HotSearch := ⟨fun h => .obj
  [("id", encode h.id), ("keyword", encode h.keyword),
    ("search_count", encode h.searchCount), ("trend_score", encode h.trendScore),
    ("status", .str (Tag.spelling (α := ActiveStatus) h.status)),
    ("created_at", encode h.createdAt), ("updated_at", encode h.updatedAt)]⟩

instance : Decode HotSearch := ⟨fields.decode "struct Model", none⟩

end HotSearch

/-- What is shown of a counted keyword. -/
structure HotKeyword where
  keyword : String
  searchCount : Int
  trendScore : Float

namespace HotKeyword

/-- What is shown of a counted keyword. -/
def of (h : HotSearch) : HotKeyword :=
  ⟨h.keyword, h.searchCount, h.trendScore⟩

/-- How it is read. -/
def fields : Fields HotKeyword :=
  HotKeyword.mk <$> field "keyword" <*> field "search_count" <*> field "trend_score"

instance : Encode HotKeyword := ⟨fun h => .obj
  [("keyword", encode h.keyword), ("search_count", encode h.searchCount),
   ("trend_score", encode h.trendScore)]⟩

instance : Decode HotKeyword := ⟨fields.decode "struct HotKeyword", none⟩

end HotKeyword

/-! ## Results -/

/-- Something that a search found. -/
inductive SearchHit
  | content (c : Content)
  | goods (g : Goods)
  | user (p : Profile)

namespace SearchHit

instance : Encode SearchHit := ⟨fun
  | .content c => encode c
  | .goods g => encode g
  | .user p => encode p⟩

/-- A hit does not name its kind: the first kind that fits is taken. -/
def read : Decoder SearchHit :=
  decodeFirst "SearchHit"
    [fun m d => (decode m d).map .content, fun m d => (decode m d).map .goods,
     fun m d => (decode m d).map .user]

instance : Decode SearchHit := ⟨read, none⟩

end SearchHit

/-- What a search answers. -/
structure SearchResult where
  keyword : String
  searchType : SearchType
  resultCount : Nat
  page : Listing SearchHit

namespace SearchResult

/-- The members that are not those of the page. -/
def ownFields : Fields (String × SearchType × Nat) :=
  (fun keyword searchType count => (keyword, searchType, count)) <$> field "keyword"
    <*> field "search_type" <*> field "result_count"

/-- A result and its page share one object. -/
instance : Encode SearchResult := ⟨fun r => .obj
  ([("keyword", encode r.keyword), ("search_type", encode r.searchType),
    ("result_count", encode r.resultCount)] ++ r.page.members)⟩

instance : Decode SearchResult :=
  ⟨decodeFlattened "struct SearchResult" ownFields Listing.fields
    fun (keyword, searchType, count) page => ⟨keyword, searchType, count, page⟩, none⟩

end SearchResult

end Community
