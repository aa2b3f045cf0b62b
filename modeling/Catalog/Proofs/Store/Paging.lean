import Catalog.Proofs.Query.Sorting
import Catalog.Proofs.Store.Session

/-!
Results read page by page. The pages cut one list into pieces of the same length, because every page
filters and sorts the same documents again and nothing is written in between. An offset that reaches
its bound of 64 bits is past the end of any result.
-/
namespace Catalog

open Json

namespace Query.Selection

variable {docs : List Value} {limit : Nat}

/-- How many pages it takes to hold so many documents. -/
def pageCount (total limit : Nat) : Nat := (total + limit - 1) / limit

theorem le_pageCount_mul (total : Nat) (positive : 0 < limit) :
    total ≤ pageCount total limit * limit := by
  have full := Nat.div_add_mod (total + limit - 1) limit
  have part := Nat.mod_lt (total + limit - 1) positive
  rw [pageCount, Nat.mul_comm]
  omega

theorem window_page (page : Nat) (ranking : Ranking) (few : docs.length ≤ largest) :
    window ⟨page, some limit, ranking⟩ docs = (docs.drop ((max page 1 - 1) * limit)).take limit := by
  simp only [window, offset]
  rcases Nat.le_total ((max page 1 - 1) * limit) largest with exact | past
  · rw [Nat.min_eq_left exact]
  · rw [Nat.min_eq_right past, List.drop_eq_nil_of_le few, List.drop_eq_nil_of_le (few.trans past)]

/-- The first pages one after the other are the beginning. -/
theorem flatMap_windows (ranking : Ranking) (few : docs.length ≤ largest) (pages : Nat) :
    (List.range' 1 pages).flatMap (fun page => window ⟨page, some limit, ranking⟩ docs) =
      docs.take (pages * limit) := by
  induction pages with
  | zero => simp
  | succ pages ih =>
    have before : max (1 + pages) 1 - 1 = pages := by omega
    rw [List.range'_1_concat, List.flatMap_append, ih, List.flatMap_singleton,
      window_page _ ranking few, before, Nat.succ_mul, List.take_add]

theorem window_eq_nil {page : Nat} (ranking : Ranking) (few : docs.length ≤ largest)
    (positive : 0 < limit) (past : pageCount docs.length limit < page) :
    window ⟨page, some limit, ranking⟩ docs = [] := by
  have enough := le_pageCount_mul docs.length positive
  have beyond : pageCount docs.length limit * limit ≤ (max page 1 - 1) * limit :=
    Nat.mul_le_mul_right limit (by omega)
  rw [window_page page ranking few, List.drop_eq_nil_of_le (enough.trans beyond), List.take_nil]

end Query.Selection

namespace Store.Session

open Query.Selection (pageCount)

variable {δ : Type} [Service δ] {s : Storage δ} {docs : List Value} {filter : Query.Filter}

/-- All documents that a filter selects, in the order of a ranking. -/
def ranked (filter : Query.Filter) (ranking : Query.Ranking) (docs : List Value) : List Value :=
  ranking.apply (docs.filter (Query.selects filter))

theorem length_ranked (filter : Query.Filter) (ranking : Query.Ranking) (docs : List Value) :
    (ranked filter ranking docs).length = docs.countP (Query.selects filter) := by
  rw [ranked, (Query.Ranking.apply_perm ranking _).length_eq, List.countP_eq_length_filter]

theorem find_run (now : Time.Instant) (filter : Query.Filter) (selection : Query.Selection)
    (holds : s.Holds docs) :
    ask now (.find filter selection) s =
      (.ok ⟨selection.window (ranked filter selection.ranking docs),
        (ranked filter selection.ranking docs).length⟩, s.after 1) :=
  ask_read now _ holds rfl rfl

/-- Reads the given pages one after the other. -/
def readPages (now : Time.Instant) (filter : Query.Filter) (ranking : Query.Ranking) (limit : Nat)
    (pages : List Nat) : Work δ (List Query.Page) :=
  pages.mapM fun page => ask now (.find filter ⟨page, some limit, ranking⟩)

theorem readPages_run (now : Time.Instant) (filter : Query.Filter) (ranking : Query.Ranking)
    (limit : Nat) (pages : List Nat) (holds : s.Holds docs) :
    readPages now filter ranking limit pages s =
      (.ok (pages.map fun page => ⟨Query.Selection.window ⟨page, some limit, ranking⟩
          (ranked filter ranking docs), (ranked filter ranking docs).length⟩),
        s.after pages.length) := by
  -- Every page is read from the storage that the pages before it left, which holds the same.
  induction pages generalizing s with
  | nil => rfl
  | cons page pages ih =>
    have first := find_run now filter ⟨page, some limit, ranking⟩ holds
    have rest := ih (holds.after 1)
    rw [readPages] at rest ⊢
    rw [List.mapM_cons, bind_ok first, bind_ok rest, pure_run, Storage.after_after, Nat.add_comm]
    rfl

/-- The pages of a result, one after the other, are the result: as many as it takes to hold it, each
telling its size. There is no page before the first one, and every page after the last is empty. -/
theorem pages_partition (s : Storage δ) (docs : List Value) (now : Time.Instant)
    (filter : Query.Filter) (ranking : Query.Ranking) (limit : Nat) (holds : s.Holds docs)
    (few : docs.length ≤ Query.Selection.largest) (positive : 0 < limit) :
    ∃ all, all.length = docs.countP (Query.selects filter) ∧
      (∀ page, ask now (.find filter { page := page, ranking := ranking }) s =
        (.ok ⟨all, all.length⟩, s.after 1)) ∧
      (∃ pages, readPages now filter ranking limit (List.range' 1 (pageCount all.length limit)) s =
          (.ok pages, s.after (pageCount all.length limit)) ∧
        pages.flatMap Query.Page.items = all ∧ ∀ page ∈ pages, page.total = all.length) ∧
      ask now (.find filter ⟨0, some limit, ranking⟩) s =
        ask now (.find filter ⟨1, some limit, ranking⟩) s ∧
      ∀ page, ∃ items, ask now (.find filter ⟨page, some limit, ranking⟩) s =
          (.ok ⟨items, all.length⟩, s.after 1) ∧
        (pageCount all.length limit < page → items = []) := by
  have fewer : (ranked filter ranking docs).length ≤ Query.Selection.largest := by
    rw [length_ranked]
    exact List.countP_le_length.trans few
  refine ⟨ranked filter ranking docs, length_ranked filter ranking docs, ?_, ?_, ?_, ?_⟩
  · exact fun page => find_run now filter _ holds
  · have run := readPages_run now filter ranking limit
      (List.range' 1 (pageCount (ranked filter ranking docs).length limit)) holds
    rw [List.length_range'] at run
    refine ⟨_, run, ?_, List.forall_mem_map.mpr fun _ _ => rfl⟩
    rw [List.flatMap_map, Query.Selection.flatMap_windows ranking fewer,
      List.take_of_length_le (Query.Selection.le_pageCount_mul _ positive)]
  · rw [find_run now filter _ holds, find_run now filter _ holds]
    rfl
  · exact fun page => ⟨_, find_run now filter _ holds,
      Query.Selection.window_eq_nil ranking fewer positive⟩

def titled (titles : List String) : List Value :=
  titles.map fun title => .object [("title", .text title)]

def byTitle : Query.Ranking := [⟨Field.title, .ascending⟩]

def titleShelf : Storage := .fileOnly ⟨"titles.json", .text
  "[\x7b\"title\":\"b\"\x7d,\x7b\"title\":\"c\"\x7d,\x7b\"title\":\"a\"\x7d]"⟩

theorem titleShelf_holds : titleShelf.Holds (titled ["b", "c", "a"]) := ⟨rfl, rfl⟩

theorem ranked_titled : ranked [] byTitle (titled ["b", "c", "a"]) = titled ["a", "b", "c"] := rfl

/-- Three documents are two pages of two. -/
theorem pages_partition_titled :
    titleShelf.Holds (titled ["b", "c", "a"]) ∧
      (titled ["b", "c", "a"]).length ≤ Query.Selection.largest ∧ 0 < 2 ∧
      ∃ pages, readPages ⟨5, 0⟩ [] byTitle 2 [1, 2] titleShelf = (.ok pages, titleShelf.after 2) ∧
        pages.flatMap Query.Page.items = titled ["a", "b", "c"] := by
  have few : (titled ["b", "c", "a"]).length ≤ Query.Selection.largest := by decide
  obtain ⟨all, -, whole, ⟨pages, run, joined, -⟩, -⟩ := pages_partition titleShelf _ ⟨5, 0⟩ []
    byTitle 2 titleShelf_holds few (by decide)
  have same := (whole 1).symm.trans (find_run ⟨5, 0⟩ [] _ titleShelf_holds)
  have sorted : all = titled ["a", "b", "c"] := by
    rw [← ranked_titled]
    exact congrArg Query.Page.items (Except.ok.inj (congrArg Prod.fst same))
  subst sorted
  exact ⟨titleShelf_holds, few, by decide, pages, run, joined⟩

end Store.Session

end Catalog
