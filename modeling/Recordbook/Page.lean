import Recordbook.Value.Arithmetic

/-!
# Pages

One page of a longer result: its items, how many there are over all pages, the number and the
length of the page, and the number of pages.

The number of pages is the ceiling of a quotient that was rounded to a binary fraction first. Where
a page runs from and to is computed from values that callers hand in unchecked.
-/

namespace Recordbook

/-- One page of a result. -/
structure Page (α : Type) where
  /-- The items of the page. -/
  items : List α
  /-- How many items there are over all pages. -/
  total : Int
  /-- The number of the page, from 1. -/
  page : Int
  /-- How many items a page has. -/
  perPage : Int
  /-- How many pages there are. -/
  pages : Int

namespace Page

variable {α : Type}

/-- The number of pages for a total and a page length; none for a length that is falsy. -/
def pageCount (total perPage : Value) : Except Misuse Int :=
  if perPage.isTruthy then do
    let q ← Number.quotient total perPage
    q.ceiling
  else .ok 0

/-- A field of a page. -/
def field (name : String) (v : Value) : Except Issue Int :=
  match v.asWhole with
  | .ok n => .ok n
  | .error c => .error ⟨[name], c, v⟩

/-- A page of items with its numbers. -/
def build (items : List α) (total page perPage : Value) : Except Failure (Page α) :=
  match pageCount total perPage with
  | .error m => .error (.misuse m)
  | .ok pages => match field "total" total, field "page" page, field "per_page" perPage with
    | .ok total, .ok page, .ok perPage => .ok ⟨items, total, page, perPage, pages⟩
    | total, page, perPage =>
      .error (.invalid ⟨"Page", issueOf total ++ issueOf page ++ issueOf perPage⟩)

/-- A page of the items of a value. -/
def ofValues (items total page perPage : Value) : Except Failure (Page Value) :=
  match items.items with
  | .error m => .error (.misuse m)
  | .ok xs => build xs total page perPage

/-- How many items to pass over, and how many to take then. -/
structure Window where
  /-- The number of items to pass over. -/
  offset : Int
  /-- The greatest number of items to take. -/
  limit : Int
deriving DecidableEq

/-- The window of a page. Pages before the first are taken as the first. -/
def window (page perPage : Value) : Except Misuse Window := do
  let first ← Number.atLeastOne page
  let before ← first.minusOne
  let skipped ← before.times perPage
  let offset ← skipped.toWhole
  let limit ← perPage.toWhole
  return ⟨offset, limit⟩

namespace Window

/-- The part of a list that a window shows. A negative limit is no limit, and a negative offset is
none. -/
def slice (w : Window) (xs : List α) : List α :=
  let rest := xs.drop w.offset.toNat
  if w.limit < 0 then rest else rest.take w.limit.toNat

/-- Whether both numbers fit 64 bits. -/
def fits (w : Window) : Bool :=
  let small (n : Int) : Bool := -(2 ^ 63) ≤ n && n < 2 ^ 63
  small w.offset && small w.limit

theorem slice_sublist (w : Window) (xs : List α) : (w.slice xs).Sublist xs := by
  unfold slice
  split
  · exact List.drop_sublist _ _
  · exact (List.take_sublist _ _).trans (List.drop_sublist _ _)

end Window

end Page

end Recordbook
