import Feuilleton.Grammar.Theme
import Feuilleton.Proofs.Extraction.ItemCells

/-!
# The last price of an item

An item is free if the last text that may lock it is a price which says so, whatever was paid for
before it. A price cell without a text says nothing: the item is then as free as the one before it.
-/

namespace Feuilleton

/-- The cells that may lock an item are those of its number and its price. -/
def Reading.mayLock (reading : Reading) : Bool :=
  reading.cell == .number || reading.cell == .price

theorem foldl_isFree (prices : List String) (paid : Bool) :
    prices.foldl (fun _ price => !isFree price) paid =
      (prices.getLast?.map (!isFree ·)).getD paid := by
  induction prices generalizing paid with
  | nil => rfl
  | cons price rest ih =>
      rw [List.foldl_cons, ih, List.getLast?_cons]
      cases rest.getLast? <;> simp

/-- Where only prices may lock an item, the last of them does or does not. -/
theorem Tally.paid_of_prices {glyph : String} {readings : List Reading} {prices : List String}
    (h : readings.filter (·.mayLock) = prices.map (⟨.price, ·⟩)) (tally : Tally) :
    (tally.afterAll glyph readings).paid = (prices.getLast?.map (!isFree ·)).getD tally.paid := by
  have hother : ∀ (tally : Tally) (reading : Reading), reading.mayLock = false →
      (tally.after glyph reading).paid = tally.paid := by
    rintro tally ⟨_ | _ | _ | _, content⟩ hkeep
    · cases hkeep
    · rfl
    · rfl
    · cases hkeep
  have hprice : ∀ (tally : Tally) (price : String),
      (tally.after glyph ⟨.price, price⟩).paid = !isFree price := by
    intro tally price
    rw [after]
  rw [afterAll_of_filter (·.paid) (fun _ price => !isFree price) hother hprice h, foldl_isFree]

/-- The cell that a tag begins in an item; the first link begins none. -/
def ChapterDraft.cellOf? (g : Grammar) (name : String) (attributes : Attributes)
    (draft : ChapterDraft) : Option Cell :=
  if name = g.chapters.linkTag ∧ draft.path.isNone then none
  else State.cellOf? g name attributes

namespace State

variable {g : Grammar} {p : Policy} {s c t : State} {name tag : String} {attributes : Attributes}
  {body : List Event} {prices : List String}

/-- The tag begins a price cell in an item that its class does not lock. From there to the end of
the item the texts that may lock it are these prices. -/
structure EndsWithPrice (g : Grammar) (p : Policy) (s : State) (name : String)
    (attributes : Attributes) (body : List Event) (tag : String) (prices : List String)
    (c t : State) : Prop where
  begins : ∃ draft, s.chapters.draft = some draft ∧ draft.lockedByClass = false ∧
    draft.cellOf? g name attributes = some .price
  inside : InItem g p s (.opened name attributes :: body) c
  last : (s.readings g p (.opened name attributes :: body)).filter (·.mayLock) =
    prices.map (⟨.price, ·⟩)
  step : c.step g p (.closed tag) = .ok t
  ended : t.chapters.draft = none

/-- The flag that an item has at its end is that of its last price, if it has one. -/
theorem EndsWithPrice.endsItem (h : EndsWithPrice g p s name attributes body tag prices c t)
    (hs : Coherent p s) : ∃ item, EndsItem g p c t item
      ((prices.getLast?.map (!isFree ·)).getD s.chapters.paid) := by
  obtain ⟨draft, hdraft, hclass, -⟩ := h.begins
  obtain ⟨⟨item, hitem, hlocked, htally⟩, -⟩ := h.inside.readsOn hs hdraft
  have hpaid : c.chapters.paid = (prices.getLast?.map (!isFree ·)).getD s.chapters.paid := by
    rw [← show (c.chapters.tally item).paid = c.chapters.paid from rfl, htally,
      Tally.paid_of_prices h.last]
    rfl
  have hends := endsItem_of_step (hs.run h.inside.run) hitem h.step h.ended
  rw [ChapterState.locks, hlocked, hclass, hpaid, Bool.or_false] at hends
  exact ⟨item, hends⟩

/-- An item whose last price says that it is free, or says nothing, is free exactly if there was a
text that said so or nothing was paid for before. -/
theorem endsItem_free_iff (hs : Reachable g p s)
    (h : EndsWithPrice g p s name attributes body tag prices c t)
    (hfree : ∀ price, prices.getLast? = some price → isFree price = true) :
    (∃ item, EndsItem g p c t item false) ↔ prices ≠ [] ∨ s.chapters.paid = false := by
  obtain ⟨item, hends⟩ := h.endsItem hs.coherent
  have hiff : (∃ item, EndsItem g p c t item false) ↔
      (prices.getLast?.map (!isFree ·)).getD s.chapters.paid = false := by
    constructor
    · rintro ⟨other, hother⟩
      cases hends.draft.symm.trans hother.draft
      exact hends.locks.symm.trans hother.locks
    · intro hpaid
      rw [hpaid] at hends
      exact ⟨item, hends⟩
  rw [hiff]
  cases hlast : prices.getLast? with
  | none =>
      obtain rfl := List.getLast?_eq_none_iff.1 hlast
      simp
  | some price =>
      have hprices : prices ≠ [] := by
        rintro rfl
        cases hlast
      simp [hfree price hlast, hprices]

private def pricedSite : Grammar :=
  .lightNovel { id := "t", sourceName := "T", site := "https://e.com/" }

private def pricedPolicy : Policy where
  now := ⟨⟨2024, 1, 10⟩, 43200⟩

private def linkTag (path : String) : Event :=
  .opened "a" (.ofList [("href", "https://e.com/" ++ path)])

private def priceClass : Attributes :=
  .ofList [("class", "epl-price")]

/-- The first item has a price, and the second one has been begun. -/
private def paidFront : List Event := [
  .opened "div" (.ofList [("class", "eplister")]), .opened "ul" ∅,
  .opened "li" ∅, linkTag "c1/", .opened "div" priceClass, .text "5 Coins", .closed "div",
  .closed "a", .closed "li", .opened "li" ∅, linkTag "c2/"]

private def paidState : State where
  mode := .chapters
  chapters := {
    draft := some { path := some "c2/" }
    paid := true
    records := [{ path := "c1/", name := "🔒 ", locked := true }] }
  seen := 11

private def priceEnded (paid : Bool) (seen : Nat) : State :=
  { paidState with chapters := { paidState.chapters with paid }, seen }

private def itemEnded (locked : Bool) (seen : Nat) : State where
  mode := .chapters
  chapters := {
    paid := locked
    records := paidState.chapters.records ++
      [{ path := "c2/", name := if locked then "🔒 " else "", locked }] }
  seen := seen

private theorem reachable_paidState : Reachable pricedSite pricedPolicy paidState := by
  have hrun : (initial "").run pricedSite pricedPolicy paidFront = .ok paidState := rfl
  exact .of_run hrun

theorem endsItem_free_behindPaid : ∃ item,
    EndsItem pricedSite pricedPolicy (priceEnded false 15) (itemEnded false 16) item false := by
  have hinside : InItem pricedSite pricedPolicy paidState
      [.opened "div" priceClass, .text "Free", .closed "div", .closed "a"]
      (priceEnded false 15) :=
    .cons rfl rfl (.cons rfl rfl (.cons rfl rfl (.cons rfl rfl (.nil rfl))))
  have hprice : EndsWithPrice pricedSite pricedPolicy paidState "div" priceClass
      [.text "Free", .closed "div", .closed "a"] "li" ["Free"] (priceEnded false 15)
      (itemEnded false 16) := {
    begins := ⟨_, rfl, rfl, rfl⟩
    inside := hinside
    last := rfl
    step := rfl
    ended := rfl }
  refine (endsItem_free_iff reachable_paidState hprice ?_).2 (.inl (by simp))
  intro price hlast
  obtain rfl := Option.some.inj hlast
  decide +kernel

/-- The price cell is empty, and the item is locked as the one before it. -/
theorem emptyPrice_stays_locked :
    Reachable pricedSite pricedPolicy paidState ∧
    EndsWithPrice pricedSite pricedPolicy paidState "div" priceClass [.closed "div", .closed "a"]
      "li" [] (priceEnded true 14) (itemEnded true 15) ∧
    ¬∃ item, EndsItem pricedSite pricedPolicy (priceEnded true 14) (itemEnded true 15) item
      false := by
  have hinside : InItem pricedSite pricedPolicy paidState
      [.opened "div" priceClass, .closed "div", .closed "a"] (priceEnded true 14) :=
    .cons rfl rfl (.cons rfl rfl (.cons rfl rfl (.nil rfl)))
  refine ⟨reachable_paidState, ?_, ?_⟩
  · exact {
      begins := ⟨_, rfl, rfl, rfl⟩
      inside := hinside
      last := rfl
      step := rfl
      ended := rfl }
  · rintro ⟨item, hends⟩
    obtain rfl := Option.some.inj hends.draft
    exact absurd hends.locks (by decide)

end State

end Feuilleton
