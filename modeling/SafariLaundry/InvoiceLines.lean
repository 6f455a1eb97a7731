import SafariLaundry.InvoiceAudit

/-!
# The lines of an edited invoice

An edit adds up the items of its payload for the total and writes each item to the row its id
names, whichever order that row is of.  The rows of the order come to what the items standing
at the end come to, which is the total when no item was overwritten or written elsewhere.
-/

namespace SafariLaundry

open Library Library.Bookkeeping Library.Transaction List

def lastNaming (items : List EditInvoiceLineItem) (id : Uuid) : Option EditInvoiceLineItem :=
  items.reverse.find? fun item => item.id = some id

def lastEdit (items : List EditInvoiceLineItem) (line : OrderLineItem) : OrderLineItem :=
  match lastNaming items line.id with
  | some item => editedLine item line
  | none => line

def addedLines (env : Env) (orderId : Uuid) : ℕ → List EditInvoiceLineItem → List OrderLineItem
  | _, [] => []
  | count, item :: rest =>
      match item.id with
      | some _ => addedLines env orderId count rest
      | none => addedLine env orderId item count :: addedLines env orderId (count + 1) rest

theorem lastNaming_cons (item : EditInvoiceLineItem) (rest : List EditInvoiceLineItem) (id : Uuid) :
    lastNaming (item :: rest) id =
      (lastNaming rest id).or (if item.id = some id then some item else none) := by
  unfold lastNaming
  rw [reverse_cons, List.find?_append]
  congr 1
  by_cases hid : item.id = some id
  · simp [hid]
  · simp [hid]

theorem lastNaming_eq_none_iff {items : List EditInvoiceLineItem} {id : Uuid} :
    lastNaming items id = none ↔ some id ∉ items.map EditInvoiceLineItem.id := by
  simp [lastNaming]

theorem lastEdit_cons (item : EditInvoiceLineItem) (rest : List EditInvoiceLineItem)
    (line : OrderLineItem) :
    lastEdit (item :: rest) line =
      lastEdit rest (if item.id = some line.id then editedLine item line else line) := by
  by_cases hid : item.id = some line.id
  · have hkey : (editedLine item line).id = line.id := rfl
    unfold lastEdit
    rw [lastNaming_cons, if_pos hid, if_pos hid, hkey]
    cases lastNaming rest line.id with
    | none => rfl
    | some other => rfl
  · unfold lastEdit
    rw [lastNaming_cons, if_neg hid, if_neg hid, Option.or_none]

theorem foldl_writtenLine {env : Env} {orderId : Uuid} {items : List EditInvoiceLineItem}
    (hfresh : ∀ count, some (env.newLineItemId count) ∉ items.map EditInvoiceLineItem.id)
    (lines : List OrderLineItem) :
    items.foldl (writtenLine env orderId) lines =
      lines.map (lastEdit items) ++ addedLines env orderId lines.length items := by
  induction items generalizing lines with
  | nil =>
      have hnone : lastEdit [] = id := rfl
      rw [foldl_nil, addedLines, append_nil, hnone, map_id]
  | cons item rest ih =>
      have hrest : ∀ count, some (env.newLineItemId count) ∉ rest.map EditInvoiceLineItem.id :=
        fun count hmem => hfresh count (.tail _ hmem)
      have hedits : lastEdit (item :: rest) = fun line =>
          lastEdit rest (if item.id = some line.id then editedLine item line else line) := by
        funext line
        exact lastEdit_cons item rest line
      rw [foldl_cons, ih hrest, hedits, writtenLine, addedLines]
      cases hid : item.id with
      | some id =>
          simp only [length_map, map_map, Option.some.injEq]
          congr 1
          apply map_congr_left
          intro line _
          rw [Function.comp_apply]
          simp only [eq_comm]
      | none =>
          have hadded : lastEdit rest (addedLine env orderId item lines.length) =
              addedLine env orderId item lines.length := by
            have hnone : lastNaming rest (addedLine env orderId item lines.length).id = none :=
              lastNaming_eq_none_iff.2 (hrest lines.length)
            unfold lastEdit
            rw [hnone]
          simp [hadded]

def storedTotal (orderId : Uuid) (lines : List OrderLineItem) : ℤ :=
  tally (fun line => line.quantity * line.unitPrice) (lines.filter fun line => line.orderId = orderId)

def EditInvoiceLineItem.storedTotal (item : EditInvoiceLineItem) : ℤ :=
  item.storedQuantity * item.storedUnitPrice

def standingTotal (orderId : Uuid) (items : List EditInvoiceLineItem) (lines : List OrderLineItem) :
    ℤ :=
  tally (fun line : OrderLineItem =>
      ((lastNaming items line.id).map EditInvoiceLineItem.storedTotal).getD 0)
    (lines.filter fun line => line.orderId = orderId) +
  tally EditInvoiceLineItem.storedTotal (items.filter fun item => item.id = none)

theorem lastEdit_orderId (items : List EditInvoiceLineItem) (line : OrderLineItem) :
    (lastEdit items line).orderId = line.orderId := by
  unfold lastEdit
  cases lastNaming items line.id <;> rfl

theorem storedTotal_addedLines (env : Env) (orderId : Uuid) (items : List EditInvoiceLineItem)
    (count : ℕ) :
    storedTotal orderId (addedLines env orderId count items) =
      tally EditInvoiceLineItem.storedTotal (items.filter fun item => item.id = none) := by
  induction items generalizing count with
  | nil => rfl
  | cons item rest ih =>
      unfold storedTotal at ih ⊢
      rw [addedLines]
      cases hid : item.id with
      | some id => simp [hid, ih]
      | none =>
          have hown : (addedLine env orderId item count).orderId = orderId := rfl
          simp only [filter_cons, hid, hown, decide_true, if_true, tally_cons, ih]
          rfl

theorem storedTotal_editedLines {env : Env} {orderId : Uuid} {items : List EditInvoiceLineItem}
    (hfresh : ∀ count, some (env.newLineItemId count) ∉ items.map EditInvoiceLineItem.id)
    (lines : List OrderLineItem) :
    storedTotal orderId (editedLines env orderId (some items) lines) =
      standingTotal orderId items lines := by
  have hold : storedTotal orderId ((keptLines orderId items lines).map (lastEdit items)) =
      tally (fun line : OrderLineItem =>
          ((lastNaming items line.id).map EditInvoiceLineItem.storedTotal).getD 0)
        (lines.filter fun line => line.orderId = orderId) := by
    unfold storedTotal keptLines
    rw [tally_filter, tally_map, tally_filter, tally_filter]
    apply tally_congr
    intro line _
    rw [lastEdit_orderId]
    by_cases hown : line.orderId = orderId
    · unfold lastEdit
      cases hlast : lastNaming items line.id with
      | none =>
          have hgone := lastNaming_eq_none_iff.1 hlast
          simp [hown, hgone]
      | some item =>
          have hnamed : some line.id ∈ items.map EditInvoiceLineItem.id := by
            by_contra hnot
            rw [lastNaming_eq_none_iff.2 hnot] at hlast
            cases hlast
          rw [if_pos (Or.inr hnamed), if_pos hown, if_pos hown]
          rfl
    · rw [if_neg hown, if_neg hown, ite_self]
  rw [editedLines, foldl_writtenLine hfresh, standingTotal, ← hold,
    ← storedTotal_addedLines env orderId items (keptLines orderId items lines).length]
  unfold storedTotal
  rw [filter_append, tally_append]

def EditInvoiceLineItem.Restates (item : EditInvoiceLineItem) (line : OrderLineItem) : Prop :=
  item.label = line.label ∧ item.starchOption.getD .NONE = line.starchOption ∧
    item.storedQuantity = line.quantity ∧ item.storedUnitPrice = line.unitPrice
  deriving Decidable

theorem editedLine_eq_self_iff {item : EditInvoiceLineItem} {line : OrderLineItem} :
    editedLine item line = line ↔ item.Restates line := by
  cases line
  simp [editedLine, EditInvoiceLineItem.Restates]

def otherLines (orderId : Uuid) (lines : List OrderLineItem) : List OrderLineItem :=
  lines.filter fun line => line.orderId ≠ orderId

theorem otherLines_addedLines (env : Env) (orderId : Uuid) (items : List EditInvoiceLineItem)
    (count : ℕ) : otherLines orderId (addedLines env orderId count items) = [] := by
  induction items generalizing count with
  | nil => rfl
  | cons item rest ih =>
      rw [addedLines]
      cases item.id with
      | some id => exact ih count
      | none =>
          have hown : (addedLine env orderId item count).orderId = orderId := rfl
          unfold otherLines at ih ⊢
          rw [filter_cons_of_neg (by simp [hown])]
          exact ih (count + 1)

theorem otherLines_editedLines {env : Env} {orderId : Uuid} {items : List EditInvoiceLineItem}
    (hfresh : ∀ count, some (env.newLineItemId count) ∉ items.map EditInvoiceLineItem.id)
    (lines : List OrderLineItem) :
    otherLines orderId (editedLines env orderId (some items) lines) =
      (otherLines orderId lines).map (lastEdit items) := by
  have hadded := otherLines_addedLines env orderId items (keptLines orderId items lines).length
  rw [editedLines, foldl_writtenLine hfresh]
  unfold otherLines keptLines at *
  rw [filter_append, hadded, append_nil, filter_map, filter_filter]
  congr 1
  apply filter_congr
  intro line _
  simp only [Function.comp_apply, lastEdit_orderId]
  by_cases hown : line.orderId = orderId
  · simp [hown]
  · simp [hown]

def TotalTies (orderId : Uuid) (db : Db) : Prop :=
  ∃ order, db.orders.find? orderId = some order ∧
    10000 * order.totalPrice = storedTotal orderId db.orderLineItems

/-- No row of another order has changed, come or gone. -/
def OthersKept (orderId : Uuid) (db db' : Db) : Prop :=
  otherLines orderId db'.orderLineItems = otherLines orderId db.orderLineItems

section Edit

variable {env : Env} {args : InvoiceEditArgs} {items : List EditInvoiceLineItem}
  {result : InvoiceEditResult} {db db' : Db}

theorem lines_of_commits_editInvoice (henv : env.StoreHealthy)
    (hitems : args.dto.lineItems = some items)
    (hcommits : (editInvoice env args).Commits db result db') :
    db'.orderLineItems = editedLines env args.orderId (some items) db.orderLineItems ∧
      ∃ order, db'.orders.find? args.orderId = some order ∧
        order.totalPrice = lineItemsTotal items := by
  obtain ⟨order, hrow, _, _, hedited⟩ := commits_editInvoice henv hcommits
  have hkey : order.id = args.orderId := Table.key_of_find? hrow
  obtain ⟨_, rfl⟩ := hedited
  rw [hitems, hkey]
  refine ⟨rfl, args.repriced order order, ?_, ?_⟩
  · change (db.orders.update args.orderId (args.repriced order)
      (args.repriced_id order)).find? args.orderId = _
    rw [Table.find?_update_self, hrow]
    rfl
  · change args.dto.newTotal order = _
    rw [EditInvoiceDto.newTotal, hitems]

theorem totalTies_iff (henv : env.StoreHealthy) (hitems : args.dto.lineItems = some items)
    (hfresh : ∀ count, some (env.newLineItemId count) ∉ items.map EditInvoiceLineItem.id)
    (hcommits : (editInvoice env args).Commits db result db') :
    TotalTies args.orderId db' ↔
      10000 * lineItemsTotal items = standingTotal args.orderId items db.orderLineItems := by
  obtain ⟨hlines, order, hrow, htotal⟩ := lines_of_commits_editInvoice henv hitems hcommits
  unfold TotalTies
  rw [hlines, storedTotal_editedLines hfresh, hrow]
  simp [htotal]

theorem othersKept_iff (henv : env.StoreHealthy) (hitems : args.dto.lineItems = some items)
    (hfresh : ∀ count, some (env.newLineItemId count) ∉ items.map EditInvoiceLineItem.id)
    (hcommits : (editInvoice env args).Commits db result db') :
    OthersKept args.orderId db db' ↔ ∀ line ∈ db.orderLineItems, line.orderId ≠ args.orderId →
        ∀ item, lastNaming items line.id = some item → item.Restates line := by
  obtain ⟨hlines, _⟩ := lines_of_commits_editInvoice henv hitems hcommits
  have hline : ∀ line : OrderLineItem, lastEdit items line = line ↔
      ∀ item, lastNaming items line.id = some item → item.Restates line := by
    intro line
    unfold lastEdit
    cases lastNaming items line.id with
    | none => simp
    | some item => simp [editedLine_eq_self_iff]
  have hmap : (otherLines args.orderId db.orderLineItems).map (lastEdit items) =
      otherLines args.orderId db.orderLineItems ↔
        ∀ line ∈ otherLines args.orderId db.orderLineItems, lastEdit items line = id line := by
    rw [← map_inj_left, map_id]
  unfold OthersKept
  rw [hlines, otherLines_editedLines hfresh, hmap]
  unfold otherLines
  simp only [mem_filter, decide_eq_true_eq, and_imp, id_eq, hline]

/-- After an accepted edit the total is the sum of the order's rows and every other order's
rows are as before, exactly when the payload's sum is the sum of its standing items and the
last item naming a row of another order says what the row says. -/
theorem editedInvoice_iff (henv : env.StoreHealthy) (hitems : args.dto.lineItems = some items)
    (hfresh : ∀ count, some (env.newLineItemId count) ∉ items.map EditInvoiceLineItem.id)
    (hcommits : (editInvoice env args).Commits db result db') :
    (TotalTies args.orderId db' ∧ OthersKept args.orderId db db') ↔
      10000 * lineItemsTotal items = standingTotal args.orderId items db.orderLineItems ∧
        ∀ line ∈ db.orderLineItems, line.orderId ≠ args.orderId →
          ∀ item, lastNaming items line.id = some item → item.Restates line := by
  rw [totalTies_iff henv hitems hfresh hcommits, othersKept_iff henv hitems hfresh hcommits]

end Edit

namespace Sample

def line (id orderId : Uuid) (quantity unitPrice : ℤ) : OrderLineItem where
  id := id
  orderId := orderId
  label := some "دشداشة"
  starchOption := .NONE
  stockItemId := none
  quantity := quantity
  unitPrice := unitPrice

/-- Two thobes on the order, one on somebody else's. -/
def editedOrders : Db :=
  { shop ⟨0, 0⟩ (oneOrder "order") with
    orderLineItems := [line "a" "order" 20000 10000, line "b" "other" 10000 10000] }

def lineEdit (items : List EditInvoiceLineItem) : InvoiceEditArgs where
  orderId := "order"
  actorId := "owner"
  actorRole := .OWNER
  dto := ⟨none, none, none, some items⟩

def editItem (id : Uuid) (quantity : ℚ) : EditInvoiceLineItem where
  id := some id
  label := some "دشداشة"
  starchOption := none
  quantity := quantity
  unitPrice := 1

theorem lineEdit_fresh {items : List EditInvoiceLineItem}
    (hshort : ∀ item ∈ items, ∀ id, item.id = some id → id.length = 1) (count : ℕ) :
    some (Env.default.newLineItemId count) ∉ items.map EditInvoiceLineItem.id := by
  intro hmem
  obtain ⟨item, hitem, hid⟩ := mem_map.1 hmem
  have hlength := hshort item hitem _ hid
  change ("line-" ++ toString count).length = 1 at hlength
  rw [String.length_append] at hlength
  have hprefix : ("line-" : String).length = 5 := by decide
  omega

end Sample

/-- The row of two thobes becomes three, and one is added. -/
theorem editedInvoice_iff_sample :
    ∃ result db', (editInvoice Env.default (Sample.lineEdit
        [Sample.editItem "a" 3, { Sample.editItem "a" 1 with id := none }])).Commits
          Sample.editedOrders result db' ∧
      TotalTies "order" db' ∧ OthersKept "order" Sample.editedOrders db' := by
  obtain ⟨result, hcommits⟩ := exists_commits_of_isOk (x := editInvoice Env.default
    (Sample.lineEdit [Sample.editItem "a" 3, { Sample.editItem "a" 1 with id := none }]))
    (s := Sample.editedOrders) (by decide +kernel)
  refine ⟨result, _, hcommits, ?_⟩
  refine (editedInvoice_iff (fun _ => rfl) rfl (Sample.lineEdit_fresh ?_) hcommits).2 ⟨?_, ?_⟩
  · decide
  · decide +kernel
  · decide +kernel

theorem editedInvoice_fails :
    (∃ result db', (editInvoice Env.default (Sample.lineEdit
        [Sample.editItem "a" 1, Sample.editItem "a" 3])).Commits Sample.editedOrders result db' ∧
      ¬ TotalTies "order" db') ∧
    ∃ result db', (editInvoice Env.default (Sample.lineEdit
        [Sample.editItem "a" 1, Sample.editItem "b" 3])).Commits Sample.editedOrders result db' ∧
      ¬ OthersKept "order" Sample.editedOrders db' := by
  constructor
  · obtain ⟨result, hcommits⟩ := exists_commits_of_isOk (x := editInvoice Env.default
      (Sample.lineEdit [Sample.editItem "a" 1, Sample.editItem "a" 3]))
      (s := Sample.editedOrders) (by decide +kernel)
    refine ⟨result, _, hcommits, ?_⟩
    intro hties
    have hsum := (totalTies_iff (fun _ => rfl) rfl (Sample.lineEdit_fresh (by decide)) hcommits).1
      hties
    revert hsum
    decide +kernel
  · obtain ⟨result, hcommits⟩ := exists_commits_of_isOk (x := editInvoice Env.default
      (Sample.lineEdit [Sample.editItem "a" 1, Sample.editItem "b" 3]))
      (s := Sample.editedOrders) (by decide +kernel)
    refine ⟨result, _, hcommits, ?_⟩
    intro hkept
    have hrestated := (othersKept_iff (fun _ => rfl) rfl (Sample.lineEdit_fresh (by decide))
      hcommits).1 hkept
    revert hrestated
    decide +kernel

end SafariLaundry
