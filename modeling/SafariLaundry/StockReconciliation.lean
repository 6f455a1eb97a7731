import SafariLaundry.Inventory

/-!
# Levels against movements

Every operation writes a level and a movement of the same quantity, so that what the
levels hold and what the movements come to drift apart nowhere.  The value of a
transferred item is another matter: the destination's average is rounded, and it is
overwritten where the destination stays below zero.
-/

namespace SafariLaundry.Inventory

open Library Library.Bookkeeping Library.Transaction

def onHand (levels : Table BranchStockLevel.key) (key : LevelKey) : ℤ :=
  (levels.find? key).elim 0 BranchStockLevel.quantityOnHand

def movedTotal (movements : List Movement) (key : LevelKey) : ℤ :=
  tally (fun movement => if movement.key = key then movement.quantity else 0) movements

def Reconciled (db : InventoryDb) : Prop :=
  ∀ key, onHand db.levels key = movedTotal db.movements key

def SameGap (db db' : InventoryDb) : Prop :=
  ∀ key, onHand db'.levels key - movedTotal db'.movements key =
    onHand db.levels key - movedTotal db.movements key

instance : Std.Refl SameGap := ⟨fun _ _ => rfl⟩

instance : IsTrans InventoryDb SameGap :=
  ⟨fun _ _ _ hfirst hsecond key => (hsecond key).trans (hfirst key)⟩

variable {db db' : InventoryDb} {levels : Table BranchStockLevel.key} {key : LevelKey}
  {level : BranchStockLevel} {movement : Movement} {stockItemId : Uuid} {dto : StockTransferDto}

theorem SameGap.reconciled (hgap : SameGap db db') (hreconciled : Reconciled db) :
    Reconciled db' := by
  intro key
  have hsame := hgap key
  have hbefore := hreconciled key
  omega

theorem onHand_of_find? (hfind : levels.find? key = some level) :
    onHand levels key = level.quantityOnHand := by
  unfold onHand
  rw [hfind]
  rfl

theorem onHand_update {k : LevelKey} {f : BranchStockLevel → BranchStockLevel}
    (hf : ∀ row, (f row).key = row.key) (hfind : levels.find? k = some level) (key : LevelKey) :
    onHand (levels.update k f hf) key = onHand levels key +
        if k = key then (f level).quantityOnHand - level.quantityOnHand else 0 := by
  by_cases hsame : k = key
  · subst hsame
    have hafter : (levels.update k f hf).find? k = some (f level) := by
      rw [Table.find?_update_self, hfind]
      rfl
    rw [if_pos rfl, onHand_of_find? hafter, onHand_of_find? hfind]
    omega
  · unfold onHand
    rw [Table.find?_update_of_ne _ _ _ (Ne.symm hsame), if_neg hsame, add_zero]

theorem onHand_insert {levels' : Table BranchStockLevel.key}
    (hinsert : levels.insert level = some levels') (key : LevelKey) :
    onHand levels' key =
      onHand levels key + if level.key = key then level.quantityOnHand else 0 := by
  unfold onHand
  rw [Table.find?_insert hinsert]
  by_cases hsame : level.key = key
  · rw [if_pos hsame, if_pos hsame, ← hsame, Table.find?_of_insert hinsert]
    simp
  · rw [if_neg hsame, if_neg hsame, add_zero]

theorem movedTotal_append (movements : List Movement) (movement : Movement) (key : LevelKey) :
    movedTotal (movements ++ [movement]) key =
      movedTotal movements key + if movement.key = key then movement.quantity else 0 := by
  unfold movedTotal
  rw [tally_append, tally_cons, tally_nil, add_zero]

theorem sameGap_moved
    (hlevels : ∀ key, onHand db'.levels key =
      onHand db.levels key + if movement.key = key then movement.quantity else 0)
    (hmovements : db'.movements = db.movements ++ [movement]) :
    SameGap db db' := by
  intro key
  rw [hlevels, hmovements, movedTotal_append]
  omega

theorem commits_createLevel {a : Unit} (hcommits : (createLevel level).Commits db a db') :
    ∃ levels, db.levels.insert level = some levels ∧ db' = { db with levels := levels } := by
  simp only [createLevel, commits_bind, commits_fetch, commits_modify] at hcommits
  obtain ⟨levels, _, ⟨hinsert, rfl⟩, hdone⟩ := hcommits
  exact ⟨levels, hinsert, hdone⟩

theorem commits_findOrCreateLevel {branchId : Uuid}
    (hcommits : (findOrCreateLevel branchId stockItemId).Commits db level db') :
    (db.levels.find? (branchId, stockItemId) = some level ∧ db = db') ∨
      (level = ⟨branchId, stockItemId, 0, none⟩ ∧
        ∃ levels, db.levels.insert level = some levels ∧ db' = { db with levels := levels }) := by
  simp only [findOrCreateLevel, commits_bind, commits_reads] at hcommits
  obtain ⟨found, _, ⟨hfound, rfl⟩, hrest⟩ := hcommits
  cases found with
  | some old =>
      obtain ⟨rfl, rfl⟩ := commits_pure.1 hrest
      exact .inl ⟨hfound, rfl⟩
  | none =>
      simp only [commits_bind, commits_pure] at hrest
      obtain ⟨_, _, hcreate, rfl, rfl⟩ := hrest
      exact .inr ⟨rfl, commits_createLevel hcreate⟩

theorem find?_of_findOrCreateLevel {branchId : Uuid}
    (hcommits : (findOrCreateLevel branchId stockItemId).Commits db level db') :
    db'.levels.find? (branchId, stockItemId) = some level := by
  rcases commits_findOrCreateLevel hcommits with ⟨hfind, rfl⟩ | ⟨rfl, levels, hinsert, rfl⟩
  · exact hfind
  · rw [Table.find?_insert hinsert]
    exact if_pos rfl

theorem keepsAt_createLevel (branchId stockItemId : Uuid) (avgUnitCost : Option ℤ)
    (db : InventoryDb) :
    KeepsAt SameGap db (createLevel ⟨branchId, stockItemId, 0, avgUnitCost⟩) := by
  refine .fetch_bind fun levels hlevels => ?_
  apply keepsAt_modify
  intro key
  rw [onHand_insert hlevels]
  simp

theorem keepsAt_findOrCreateLevel (branchId stockItemId : Uuid) (db : InventoryDb) :
    KeepsAt SameGap db (findOrCreateLevel branchId stockItemId) := by
  apply KeepsAt.bind (keepsAt_reads _)
  intro found mid _
  cases found with
  | some level => exact keepsAt_pure _
  | none =>
      apply KeepsAt.bind (keepsAt_createLevel _ _ _ _)
      intro _ _ _
      exact keepsAt_pure _

theorem keepsAt_requireBranch (branchId : Uuid) (message : String) (db : InventoryDb) :
    KeepsAt SameGap db (requireBranch branchId message) := by
  apply KeepsAt.reads_bind
  exact keepsAt_require _ _

theorem keepsAt_fetchActiveItem (stockItemId : Uuid) (message : String) (db : InventoryDb) :
    KeepsAt SameGap db (fetchActiveItem stockItemId message) := by
  refine .fetch_bind fun _ _ => ?_
  refine .require_bind fun _ => ?_
  exact keepsAt_pure _

theorem keepsAt_ensureItemAndLevel (stockItemId branchId : Uuid) (db : InventoryDb) :
    KeepsAt SameGap db (ensureItemAndLevel stockItemId branchId) := by
  apply KeepsAt.bind (keepsAt_fetchActiveItem _ _ _)
  intro _ _ _
  apply KeepsAt.bind (keepsAt_requireBranch _ _ _)
  intro _ _ _
  apply KeepsAt.bind (keepsAt_findOrCreateLevel _ _ _)
  intro _ _ _
  exact keepsAt_pure _

theorem commits_requireBranch {branchId : Uuid} {message : String} {a : Unit}
    (hcommits : (requireBranch branchId message).Commits db a db') :
    db = db' := by
  simp only [requireBranch, commits_bind, commits_reads, commits_require] at hcommits
  obtain ⟨_, _, ⟨_, rfl⟩, _, rfl⟩ := hcommits
  rfl

theorem commits_fetchActiveItem {message : String} {item : StockItem}
    (hcommits : (fetchActiveItem stockItemId message).Commits db item db') :
    db.items.find? stockItemId = some item ∧ db = db' := by
  simp only [fetchActiveItem, commits_bind, commits_fetch, commits_require, commits_pure]
    at hcommits
  obtain ⟨_, _, ⟨hfind, rfl⟩, _, _, ⟨_, rfl⟩, rfl, rfl⟩ := hcommits
  exact ⟨hfind, rfl⟩

theorem commits_ensureItemAndLevel {branchId : Uuid} {found : StockItem × BranchStockLevel}
    (hcommits : (ensureItemAndLevel stockItemId branchId).Commits db found db') :
    db.items.find? stockItemId = some found.1 ∧
      (findOrCreateLevel branchId stockItemId).Commits db found.2 db' := by
  simp only [ensureItemAndLevel, commits_bind, commits_pure] at hcommits
  obtain ⟨item, mid, hitem, _, _, hbranch, level, _, hlevel, rfl, rfl⟩ := hcommits
  obtain ⟨hfind, rfl⟩ := commits_fetchActiveItem hitem
  obtain rfl := commits_requireBranch hbranch
  exact ⟨hfind, hlevel⟩

/-! ## Each operation -/

theorem keepsAt_move (quantity : ℤ) (hfind : db.levels.find? key = some level)
    (hkey : movement.key = key) (hquantity : movement.quantity = quantity - level.quantityOnHand) :
    KeepsAt SameGap db (updateQuantity key quantity >>= fun _ => recordMovement movement) := by
  change SameGap db { db with
    levels := db.levels.update key (BranchStockLevel.withQuantity quantity)
      (BranchStockLevel.withQuantity_key quantity)
    movements := db.movements ++ [movement] }
  apply @sameGap_moved _ _ movement _ rfl
  intro other
  rw [onHand_update _ hfind, hkey, hquantity]
  rfl

theorem keepsAt_moveThen {α : Type} {rest : InventoryTx α} (quantity : ℤ)
    (hfind : db.levels.find? key = some level) (hkey : movement.key = key)
    (hquantity : movement.quantity = quantity - level.quantityOnHand)
    (hrest : ∀ db', KeepsAt SameGap db' rest) :
    KeepsAt SameGap db (do
      updateQuantity key quantity
      recordMovement movement
      rest) :=
  IsTrans.trans _ _ _ (keepsAt_move quantity hfind hkey hquantity) (hrest _)

theorem keepsAt_inventoryTransaction {α : Type} {body : InventoryTx α}
    (hbody : KeepsAt SameGap db body) :
    KeepsAt SameGap db (inventoryTransaction body) := by
  apply keepsAt_atomically
  · intro _ _ hcommits
    exact hbody.of_commits hcommits
  · intro _
    exact Std.Refl.refl db

theorem sameGap_stockedIn {items : Table StockItem.id}
    (hlevels : ∀ other, onHand levels other =
      onHand db.levels other + if key = other then movement.quantity else 0)
    (hkey : movement.key = key) :
    SameGap db { db with
      levels := levels, items := items, movements := db.movements ++ [movement] } := by
  apply @sameGap_moved _ _ movement _ rfl
  rw [hkey]
  exact hlevels

theorem onHand_updateCost (hfind : levels.find? key = some level) (quantity : ℤ)
    (avgUnitCost : Option ℤ) (other : LevelKey) :
    onHand (levels.update level.key
        (BranchStockLevel.withCost (level.quantityOnHand + quantity) avgUnitCost)
        (BranchStockLevel.withCost_key _ _)) other =
      onHand levels other + if key = other then quantity else 0 := by
  obtain rfl := Table.key_of_find? hfind
  rw [onHand_update _ hfind]
  simp [BranchStockLevel.withCost]

theorem keepsAt_stockIn (env : InventoryEnv) (dto : StockInDto) (userId : Uuid) (db : InventoryDb) :
    KeepsAt SameGap db (stockIn env dto userId) := by
  apply KeepsAt.bind (keepsAt_fetchActiveItem _ _ _)
  intro _ mid _
  apply KeepsAt.bind (keepsAt_requireBranch _ _ _)
  intro _ mid _
  apply KeepsAt.bind (keepsAt_require _ _)
  intro _ mid _
  apply keepsAt_atomically
  · intro result db' hcommits
    obtain ⟨existing, _, hread, hrest⟩ := commits_bind.1 hcommits
    obtain ⟨hfound, rfl⟩ := commits_reads.1 hread
    cases existing with
    | some level =>
        obtain ⟨_, rfl⟩ := Prod.mk.inj hrest
        exact sameGap_stockedIn (onHand_updateCost hfound dto.quantity _) rfl
    | none =>
        simp only [commits_bind, commits_modify, commits_pure, recordMovement] at hrest
        obtain ⟨_, _, hcreate, _, _, rfl, _, _, rfl, _, rfl⟩ := hrest
        obtain ⟨levels, hinsert, rfl⟩ := commits_createLevel hcreate
        exact sameGap_stockedIn (onHand_insert hinsert) rfl
  · intro _
    exact Std.Refl.refl _

theorem keepsAt_stockOut (dto : StockOutDto) (userId : Uuid) (db : InventoryDb) :
    KeepsAt SameGap db (stockOut dto userId) := by
  apply keepsAt_inventoryTransaction
  apply KeepsAt.bind (keepsAt_ensureItemAndLevel _ _ _)
  intro found mid hfound
  have hlevel := find?_of_findOrCreateLevel (commits_ensureItemAndLevel hfound).2
  refine .require_bind fun _ => ?_
  apply keepsAt_moveThen _ hlevel rfl
  · simp only [stockOutMovement]
    omega
  · intro db'
    exact keepsAt_pure _

theorem keepsAt_adjust (dto : StockAdjustmentDto) (userId : Uuid) (db : InventoryDb) :
    KeepsAt SameGap db (adjust dto userId) := by
  apply KeepsAt.bind (keepsAt_require _ _)
  intro _ mid _
  apply keepsAt_inventoryTransaction
  apply KeepsAt.bind (keepsAt_ensureItemAndLevel _ _ _)
  intro found mid hfound
  have hlevel := find?_of_findOrCreateLevel (commits_ensureItemAndLevel hfound).2
  refine .require_bind fun _ => ?_
  apply keepsAt_moveThen _ hlevel rfl
  · simp only [adjustmentMovement]
    omega
  · intro db'
    exact keepsAt_pure _

theorem keepsAt_countLine (dto : StocktakeDto) (reference : String) (userId : Uuid)
    (line : StocktakeLineDto) (db : InventoryDb) :
    KeepsAt SameGap db (countLine dto reference userId line) := by
  apply KeepsAt.bind (keepsAt_ensureItemAndLevel _ _ _)
  intro found mid hfound
  have hlevel := find?_of_findOrCreateLevel (commits_ensureItemAndLevel hfound).2
  apply KeepsAt.whenever
  exact keepsAt_move _ hlevel rfl rfl

theorem keepsAt_stocktake (env : InventoryEnv) (dto : StocktakeDto) (userId : Uuid)
    (db : InventoryDb) :
    KeepsAt SameGap db (stocktake env dto userId) := by
  apply keepsAt_inventoryTransaction
  apply KeepsAt.bind (keepsAt_requireBranch _ _ _)
  intro _ mid _
  apply KeepsAt.forM
  intro line _ t
  exact keepsAt_countLine _ _ _ line t

theorem keepsAt_sellLine (args : DecrementArgs) (branchId : Uuid) (line : SoldLine)
    (db : InventoryDb) :
    KeepsAt SameGap db (sellLine args branchId line) := by
  unfold sellLine
  cases line.stockItemId with
  | none => exact keepsAt_pure _
  | some stockItemId =>
      apply KeepsAt.bind (keepsAt_reads _)
      intro known mid _
      cases known with
      | none => exact keepsAt_pure _
      | some item =>
          apply KeepsAt.bind (keepsAt_findOrCreateLevel _ _ _)
          intro level t hlevel
          apply keepsAt_move _ (find?_of_findOrCreateLevel hlevel) rfl
          simp only [DecrementArgs.movement]
          omega

theorem keepsAt_decrement (args : DecrementArgs) (db : InventoryDb) :
    KeepsAt SameGap db (applyOrderStockDecrement args) := by
  unfold applyOrderStockDecrement
  cases args.branchId with
  | none => exact keepsAt_pure _
  | some branchId =>
      apply KeepsAt.bind (keepsAt_reads _)
      intro lines mid _
      apply KeepsAt.bind (keepsAt_reads _)
      intro known t _
      apply KeepsAt.whenever
      apply KeepsAt.forM
      intro line _ u
      exact keepsAt_sellLine _ _ line u

/-! ## A transfer -/

def received (dto : StockTransferDto) (unitCost : Option ℤ) :
    Option BranchStockLevel → BranchStockLevel
  | some level => level.withCost (level.quantityOnHand + dto.quantity)
      (averageAfterTransfer level dto.quantity unitCost)
  | none => ⟨dto.toBranchId, dto.stockItemId, dto.quantity, unitCost⟩

def StockTransferDto.fromKey (dto : StockTransferDto) : LevelKey :=
  (dto.fromBranchId, dto.stockItemId)

def StockTransferDto.toKey (dto : StockTransferDto) : LevelKey :=
  (dto.toBranchId, dto.stockItemId)

theorem commits_receiveTransfer {unitCost : Option ℤ} {newToQty : ℤ}
    (hcommits : (receiveTransfer dto unitCost).Commits db newToQty db') :
    ∃ levels, db' = { db with levels := levels } ∧
      levels.find? dto.toKey = some (received dto unitCost (db.levels.find? dto.toKey)) ∧
      (∀ key, key ≠ dto.toKey → levels.find? key = db.levels.find? key) ∧
      ∀ key, onHand levels key =
        onHand db.levels key + if dto.toKey = key then dto.quantity else 0 := by
  simp only [receiveTransfer, commits_bind, commits_reads] at hcommits
  obtain ⟨existing, _, ⟨hfound, rfl⟩, hrest⟩ := hcommits
  change db.levels.find? dto.toKey = existing at hfound
  cases existing with
  | some level =>
      simp only [updateCost, commits_bind, commits_modify, commits_pure] at hrest
      obtain ⟨_, _, rfl, _, rfl⟩ := hrest
      have hkey : level.key = dto.toKey := Table.key_of_find? hfound
      refine ⟨_, rfl, ?_, ?_, ?_⟩
      · rw [hkey, Table.find?_update_self, hfound]
        rfl
      · intro key hother
        rw [hkey]
        exact Table.find?_update_of_ne _ _ _ hother
      · exact onHand_updateCost hfound dto.quantity _
  | none =>
      simp only [commits_bind, commits_pure] at hrest
      obtain ⟨_, _, hcreate, _, rfl⟩ := hrest
      obtain ⟨levels, hinsert, rfl⟩ := commits_createLevel hcreate
      refine ⟨levels, rfl, ?_, ?_, ?_⟩
      · rw [Table.find?_insert hinsert, hfound]
        exact if_pos rfl
      · intro key hother
        rw [Table.find?_insert hinsert]
        exact if_neg (Ne.symm hother)
      · exact onHand_insert hinsert

structure Transferred (dto : StockTransferDto) (item : StockItem) (source : BranchStockLevel)
    (db db' : InventoryDb) : Prop where
  item_found : db.items.find? dto.stockItemId = some item
  source_found : db.levels.find? dto.fromKey = some source
  source_left : db'.levels.find? dto.fromKey =
    some (source.withQuantity (source.quantityOnHand - dto.quantity))
  dest_left : db'.levels.find? dto.toKey =
    some (received dto (unitCostOf source item) (db.levels.find? dto.toKey))
  quantities : onHand db'.levels dto.fromKey + onHand db'.levels dto.toKey =
    onHand db.levels dto.fromKey + onHand db.levels dto.toKey
  gap : SameGap db db'

theorem commits_transfer {env : InventoryEnv} {userId : Uuid} {result : TransferResult}
    (hcommits : (transfer env dto userId).Commits db result db') :
    ∃ item source, Transferred dto item source db db' := by
  obtain ⟨_, _, hdiffer, hbody⟩ := commits_bind.1 hcommits
  obtain ⟨hbranches, rfl⟩ := commits_require.1 hdiffer
  have hkeys : dto.toKey ≠ dto.fromKey := by
    intro hsame
    exact hbranches (Prod.mk.inj hsame).1.symm
  obtain ⟨found, mid, hensured, hbody⟩ := commits_bind.1 (commits_atomically.1 hbody)
  obtain ⟨hitem, hlevel⟩ := commits_ensureItemAndLevel hensured
  simp only [updateQuantity, recordMovement, commits_bind, commits_require, commits_modify,
    commits_pure] at hbody
  obtain ⟨_, _, ⟨henough, rfl⟩, _, _, hbranch, _, _, rfl, _, _, rfl, newToQty, received, hreceive,
    _, _, rfl, _, rfl⟩ := hbody
  obtain rfl := commits_requireBranch hbranch
  -- a level made on the spot holds nothing, and a transfer takes something
  obtain ⟨hsource, rfl⟩ : db.levels.find? dto.fromKey = some found.2 ∧ db = mid := by
    rcases commits_findOrCreateLevel hlevel with hfound | ⟨hnew, _⟩
    · exact hfound
    · have hpos := dto.quantity_pos
      rw [hnew] at henough
      exact absurd henough (by simpa using hpos)
  obtain ⟨levels, rfl, hdest, hothers, honHand⟩ := commits_receiveTransfer hreceive
  have htaken : ∀ key, onHand (db.levels.update dto.fromKey
      (BranchStockLevel.withQuantity (found.2.quantityOnHand - dto.quantity))
      (BranchStockLevel.withQuantity_key _)) key =
        onHand db.levels key + if dto.fromKey = key then -dto.quantity else 0 := by
    intro key
    rw [onHand_update _ hsource]
    simp [BranchStockLevel.withQuantity]
  have hleft : ∀ key, onHand levels key = onHand db.levels key +
      (if dto.fromKey = key then -dto.quantity else 0) +
        if dto.toKey = key then dto.quantity else 0 := by
    intro key
    rw [honHand key]
    exact congrArg (· + _) (htaken key)
  refine ⟨found.1, found.2, hitem, hsource, ?_, ?_, ?_, ?_⟩
  · have hafter : (db.levels.update dto.fromKey
        (BranchStockLevel.withQuantity (found.2.quantityOnHand - dto.quantity))
        (BranchStockLevel.withQuantity_key _)).find? dto.fromKey =
          some (found.2.withQuantity (found.2.quantityOnHand - dto.quantity)) := by
      rw [Table.find?_update_self, hsource]
      rfl
    exact (hothers dto.fromKey hkeys.symm).trans hafter
  · have hbefore : (db.levels.update dto.fromKey
        (BranchStockLevel.withQuantity (found.2.quantityOnHand - dto.quantity))
        (BranchStockLevel.withQuantity_key _)).find? dto.toKey = db.levels.find? dto.toKey :=
      Table.find?_update_of_ne _ _ _ hkeys
    exact hdest.trans (congrArg (fun dest => some (Inventory.received dto _ dest)) hbefore)
  · change onHand levels _ + onHand levels _ = _
    rw [hleft, hleft, if_pos rfl, if_neg hkeys, if_neg hkeys.symm, if_pos rfl]
    omega
  · intro key
    change onHand levels key - movedTotal ((db.movements ++ [_]) ++ [_]) key = _
    rw [hleft, movedTotal_append, movedTotal_append]
    simp only [transferMovement, Movement.key]
    change _ - (_ + (if dto.fromKey = key then -dto.quantity else 0) +
      if dto.toKey = key then dto.quantity else 0) = _
    omega

theorem throws_transfer {env : InventoryEnv} {userId : Uuid} {e : ServiceError}
    (hthrows : (transfer env dto userId).Throws db e db') : db' = db := by
  rcases throws_bind.1 hthrows with hsame | ⟨_, _, hdiffer, hbody⟩
  · exact (throws_require.1 hsame).2.2.symm
  · obtain ⟨_, rfl⟩ := commits_require.1 hdiffer
    unfold Throws inventoryTransaction at hbody
    rw [outcome_atomically] at hbody
    split at hbody
    · cases hbody
    · cases hbody
      rfl

theorem keepsAt_transfer (env : InventoryEnv) (dto : StockTransferDto) (userId : Uuid)
    (db : InventoryDb) :
    KeepsAt SameGap db (transfer env dto userId) := by
  apply keepsAt_of_cases
  · intro _ _ hcommits
    obtain ⟨_, _, htransferred⟩ := commits_transfer hcommits
    exact htransferred.gap
  · intro _ _ hthrows
    rw [throws_transfer hthrows]
    exact Std.Refl.refl db

def stockValue (level : Option BranchStockLevel) : ℤ :=
  level.elim 0 fun level => level.quantityOnHand * level.avgUnitCost.getD 0

/-- When what the destination is worth grows by what the source loses.  Without a level to
receive them, the goods have to travel at the source's own average.  Otherwise the
average at the destination must come out so that the quantity there, valued at it, is
worth what it was worth before and what the source gave. -/
def Conserving (quantity : ℤ) (source : BranchStockLevel) :
    (unitCost : Option ℤ) → (dest : Option BranchStockLevel) → Prop
  | unitCost, none => unitCost.getD 0 = source.avgUnitCost.getD 0
  | none, some level => level.avgUnitCost.getD 0 = 0
  | some unitCost, some level =>
      let held := level.avgUnitCost.getD 0 * level.quantityOnHand
      let total := held + source.avgUnitCost.getD 0 * quantity
      let given := held + unitCost * quantity
      let newQty := level.quantityOnHand + quantity
      if 0 < newQty then
        newQty ∣ total ∧ (2 * |given - total| < newQty ∨
          (2 * (given - total) = newQty ∧ total < 0) ∨
          (2 * (total - given) = newQty ∧ 0 < total))
      else newQty * unitCost = total

theorem received_value_iff (dto : StockTransferDto) (item : StockItem)
    (source : BranchStockLevel) (dest : Option BranchStockLevel) :
    stockValue (some (received dto (unitCostOf source item) dest)) =
        stockValue dest + dto.quantity * source.avgUnitCost.getD 0 ↔
      Conserving dto.quantity source (unitCostOf source item) dest := by
  have hpos := dto.quantity_pos
  cases dest with
  | none =>
      change dto.quantity * (unitCostOf source item).getD 0 =
        0 + dto.quantity * source.avgUnitCost.getD 0 ↔
          (unitCostOf source item).getD 0 = source.avgUnitCost.getD 0
      rw [zero_add]
      exact mul_right_inj' hpos.ne'
  | some level =>
      have htotal : stockValue (some level) + dto.quantity * source.avgUnitCost.getD 0 =
          level.avgUnitCost.getD 0 * level.quantityOnHand +
            source.avgUnitCost.getD 0 * dto.quantity := by
        change level.quantityOnHand * level.avgUnitCost.getD 0 + _ = _
        ring
      rw [htotal]
      cases hcost : unitCostOf source item with
      | none =>
          -- without a cost to travel at, the source has no average either
          have hsource : source.avgUnitCost = none := ((Option.orElse_eq_none _ _).1 hcost).1
          rw [hsource]
          change (level.quantityOnHand + dto.quantity) * level.avgUnitCost.getD 0 =
            level.avgUnitCost.getD 0 * level.quantityOnHand + 0 * dto.quantity ↔
              level.avgUnitCost.getD 0 = 0
          constructor
          · intro hvalue
            have hzero : dto.quantity * level.avgUnitCost.getD 0 = 0 := by linarith
            exact (mul_eq_zero.1 hzero).resolve_left hpos.ne'
          · intro hzero
            rw [hzero]
            ring
      | some unitCost =>
          by_cases hnewQty : 0 < level.quantityOnHand + dto.quantity
          · simp only [Conserving, received, stockValue, averageAfterTransfer, if_pos hnewQty]
            exact Decimal.mul_roundHalfAway_div_eq_iff hnewQty _ _
          · simp only [Conserving, received, stockValue, averageAfterTransfer, if_neg hnewQty]
            rfl

def ValueKept (dto : StockTransferDto) (db : InventoryDb) : Prop :=
  ∀ item source, db.items.find? dto.stockItemId = some item →
    db.levels.find? dto.fromKey = some source →
    Conserving dto.quantity source (unitCostOf source item) (db.levels.find? dto.toKey)

def valueAt (db : InventoryDb) (key : LevelKey) : ℤ :=
  stockValue (db.levels.find? key)

theorem Transferred.value_iff {item : StockItem} {source : BranchStockLevel}
    (htransferred : Transferred dto item source db db') :
    valueAt db' dto.fromKey + valueAt db' dto.toKey =
        valueAt db dto.fromKey + valueAt db dto.toKey ↔ ValueKept dto db := by
  have hkept : ValueKept dto db ↔
      Conserving dto.quantity source (unitCostOf source item) (db.levels.find? dto.toKey) := by
    constructor
    · intro hkept
      exact hkept item source htransferred.item_found htransferred.source_found
    · intro hconserving item' source' hitem hsource
      obtain rfl := Option.some.inj (htransferred.item_found.symm.trans hitem)
      obtain rfl := Option.some.inj (htransferred.source_found.symm.trans hsource)
      exact hconserving
  rw [hkept, ← received_value_iff]
  unfold valueAt
  rw [htransferred.source_left, htransferred.dest_left, htransferred.source_found]
  have hsource : stockValue (some (source.withQuantity (source.quantityOnHand - dto.quantity))) =
      stockValue (some source) - dto.quantity * source.avgUnitCost.getD 0 := by
    change (source.quantityOnHand - dto.quantity) * source.avgUnitCost.getD 0 = _
    exact sub_mul _ _ _
  rw [hsource]
  constructor <;> intro hvalue <;> linarith

theorem StockOperation.sameGap (operation : StockOperation) (db : InventoryDb) :
    SameGap db (operation.step db) := by
  cases operation with
  | stockIn env dto userId => exact keepsAt_stockIn env dto userId db
  | stockOut dto userId => exact keepsAt_stockOut dto userId db
  | adjust dto userId => exact keepsAt_adjust dto userId db
  | transfer env dto userId => exact keepsAt_transfer env dto userId db
  | stocktake env dto userId => exact keepsAt_stocktake env dto userId db
  | decrement args => exact keepsAt_decrement args db

theorem transfer_quantities (env : InventoryEnv) (dto : StockTransferDto) (userId : Uuid)
    (db : InventoryDb) :
    onHand (operations.step (.transfer env dto userId) db).levels dto.fromKey +
        onHand (operations.step (.transfer env dto userId) db).levels dto.toKey =
      onHand db.levels dto.fromKey + onHand db.levels dto.toKey := by
  have hkeeps : KeepsAt (fun before after : InventoryDb =>
      onHand after.levels dto.fromKey + onHand after.levels dto.toKey =
        onHand before.levels dto.fromKey + onHand before.levels dto.toKey) db
      (transfer env dto userId) := by
    apply keepsAt_of_cases
    · intro _ _ hcommits
      obtain ⟨_, _, htransferred⟩ := commits_transfer hcommits
      exact htransferred.quantities
    · intro _ _ hthrows
      rw [throws_transfer hthrows]
  exact hkeeps

/-- In every run each level holds the sum of its movements, every transfer keeps the
quantity at its two ends, and one that goes through keeps their value exactly when the
average at the destination comes out even. -/
theorem stockRun_reconciled {start : InventoryDb} {trace : List InventoryDb}
    (hstart : Reconciled start) (hrun : operations.Run (fun _ _ => True) start trace) :
    ∀ db ∈ trace, Reconciled db ∧ ∀ env dto userId,
        onHand (operations.step (.transfer env dto userId) db).levels dto.fromKey +
            onHand (operations.step (.transfer env dto userId) db).levels dto.toKey =
          onHand db.levels dto.fromKey + onHand db.levels dto.toKey ∧
        ∀ result db', (transfer env dto userId).Commits db result db' →
          (valueAt db' dto.fromKey + valueAt db' dto.toKey =
            valueAt db dto.fromKey + valueAt db dto.toKey ↔ ValueKept dto db) := by
  have hstep : ∀ operation db, Reconciled db →
      (∀ t ∈ operations.seen operation, Reconciled t) → True →
      Reconciled (operations.step operation db) := by
    intro operation db hreconciled _ _
    exact (operation.sameGap db).reconciled hreconciled
  intro db hdb
  refine ⟨hrun.invariant hstart hstep db hdb, fun env dto userId => ⟨?_, ?_⟩⟩
  · exact transfer_quantities env dto userId db
  · intro result db' hcommits
    obtain ⟨_, _, htransferred⟩ := commits_transfer hcommits
    exact htransferred.value_iff

namespace Sample

def stockEnv : InventoryEnv := ⟨"TRF-1", "COUNT-1", "supplier"⟩

theorem soapItem_distinct : ([(⟨"soap", true, none⟩ : StockItem)].map StockItem.id).Nodup :=
  List.nodup_singleton _

def emptyStores : InventoryDb where
  items := ⟨[⟨"soap", true, none⟩], soapItem_distinct⟩
  branches := ["north", "south"]
  levels := Table.empty
  movements := []
  orderLines := [⟨"order", some "soap", 40000, none⟩]

def soapIn (branchId : Uuid) (quantity unitCost : ℤ) (hpos : 0 < quantity) : StockInDto :=
  ⟨"soap", branchId, quantity, unitCost, some "supplier", none, none, none, none, hpos⟩

theorem oneSoap_pos : (0 : ℤ) < 10000 := by decide

def soapSouth : StockTransferDto :=
  ⟨"soap", "north", "south", 10000, none, none, oneSoap_pos⟩

theorem tenSoaps_pos : (0 : ℤ) < 100000 := by decide

def stocked : InventoryDb :=
  operations.step (.stockIn stockEnv (soapIn "north" 100000 50000 tenSoaps_pos) "clerk")
    emptyStores

def southStocked : InventoryDb :=
  operations.step (.stockIn stockEnv (soapIn "south" 10000 20000 oneSoap_pos) "clerk") stocked

/-- Four units sold in the south, where one was on hand. -/
def oversold : InventoryDb :=
  operations.step (.decrement ⟨"order", "clerk", some "south", none⟩) southStocked

end Sample

theorem reconciled_emptyStores : Reconciled Sample.emptyStores := fun _ => rfl

theorem run_stocked :
    operations.Run (fun _ _ => True) Sample.emptyStores [Sample.stocked, Sample.emptyStores] :=
  .call _ .start (fun _ ht => absurd ht List.not_mem_nil) trivial

theorem run_oversold :
    operations.Run (fun _ _ => True) Sample.emptyStores
      [Sample.oversold, Sample.southStocked, Sample.stocked, Sample.emptyStores] :=
  .call _ (.call _ run_stocked (fun _ ht => absurd ht List.not_mem_nil) trivial)
    (fun _ ht => absurd ht List.not_mem_nil) trivial

theorem stockRun_reconciled_sample :
    Reconciled Sample.stocked ∧
      ∀ result db', (transfer Sample.stockEnv Sample.soapSouth "clerk").Commits Sample.stocked
        result db' →
        (valueAt db' Sample.soapSouth.fromKey + valueAt db' Sample.soapSouth.toKey =
          valueAt Sample.stocked Sample.soapSouth.fromKey +
            valueAt Sample.stocked Sample.soapSouth.toKey ↔
          ValueKept Sample.soapSouth Sample.stocked) := by
  have hstocked := stockRun_reconciled reconciled_emptyStores run_stocked Sample.stocked
    (List.mem_cons_self ..)
  exact ⟨hstocked.1, (hstocked.2 Sample.stockEnv Sample.soapSouth "clerk").2⟩

theorem stockRun_reconciled_fails :
    ¬ ∀ (start : InventoryDb) (trace : List InventoryDb), Reconciled start →
      operations.Run (fun _ _ => True) start trace →
      ∀ db ∈ trace, Reconciled db ∧
        ∀ env dto userId result db', (transfer env dto userId).Commits db result db' →
          valueAt db' dto.fromKey + valueAt db' dto.toKey =
            valueAt db dto.fromKey + valueAt db dto.toKey := by
  intro hall
  obtain ⟨result, hcommits⟩ := @exists_commits_of_isOk _ _ _
    (transfer Sample.stockEnv Sample.soapSouth "clerk") Sample.oversold (by decide +kernel)
  have hvalue := (hall Sample.emptyStores _ reconciled_emptyStores run_oversold Sample.oversold
    (List.mem_cons_self ..)).2 Sample.stockEnv Sample.soapSouth "clerk" result _ hcommits
  revert hvalue
  decide +kernel

end SafariLaundry.Inventory
