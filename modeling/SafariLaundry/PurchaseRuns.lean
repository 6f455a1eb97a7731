import SafariLaundry.PurchaseOrders

/-!
# Runs of receipts and cancellations

Lines, receipts, stock and status of a purchase order agree over a run as long as every
receipt is written with the lines as they are, finds its stock, and no status is written over
one that is final.
-/

namespace SafariLaundry

open Library List

variable {file : PurchaseFile} {read : Table PurchaseOrderLine.id} {lineId : Uuid}
  {receipt : CheckedReceipt} {choice : StockChoice}

def PurchaseThread.outstanding (lineId : Uuid) : PurchaseThread → ℤ
  | .stockIns _ remaining => quantityOf (namedLines lineId remaining)
  | _ => 0

def inFlight (lineId : Uuid) (pending : List PurchaseThread) : ℤ :=
  (pending.map (PurchaseThread.outstanding lineId)).sum

/-- If the lines are complete once it is there, a thread will find them complete. -/
def PurchaseThread.Finishes : PurchaseThread → Prop
  | .stockIns _ _ => True
  | .receiveStatus allDone => allDone = true
  | _ => False

def NamedIn (lines : Table PurchaseOrderLine.id) (named : List ReceivePurchaseOrderLineDto) :
    Prop :=
  ∀ d ∈ named, d.purchaseOrderLineId ∈ lines.rows.map PurchaseOrderLine.id

/-- What a thread has read still says something about the order. -/
def PurchaseThread.Fits (file : PurchaseFile) : PurchaseThread → Prop
  | .receiveLines receipt =>
      LinesGrown receipt.lines file.lines ∧ NamedIn file.lines receipt.dto.lines
  | .stockIns _ remaining => NamedIn file.lines remaining
  | .receiveStatus allDone => allDone = true → file.AllDone
  | _ => True

structure PurchaseKept (queue : PurchaseQueue) : Prop where
  within : queue.shared.WithinOrder
  moved : ∀ line ∈ queue.shared.lines.rows, queue.shared.receiptsOf line.id =
    queue.shared.stockedFor line.id + inFlight line.id queue.pending
  finishing : queue.shared.AllDone → queue.shared.order.status = .RECEIVED ∨
    ∃ thread ∈ queue.pending, thread.Finishes
  fits : ∀ thread ∈ queue.pending, thread.Fits queue.shared

variable {pending threads : List PurchaseThread} {thread : PurchaseThread} {position : ℕ}
  {after : PurchaseFile}

theorem inFlight_leave (threads : List PurchaseThread) (lineId : Uuid)
    (hthread : pending[position]? = some thread) :
    inFlight lineId (Threads.leave position threads pending) + thread.outstanding lineId =
      inFlight lineId pending + inFlight lineId threads :=
  Threads.sum_leave (PurchaseThread.outstanding lineId) hthread

theorem PurchaseKept.aside (hkept : PurchaseKept ⟨file, pending⟩)
    (hthread : pending[position]? = some thread) (hlines : after.lines = file.lines)
    (hreceipts : after.receiptLines = file.receiptLines)
    (hstocked : after.stockedIn = file.stockedIn)
    (hweight : ∀ lineId, inFlight lineId threads = thread.outstanding lineId)
    (hfits : ∀ other ∈ threads, other.Fits file)
    (hcomplete : after.order.status = .RECEIVED → file.AllDone)
    (hfinishing : file.AllDone → after.order.status = .RECEIVED ∨
      (∃ other ∈ threads, other.Finishes) ∨ (file.order.status ≠ .RECEIVED ∧ ¬ thread.Finishes)) :
    PurchaseKept ⟨after, Threads.leave position threads pending⟩ := by
  have hdone : after.AllDone ↔ file.AllDone := by
    unfold PurchaseFile.AllDone
    rw [hlines]
  have hreceiptsOf : ∀ lineId, after.receiptsOf lineId = file.receiptsOf lineId := by
    intro lineId
    unfold PurchaseFile.receiptsOf
    rw [hreceipts]
  have hstockedFor : ∀ lineId, after.stockedFor lineId = file.stockedFor lineId := by
    intro lineId
    unfold PurchaseFile.stockedFor
    rw [hstocked]
  refine ⟨⟨?_, ?_, ?_⟩, ?_, ?_, ?_⟩
  · intro line hline
    rw [hlines] at hline
    rw [hreceiptsOf]
    exact hkept.within.receipts line hline
  · intro line hline
    rw [hlines] at hline
    exact hkept.within.limit line hline
  · exact fun hreceived => hdone.2 (hcomplete hreceived)
  · intro line hline
    simp only at hline ⊢
    rw [hlines] at hline
    have hmoved := hkept.moved line hline
    have hleave := inFlight_leave threads line.id hthread
    simp only at hmoved
    rw [hreceiptsOf, hstockedFor]
    rw [hweight] at hleave
    omega
  · intro hall
    rcases hfinishing (hdone.1 hall) with hreceived | ⟨other, hother, hfinishes⟩ | ⟨hnot, hno⟩
    · exact .inl hreceived
    · exact .inr ⟨other, Threads.mem_leave_of_mem_threads hother, hfinishes⟩
    · rcases hkept.finishing (hdone.1 hall) with hreceived | ⟨other, hother, hfinishes⟩
      · exact absurd hreceived hnot
      · have hne : other ≠ thread := fun hsame => hno (hsame ▸ hfinishes)
        exact .inr ⟨other, Threads.mem_leave_of_ne hthread hne hother, hfinishes⟩
  · intro other hother
    have hbefore : other.Fits file := by
      rcases Threads.mem_leave hthread hother with hnew | hold
      · exact hfits other hnew
      · exact hkept.fits other hold
    unfold PurchaseThread.Fits at hbefore ⊢
    cases other with
    | receiveLines receipt =>
        simp only at hbefore ⊢
        rw [hlines]
        exact hbefore
    | stockIns receipt remaining =>
        simp only at hbefore ⊢
        rw [hlines]
        exact hbefore
    | receiveStatus allDone => exact fun htrue => hdone.2 (hbefore htrue)
    | _ => trivial

/-! ## A receipt -/

theorem CheckedReceipt.NamesOnce.line {line old : PurchaseOrderLine}
    (honce : receipt.NamesOnce file) (hgrown : LinesGrown receipt.lines file.lines)
    (hline : line ∈ file.lines.rows) (hread : receipt.lines.find? line.id = some old) :
    lastReceived old.quantityReceived line.quantityReceived (namedLines line.id receipt.dto.lines) =
      line.quantityReceived + quantityOf (namedLines line.id receipt.dto.lines) := by
  obtain ⟨hlength, hsame⟩ := honce line hline
  obtain ⟨old', hread', _, hle⟩ := hgrown line hline
  rw [hread] at hread'
  cases hread'
  exact (lastReceived_eq_iff hle _).2 ⟨hlength, fun hnamed => hsame hnamed old hread⟩

theorem CheckedReceipt.NamesOnce.limit {line old : PurchaseOrderLine}
    (honce : receipt.NamesOnce file) (hgrown : LinesGrown receipt.lines file.lines)
    (hline : line ∈ file.lines.rows) (hread : receipt.lines.find? line.id = some old)
    (hlimit : line.quantityReceived ≤ line.quantityOrdered) :
    line.quantityReceived + quantityOf (namedLines line.id receipt.dto.lines) ≤
      line.quantityOrdered := by
  obtain ⟨hlength, hsame⟩ := honce line hline
  obtain ⟨old', hread', hordered, _⟩ := hgrown line hline
  rw [hread] at hread'
  cases hread'
  match hnamed : namedLines line.id receipt.dto.lines with
  | [] => simpa [quantityOf] using hlimit
  | [d] =>
      have hmem : d ∈ namedLines line.id receipt.dto.lines := hnamed ▸ mem_singleton_self d
      obtain ⟨hd, hname⟩ := mem_filter.1 hmem
      obtain ⟨poLine, hfound, hwithin⟩ := lineError_none (receipt.checked d hd)
      rw [of_decide_eq_true hname, hread] at hfound
      cases hfound
      have hreceived := hsame (hnamed ▸ cons_ne_nil d []) old hread
      have hone : quantityOf [d] = d.quantityReceived := by simp [quantityOf]
      rw [hone]
      omega
  | d :: d' :: rest =>
      rw [hnamed] at hlength
      simp at hlength

theorem CheckedReceipt.NamesOnce.mem_iff {later : PurchaseOrderLine}
    (honce : receipt.NamesOnce file) (hgrown : LinesGrown receipt.lines file.lines) :
    later ∈ (file.receiveLines receipt.lines receipt.dto.lines).lines.rows ↔
      ∃ line ∈ file.lines.rows, later = line.withReceived
        (line.quantityReceived + quantityOf (namedLines line.id receipt.dto.lines)) := by
  rw [mem_receiveLines_iff hgrown receipt.allKnown]
  constructor
  · rintro ⟨line, hline, old, hread, rfl⟩
    exact ⟨line, hline, congrArg line.withReceived (honce.line hgrown hline hread)⟩
  · rintro ⟨line, hline, rfl⟩
    obtain ⟨old, hread, _⟩ := hgrown line hline
    exact ⟨line, hline, old, hread, congrArg line.withReceived (honce.line hgrown hline hread).symm⟩

theorem CheckedReceipt.NamesOnce.allDone (honce : receipt.NamesOnce file)
    (hgrown : LinesGrown receipt.lines file.lines) (hdone : file.AllDone) :
    (file.receiveLines receipt.lines receipt.dto.lines).AllDone := by
  intro later hlater
  obtain ⟨line, hline, rfl⟩ := (honce.mem_iff hgrown).1 hlater
  have hquantity := quantityOf_nonneg (namedLines line.id receipt.dto.lines)
  have hfull := hdone line hline
  simp only [PurchaseOrderLine.withReceived]
  omega

theorem CheckedReceipt.NamesOnce.linesGrown (honce : receipt.NamesOnce file)
    (hgrown : LinesGrown receipt.lines file.lines) (hread : LinesGrown read file.lines) :
    LinesGrown read (file.receiveLines receipt.lines receipt.dto.lines).lines := by
  intro later hlater
  obtain ⟨line, hline, rfl⟩ := (honce.mem_iff hgrown).1 hlater
  obtain ⟨old, hold, hordered, hle⟩ := hread line hline
  have hquantity := quantityOf_nonneg (namedLines line.id receipt.dto.lines)
  refine ⟨old, hold, hordered, ?_⟩
  simp only [PurchaseOrderLine.withReceived]
  omega

theorem PurchaseFile.receiveLines_keeps (read : Table PurchaseOrderLine.id)
    (lines : List ReceivePurchaseOrderLineDto) (file : PurchaseFile) :
    (file.receiveLines read lines).order = file.order ∧
      (file.receiveLines read lines).stockedIn = file.stockedIn := by
  induction lines generalizing file with
  | nil => exact ⟨rfl, rfl⟩
  | cons d rest ih =>
      have hstep : (file.receiveLine read d).order = file.order ∧
          (file.receiveLine read d).stockedIn = file.stockedIn := by
        unfold receiveLine
        cases read.find? d.purchaseOrderLineId with
        | none => exact ⟨rfl, rfl⟩
        | some poLine => exact ⟨rfl, rfl⟩
      have hrest := ih (file.receiveLine read d)
      exact ⟨hrest.1.trans hstep.1, hrest.2.trans hstep.2⟩

theorem PurchaseFile.ids_receiveLines (read : Table PurchaseOrderLine.id)
    (lines : List ReceivePurchaseOrderLineDto) (file : PurchaseFile) :
    (file.receiveLines read lines).lines.rows.map PurchaseOrderLine.id =
      file.lines.rows.map PurchaseOrderLine.id := by
  induction lines generalizing file with
  | nil => rfl
  | cons d rest ih =>
      have hstep : (file.receiveLine read d).lines.rows.map PurchaseOrderLine.id =
          file.lines.rows.map PurchaseOrderLine.id := by
        unfold receiveLine
        cases read.find? d.purchaseOrderLineId with
        | none => rfl
        | some poLine =>
            apply Table.view_updateWhere
            · exact PurchaseOrderLine.withReceived_id _
            · exact PurchaseOrderLine.withReceived_id _
      exact (ih (file.receiveLine read d)).trans hstep

theorem PurchaseFile.stockedFor_receiveLines (read : Table PurchaseOrderLine.id)
    (lines : List ReceivePurchaseOrderLineDto) (file : PurchaseFile) (lineId : Uuid) :
    (file.receiveLines read lines).stockedFor lineId = file.stockedFor lineId := by
  unfold stockedFor
  rw [(file.receiveLines_keeps read lines).2]

theorem PurchaseKept.receiveLines (hkept : PurchaseKept ⟨file, pending⟩)
    (hthread : pending[position]? = some (.receiveLines receipt))
    (honce : receipt.NamesOnce file) :
    PurchaseKept ⟨file.receiveLines receipt.lines receipt.dto.lines,
      Threads.leave position [.stockIns receipt receipt.dto.lines] pending⟩ := by
  obtain ⟨hgrown, hnamed⟩ := hkept.fits _ (mem_of_getElem? hthread)
  have hids := file.ids_receiveLines receipt.lines receipt.dto.lines
  have hreceiptsOf := fun lineId => receiptsOf_receiveLines file lineId receipt.allKnown
  have hkeeps := file.receiveLines_keeps receipt.lines receipt.dto.lines
  refine ⟨⟨?_, ?_, ?_⟩, ?_, ?_, ?_⟩
  · intro later hlater
    obtain ⟨line, hline, rfl⟩ := (honce.mem_iff hgrown).1 hlater
    have hbefore := hkept.within.receipts line hline
    have hadded := hreceiptsOf line.id
    simp only [PurchaseOrderLine.withReceived] at hbefore ⊢
    omega
  · intro later hlater
    obtain ⟨line, hline, rfl⟩ := (honce.mem_iff hgrown).1 hlater
    obtain ⟨old, hread, _⟩ := hgrown line hline
    exact honce.limit hgrown hline hread (hkept.within.limit line hline)
  · intro hreceived
    simp only at hreceived
    rw [hkeeps.1] at hreceived
    exact honce.allDone hgrown (hkept.within.complete hreceived)
  · intro later hlater
    obtain ⟨line, hline, rfl⟩ := (honce.mem_iff hgrown).1 hlater
    have hbefore := hkept.moved line hline
    have hadded := hreceiptsOf line.id
    have hstocked := file.stockedFor_receiveLines receipt.lines receipt.dto.lines line.id
    have hleave := inFlight_leave [.stockIns receipt receipt.dto.lines] line.id hthread
    simp only [PurchaseOrderLine.withReceived] at hbefore ⊢
    have hone : inFlight line.id [.stockIns receipt receipt.dto.lines] =
        quantityOf (namedLines line.id receipt.dto.lines) := sum_singleton
    have hnone : PurchaseThread.outstanding line.id (.receiveLines receipt) = 0 := rfl
    omega
  · intro _
    exact .inr ⟨_, Threads.mem_leave_of_mem_threads (mem_singleton_self _), trivial⟩
  · intro other hother
    rcases Threads.mem_leave hthread hother with hnew | hold
    · cases mem_singleton.1 hnew
      exact fun d hd => hids ▸ hnamed d hd
    · have hbefore := hkept.fits other hold
      unfold PurchaseThread.Fits at hbefore ⊢
      cases other with
      | receiveLines other =>
          exact ⟨honce.linesGrown hgrown hbefore.1, fun d hd => hids ▸ hbefore.2 d hd⟩
      | stockIns other remaining => exact fun d hd => hids ▸ hbefore d hd
      | receiveStatus allDone => exact fun htrue => honce.allDone hgrown (hbefore htrue)
      | _ => trivial

variable {d : ReceivePurchaseOrderLineDto}

theorem turn_stockIns_of_found (rest : List ReceivePurchaseOrderLineDto)
    (hfound : receipt.FindsStock choice d file) :
    ∃ inventory movement, (PurchaseThread.stockIns receipt (d :: rest)).turn choice file =
        (file.movedIn inventory d.purchaseOrderLineId movement, [.stockIns receipt rest]) ∧
      movement.quantity = d.quantityReceived := by
  obtain ⟨inventory, movement, hstep, hquantity⟩ := file.stockIn_of_found hfound
  refine ⟨inventory, movement, ?_, hquantity⟩
  unfold PurchaseThread.turn
  simp only [hstep]
  rfl

theorem turn_stockIns_of_not_found (rest : List ReceivePurchaseOrderLineDto)
    (hnot : ¬ receipt.FindsStock choice d file) :
    ∃ inventory, (PurchaseThread.stockIns receipt (d :: rest)).turn choice file =
      ({ file with inventory := inventory }, []) := by
  obtain ⟨inventory, hstep⟩ := file.stockIn_of_not_found hnot
  refine ⟨inventory, ?_⟩
  unfold PurchaseThread.turn
  simp only [hstep]
  rfl

theorem PurchaseKept.movedIn {rest : List ReceivePurchaseOrderLineDto}
    {movement : Inventory.Movement} (hkept : PurchaseKept ⟨file, pending⟩)
    (hthread : pending[position]? = some (.stockIns receipt (d :: rest)))
    (hquantity : movement.quantity = d.quantityReceived) (inventory : Inventory.InventoryDb) :
    PurchaseKept ⟨file.movedIn inventory d.purchaseOrderLineId movement,
      Threads.leave position [.stockIns receipt rest] pending⟩ := by
  refine ⟨⟨hkept.within.receipts, hkept.within.limit, hkept.within.complete⟩, ?_, ?_, ?_⟩
  · intro line hline
    have hbefore := hkept.moved line hline
    have hleave := inFlight_leave [.stockIns receipt rest] line.id hthread
    have hone : inFlight line.id [.stockIns receipt rest] = quantityOf (namedLines line.id rest) :=
      sum_singleton
    have hfirst : PurchaseThread.outstanding line.id (.stockIns receipt (d :: rest)) =
        quantityOf (namedLines line.id (d :: rest)) := rfl
    have hstocked := file.stockedFor_movedIn inventory d.purchaseOrderLineId movement line.id
    have hreceipts : (file.movedIn inventory d.purchaseOrderLineId movement).receiptsOf line.id =
        file.receiptsOf line.id := rfl
    simp only at hbefore ⊢
    rw [quantityOf_namedLines_cons] at hfirst
    rw [hstocked, hreceipts, hquantity]
    omega
  · intro _
    exact .inr ⟨_, Threads.mem_leave_of_mem_threads (mem_singleton_self _), trivial⟩
  · intro other hother
    rcases Threads.mem_leave hthread hother with hnew | hold
    · cases mem_singleton.1 hnew
      have hbefore := hkept.fits _ (mem_of_getElem? hthread)
      exact fun later hlater => hbefore later (.tail _ hlater)
    · exact hkept.fits other hold

theorem checkReceipt_lines {dto : ReceivePurchaseOrderDto} {userId : Uuid}
    (hchecked : checkReceipt file dto userId = .ok receipt) : receipt.lines = file.lines := by
  unfold checkReceipt at hchecked
  by_cases hstatus : file.order.status ≠ .SENT ∧ file.order.status ≠ .PARTIALLY_RECEIVED
  · rw [if_pos hstatus] at hchecked
    cases hchecked
  · rw [if_neg hstatus] at hchecked
    split at hchecked
    · cases hchecked
    · cases hchecked
      rfl

theorem LinesGrown.refl (lines : Table PurchaseOrderLine.id) : LinesGrown lines lines :=
  fun line hline => ⟨line, Table.find?_of_mem hline, rfl, le_refl _⟩

theorem CheckedReceipt.namedIn (receipt : CheckedReceipt) :
    NamedIn receipt.lines receipt.dto.lines := by
  intro d hd
  obtain ⟨poLine, hfound⟩ := receipt.allKnown d hd
  rw [← Table.key_of_find? hfound]
  exact mem_map_of_mem (Table.mem_of_find? hfound)

theorem PurchaseKept.idle (hkept : PurchaseKept ⟨file, pending⟩)
    (hthread : pending[position]? = some thread) (hlines : after.lines = file.lines)
    (hreceipts : after.receiptLines = file.receiptLines)
    (hstocked : after.stockedIn = file.stockedIn)
    (hstatus : after.order.status = file.order.status)
    (hweight : ∀ lineId, inFlight lineId threads = thread.outstanding lineId)
    (hfits : ∀ other ∈ threads, other.Fits file)
    (hfinishes : thread.Finishes → file.AllDone → ∃ other ∈ threads, other.Finishes) :
    PurchaseKept ⟨after, Threads.leave position threads pending⟩ := by
  apply hkept.aside hthread hlines hreceipts hstocked hweight hfits
  · intro hreceived
    exact hkept.within.complete (hstatus ▸ hreceived)
  · intro hdone
    by_cases hreceived : file.order.status = .RECEIVED
    · exact .inl (hstatus.trans hreceived)
    · by_cases hthis : thread.Finishes
      · exact .inr (.inl (hfinishes hthis hdone))
      · exact .inr (.inr ⟨hreceived, hthis⟩)

theorem PurchaseKept.turn (hkept : PurchaseKept ⟨file, pending⟩)
    (hthread : pending[position]? = some thread) (hcareful : thread.Careful choice file) :
    PurchaseKept ⟨(thread.turn choice file).1,
      Threads.leave position (thread.turn choice file).2 pending⟩ := by
  have hnobody : ∀ other ∈ ([] : List PurchaseThread), other.Fits file :=
    fun _ hother => by cases hother
  cases thread with
  | receive dto userId =>
      unfold PurchaseThread.turn
      cases hchecked : checkReceipt file dto userId with
      | error err =>
          simp only [hchecked]
          exact hkept.idle hthread rfl rfl rfl rfl (fun _ => rfl) hnobody fun hno => hno.elim
      | ok receipt =>
          simp only [hchecked]
          apply hkept.idle hthread rfl rfl rfl rfl (fun _ => rfl) _ fun hno => hno.elim
          intro other hother
          cases mem_singleton.1 hother
          have hread := checkReceipt_lines hchecked
          exact ⟨hread ▸ LinesGrown.refl receipt.lines, hread ▸ receipt.namedIn⟩
  | receiveLines receipt => exact hkept.receiveLines hthread hcareful
  | stockIns receipt remaining =>
      cases remaining with
      | nil =>
          apply hkept.idle hthread rfl rfl rfl rfl (fun _ => rfl)
          · intro other hother
            cases mem_singleton.1 hother
            exact of_decide_eq_true
          · intro _ hdone
            exact ⟨_, mem_singleton_self _, decide_eq_true hdone⟩
      | cons d rest =>
          obtain ⟨inventory, movement, hstep, hquantity⟩ := turn_stockIns_of_found rest hcareful
          rw [hstep]
          exact hkept.movedIn hthread hquantity inventory
  | receiveStatus allDone =>
      have hfits := hkept.fits _ (mem_of_getElem? hthread)
      cases allDone with
      | true =>
          exact hkept.aside hthread rfl rfl rfl (fun _ => rfl) hnobody (fun _ => hfits rfl)
            fun _ => .inl rfl
      | false =>
          have hrunning : file.order.status ≠ .RECEIVED :=
            fun hreceived => absurd (hcareful (.inl hreceived)).1 (by decide)
          exact hkept.aside hthread rfl rfl rfl (fun _ => rfl) hnobody (fun hno => by cases hno)
            fun _ => .inr (.inr ⟨hrunning, fun hno => by cases hno⟩)
  | cancel reason =>
      unfold PurchaseThread.turn
      by_cases hterminal : file.order.status.IsTerminal
      · simp only [if_pos hterminal]
        exact hkept.idle hthread rfl rfl rfl rfl (fun _ => rfl) hnobody fun hno => hno.elim
      · simp only [if_neg hterminal]
        exact hkept.idle hthread rfl rfl rfl rfl (fun _ => rfl)
          (forall_mem_singleton.2 trivial) fun hno => hno.elim
  | cancelLines reason =>
      unfold PurchaseThread.turn
      by_cases hreceived : ∃ line ∈ file.lines.rows, 0 < line.quantityReceived
      · simp only [if_pos hreceived]
        exact hkept.idle hthread rfl rfl rfl rfl (fun _ => rfl) hnobody fun hno => hno.elim
      · simp only [if_neg hreceived]
        exact hkept.idle hthread rfl rfl rfl rfl (fun _ => rfl)
          (forall_mem_singleton.2 trivial) fun hno => hno.elim
  | cancelStatus reason =>
      exact hkept.aside hthread rfl rfl rfl (fun _ => rfl) hnobody (fun hno => by cases hno)
        fun _ => .inr (.inr ⟨hcareful, id⟩)
  | otherStock inventory =>
      exact hkept.idle hthread rfl rfl rfl rfl (fun _ => rfl) hnobody fun hno => hno.elim

/-! ## Lasting faults -/

/-- How much less was moved into the stock for a line, or is still to be, than its receipts
say. -/
def PurchaseFile.deficit (lineId : Uuid) (pending : List PurchaseThread) (file : PurchaseFile) :
    ℤ :=
  file.receiptsOf lineId - file.stockedFor lineId - inFlight lineId pending

def PurchaseFault (queue : PurchaseQueue) : Prop :=
  ∃ lineId ∈ queue.shared.lines.rows.map PurchaseOrderLine.id,
    0 < queue.shared.deficit lineId queue.pending

theorem PurchaseKept.no_deficit {line : PurchaseOrderLine} (hkept : PurchaseKept ⟨file, pending⟩)
    (hline : line ∈ file.lines.rows) : file.deficit line.id pending = 0 := by
  have hmoved := hkept.moved line hline
  unfold PurchaseFile.deficit
  simp only at hmoved
  omega

theorem deficit_leave_of_eq (lineId : Uuid) (hthread : pending[position]? = some thread)
    (hbooks : after.receiptsOf lineId - after.stockedFor lineId + thread.outstanding lineId =
      file.receiptsOf lineId - file.stockedFor lineId + inFlight lineId threads) :
    after.deficit lineId (Threads.leave position threads pending) =
      file.deficit lineId pending := by
  have hleave := inFlight_leave threads lineId hthread
  unfold PurchaseFile.deficit
  omega

theorem deficit_leave_of_not_found {rest : List ReceivePurchaseOrderLineDto} (file : PurchaseFile)
    (lineId : Uuid) (inventory : Inventory.InventoryDb)
    (hthread : pending[position]? = some (.stockIns receipt (d :: rest))) :
    PurchaseFile.deficit lineId (Threads.leave position [] pending)
        { file with inventory := inventory } =
      file.deficit lineId pending + quantityOf (namedLines lineId (d :: rest)) := by
  have hleave := inFlight_leave [] lineId hthread
  have hnone : inFlight lineId [] = 0 := rfl
  have hfirst : PurchaseThread.outstanding lineId (.stockIns receipt (d :: rest)) =
      quantityOf (namedLines lineId (d :: rest)) := rfl
  have hreceipts : PurchaseFile.receiptsOf { file with inventory := inventory } lineId =
      file.receiptsOf lineId := rfl
  have hstocked : PurchaseFile.stockedFor { file with inventory := inventory } lineId =
      file.stockedFor lineId := rfl
  unfold PurchaseFile.deficit
  omega

theorem deficit_le_turn (choice : StockChoice) (file : PurchaseFile) (lineId : Uuid)
    (hthread : pending[position]? = some thread) :
    file.deficit lineId pending ≤ (thread.turn choice file).1.deficit lineId
        (Threads.leave position (thread.turn choice file).2 pending) := by
  cases thread with
  | receive dto userId =>
      unfold PurchaseThread.turn
      cases hchecked : checkReceipt file dto userId with
      | error err =>
          simp only [hchecked]
          exact le_of_eq (deficit_leave_of_eq lineId hthread rfl).symm
      | ok receipt =>
          simp only [hchecked]
          exact le_of_eq (deficit_leave_of_eq lineId hthread rfl).symm
  | receiveLines receipt =>
      apply le_of_eq (deficit_leave_of_eq lineId hthread _).symm
      have hadded := receiptsOf_receiveLines file lineId receipt.allKnown
      have hstocked := file.stockedFor_receiveLines receipt.lines receipt.dto.lines lineId
      have hone : inFlight lineId [.stockIns receipt receipt.dto.lines] =
          quantityOf (namedLines lineId receipt.dto.lines) := sum_singleton
      have hnone : PurchaseThread.outstanding lineId (.receiveLines receipt) = 0 := rfl
      simp only [PurchaseThread.turn]
      omega
  | stockIns receipt remaining =>
      cases remaining with
      | nil => exact le_of_eq (deficit_leave_of_eq lineId hthread rfl).symm
      | cons d rest =>
          by_cases hfound : receipt.FindsStock choice d file
          · obtain ⟨inventory, movement, hstep, hquantity⟩ := turn_stockIns_of_found rest hfound
            rw [hstep]
            apply le_of_eq (deficit_leave_of_eq lineId hthread _).symm
            have hreceipts : (file.movedIn inventory d.purchaseOrderLineId movement).receiptsOf
                lineId = file.receiptsOf lineId := rfl
            have hstocked := file.stockedFor_movedIn inventory d.purchaseOrderLineId movement lineId
            have hone : inFlight lineId [.stockIns receipt rest] =
                quantityOf (namedLines lineId rest) := sum_singleton
            have hfirst : PurchaseThread.outstanding lineId (.stockIns receipt (d :: rest)) =
                quantityOf (namedLines lineId (d :: rest)) := rfl
            rw [quantityOf_namedLines_cons] at hfirst
            rw [hquantity] at hstocked
            simp only
            omega
          · obtain ⟨inventory, hstep⟩ := turn_stockIns_of_not_found rest hfound
            have hmissing := deficit_leave_of_not_found file lineId inventory hthread
            have hquantity := quantityOf_nonneg (namedLines lineId (d :: rest))
            rw [hstep]
            simp only
            omega
  | receiveStatus allDone => exact le_of_eq (deficit_leave_of_eq lineId hthread rfl).symm
  | cancel reason =>
      unfold PurchaseThread.turn
      by_cases hterminal : file.order.status.IsTerminal
      · simp only [if_pos hterminal]
        exact le_of_eq (deficit_leave_of_eq lineId hthread rfl).symm
      · simp only [if_neg hterminal]
        exact le_of_eq (deficit_leave_of_eq lineId hthread rfl).symm
  | cancelLines reason =>
      unfold PurchaseThread.turn
      by_cases hreceived : ∃ line ∈ file.lines.rows, 0 < line.quantityReceived
      · simp only [if_pos hreceived]
        exact le_of_eq (deficit_leave_of_eq lineId hthread rfl).symm
      · simp only [if_neg hreceived]
        exact le_of_eq (deficit_leave_of_eq lineId hthread rfl).symm
  | cancelStatus reason => exact le_of_eq (deficit_leave_of_eq lineId hthread rfl).symm
  | otherStock inventory => exact le_of_eq (deficit_leave_of_eq lineId hthread rfl).symm

theorem ids_turn (choice : StockChoice) (thread : PurchaseThread) (file : PurchaseFile) :
    (thread.turn choice file).1.lines.rows.map PurchaseOrderLine.id =
      file.lines.rows.map PurchaseOrderLine.id := by
  cases thread with
  | receive dto userId =>
      unfold PurchaseThread.turn
      cases hchecked : checkReceipt file dto userId with
      | error err => simp only [hchecked]
      | ok receipt => simp only [hchecked]
  | receiveLines receipt => exact file.ids_receiveLines receipt.lines receipt.dto.lines
  | stockIns receipt remaining =>
      cases remaining with
      | nil => rfl
      | cons d rest =>
          by_cases hfound : receipt.FindsStock choice d file
          · obtain ⟨inventory, movement, hstep, _⟩ := turn_stockIns_of_found rest hfound
            rw [hstep]
            rfl
          · obtain ⟨inventory, hstep⟩ := turn_stockIns_of_not_found rest hfound
            rw [hstep]
  | _ => rfl

/-! ## A step -/

variable {queue : PurchaseQueue} {turn : PurchaseTurn}

theorem step_next (choice : StockChoice) (hthread : queue.pending[position]? = some thread) :
    purchaseThreads.scheduled.step (.next position choice) queue =
      ⟨(thread.turn choice queue.shared).1,
        Threads.leave position (thread.turn choice queue.shared).2 queue.pending⟩ := by
  unfold Threads.scheduled
  simp only
  rw [hthread]
  rfl

theorem step_next_none (choice : StockChoice) (hthread : queue.pending[position]? = none) :
    purchaseThreads.scheduled.step (.next position choice) queue = queue := by
  unfold Threads.scheduled
  simp only
  rw [hthread]

theorem PurchaseThread.Starts.outstanding (hstarts : thread.Starts) (lineId : Uuid) :
    thread.outstanding lineId = 0 := by
  cases thread with
  | stockIns receipt remaining => exact hstarts.elim
  | _ => rfl

theorem PurchaseThread.Starts.fits (hstarts : thread.Starts) (file : PurchaseFile) :
    thread.Fits file := by
  cases thread with
  | receiveLines receipt => exact hstarts.elim
  | stockIns receipt remaining => exact hstarts.elim
  | receiveStatus allDone => exact hstarts.elim
  | _ => trivial

theorem inFlight_start (hstarts : thread.Starts) (lineId : Uuid) :
    inFlight lineId (thread :: pending) = inFlight lineId pending := by
  have hnone := hstarts.outstanding lineId
  have hsum : inFlight lineId (thread :: pending) =
      thread.outstanding lineId + inFlight lineId pending := sum_cons
  omega

theorem PurchaseKept.step (hkept : PurchaseKept queue)
    (hallowed : turn.Allowed purchaseThreads queue) (hcareful : CarefulTurn turn queue) :
    PurchaseKept (purchaseThreads.scheduled.step turn queue) := by
  cases turn with
  | start thread =>
      refine ⟨hkept.within, ?_, ?_, ?_⟩
      · intro line hline
        change _ = _ + inFlight line.id (thread :: queue.pending)
        rw [inFlight_start hallowed]
        exact hkept.moved line hline
      · intro hdone
        rcases hkept.finishing hdone with hreceived | ⟨other, hother, hfinishes⟩
        · exact .inl hreceived
        · exact .inr ⟨other, .tail _ hother, hfinishes⟩
      · exact forall_mem_cons.2 ⟨PurchaseThread.Starts.fits hallowed queue.shared, hkept.fits⟩
  | next position choice =>
      cases hthread : queue.pending[position]? with
      | none =>
          rw [step_next_none choice hthread]
          exact hkept
      | some thread =>
          rw [step_next choice hthread]
          exact hkept.turn hthread (hcareful thread hthread)

theorem PurchaseFault.step (hallowed : turn.Allowed purchaseThreads queue)
    (hfault : PurchaseFault queue) : PurchaseFault (purchaseThreads.scheduled.step turn queue) := by
  obtain ⟨lineId, hid, hdeficit⟩ := hfault
  cases turn with
  | start thread =>
      refine ⟨lineId, hid, ?_⟩
      change 0 < _ - _ - inFlight lineId (thread :: queue.pending)
      rw [inFlight_start hallowed]
      exact hdeficit
  | next position choice =>
      cases hthread : queue.pending[position]? with
      | none =>
          rw [step_next_none choice hthread]
          exact ⟨lineId, hid, hdeficit⟩
      | some thread =>
          have hle := deficit_le_turn choice queue.shared lineId hthread
          rw [step_next choice hthread]
          refine ⟨lineId, ?_, lt_of_lt_of_le hdeficit hle⟩
          rw [ids_turn]
          exact hid

theorem CheckedReceipt.namesOnce_of_within (hkept : PurchaseKept ⟨file, pending⟩)
    (hgrown : LinesGrown receipt.lines file.lines)
    (hwithin : (file.receiveLines receipt.lines receipt.dto.lines).WithinOrder) :
    receipt.NamesOnce file := by
  intro line hline
  obtain ⟨old, hread, _, hle⟩ := hgrown line hline
  have hafter := hwithin.receipts _
    ((mem_receiveLines_iff hgrown receipt.allKnown).2 ⟨line, hline, old, hread, rfl⟩)
  have hbefore := hkept.within.receipts line hline
  have hlast : lastReceived old.quantityReceived line.quantityReceived
      (namedLines line.id receipt.dto.lines) =
        line.quantityReceived + quantityOf (namedLines line.id receipt.dto.lines) := by
    simp only [PurchaseOrderLine.withReceived] at hafter
    rw [receiptsOf_receiveLines file line.id receipt.allKnown, ← hbefore] at hafter
    exact hafter
  obtain ⟨hlength, hsame⟩ := (lastReceived_eq_iff hle _).1 hlast
  refine ⟨hlength, fun hnamed read hfound => ?_⟩
  rw [hread] at hfound
  cases hfound
  exact hsame hnamed

theorem PurchaseKept.careful (hkept : PurchaseKept ⟨file, pending⟩)
    (hthread : pending[position]? = some thread)
    (hwithin : (thread.turn choice file).1.WithinOrder)
    (hterminal : file.order.status.IsTerminal →
      (thread.turn choice file).1.order.status = file.order.status)
    (hfault : ¬ PurchaseFault ⟨(thread.turn choice file).1,
      Threads.leave position (thread.turn choice file).2 pending⟩) :
    thread.Careful choice file := by
  cases thread with
  | receiveLines receipt =>
      obtain ⟨hgrown, _⟩ := hkept.fits _ (mem_of_getElem? hthread)
      exact CheckedReceipt.namesOnce_of_within hkept hgrown hwithin
  | stockIns receipt remaining =>
      cases remaining with
      | nil => trivial
      | cons d rest =>
          by_contra hnot
          obtain ⟨inventory, hstep⟩ := turn_stockIns_of_not_found rest hnot
          have hnamed : NamedIn file.lines (d :: rest) :=
            hkept.fits _ (mem_of_getElem? hthread)
          obtain ⟨line, hline, hid⟩ := mem_map.1 (hnamed d (mem_cons_self ..))
          apply hfault
          rw [hstep]
          refine ⟨line.id, mem_map_of_mem hline, ?_⟩
          have hmissing := deficit_leave_of_not_found file line.id inventory hthread
          have hbefore := hkept.no_deficit hline
          have hlater := quantityOf_nonneg (namedLines line.id rest)
          have hpositive := d.quantity_pos
          rw [quantityOf_namedLines_cons, if_pos hid.symm] at hmissing
          simp only
          omega
  | receiveStatus allDone =>
      intro hended
      have hsame := hterminal hended
      cases allDone with
      | true => exact ⟨rfl, hsame.symm⟩
      | false =>
          have hpartly : file.order.status = .PARTIALLY_RECEIVED := hsame.symm
          rw [hpartly] at hended
          exact absurd hended (by decide)
  | cancelStatus reason =>
      intro hreceived
      have hsame := hterminal (.inl hreceived)
      have hcancelled : file.order.status = .CANCELLED := hsame.symm
      rw [hreceived] at hcancelled
      cases hcancelled
  | _ => trivial

/-! ## Every run -/

theorem PurchaseKept.atStart (hwithin : file.WithinOrder) (hrest : file.AtRest) :
    PurchaseKept ⟨file, []⟩ := by
  refine ⟨hwithin, ?_, fun hdone => .inl (hrest.received hdone), fun _ hother => by cases hother⟩
  intro line hline
  have hreceipts := hwithin.receipts line hline
  have hstocked := hrest.stocked line hline
  have hnone : inFlight line.id [] = 0 := rfl
  simp only
  omega

theorem PurchaseKept.atRest (hkept : PurchaseKept queue) (hnone : queue.pending = []) :
    queue.shared.AtRest := by
  constructor
  · intro line hline
    have hmoved := hkept.moved line hline
    have hreceipts := hkept.within.receipts line hline
    have hempty : inFlight line.id [] = 0 := rfl
    rw [hnone] at hmoved
    omega
  · intro hdone
    rcases hkept.finishing hdone with hreceived | ⟨thread, hthread, _⟩
    · exact hreceived
    · rw [hnone] at hthread
      cases hthread

theorem no_fault_of_atRest (hnone : queue.pending = []) (hwithin : queue.shared.WithinOrder)
    (hrest : queue.shared.AtRest) : ¬ PurchaseFault queue := by
  rintro ⟨lineId, hid, hdeficit⟩
  obtain ⟨line, hline, rfl⟩ := mem_map.1 hid
  have hreceipts := hwithin.receipts line hline
  have hstocked := hrest.stocked line hline
  have hempty : inFlight line.id [] = 0 := rfl
  rw [hnone] at hdeficit
  unfold PurchaseFile.deficit at hdeficit
  omega

theorem PurchaseThread.Careful.status (hcareful : thread.Careful choice file)
    (hterminal : file.order.status.IsTerminal) :
    (thread.turn choice file).1.order.status = file.order.status := by
  cases thread with
  | receive dto userId =>
      unfold PurchaseThread.turn
      cases hchecked : checkReceipt file dto userId with
      | error err => simp only [hchecked]
      | ok receipt => simp only [hchecked]
  | receiveLines receipt =>
      exact congrArg PurchaseOrder.status
        (file.receiveLines_keeps receipt.lines receipt.dto.lines).1
  | stockIns receipt remaining =>
      cases remaining with
      | nil => rfl
      | cons d rest =>
          obtain ⟨inventory, movement, hstep, _⟩ := turn_stockIns_of_found rest hcareful
          rw [hstep]
          rfl
  | receiveStatus allDone =>
      obtain ⟨rfl, hreceived⟩ := hcareful hterminal
      exact hreceived.symm
  | cancelStatus reason =>
      rcases hterminal with hreceived | hcancelled
      · exact absurd hreceived hcareful
      · exact hcancelled.symm
  | _ => rfl

theorem CarefulTurn.status (hcareful : CarefulTurn turn queue)
    (hterminal : queue.shared.order.status.IsTerminal) :
    (purchaseThreads.scheduled.step turn queue).shared.order.status =
      queue.shared.order.status := by
  cases turn with
  | start thread => rfl
  | next position choice =>
      cases hthread : queue.pending[position]? with
      | none => rw [step_next_none choice hthread]
      | some thread =>
          rw [step_next choice hthread]
          exact (hcareful thread hthread).status hterminal

theorem PurchaseKept.carefulTurn (hkept : PurchaseKept queue)
    (hwithin : (purchaseThreads.scheduled.step turn queue).shared.WithinOrder)
    (hterminal : queue.shared.order.status.IsTerminal →
      (purchaseThreads.scheduled.step turn queue).shared.order.status = queue.shared.order.status)
    (hfault : ¬ PurchaseFault (purchaseThreads.scheduled.step turn queue)) :
    CarefulTurn turn queue := by
  cases turn with
  | start thread => trivial
  | next position choice =>
      intro thread hthread
      rw [step_next choice hthread] at hwithin hterminal hfault
      exact hkept.careful hthread hwithin hterminal hfault

/-- In a run of receipts and cancellations that all come to an end, lines, receipts, stock and
status agree exactly if every turn is careful. -/
theorem purchases_sound_iff {start : PurchaseFile} {turns : List PurchaseTurn}
    {last : PurchaseQueue} {past : List PurchaseQueue} (hwithin : start.WithinOrder)
    (hrest : start.AtRest) (hended : last.pending = [])
    (hlog : purchaseThreads.scheduled.Log (Threads.Turn.Allowed purchaseThreads) ⟨start, []⟩
      turns (last :: past)) :
    PurchaseSound turns (last :: past) ↔
      ∀ found ∈ Calls.occurrences turns (last :: past), CarefulTurn found.1 found.2 := by
  have hstart := PurchaseKept.atStart hwithin hrest
  have hkeeps : ∀ turn queue, PurchaseKept queue → turn.Allowed purchaseThreads queue →
      CarefulTurn turn queue → PurchaseKept (purchaseThreads.scheduled.step turn queue) :=
    fun _ _ hkept hallowed hcareful => hkept.step hallowed hcareful
  constructor
  · intro hsound
    have hlasts : ∀ turn queue, turn.Allowed purchaseThreads queue → PurchaseFault queue →
        PurchaseFault (purchaseThreads.scheduled.step turn queue) :=
      fun _ _ hallowed hfault => hfault.step hallowed
    have hhere : last ∈ last :: past := mem_cons_self ..
    have hend : ∀ queue ∈ (last :: past).head?, ¬ PurchaseFault queue := by
      intro queue hqueue
      cases hqueue
      exact no_fault_of_atRest hended (hsound.within last hhere) (hsound.atRest last hhere hended)
    exact hlog.meets_of_lasting hstart
      (fun _ _ hkept _ hgood hterminal hfault => hkept.carefulTurn hgood hterminal hfault)
      hlasts hkeeps hend hsound.within hsound.terminal
  · intro hcareful
    have hkept := hlog.invariant hstart hkeeps hcareful
    exact ⟨fun queue hqueue => (hkept queue hqueue).within,
      fun queue hqueue hnone => (hkept queue hqueue).atRest hnone,
      fun found hfound hterminal => (hcareful found hfound).status hterminal⟩

namespace Sample

def soapLine : PurchaseOrderLine where
  id := "line"
  stockItemId := "soap"
  quantityOrdered := 100000
  quantityReceived := 0
  unitCost := 5000

def soapOrdered : PurchaseFile where
  order := ⟨"order", "PO-20260101-0001", "supplier", "north", .SENT, none⟩
  lines := ⟨[soapLine], nodup_singleton _⟩
  receiptLines := []
  inventory := {
    items := ⟨[⟨"soap", true, none⟩], nodup_singleton _⟩
    branches := ["north"]
    levels := ⟨[], nodup_nil⟩
    movements := []
    orderLines := [] }
  stockedIn := []

def deliveredLine (quantity : ℤ) (hquantity : 0 < quantity) : ReceivePurchaseOrderLineDto :=
  ⟨"line", quantity, none, hquantity⟩

def quietStock : StockChoice := ⟨⟨"transfer", "count", "new"⟩, false⟩

def deliveryTurns (movements : ℕ) (lines : List ReceivePurchaseOrderLineDto) :
    List PurchaseTurn :=
  List.replicate (4 + movements) (.next 0 quietStock) ++ [.start (.receive ⟨lines, none⟩ "clerk")]

def queueAfter (turns : List PurchaseTurn) : PurchaseQueue :=
  turns.foldr purchaseThreads.scheduled.step ⟨soapOrdered, []⟩

def deliveryRun (turns : List PurchaseTurn) : List PurchaseQueue := turns.tails.map queueAfter

theorem soapOrdered_within : soapOrdered.WithinOrder :=
  ⟨by decide, by decide, by decide⟩

theorem soapOrdered_atRest : soapOrdered.AtRest :=
  ⟨by decide, by decide⟩

theorem deliveryRun_log (turns : List PurchaseTurn)
    (hallowed : ∀ turn ∈ turns, ∀ queue, turn.Allowed purchaseThreads queue) :
    purchaseThreads.scheduled.Log (Threads.Turn.Allowed purchaseThreads) ⟨soapOrdered, []⟩ turns
      (deliveryRun turns) := by
  induction turns with
  | nil => exact .start
  | cons turn rest ih =>
      have hrest := ih fun other hother => hallowed other (.tail _ hother)
      have hhead : deliveryRun rest = queueAfter rest :: (deliveryRun rest).tail := by
        cases rest with
        | nil => rfl
        | cons => rfl
      have hrun : deliveryRun (turn :: rest) =
          purchaseThreads.scheduled.step turn (queueAfter rest) :: deliveryRun rest := rfl
      rw [hrun, hhead]
      rw [hhead] at hrest
      exact .call turn hrest (fun _ hseen => by cases hseen)
        (hallowed turn (mem_cons_self ..) _)

theorem deliveryTurns_allowed (movements : ℕ) (lines : List ReceivePurchaseOrderLineDto) :
    ∀ turn ∈ deliveryTurns movements lines, ∀ queue : PurchaseQueue,
      turn.Allowed purchaseThreads queue := by
  intro turn hturn queue
  rcases mem_append.1 hturn with hnext | hstart
  · rw [eq_of_mem_replicate hnext]
    exact fun _ _ => trivial
  · rw [mem_singleton.1 hstart]
    exact trivial

def fullDelivery : List PurchaseTurn :=
  deliveryTurns 1 [deliveredLine 100000 (by decide)]

def doubledDelivery : List PurchaseTurn :=
  deliveryTurns 2 [deliveredLine 60000 (by decide), deliveredLine 60000 (by decide)]

end Sample

theorem purchases_sound_iff_sample :
    PurchaseSound Sample.fullDelivery (Sample.deliveryRun Sample.fullDelivery) ↔
      ∀ found ∈ Calls.occurrences Sample.fullDelivery (Sample.deliveryRun Sample.fullDelivery),
        CarefulTurn found.1 found.2 :=
  purchases_sound_iff Sample.soapOrdered_within Sample.soapOrdered_atRest
    (isEmpty_iff.1 (by decide +kernel))
    (Sample.deliveryRun_log Sample.fullDelivery (Sample.deliveryTurns_allowed _ _))

theorem purchases_sound_fails :
    ¬ ∀ (start : PurchaseFile) (turns : List PurchaseTurn) (last : PurchaseQueue)
      (past : List PurchaseQueue), start.WithinOrder → start.AtRest → last.pending = [] →
      purchaseThreads.scheduled.Log (Threads.Turn.Allowed purchaseThreads) ⟨start, []⟩ turns
        (last :: past) →
      PurchaseSound turns (last :: past) := by
  intro hall
  have hsound := hall _ _ _ _ Sample.soapOrdered_within Sample.soapOrdered_atRest
    (isEmpty_iff.1 (by decide +kernel))
    (Sample.deliveryRun_log Sample.doubledDelivery (Sample.deliveryTurns_allowed _ _))
  have hreceipts := (hsound.within _ (mem_cons_self ..)).receipts
  exact absurd hreceipts (by decide +kernel)

end SafariLaundry
