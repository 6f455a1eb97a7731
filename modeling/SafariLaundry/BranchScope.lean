import SafariLaundry.Domain

/-!
# What a branch manager sees

One snapshot of the whole company is kept.  A manager gets the payloads projected to the rows of
one branch, with totals, counters and the traffic light from those rows.  Amounts are texts; how
they are read, added and printed is left open.
-/

namespace SafariLaundry

/-! ## Payloads -/

inductive TrafficLight
  | GREEN | YELLOW | RED
  deriving DecidableEq

inductive MonitorAlertSeverity
  | INFO | WARNING | CRITICAL
  deriving DecidableEq

inductive MonitorAlertType
  | PRE_SHIFT_OVERDUE | HIGH_DRIVER_EXPOSURE | NEW_FLOW | FLOW_UPDATED | STAGE_CHANGED
  | NEW_ANOMALY | SEVERITY_ESCALATED | SHIFT_OVERDUE | STUCK_AT_DRIVER | HANDOVER_DELAY
  | CUSTODY_DELAY | DEPOSIT_NOT_REGISTERED | DEPOSIT_AMOUNT_MISMATCH | DOUBLE_COUNT_RISK
  | OVERPAYMENT_ANOMALY | SUBSCRIPTION_LEAKAGE

inductive ShownShiftStatus
  | OPEN | CLOSED | NO_SHIFT
  deriving DecidableEq

structure MonitorAlertDto where
  type : MonitorAlertType
  severity : MonitorAlertSeverity
  driverId : Option Uuid
  driverName : Option String
  branchId : Option Uuid
  (amount message timestamp : String)
  countdownMinutes : Option ℚ
  isPrediction : Bool
  dedupKey : Option String

structure MonitorDriverExposureDto where
  driverId : Uuid
  driverName : Option String
  branchId : Option Uuid
  totalCash : String
  flowsCount : ℕ
  shiftStatus : ShownShiftStatus
  (shiftDurationHours countdownMinutes : Option ℚ)

structure MonitorLocationSummaryDto where
  (DRIVER CUSTODY BANK : String)

structure MonitorSummaryDto where
  totalCash : String
  (driversAtRisk activeAnomalies openShifts : ℕ)

structure CashMonitorLiveDto where
  timestamp : String
  lastPollAt : Option String
  lastPollAgeSeconds : Option ℤ
  realtimeStatus : TrafficLight
  activeDrivers : ℕ
  (preRisk alerts : List MonitorAlertDto)
  driversAtRisk : List MonitorDriverExposureDto
  locationSummary : MonitorLocationSummaryDto
  summary : MonitorSummaryDto
  (readOnly advisoryOnly : Bool)

inductive AlertDomain
  | FINANCIAL | COMPLIANCE
  deriving DecidableEq

inductive OperationalAlertType
  | SHIFT_COMPLIANCE_DELAY | SHIFT_OVERDUE_FINANCIAL | PRE_SHIFT_OVERDUE | HIGH_DRIVER_EXPOSURE
  | STUCK_AT_DRIVER | HANDOVER_DELAY | CUSTODY_DELAY | DEPOSIT_NOT_REGISTERED
  | DEPOSIT_AMOUNT_MISMATCH | OVERPAYMENT_ANOMALY | DOUBLE_COUNT_RISK

inductive OperationalDriverStatus
  | ACTIVE | AT_RISK | EXPOSURE_ONLY | STALE

structure ActiveDriverDto where
  driverId : Uuid
  driverName : Option String
  branchId : Option Uuid
  ordersTodayCount : ℕ
  (collectedCashToday totalCash : String)
  lastCashActivityDate : Option String
  shiftStatus : ShownShiftStatus
  (shiftDurationHours countdownMinutes : Option ℚ)
  status : OperationalDriverStatus

structure OperationalAlertDto where
  type : OperationalAlertType
  domain : AlertDomain
  severity : MonitorAlertSeverity
  driverId : Option Uuid
  driverName : Option String
  branchId : Option Uuid
  (amount message timestamp : String)
  countdownMinutes : Option ℚ
  isPrediction : Bool
  originalType : Option String

structure OperationalHiddenDto where
  (staleDriversCount excludedAlertCount : ℕ)
  note : String

structure OperationalSummaryDto where
  totalDriversShown : ℕ
  totalCash : String
  (driversAtRisk activeAlerts : ℕ)

structure OperationalLiveDto where
  timestamp : String
  realtimeStatus : TrafficLight
  (activeDrivers driversAtRisk : List ActiveDriverDto)
  alerts : List OperationalAlertDto
  hidden : OperationalHiddenDto
  summary : OperationalSummaryDto
  (readOnly advisoryOnly : Bool)

inductive DecisionUrgency
  | HIGH | MEDIUM | LOW

inductive DecisionActionVerb
  | CONTACT_DRIVER_IMMEDIATELY | CLOSE_SHIFT | ALERT_DRIVER_BEFORE_OVERDUE
  | REQUEST_PARTIAL_HANDOVER | ESCALATE_TO_BRANCH_MANAGER | ESCALATE_TO_ACCOUNTANT
  | MANUAL_RECONCILIATION_REQUIRED | INVESTIGATE_DOUBLE_COUNT | REVIEW_SUBSCRIPTION_BILLING
  | NO_ACTION

structure DecisionActionDto where
  driverId : Option Uuid
  driverName : Option String
  branchId : Option Uuid
  alertType : String
  domain : AlertDomain
  amount : String
  action : DecisionActionVerb
  reason : String
  urgency : DecisionUrgency
  recommendedSteps : List String
  timestamp : String

structure DecisionTopRiskDto where
  driverId : Option Uuid
  driverName : Option String
  branchId : Option Uuid
  (amount issue : String)
  action : DecisionActionVerb
  urgency : DecisionUrgency
  recommendedSteps : List String
  alertType : String

structure DecisionSummaryDto where
  (critical warning info totalActions : ℕ)

structure CashDecisionsResponseDto where
  timestamp : String
  realtimeStatus : TrafficLight
  topRisk : Option DecisionTopRiskDto
  actions : List DecisionActionDto
  summary : DecisionSummaryDto
  (readOnly advisoryOnly : Bool)

inductive RiskDriverStatus
  | NORMAL | WARNING | RISK | CRITICAL
  deriving DecidableEq

inductive RiskClassification
  | NEW_CASH | AGED | SHIFT_COMPLIANCE_ONLY
  deriving DecidableEq

inductive CashV2AnomalyType
  | SHIFT_OVERDUE | STUCK_AT_DRIVER | HANDOVER_DELAY | CUSTODY_DELAY | DEPOSIT_NOT_REGISTERED
  | DEPOSIT_AMOUNT_MISMATCH | DOUBLE_COUNT_RISK | OVERPAYMENT_ANOMALY | SUBSCRIPTION_LEAKAGE
  deriving DecidableEq

inductive CashV2Responsible
  | DRIVER | BRANCH_MANAGER | ACCOUNTANT | SYSTEM

structure CashRiskBreakdownDto where
  amount : String
  (ageDays ageHours score : ℚ)
  classification : RiskClassification
  stage : String

structure CashRiskDriverDto where
  driverId : Uuid
  driverName : Option String
  branchId : Option Uuid
  totalCash : String
  driverScore : ℚ
  status : RiskDriverStatus
  breakdown : List CashRiskBreakdownDto
  lateCountLast7Days : ℕ
  behaviorMultiplier : ℚ
  shiftDurationHours : Option ℚ
  shiftComplianceOnly : Bool
  action : String
  responsible : Option CashV2Responsible

structure CashRiskAnomalyDto where
  type : CashV2AnomalyType
  driverId : Uuid
  driverName : Option String
  branchId : Option Uuid
  amount : String
  (ageDays ageHours : ℚ)
  responsible : CashV2Responsible
  reason : String

structure CashRiskSummaryDto where
  totalCash : String
  (totalDrivers driversAtRisk : ℕ)
  (agedCash newCash : String)

structure CashRiskSeverityBands where
  (warning risk critical : ℚ)

structure CashRiskAmountTiers where
  (small large : ℚ)

/-- The thresholds in use, and when the report was made. -/
structure CashRiskExecutionExplanationDto where
  gracePeriodHours : ℚ
  severityBands : CashRiskSeverityBands
  amountTiers : CashRiskAmountTiers
  shiftOverdueCapHours : ℚ
  generatedAt : String

structure CashRiskResponseDto where
  systemStatus : TrafficLight
  summary : CashRiskSummaryDto
  drivers : List CashRiskDriverDto
  anomalies : List CashRiskAnomalyDto
  executionSummary : CashRiskExecutionExplanationDto
  (readOnly advisoryOnly : Bool)

inductive ClassifiedDriverStatus
  | NORMAL | COMPLIANCE_ONLY | AT_RISK
  deriving DecidableEq

structure ClassifiedAlertDto where
  domain : AlertDomain
  type : String
  severity : MonitorAlertSeverity
  driverId : Option Uuid
  driverName : Option String
  branchId : Option Uuid
  amount : String
  cashAgeHours : ℚ
  reason : String
  originalType : Option String

structure ClassifiedDriverDto where
  driverId : Uuid
  driverName : Option String
  branchId : Option Uuid
  holderRole : Option SafariRole
  status : ClassifiedDriverStatus
  cashAgeHours : ℚ
  amount : String
  shiftDurationHours : Option ℚ
  note : String

structure ClassifiedRulesDto where
  gracePeriodHours : ℚ
  smallAmountFloorKd : String
  (financialChainTypes complianceTypes : List String)
  shiftFinancialSeverityCap : MonitorAlertSeverity
  generatedAt : String

structure CashClassifiedResponseDto where
  systemStatus : TrafficLight
  (financialAlerts complianceAlerts : List ClassifiedAlertDto)
  drivers : List ClassifiedDriverDto
  (totalCashKd finalDecision : String)
  rules : ClassifiedRulesDto
  (readOnly advisoryOnly : Bool)

structure CashExplainBreakdownEntryDto where
  (date amount : String)
  count : ℕ

structure CashExplainDriverDto where
  driverId : Uuid
  driverName : Option String
  branchId : Option Uuid
  totalCash : String
  oldestCashAgeHours : ℚ
  oldestOriginDate : Option String
  flowCount : ℕ
  breakdown : List CashExplainBreakdownEntryDto

structure CashExplainResponseDto where
  generatedAt : String
  totalDrivers : ℕ
  totalCash : String
  drivers : List CashExplainDriverDto
  (readOnly advisoryOnly : Bool)

/-- Numbers as the language has them: a text is read as a finite one or not. -/
structure KdNumbers where
  Num : Type
  zero : Num
  add : Num → Num → Num
  (number parseFloat : String → Option Num)
  toFixed4 : Num → String

abbrev DriverAmountMap := Uuid → Option String

/-- Of several rows of a driver the last one counts. -/
def buildDriverAmountMap (drivers : List ClassifiedDriverDto) : DriverAmountMap :=
  drivers.foldl (fun amounts driver =>
    Function.update amounts driver.driverId (some driver.amount)) fun _ => none

def getDriverAmountStr (amounts : DriverAmountMap) (driverId : Uuid) : String :=
  (amounts driverId).getD "0.0000"

namespace KdNumbers

variable (num : KdNumbers)

def sum (parse : String → Option num.Num) (texts : List String) : num.Num :=
  texts.foldl (fun total text =>
    match parse text with
    | some n => num.add total n
    | none => total) num.zero

def sumClassifiedKdLabel (drivers : List ClassifiedDriverDto) : String :=
  num.toFixed4 (num.sum num.number (drivers.map ClassifiedDriverDto.amount))

def parseAmount (text : String) : num.Num := (num.number text).getD num.zero

def splitByAge (drivers : List CashRiskDriverDto) : num.Num × num.Num :=
  (drivers.flatMap CashRiskDriverDto.breakdown).foldl (fun split row =>
    if row.classification = .AGED then (num.add split.1 (num.parseAmount row.amount), split.2)
    else (split.1, num.add split.2 (num.parseAmount row.amount))) (num.zero, num.zero)

end KdNumbers

/-! ## Projections -/

def branchRows {Row : Type} (branchOf : Row → Option Uuid) (branchId : Uuid) (rows : List Row) :
    List Row :=
  rows.filter fun row => branchOf row = some branchId

def classifiedStatus (financialAlerts : List ClassifiedAlertDto) : TrafficLight :=
  if financialAlerts.any fun alert => alert.severity = .CRITICAL then .RED
  else if financialAlerts.any fun alert => alert.severity = .WARNING then .YELLOW
  else .GREEN

section Scopes

variable (num : KdNumbers)

/-- `finalDecision` stays the one of the whole company. -/
def scopeClassifiedByBranch (res : CashClassifiedResponseDto) (branchId : Uuid) :
    CashClassifiedResponseDto :=
  let financialAlerts := branchRows ClassifiedAlertDto.branchId branchId res.financialAlerts
  let drivers := branchRows ClassifiedDriverDto.branchId branchId res.drivers
  { res with
    systemStatus := classifiedStatus financialAlerts
    financialAlerts := financialAlerts
    complianceAlerts := branchRows ClassifiedAlertDto.branchId branchId res.complianceAlerts
    drivers := drivers
    totalCashKd := num.toFixed4 (num.sum num.parseFloat (drivers.map ClassifiedDriverDto.amount)) }

def MonitorDriverExposureDto.withCash (amounts : DriverAmountMap)
    (driver : MonitorDriverExposureDto) : MonitorDriverExposureDto :=
  { driver with totalCash := getDriverAmountStr amounts driver.driverId }

/-- `locationSummary` stays the one of the whole company. -/
def scopeLiveByBranch (live : CashMonitorLiveDto) (branchId : Uuid)
    (scopedClassified : CashClassifiedResponseDto) : CashMonitorLiveDto :=
  let alerts := branchRows MonitorAlertDto.branchId branchId live.alerts
  let driversAtRisk :=
    (branchRows MonitorDriverExposureDto.branchId branchId live.driversAtRisk).map
      (MonitorDriverExposureDto.withCash (buildDriverAmountMap scopedClassified.drivers))
  { live with
    alerts := alerts
    preRisk := branchRows MonitorAlertDto.branchId branchId live.preRisk
    driversAtRisk := driversAtRisk
    activeDrivers := driversAtRisk.length
    realtimeStatus := scopedClassified.systemStatus
    summary := {
      totalCash := num.sumClassifiedKdLabel scopedClassified.drivers
      driversAtRisk := driversAtRisk.length
      activeAnomalies := alerts.length
      openShifts := (driversAtRisk.filter fun driver => driver.shiftStatus = .OPEN).length } }

/-- `rebrand`. -/
def ActiveDriverDto.withCash (amounts : DriverAmountMap) (driver : ActiveDriverDto) :
    ActiveDriverDto :=
  { driver with totalCash := getDriverAmountStr amounts driver.driverId }

/-- `hidden` is handed on untouched. -/
def scopeOperationalByBranch (view : OperationalLiveDto) (branchId : Uuid)
    (scopedClassified : CashClassifiedResponseDto) : OperationalLiveDto :=
  let amounts := buildDriverAmountMap scopedClassified.drivers
  let allDrivers := (branchRows ActiveDriverDto.branchId branchId view.activeDrivers).map
    (ActiveDriverDto.withCash amounts)
  let driversAtRisk := (branchRows ActiveDriverDto.branchId branchId view.driversAtRisk).map
    (ActiveDriverDto.withCash amounts)
  let alerts := branchRows OperationalAlertDto.branchId branchId view.alerts
  { view with
    activeDrivers := allDrivers
    driversAtRisk := driversAtRisk
    alerts := alerts
    summary := {
      totalDriversShown := allDrivers.length
      driversAtRisk := driversAtRisk.length
      activeAlerts := alerts.length
      totalCash := num.sumClassifiedKdLabel scopedClassified.drivers }
    realtimeStatus := scopedClassified.systemStatus }

def pickTopAction : List DecisionActionDto → Option DecisionTopRiskDto
  | [] => none
  | top :: _ => some {
      driverId := top.driverId
      driverName := top.driverName
      branchId := top.branchId
      amount := top.amount
      issue := top.reason
      action := top.action
      urgency := top.urgency
      recommendedSteps := top.recommendedSteps
      alertType := top.alertType }

def countByUrgency (actions : List DecisionActionDto) : ℕ × ℕ × ℕ :=
  actions.foldl (fun (critical, warning, info) action =>
    match action.urgency with
    | .HIGH => (critical + 1, warning, info)
    | .MEDIUM => (critical, warning + 1, info)
    | .LOW => (critical, warning, info + 1)) (0, 0, 0)

def trafficLightFromUrgency (critical warning : ℕ) (fallback : TrafficLight) : TrafficLight :=
  if 0 < critical then .RED
  else if 0 < warning then .YELLOW
  else if critical = 0 ∧ warning = 0 then .GREEN
  else fallback

def CashDecisionsResponseDto.ownTopRisk (res : CashDecisionsResponseDto) (branchId : Uuid) :
    Option DecisionTopRiskDto :=
  res.topRisk.filter fun top => top.branchId = some branchId

def scopeDecisionsByBranch (res : CashDecisionsResponseDto) (branchId : Uuid) :
    CashDecisionsResponseDto :=
  let actions := branchRows DecisionActionDto.branchId branchId res.actions
  let financialOnly := actions.filter fun action => action.domain = .FINANCIAL
  let (critical, warning, info) := countByUrgency actions
  { res with
    actions := actions
    topRisk := (res.ownTopRisk branchId).or (pickTopAction financialOnly)
    summary := {
      critical := critical
      warning := warning
      info := info
      totalActions := actions.length }
    realtimeStatus := trafficLightFromUrgency critical warning res.realtimeStatus }

def CashRiskDriverDto.withCash (amounts : DriverAmountMap) (driver : CashRiskDriverDto) :
    CashRiskDriverDto :=
  { driver with totalCash := getDriverAmountStr amounts driver.driverId }

def scopeRiskByBranch (res : CashRiskResponseDto) (branchId : Uuid)
    (scopedClassified : CashClassifiedResponseDto) : CashRiskResponseDto :=
  let drivers := (branchRows CashRiskDriverDto.branchId branchId res.drivers).map
    (CashRiskDriverDto.withCash (buildDriverAmountMap scopedClassified.drivers))
  let (agedKd, newKd) := num.splitByAge drivers
  { res with
    systemStatus := scopedClassified.systemStatus
    summary := {
      totalCash := num.sumClassifiedKdLabel scopedClassified.drivers
      totalDrivers := drivers.length
      driversAtRisk := (drivers.filter fun driver =>
        driver.status = .RISK ∨ driver.status = .CRITICAL).length
      agedCash := num.toFixed4 agedKd
      newCash := num.toFixed4 newKd }
    drivers := drivers
    anomalies := branchRows CashRiskAnomalyDto.branchId branchId res.anomalies }

def CashExplainDriverDto.withCash (amounts : DriverAmountMap) (driver : CashExplainDriverDto) :
    CashExplainDriverDto :=
  { driver with totalCash := getDriverAmountStr amounts driver.driverId }

def scopeExplainByBranch (res : CashExplainResponseDto) (branchId : Uuid)
    (scopedClassified : CashClassifiedResponseDto) : CashExplainResponseDto :=
  let drivers := (branchRows CashExplainDriverDto.branchId branchId res.drivers).map
    (CashExplainDriverDto.withCash (buildDriverAmountMap scopedClassified.drivers))
  { res with
    totalDrivers := drivers.length
    totalCash := num.sumClassifiedKdLabel scopedClassified.drivers
    drivers := drivers }

end Scopes

structure CompanySnapshot where
  live : CashMonitorLiveDto
  operational : OperationalLiveDto
  decisions : CashDecisionsResponseDto
  risk : CashRiskResponseDto
  classified : CashClassifiedResponseDto
  explain : CashExplainResponseDto

def CompanySnapshot.scope (num : KdNumbers) (branchId : Uuid) (snapshot : CompanySnapshot) :
    CompanySnapshot :=
  let scopedClassified := scopeClassifiedByBranch num snapshot.classified branchId
  { live := scopeLiveByBranch num snapshot.live branchId scopedClassified
    operational := scopeOperationalByBranch num snapshot.operational branchId scopedClassified
    decisions := scopeDecisionsByBranch snapshot.decisions branchId
    risk := scopeRiskByBranch num snapshot.risk branchId scopedClassified
    classified := scopedClassified
    explain := scopeExplainByBranch num snapshot.explain branchId scopedClassified }

section Rows

variable {Row : Type} (branchOf : Row → Option Uuid) (branchId : Uuid)

@[simp] theorem branchRows_branchRows (rows : List Row) :
    branchRows branchOf branchId (branchRows branchOf branchId rows) =
      branchRows branchOf branchId rows := by
  simp [branchRows, List.filter_filter]

variable {branchOf} {f : Row → Row}

theorem branchRows_map (hbranch : ∀ row, branchOf (f row) = branchOf row) (rows : List Row) :
    branchRows branchOf branchId (rows.map f) = (branchRows branchOf branchId rows).map f := by
  unfold branchRows
  rw [List.filter_map]
  simp only [Function.comp_def, hbranch]

theorem branchRows_map_idem (hbranch : ∀ row, branchOf (f row) = branchOf row)
    (hidem : ∀ row, f (f row) = f row) (rows : List Row) :
    (branchRows branchOf branchId ((branchRows branchOf branchId rows).map f)).map f =
      (branchRows branchOf branchId rows).map f := by
  rw [branchRows_map branchId hbranch, branchRows_branchRows, List.map_map]
  exact List.map_congr_left fun row _ => hidem row

end Rows

theorem trafficLightFromUrgency_fallback (critical warning : ℕ) (fallback fallback' : TrafficLight) :
    trafficLightFromUrgency critical warning fallback =
      trafficLightFromUrgency critical warning fallback' := by
  unfold trafficLightFromUrgency
  split_ifs with hcritical hwarning hzero
  · rfl
  · rfl
  · rfl
  · omega

theorem pickTopAction_branchId {branchId : Uuid} {actions : List DecisionActionDto}
    (hactions : ∀ action ∈ actions, action.branchId = some branchId) :
    ∀ top ∈ pickTopAction actions, top.branchId = some branchId := by
  cases actions with
  | nil => intro top htop; cases htop
  | cons action rest =>
      intro top htop
      obtain rfl := Option.some.inj htop
      exact hactions action (List.mem_cons_self ..)

section Idempotence

variable (num : KdNumbers) (branchId : Uuid)

theorem scopeClassifiedByBranch_idem (res : CashClassifiedResponseDto) :
    scopeClassifiedByBranch num (scopeClassifiedByBranch num res branchId) branchId =
      scopeClassifiedByBranch num res branchId := by
  simp [scopeClassifiedByBranch]

variable (scopedClassified : CashClassifiedResponseDto)

theorem scopeLiveByBranch_idem (live : CashMonitorLiveDto) :
    scopeLiveByBranch num (scopeLiveByBranch num live branchId scopedClassified) branchId
        scopedClassified =
      scopeLiveByBranch num live branchId scopedClassified := by
  have hdrivers := @branchRows_map_idem _ MonitorDriverExposureDto.branchId branchId
    (MonitorDriverExposureDto.withCash (buildDriverAmountMap scopedClassified.drivers))
    (fun _ => rfl) (fun _ => rfl) live.driversAtRisk
  simp only [scopeLiveByBranch, branchRows_branchRows, hdrivers]

theorem scopeOperationalByBranch_idem (view : OperationalLiveDto) :
    scopeOperationalByBranch num (scopeOperationalByBranch num view branchId scopedClassified)
        branchId scopedClassified =
      scopeOperationalByBranch num view branchId scopedClassified := by
  have hdrivers := @branchRows_map_idem _ ActiveDriverDto.branchId branchId
    (ActiveDriverDto.withCash (buildDriverAmountMap scopedClassified.drivers))
    (fun _ => rfl) (fun _ => rfl)
  simp only [scopeOperationalByBranch, branchRows_branchRows, hdrivers]

theorem scopeRiskByBranch_idem (res : CashRiskResponseDto) :
    scopeRiskByBranch num (scopeRiskByBranch num res branchId scopedClassified) branchId
        scopedClassified =
      scopeRiskByBranch num res branchId scopedClassified := by
  have hdrivers := @branchRows_map_idem _ CashRiskDriverDto.branchId branchId
    (CashRiskDriverDto.withCash (buildDriverAmountMap scopedClassified.drivers))
    (fun _ => rfl) (fun _ => rfl) res.drivers
  simp only [scopeRiskByBranch, branchRows_branchRows, hdrivers]

theorem scopeExplainByBranch_idem (res : CashExplainResponseDto) :
    scopeExplainByBranch num (scopeExplainByBranch num res branchId scopedClassified) branchId
        scopedClassified =
      scopeExplainByBranch num res branchId scopedClassified := by
  have hdrivers := @branchRows_map_idem _ CashExplainDriverDto.branchId branchId
    (CashExplainDriverDto.withCash (buildDriverAmountMap scopedClassified.drivers))
    (fun _ => rfl) (fun _ => rfl) res.drivers
  simp only [scopeExplainByBranch, hdrivers]

theorem scopedTopRisk_branchId (res : CashDecisionsResponseDto) :
    ∀ top ∈ (scopeDecisionsByBranch res branchId).topRisk, top.branchId = some branchId := by
  intro top htop
  rcases Option.or_eq_some_iff.1 htop with hown | ⟨_, hpicked⟩
  · exact of_decide_eq_true (Option.filter_eq_some_iff.1 hown).2
  · apply pickTopAction_branchId _ top hpicked
    intro action haction
    exact of_decide_eq_true (List.mem_filter.1 (List.mem_of_mem_filter haction)).2

theorem ownTopRisk_scope (res : CashDecisionsResponseDto) :
    (scopeDecisionsByBranch res branchId).ownTopRisk branchId =
      (scopeDecisionsByBranch res branchId).topRisk := by
  have hbranch := scopedTopRisk_branchId branchId res
  unfold CashDecisionsResponseDto.ownTopRisk
  cases htop : (scopeDecisionsByBranch res branchId).topRisk with
  | none => rfl
  | some top => exact Option.filter_some_pos (decide_eq_true (hbranch top htop))

theorem scopeDecisionsByBranch_idem (res : CashDecisionsResponseDto) :
    scopeDecisionsByBranch (scopeDecisionsByBranch res branchId) branchId =
      scopeDecisionsByBranch res branchId := by
  have htop := ownTopRisk_scope branchId res
  simp only [scopeDecisionsByBranch, branchRows_branchRows] at htop ⊢
  rw [htop, Option.or_assoc, Option.or_self]
  simp only [trafficLightFromUrgency_fallback _ _ _ res.realtimeStatus]

theorem CompanySnapshot.scope_idem (snapshot : CompanySnapshot) :
    (snapshot.scope num branchId).scope num branchId = snapshot.scope num branchId := by
  simp only [CompanySnapshot.scope, scopeClassifiedByBranch_idem, scopeLiveByBranch_idem,
    scopeOperationalByBranch_idem, scopeDecisionsByBranch_idem, scopeRiskByBranch_idem,
    scopeExplainByBranch_idem]

end Idempotence

/-! ## Two companies -/

section Agreement

variable (branchId : Uuid)

/-- The two payloads have the same rows of the branch, time stamps and flags. -/
structure CashMonitorLiveDto.AgreeOn (live live' : CashMonitorLiveDto) : Prop where
  alerts : branchRows MonitorAlertDto.branchId branchId live.alerts =
    branchRows MonitorAlertDto.branchId branchId live'.alerts
  preRisk : branchRows MonitorAlertDto.branchId branchId live.preRisk =
    branchRows MonitorAlertDto.branchId branchId live'.preRisk
  driversAtRisk : branchRows MonitorDriverExposureDto.branchId branchId live.driversAtRisk =
    branchRows MonitorDriverExposureDto.branchId branchId live'.driversAtRisk
  timestamp : live.timestamp = live'.timestamp
  lastPollAt : live.lastPollAt = live'.lastPollAt
  lastPollAgeSeconds : live.lastPollAgeSeconds = live'.lastPollAgeSeconds
  readOnly : live.readOnly = live'.readOnly
  advisoryOnly : live.advisoryOnly = live'.advisoryOnly

structure OperationalLiveDto.AgreeOn (view view' : OperationalLiveDto) : Prop where
  activeDrivers : branchRows ActiveDriverDto.branchId branchId view.activeDrivers =
    branchRows ActiveDriverDto.branchId branchId view'.activeDrivers
  driversAtRisk : branchRows ActiveDriverDto.branchId branchId view.driversAtRisk =
    branchRows ActiveDriverDto.branchId branchId view'.driversAtRisk
  alerts : branchRows OperationalAlertDto.branchId branchId view.alerts =
    branchRows OperationalAlertDto.branchId branchId view'.alerts
  timestamp : view.timestamp = view'.timestamp
  readOnly : view.readOnly = view'.readOnly
  advisoryOnly : view.advisoryOnly = view'.advisoryOnly

structure CashDecisionsResponseDto.AgreeOn (res res' : CashDecisionsResponseDto) : Prop where
  actions : branchRows DecisionActionDto.branchId branchId res.actions =
    branchRows DecisionActionDto.branchId branchId res'.actions
  timestamp : res.timestamp = res'.timestamp
  readOnly : res.readOnly = res'.readOnly
  advisoryOnly : res.advisoryOnly = res'.advisoryOnly

structure CashRiskResponseDto.AgreeOn (res res' : CashRiskResponseDto) : Prop where
  drivers : branchRows CashRiskDriverDto.branchId branchId res.drivers =
    branchRows CashRiskDriverDto.branchId branchId res'.drivers
  anomalies : branchRows CashRiskAnomalyDto.branchId branchId res.anomalies =
    branchRows CashRiskAnomalyDto.branchId branchId res'.anomalies
  executionSummary : res.executionSummary = res'.executionSummary
  readOnly : res.readOnly = res'.readOnly
  advisoryOnly : res.advisoryOnly = res'.advisoryOnly

structure CashClassifiedResponseDto.AgreeOn (res res' : CashClassifiedResponseDto) : Prop where
  financialAlerts : branchRows ClassifiedAlertDto.branchId branchId res.financialAlerts =
    branchRows ClassifiedAlertDto.branchId branchId res'.financialAlerts
  complianceAlerts : branchRows ClassifiedAlertDto.branchId branchId res.complianceAlerts =
    branchRows ClassifiedAlertDto.branchId branchId res'.complianceAlerts
  drivers : branchRows ClassifiedDriverDto.branchId branchId res.drivers =
    branchRows ClassifiedDriverDto.branchId branchId res'.drivers
  rules : res.rules = res'.rules
  readOnly : res.readOnly = res'.readOnly
  advisoryOnly : res.advisoryOnly = res'.advisoryOnly

structure CashExplainResponseDto.AgreeOn (res res' : CashExplainResponseDto) : Prop where
  drivers : branchRows CashExplainDriverDto.branchId branchId res.drivers =
    branchRows CashExplainDriverDto.branchId branchId res'.drivers
  generatedAt : res.generatedAt = res'.generatedAt
  readOnly : res.readOnly = res'.readOnly
  advisoryOnly : res.advisoryOnly = res'.advisoryOnly

structure CompanySnapshot.AgreeOn (snapshot snapshot' : CompanySnapshot) : Prop where
  live : snapshot.live.AgreeOn branchId snapshot'.live
  operational : snapshot.operational.AgreeOn branchId snapshot'.operational
  decisions : snapshot.decisions.AgreeOn branchId snapshot'.decisions
  risk : snapshot.risk.AgreeOn branchId snapshot'.risk
  classified : snapshot.classified.AgreeOn branchId snapshot'.classified
  explain : snapshot.explain.AgreeOn branchId snapshot'.explain

end Agreement

section Views

variable (num : KdNumbers) {branchId : Uuid}

theorem CashClassifiedResponseDto.AgreeOn.scope {res res' : CashClassifiedResponseDto}
    (hagree : res.AgreeOn branchId res') :
    { scopeClassifiedByBranch num res branchId with finalDecision := res'.finalDecision } =
      scopeClassifiedByBranch num res' branchId := by
  simp only [scopeClassifiedByBranch, hagree.financialAlerts, hagree.complianceAlerts,
    hagree.drivers, hagree.rules, hagree.readOnly, hagree.advisoryOnly]

omit num in
theorem CashDecisionsResponseDto.AgreeOn.scope {res res' : CashDecisionsResponseDto}
    (hagree : res.AgreeOn branchId res') :
    { scopeDecisionsByBranch res branchId with
      topRisk := (scopeDecisionsByBranch res' branchId).topRisk } =
      scopeDecisionsByBranch res' branchId := by
  simp only [scopeDecisionsByBranch, hagree.actions, hagree.timestamp, hagree.readOnly,
    hagree.advisoryOnly, trafficLightFromUrgency_fallback _ _ res.realtimeStatus
      res'.realtimeStatus]

omit num in
theorem CashDecisionsResponseDto.AgreeOn.scope_eq {res res' : CashDecisionsResponseDto}
    (hagree : res.AgreeOn branchId res')
    (hown : res.ownTopRisk branchId = res'.ownTopRisk branchId) :
    scopeDecisionsByBranch res branchId = scopeDecisionsByBranch res' branchId := by
  have htop : (scopeDecisionsByBranch res branchId).topRisk =
      (scopeDecisionsByBranch res' branchId).topRisk := by
    simp only [scopeDecisionsByBranch, hown, hagree.actions]
  calc
    scopeDecisionsByBranch res branchId =
        { scopeDecisionsByBranch res branchId with
          topRisk := (scopeDecisionsByBranch res' branchId).topRisk } := by rw [← htop]
    _ = scopeDecisionsByBranch res' branchId := hagree.scope

variable {scopedClassified scopedClassified' : CashClassifiedResponseDto}
  (hstatus : scopedClassified.systemStatus = scopedClassified'.systemStatus)
  (hdrivers : scopedClassified.drivers = scopedClassified'.drivers)

include hstatus hdrivers

theorem CashMonitorLiveDto.AgreeOn.scope {live live' : CashMonitorLiveDto}
    (hagree : live.AgreeOn branchId live') :
    { scopeLiveByBranch num live branchId scopedClassified with
      locationSummary := live'.locationSummary } =
      scopeLiveByBranch num live' branchId scopedClassified' := by
  simp only [scopeLiveByBranch, hstatus, hdrivers, hagree.alerts, hagree.preRisk,
    hagree.driversAtRisk, hagree.timestamp, hagree.lastPollAt, hagree.lastPollAgeSeconds,
    hagree.readOnly, hagree.advisoryOnly]

theorem OperationalLiveDto.AgreeOn.scope {view view' : OperationalLiveDto}
    (hagree : view.AgreeOn branchId view') :
    { scopeOperationalByBranch num view branchId scopedClassified with hidden := view'.hidden } =
      scopeOperationalByBranch num view' branchId scopedClassified' := by
  simp only [scopeOperationalByBranch, hstatus, hdrivers, hagree.activeDrivers,
    hagree.driversAtRisk, hagree.alerts, hagree.timestamp, hagree.readOnly, hagree.advisoryOnly]

theorem CashRiskResponseDto.AgreeOn.scope {res res' : CashRiskResponseDto}
    (hagree : res.AgreeOn branchId res') :
    scopeRiskByBranch num res branchId scopedClassified =
      scopeRiskByBranch num res' branchId scopedClassified' := by
  simp only [scopeRiskByBranch, hstatus, hdrivers, hagree.drivers, hagree.anomalies,
    hagree.executionSummary, hagree.readOnly, hagree.advisoryOnly]

omit hstatus in
theorem CashExplainResponseDto.AgreeOn.scope {res res' : CashExplainResponseDto}
    (hagree : res.AgreeOn branchId res') :
    scopeExplainByBranch num res branchId scopedClassified =
      scopeExplainByBranch num res' branchId scopedClassified' := by
  simp only [scopeExplainByBranch, hdrivers, hagree.drivers, hagree.generatedAt, hagree.readOnly,
    hagree.advisoryOnly]

end Views

/-- The views of two companies are the same up to the location summary, the final decision and the
top risk, and up to the hidden counts, which are the company's. -/
structure CompanySnapshot.ViewsAgree (num : KdNumbers) (branchId : Uuid)
    (snapshot snapshot' : CompanySnapshot) : Prop where
  live : { (snapshot.scope num branchId).live with
      locationSummary := (snapshot'.scope num branchId).live.locationSummary } =
    (snapshot'.scope num branchId).live
  operational : { (snapshot.scope num branchId).operational with
      hidden := (snapshot'.scope num branchId).operational.hidden } =
    (snapshot'.scope num branchId).operational
  hidden : (snapshot.scope num branchId).operational.hidden = snapshot.operational.hidden
  decisions : { (snapshot.scope num branchId).decisions with
      topRisk := (snapshot'.scope num branchId).decisions.topRisk } =
    (snapshot'.scope num branchId).decisions
  topRisk : snapshot.decisions.ownTopRisk branchId = snapshot'.decisions.ownTopRisk branchId →
    (snapshot.scope num branchId).decisions = (snapshot'.scope num branchId).decisions
  risk : (snapshot.scope num branchId).risk = (snapshot'.scope num branchId).risk
  classified : { (snapshot.scope num branchId).classified with
      finalDecision := (snapshot'.scope num branchId).classified.finalDecision } =
    (snapshot'.scope num branchId).classified
  explain : (snapshot.scope num branchId).explain = (snapshot'.scope num branchId).explain

/-- Two companies with the same branch show its manager the same, and scoping a scoped view
changes nothing. -/
theorem branchViews_agree (num : KdNumbers) (branchId : Uuid)
    {snapshot snapshot' : CompanySnapshot} (hagree : snapshot.AgreeOn branchId snapshot') :
    snapshot.ViewsAgree num branchId snapshot' ∧
      (snapshot.scope num branchId).scope num branchId = snapshot.scope num branchId := by
  have hstatus : (scopeClassifiedByBranch num snapshot.classified branchId).systemStatus =
      (scopeClassifiedByBranch num snapshot'.classified branchId).systemStatus :=
    congrArg classifiedStatus hagree.classified.financialAlerts
  have hdrivers : (scopeClassifiedByBranch num snapshot.classified branchId).drivers =
      (scopeClassifiedByBranch num snapshot'.classified branchId).drivers :=
    hagree.classified.drivers
  constructor
  · exact {
      live := hagree.live.scope num hstatus hdrivers
      operational := hagree.operational.scope num hstatus hdrivers
      hidden := rfl
      decisions := hagree.decisions.scope
      topRisk := hagree.decisions.scope_eq
      risk := hagree.risk.scope num hstatus hdrivers
      classified := hagree.classified.scope num
      explain := hagree.explain.scope num hdrivers }
  · exact snapshot.scope_idem num branchId

namespace Sample

def kdNumbers : KdNumbers where
  Num := ℕ
  zero := 0
  add := (· + ·)
  number := fun text => some ((text.toList.filter Char.isDigit).foldl
    (fun n digit => 10 * n + (digit.toNat - '0'.toNat)) 0)
  parseFloat := fun text => some ((text.toList.filter Char.isDigit).foldl
    (fun n digit => 10 * n + (digit.toNat - '0'.toNat)) 0)
  toFixed4 := fun n => toString (n / 10000) ++ "." ++
    (String.ofList ((toString (n % 10000)).toList.leftpad 4 '0'))

def classifiedDriver (driverId branchId : Uuid) (amount : String) : ClassifiedDriverDto where
  driverId := driverId
  driverName := none
  branchId := some branchId
  holderRole := some .DRIVER
  status := .NORMAL
  cashAgeHours := 2
  amount := amount
  shiftDurationHours := some 3
  note := ""

def exposure (driverId branchId : Uuid) (amount : String) : MonitorDriverExposureDto :=
  ⟨driverId, none, some branchId, amount, 1, .OPEN, some 3, some 60⟩

def activeDriver (driverId branchId : Uuid) (amount : String) : ActiveDriverDto :=
  ⟨driverId, none, some branchId, 2, amount, amount, none, .OPEN, some 3, some 60, .ACTIVE⟩

def handoverAction (driverId branchId : Uuid) (amount : String) : DecisionActionDto :=
  ⟨some driverId, none, some branchId, "HANDOVER_DELAY", .FINANCIAL, amount,
    .REQUEST_PARTIAL_HANDOVER, "Handover delayed", .MEDIUM, [], "2026-05-01T10:00:00.000Z"⟩

def riskDriver (driverId branchId : Uuid) (amount : String) : CashRiskDriverDto :=
  ⟨driverId, none, some branchId, amount, 10, .RISK, [⟨amount, 2, 48, 10, .AGED, "DRIVER"⟩], 0, 1,
    some 3, false, "", some .DRIVER⟩

def delayedHandover (driverId branchId : Uuid) (amount : String) : ClassifiedAlertDto :=
  ⟨.FINANCIAL, "HANDOVER_DELAY", .WARNING, some driverId, none, some branchId, amount, 48,
    "Handover delayed", none⟩

def explainDriver (driverId branchId : Uuid) (amount : String) : CashExplainDriverDto :=
  ⟨driverId, none, some branchId, amount, 48, some "2026-04-29", 1, [⟨"2026-04-29", amount, 1⟩]⟩

def company (southCash : String) (total : String) (stale : ℕ) : CompanySnapshot where
  live := {
    timestamp := "2026-05-01T10:00:00.000Z"
    lastPollAt := some "2026-05-01T09:59:30.000Z"
    lastPollAgeSeconds := some 30
    realtimeStatus := .GREEN
    activeDrivers := 2
    preRisk := []
    alerts := []
    driversAtRisk := [exposure "driver" "north" "12.5000", exposure "other" "south" southCash]
    locationSummary := ⟨total, "0.0000", "0.0000"⟩
    summary := ⟨total, 0, 0, 2⟩
    readOnly := true
    advisoryOnly := true }
  operational := {
    timestamp := "2026-05-01T10:00:00.000Z"
    realtimeStatus := .GREEN
    activeDrivers := [activeDriver "driver" "north" "12.5000", activeDriver "other" "south" southCash]
    driversAtRisk := []
    alerts := []
    hidden := ⟨stale, 0, "Hidden inactive shifts with no financial impact"⟩
    summary := ⟨0, total, 0, 0⟩
    readOnly := true
    advisoryOnly := true }
  decisions := {
    timestamp := "2026-05-01T10:00:00.000Z"
    realtimeStatus := .GREEN
    topRisk := none
    actions := [handoverAction "driver" "north" "12.5000", handoverAction "other" "south" southCash]
    summary := ⟨0, 0, 0, 0⟩
    readOnly := true
    advisoryOnly := true }
  risk := {
    systemStatus := .GREEN
    summary := ⟨total, 0, 0, "0.0000", "0.0000"⟩
    drivers := [riskDriver "driver" "north" "12.5000", riskDriver "other" "south" southCash]
    anomalies := []
    executionSummary := ⟨24, ⟨50, 150, 300⟩, ⟨5, 100⟩, 16, "2026-05-01T10:00:00.000Z"⟩
    readOnly := true
    advisoryOnly := true }
  classified := {
    systemStatus := .GREEN
    financialAlerts := [delayedHandover "driver" "north" "12.5000",
      delayedHandover "other" "south" southCash]
    complianceAlerts := []
    drivers := [classifiedDriver "driver" "north" "12.5000",
      classifiedDriver "other" "south" southCash]
    totalCashKd := total
    finalDecision := ""
    rules := ⟨24, "5.0000", [], [], .WARNING, "2026-05-01T10:00:00.000Z"⟩
    readOnly := true
    advisoryOnly := true }
  explain := {
    generatedAt := "2026-05-01T10:00:00.000Z"
    totalDrivers := 0
    totalCash := total
    drivers := [explainDriver "driver" "north" "12.5000", explainDriver "other" "south" southCash]
    readOnly := true
    advisoryOnly := true }

theorem companies_agree (southCash total southCash' total' : String) (stale stale' : ℕ) :
    (company southCash total stale).AgreeOn "north" (company southCash' total' stale') where
  live := ⟨rfl, rfl, rfl, rfl, rfl, rfl, rfl, rfl⟩
  operational := ⟨rfl, rfl, rfl, rfl, rfl, rfl⟩
  decisions := ⟨rfl, rfl, rfl, rfl⟩
  risk := ⟨rfl, rfl, rfl, rfl, rfl⟩
  classified := ⟨rfl, rfl, by simp [company, branchRows, classifiedDriver], rfl, rfl, rfl⟩
  explain := ⟨rfl, rfl, rfl, rfl⟩

end Sample

theorem branchViews_agree_sample :
    (Sample.company "0.0000" "12.5000" 0).ViewsAgree Sample.kdNumbers "north"
        (Sample.company "7.0000" "19.5000" 1) ∧
      ((Sample.company "0.0000" "12.5000" 0).scope Sample.kdNumbers "north").scope
          Sample.kdNumbers "north" =
        (Sample.company "0.0000" "12.5000" 0).scope Sample.kdNumbers "north" :=
  branchViews_agree Sample.kdNumbers "north" (Sample.companies_agree ..)

theorem branchViews_agree_fails :
    ¬ ∀ (num : KdNumbers) (branchId : Uuid) (snapshot snapshot' : CompanySnapshot),
      snapshot.AgreeOn branchId snapshot' →
        snapshot.scope num branchId = snapshot'.scope num branchId ∧
        (snapshot.scope num branchId).scope num branchId = snapshot.scope num branchId := by
  intro hall
  have hequal := (hall Sample.kdNumbers "north" _ _
    (Sample.companies_agree "0.0000" "12.5000" "7.0000" "19.5000" 0 1)).1
  have hstale : 0 = 1 :=
    congrArg (fun view => view.operational.hidden.staleDriversCount) hequal
  exact absurd hstale Nat.zero_ne_one

end SafariLaundry
