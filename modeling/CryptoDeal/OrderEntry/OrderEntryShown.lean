import CryptoDeal.OrderEntry.CatalogLoads
import CryptoDeal.OrderEntry.OrderEntryRun

/-!
# What the handlers of the order form leave behind

Each handler refreshes a part of the form from what is selected and what the
catalogs hold of it: the selectors and labels of the pairs, the part of the
selected symbol, the balances, and the page of the operation.
-/

namespace CryptoDeal.OrderEntry

open DealService DecimalConverter DecimalText OrderSession

namespace Selector

theorem mem_add_missing {selector : Selector} {text other : String} :
    other ∈ (selector.addMissing text).items ↔ other ∈ selector.items ∨ other = text := by
  unfold addMissing
  split_ifs with listed
  · constructor
    · exact .inl
    · rintro (found | rfl)
      · exact found
      · exact listed
  · simp [addItem]

theorem add_missing_nodup {selector : Selector} (distinct : selector.items.Nodup) (text : String) :
    (selector.addMissing text).items.Nodup := by
  unfold addMissing
  split_ifs with listed
  · exact distinct
  · simpa [addItem, List.nodup_append] using ⟨distinct, fun _ found same => listed (same ▸ found)⟩

theorem add_all {texts : List String} {selector : Selector} (distinct : selector.items.Nodup) :
    (texts.foldl addMissing selector).items.Nodup ∧
      ∀ text, text ∈ (texts.foldl addMissing selector).items ↔
        text ∈ selector.items ∨ text ∈ texts := by
  induction texts generalizing selector with
  | nil => simp [distinct]
  | cons first texts ih =>
      obtain ⟨nodup, members⟩ := ih (add_missing_nodup distinct first)
      refine ⟨nodup, fun text => ?_⟩
      rw [List.foldl_cons, members, mem_add_missing, List.mem_cons, or_assoc]

theorem mem_offering {texts : List String} {text : String} :
    text ∈ (offering texts).items ↔ text ∈ texts := by
  simpa [offering] using (@add_all texts {} List.nodup_nil).2 text

theorem offering_nodup (texts : List String) : (offering texts).items.Nodup :=
  (@add_all texts {} List.nodup_nil).1

theorem prefer_text_mem {selector : Selector} {preferred : String} (offers : selector.items ≠ []) :
    (selector.preferText preferred).currentText ∈ selector.items := by
  show (if preferred ∈ selector.items then preferred else selector.items.headD "") ∈ selector.items
  split_ifs with found
  · exact found
  · cases items : selector.items with
    | nil => exact absurd items offers
    | cons first rest => simp

/-- What was preferred is preferred again. -/
theorem prefer_text_again (selector : Selector) (preferred : String) :
    selector.preferText (selector.preferText preferred).currentText =
      selector.preferText preferred := by
  by_cases offers : selector.items = []
  · simp [preferText, offers]
  · have found : (selector.preferText preferred).currentText ∈ selector.items :=
      prefer_text_mem offers
    unfold preferText at found ⊢
    simp only [if_pos found]

theorem select_offered {selector offers : Selector} {preferred text : String}
    (chosen : selector = offers.preferText preferred) (offered : text ∈ selector.items) :
    { selector with currentText := text } = offers.preferText text := by
  subst chosen
  have found : text ∈ offers.items := offered
  simp [preferText, found]

end Selector

/-- The rules of an entry whose load succeeded. -/
def SymbolInfoEntry.rules (entry : SymbolInfoEntry) : Option SymbolInfo :=
  if entry.loadState.status = .succeeded then entry.symbolInfo else none

/-- The parts that no handler of the selected symbol writes. -/
def FormShown.frame (shown : FormShown) : FormShown :=
  { shown with
    symbolInfoStatus := {}
    retrySymbolInfoVisible := false
    tradingLimits := none
    inputsEnabled := false
    fields := {}
    formValidationErrorVisible := false }

/-- The parts that the handlers of the selected symbol write. -/
def FormShown.symbolPart (shown : FormShown) : FormShown where
  labels := OrderEntryWindow.initialLabels
  symbolInfoStatus := shown.symbolInfoStatus
  retrySymbolInfoVisible := shown.retrySymbolInfoVisible
  tradingLimits := shown.tradingLimits
  inputsEnabled := shown.inputsEnabled
  fields := shown.fields
  formValidationErrorVisible := shown.formValidationErrorVisible

/-- The parts that no handler of the selected exchange's pairs writes. -/
def FormShown.pages (shown : FormShown) : FormShown :=
  { shown.frame with
    catalogStatus := {}
    pairControlsEnabled := false
    labels := OrderEntryWindow.initialLabels }

/-- All but the pair that is selected. -/
def FormInputs.frame (inputs : FormInputs) : FormInputs :=
  { inputs with baseAsset := {}, quoteAsset := {} }

/-- Nothing is shown of a symbol's rules; a hidden error keeps its text. -/
structure FormShown.Cleared (shown : FormShown) : Prop where
  limits : shown.tradingLimits = none
  inputs : shown.inputsEnabled = false
  fields : shown.fields = { formValidationError := shown.fields.formValidationError }
  error : shown.formValidationErrorVisible = false

namespace OrderEntryWindow

/-- The entry of a symbol of the selected exchange. -/
def entry (window : OrderEntryWindow) (symbol : String) : Option SymbolInfoEntry :=
  window.catalogs.symbolInfos.find window.inputs.exchangerType symbol

/-! ## What the form reads -/

section Reads

variable {window after : OrderEntryWindow} {pair : TradablePair} {entry : SymbolInfoEntry}

theorem usable_iff :
    window.form.hasUsableSelectedCatalog = true ↔
      (window.catalogs.pairs window.inputs.exchangerType).loadState.status = .succeeded ∧
        window.pairs ≠ [] := by
  show (decide (_ = UiTaskStatus.succeeded) && !window.pairs.isEmpty) = true ↔ _
  rw [Bool.and_eq_true, decide_eq_true_iff, Bool.not_eq_true', List.isEmpty_eq_false_iff]
  rfl

theorem selected_pair_iff :
    window.form.getSelectedPair = some pair ↔
      window.form.hasUsableSelectedCatalog = true ∧
        (window.pairs.find? fun pair =>
          pair.baseAsset = window.inputs.baseAsset.currentText &&
            pair.quoteAsset = window.inputs.quoteAsset.currentText) = some pair := by
  unfold OrderEntryForm.getSelectedPair
  split_ifs with usable
  · exact (and_iff_right usable).symm
  · exact iff_of_false nofun fun chosen => usable chosen.1

/-- The rules of the selected pair, if they are loaded. -/
theorem selected_rules_eq (window : OrderEntryWindow) :
    window.form.getSelectedSymbolInfo = window.form.getSelectedPair.bind fun pair =>
      (window.entry pair.symbol).bind SymbolInfoEntry.rules := by
  unfold OrderEntryForm.getSelectedSymbolInfo
  cases window.form.getSelectedPair with
  | none => rfl
  | some pair =>
      have listed : window.form.symbolInfoCatalog.entries window.form.exchangerType pair.symbol =
          (window.entry pair.symbol).map fun entry =>
            { loadState := entry.loadState.status, symbolInfo := entry.symbolInfo } := rfl
      dsimp only
      rw [listed, Option.bind_some]
      cases window.entry pair.symbol <;> rfl

theorem selected_rules (selected : window.form.getSelectedPair = some pair)
    (found : window.entry pair.symbol = some entry) :
    window.form.getSelectedSymbolInfo = entry.rules := by
  rw [selected_rules_eq, selected, Option.bind_some, found, Option.bind_some]

theorem selected_rules_none (unselected : window.form.getSelectedPair = none) :
    window.form.getSelectedSymbolInfo = none := by
  rw [selected_rules_eq, unselected, Option.bind_none]

/-- Two moments with the same selection among the same pairs. -/
structure SameSelection (window after : OrderEntryWindow) : Prop where
  exchangerType : after.inputs.exchangerType = window.inputs.exchangerType
  baseAsset : after.inputs.baseAsset = window.inputs.baseAsset
  quoteAsset : after.inputs.quoteAsset = window.inputs.quoteAsset
  pairs : after.catalogs.pairs window.inputs.exchangerType =
    window.catalogs.pairs window.inputs.exchangerType

namespace SameSelection

theorem of_inputs (inputs : after.inputs = window.inputs)
    (pairs : after.catalogs.pairs window.inputs.exchangerType =
      window.catalogs.pairs window.inputs.exchangerType) : SameSelection window after :=
  ⟨by rw [inputs], by rw [inputs], by rw [inputs], pairs⟩

theorem catalog (same : SameSelection window after) :
    after.catalogs.pairs after.inputs.exchangerType =
      window.catalogs.pairs window.inputs.exchangerType := by
  rw [same.exchangerType, same.pairs]

theorem listed (same : SameSelection window after) : after.pairs = window.pairs :=
  congrArg PairCatalogEntry.pairs same.catalog

theorem usable (same : SameSelection window after) :
    after.form.hasUsableSelectedCatalog = window.form.hasUsableSelectedCatalog := by
  apply Bool.eq_iff_iff.2
  rw [usable_iff, usable_iff, same.listed, same.catalog]

theorem selected (same : SameSelection window after) :
    after.form.getSelectedPair = window.form.getSelectedPair := by
  apply Option.ext
  intro pair
  rw [selected_pair_iff, selected_pair_iff, same.usable, same.listed, same.baseAsset,
    same.quoteAsset]

theorem rules (same : SameSelection window after)
    (entries : ∀ pair, window.form.getSelectedPair = some pair →
      after.entry pair.symbol = window.entry pair.symbol) :
    after.form.getSelectedSymbolInfo = window.form.getSelectedSymbolInfo := by
  rw [selected_rules_eq, selected_rules_eq, same.selected]
  cases chosen : window.form.getSelectedPair with
  | none => rfl
  | some pair => rw [Option.bind_some, Option.bind_some, entries pair chosen]

end SameSelection

end Reads

/-! ## The selected symbol -/

section Symbol

variable (rounding : NearestRounding) (fromChars : String → Option Decimal)

/-- What is shown of the selected pair's rules follows their load. -/
inductive SymbolShown (window : OrderEntryWindow) : Prop
  | unselected (unselected : window.form.getSelectedPair = none)
      (status : window.shown.symbolInfoStatus =
        { text := "Select an available pair to load its trading rules." })
      (retry : window.shown.retrySymbolInfoVisible = false) (cleared : window.shown.Cleared)
  | unready {pair : TradablePair} {entry : SymbolInfoEntry}
      (selected : window.form.getSelectedPair = some pair)
      (found : window.entry pair.symbol = some entry) (unready : entry.rules = none)
      (status : window.shown.symbolInfoStatus = symbolInfoStatus pair.symbol entry)
      (retry : window.shown.retrySymbolInfoVisible = true ↔ entry.loadState.status = .failed)
      (cleared : window.shown.Cleared)
  | ready {pair : TradablePair} {entry : SymbolInfoEntry} {symbolInfo : SymbolInfo} {text : String}
      (selected : window.form.getSelectedPair = some pair)
      (found : window.entry pair.symbol = some entry) (ruled : entry.rules = some symbolInfo)
      (status : window.shown.symbolInfoStatus = symbolInfoStatus pair.symbol entry)
      (retry : window.shown.retrySymbolInfoVisible = false)
      (formatted : tradingLimitsText rounding pair symbolInfo = .ok text)
      (limits : window.shown.tradingLimits = some text)
      (enabled : window.shown.inputsEnabled = true)

/-- The fields show the validation of the current texts. -/
structure Validated (window : OrderEntryWindow) : Prop where
  fields : ∃ before, window.form.validateForm rounding fromChars before = .ok window.shown.fields
  error : window.shown.formValidationErrorVisible =
    window.inputs.shouldShowNotionalValidation window.shown.fields.formValidationError

def FieldsShown (window : OrderEntryWindow) : Prop :=
  window.form.getSelectedSymbolInfo ≠ none → Validated rounding fromChars window

variable {rounding fromChars} {window after : OrderEntryWindow} {pair : TradablePair}

/-- A handler that writes the symbol's part only. -/
structure RefreshesSymbol (window after : OrderEntryWindow) : Prop where
  inputs : after.inputs = window.inputs
  pairs : after.catalogs.pairs = window.catalogs.pairs
  balances : after.catalogs.balances = window.catalogs.balances
  frame : after.shown.frame = window.shown.frame

namespace RefreshesSymbol

theorem trans {middle : OrderEntryWindow} (first : RefreshesSymbol window middle)
    (second : RefreshesSymbol middle after) : RefreshesSymbol window after where
  inputs := second.inputs.trans first.inputs
  pairs := second.pairs.trans first.pairs
  balances := second.balances.trans first.balances
  frame := second.frame.trans first.frame

theorem same (refreshes : RefreshesSymbol window after) : SameSelection window after :=
  .of_inputs refreshes.inputs (congrFun refreshes.pairs _)

end RefreshesSymbol

theorem SymbolShown.cleared (shown : SymbolShown rounding window)
    (unruled : window.form.getSelectedSymbolInfo = none) : window.shown.Cleared := by
  cases shown with
  | unselected _ _ _ cleared => exact cleared
  | unready _ _ _ _ _ cleared => exact cleared
  | ready selected found ruled =>
      rw [selected_rules selected found, ruled] at unruled
      cases unruled

/-- `validateForm` leaves all but the fields. -/
theorem validate_form_refreshes (handled : window.validateForm rounding fromChars = .ok after) :
    RefreshesSymbol window after ∧ after.catalogs = window.catalogs := by
  obtain ⟨fields, -, returned⟩ := except_bind_ok.1 handled
  cases returned
  exact ⟨⟨rfl, rfl, rfl, rfl⟩, rfl⟩

theorem validate_form_shown (shown : SymbolShown rounding window)
    (handled : window.validateForm rounding fromChars = .ok after) :
    SymbolShown rounding after ∧ FieldsShown rounding fromChars after := by
  obtain ⟨fields, validated, returned⟩ := except_bind_ok.1 handled
  cases returned
  cases ruled : window.form.getSelectedSymbolInfo with
  | none =>
      have cleared := shown.cleared ruled
      have same : fields = window.shown.fields := by
        simp only [OrderEntryForm.validateForm, ruled] at validated
        cases validated
        rw [cleared.fields]
      subst same
      exact ⟨by simpa using shown, fun given => absurd ruled given⟩
  | some symbolInfo =>
      constructor
      · cases shown with
        | unselected unselected =>
            rw [selected_rules_none unselected] at ruled
            cases ruled
        | unready selected found unready =>
            rw [selected_rules selected found, unready] at ruled
            cases ruled
        | ready selected found ruled status retry formatted limits enabled =>
            exact .ready selected found ruled status retry formatted limits enabled
      · exact fun _ => ⟨⟨_, validated⟩, rfl⟩

theorem reset_cleared (window : OrderEntryWindow) :
    window.resetSymbolInfo.shown.Cleared ∧ RefreshesSymbol window window.resetSymbolInfo ∧
      window.resetSymbolInfo.shown.retrySymbolInfoVisible = false :=
  ⟨⟨rfl, rfl, rfl, rfl⟩, ⟨rfl, rfl, rfl, rfl⟩, rfl⟩

theorem show_symbol_info_shown {entry : SymbolInfoEntry}
    (selected : window.form.getSelectedPair = some pair)
    (found : window.entry pair.symbol = some entry) (cleared : window.shown.Cleared)
    (retry : window.shown.retrySymbolInfoVisible = false)
    (handled : window.showSymbolInfo rounding fromChars pair = .ok after) :
    SymbolShown rounding after ∧ FieldsShown rounding fromChars after ∧
      RefreshesSymbol window after ∧ after.catalogs = window.catalogs := by
  have ruled := selected_rules selected found
  unfold showSymbolInfo at handled
  have looked : window.catalogs.symbolInfos.find window.inputs.exchangerType pair.symbol =
    some entry := found
  simp only [looked] at handled
  -- an entry without rules leaves the form cleared
  have unready (unruled : entry.rules = none) (visible : Bool)
      (shows : visible = true ↔ entry.loadState.status = .failed)
      (same : after = { window with shown := { window.shown with
        symbolInfoStatus := symbolInfoStatus pair.symbol entry
        retrySymbolInfoVisible := visible } }) :
      SymbolShown rounding after ∧ FieldsShown rounding fromChars after ∧
        RefreshesSymbol window after ∧ after.catalogs = window.catalogs := by
    subst same
    refine ⟨.unready selected found unruled rfl shows
      ⟨cleared.limits, cleared.inputs, cleared.fields, cleared.error⟩, fun given => ?_,
      ⟨rfl, rfl, rfl, rfl⟩, rfl⟩
    exact absurd (ruled.trans unruled) given
  cases status : entry.loadState.status with
  | idle | loading =>
      simp only [status] at handled
      cases handled
      exact unready (by simp [SymbolInfoEntry.rules, status]) false (by simp [status])
        (by rw [← retry])
  | failed =>
      simp only [status] at handled
      cases handled
      exact unready (by simp [SymbolInfoEntry.rules, status]) true (by simp [status]) rfl
  | succeeded =>
      cases given : entry.symbolInfo with
      | none =>
          simp only [status, given] at handled
          cases handled
          exact unready (by simp [SymbolInfoEntry.rules, given]) false (by simp [status])
            (by rw [← retry])
      | some symbolInfo =>
          simp only [status, given] at handled
          obtain ⟨text, formatted, handled⟩ := except_bind_ok.1 handled
          have rules : entry.rules = some symbolInfo := by
            simp [SymbolInfoEntry.rules, status, given]
          have shown : SymbolShown rounding { window with shown := { window.shown with
              symbolInfoStatus := symbolInfoStatus pair.symbol entry
              tradingLimits := some text
              inputsEnabled := true } } :=
            .ready selected found rules rfl retry formatted rfl rfl
          obtain ⟨refreshes, same⟩ := validate_form_refreshes handled
          obtain ⟨after_shown, fields⟩ := validate_form_shown shown handled
          exact ⟨after_shown, fields, ⟨refreshes.inputs, refreshes.pairs, refreshes.balances,
            refreshes.frame⟩, same⟩

/-- While the rules are loading, only the status is written. -/
theorem show_loading {entry : SymbolInfoEntry}
    (found : window.entry pair.symbol = some entry) (loading : entry.loadState.status = .loading)
    (handled : window.showSymbolInfo rounding fromChars pair = .ok after) :
    after = { window with shown := { window.shown with
      symbolInfoStatus := symbolInfoStatus pair.symbol entry } } := by
  have looked : window.catalogs.symbolInfos.find window.inputs.exchangerType pair.symbol =
    some entry := found
  unfold showSymbolInfo at handled
  simp only [looked, loading] at handled
  cases handled
  rfl

/-- A handler that may have loaded the rules of a pair of the selected exchange. -/
def MayLoad (window after : OrderEntryWindow) : Prop :=
  after.catalogs = window.catalogs ∨ window.form.hasUsableSelectedCatalog = true ∧
    ∃ (pair : TradablePair) (started : Bool), OrderEntryCatalogs.SymbolLoad .idle window.catalogs
      window.inputs.exchangerType pair.symbol after.catalogs started

theorem update_symbol_info
    (handled : window.updateSelectedSymbolInfo rounding fromChars = .ok after) :
    SymbolShown rounding after ∧ FieldsShown rounding fromChars after ∧
      RefreshesSymbol window after ∧ MayLoad window after := by
  obtain ⟨cleared, refreshes, retry⟩ := reset_cleared window
  unfold updateSelectedSymbolInfo at handled
  cases selected : window.resetSymbolInfo.form.getSelectedPair with
  | none =>
      simp only [selected] at handled
      cases handled
      refine ⟨.unselected selected rfl rfl ⟨rfl, rfl, rfl, rfl⟩, fun given => ?_,
        ⟨rfl, rfl, rfl, rfl⟩, Or.inl rfl⟩
      exact absurd (selected_rules_none selected) given
  | some pair =>
      simp only [selected] at handled
      obtain ⟨⟨catalogs, started⟩, loaded, handled⟩ := except_bind_ok.1 handled
      have load := OrderEntryCatalogs.load_symbol_info_from loaded
      obtain ⟨pairs, balances⟩ := load.frame
      obtain ⟨entry, found, loading⟩ := load.entry
      -- the handler that a started load calls leaves the form cleared
      have nested : ∃ shown : OrderEntryWindow, shown.shown.Cleared ∧
          shown.shown.retrySymbolInfoVisible = false ∧ RefreshesSymbol window shown ∧
          shown.catalogs = catalogs ∧
          shown.showSymbolInfo rounding fromChars pair = .ok after := by
        cases started with
        | false =>
            rw [if_neg Bool.false_ne_true] at handled
            obtain ⟨shown, displayed, handled⟩ := except_bind_ok.1 handled
            cases displayed
            exact ⟨{ window.resetSymbolInfo with catalogs }, cleared, retry,
              ⟨rfl, pairs, balances, rfl⟩, rfl, handled⟩
        | true =>
            rw [if_pos rfl] at handled
            obtain ⟨shown, displayed, handled⟩ := except_bind_ok.1 handled
            have there : OrderEntryWindow.entry
                { window.resetSymbolInfo with catalogs }.resetSymbolInfo pair.symbol =
                  some entry := found
            have same := show_loading there (loading rfl) displayed
            refine ⟨shown, ?_, ?_, ?_, ?_, handled⟩
            · rw [same]
              exact ⟨rfl, rfl, rfl, rfl⟩
            · rw [same]
              rfl
            · rw [same]
              exact ⟨rfl, pairs, balances, rfl⟩
            · rw [same]
              rfl
      obtain ⟨shown, hidden, unretried, kept, same, handled⟩ := nested
      have chosen : shown.form.getSelectedPair = some pair := kept.same.selected.trans selected
      have there : shown.entry pair.symbol = some entry := by
        show shown.catalogs.symbolInfos.find shown.inputs.exchangerType _ = _
        rw [same, kept.inputs]
        exact found
      obtain ⟨afterShown, fields, refreshed, unchanged⟩ :=
        show_symbol_info_shown chosen there hidden unretried handled
      exact ⟨afterShown, fields, kept.trans refreshed,
        Or.inr ⟨(selected_pair_iff.1 selected).1, pair, started,
          (unchanged.trans same) ▸ load⟩⟩

end Symbol

/-! ## The selectors and the labels -/

/-- The selectors offer the assets of the selected exchange's pairs. -/
structure SelectorsOffer (window : OrderEntryWindow) : Prop where
  base : window.inputs.baseAsset =
    if window.form.hasUsableSelectedCatalog then
      (Selector.offering (window.pairs.map TradablePair.baseAsset)).preferText
        window.inputs.baseAsset.currentText
    else {}
  quote : window.inputs.quoteAsset =
    if window.form.hasUsableSelectedCatalog then
      (Selector.offering ((window.pairs.filter fun pair =>
        pair.baseAsset = window.inputs.baseAsset.currentText).map
          TradablePair.quoteAsset)).preferText window.inputs.quoteAsset.currentText
    else {}

structure CatalogShown (window : OrderEntryWindow) : Prop where
  status : window.shown.catalogStatus = catalogStatus window.getSelectedExchangeName
    (window.catalogs.pairs window.inputs.exchangerType)
  controls : window.shown.pairControlsEnabled = window.form.hasUsableSelectedCatalog
  labels : window.shown.labels =
    pairLabels window.inputs.baseAsset.currentText window.inputs.quoteAsset.currentText

structure BalanceShown (window : OrderEntryWindow) : Prop where
  status : window.shown.balanceStatus = balanceStatus window.getSelectedExchangeName
    (window.catalogs.balances window.inputs.exchangerType)
  retry : window.shown.retryBalanceVisible =
    decide ((window.catalogs.balances window.inputs.exchangerType).loadState.status =
      UiTaskStatus.failed)

/-- The page of the operation and the fields that it shows. -/
structure PagesShown (window : OrderEntryWindow) : Prop where
  page : window.shown.operationForm = window.inputs.operation
  limit : window.shown.placeOrderLimitFieldsVisible =
    decide (window.inputs.placeOrderType = DealService.OrderType.limit)
  stopLimit : window.shown.ocoStopLimitFieldsVisible = window.inputs.useOcoStopLimit

/-- A handler that writes the parts of the selected exchange's pairs. -/
structure RefreshesPairs (window after : OrderEntryWindow) : Prop where
  inputs : after.inputs.frame = window.inputs.frame
  pairs : after.catalogs.pairs = window.catalogs.pairs
  balances : after.catalogs.balances = window.catalogs.balances
  pages : after.shown.pages = window.shown.pages

section Labels

variable {window after : OrderEntryWindow}

theorem RefreshesSymbol.shows (refreshes : RefreshesSymbol window after) :
    RefreshesPairs window after where
  inputs := congrArg FormInputs.frame refreshes.inputs
  pairs := refreshes.pairs
  balances := refreshes.balances
  pages := (congrArg FormShown.pages refreshes.frame :)

namespace RefreshesPairs

theorem exchangerType (refreshes : RefreshesPairs window after) :
    after.inputs.exchangerType = window.inputs.exchangerType :=
  (congrArg FormInputs.exchangerType refreshes.inputs :)

theorem balance_shown (refreshes : RefreshesPairs window after) (shown : BalanceShown window) :
    BalanceShown after where
  status := by
    have status : after.shown.balanceStatus = window.shown.balanceStatus :=
      (congrArg FormShown.balanceStatus refreshes.pages :)
    rw [status, shown.status, getSelectedExchangeName, getSelectedExchangeName,
      refreshes.exchangerType, refreshes.balances]
  retry := by
    have retry : after.shown.retryBalanceVisible = window.shown.retryBalanceVisible :=
      (congrArg FormShown.retryBalanceVisible refreshes.pages :)
    rw [retry, shown.retry, refreshes.exchangerType, refreshes.balances]

theorem pages_shown (refreshes : RefreshesPairs window after) (shown : PagesShown window) :
    PagesShown after where
  page := by
    have page : after.shown.operationForm = window.shown.operationForm :=
      (congrArg FormShown.operationForm refreshes.pages :)
    have operation : after.inputs.operation = window.inputs.operation :=
      (congrArg FormInputs.operation refreshes.inputs :)
    rw [page, operation, shown.page]
  limit := by
    have visible : after.shown.placeOrderLimitFieldsVisible =
        window.shown.placeOrderLimitFieldsVisible :=
      (congrArg FormShown.placeOrderLimitFieldsVisible refreshes.pages :)
    have type : after.inputs.placeOrderType = window.inputs.placeOrderType :=
      (congrArg FormInputs.placeOrderType refreshes.inputs :)
    rw [visible, type, shown.limit]
  stopLimit := by
    have visible : after.shown.ocoStopLimitFieldsVisible =
        window.shown.ocoStopLimitFieldsVisible :=
      (congrArg FormShown.ocoStopLimitFieldsVisible refreshes.pages :)
    have checked : after.inputs.useOcoStopLimit = window.inputs.useOcoStopLimit :=
      (congrArg FormInputs.useOcoStopLimit refreshes.inputs :)
    rw [visible, checked, shown.stopLimit]

end RefreshesPairs

theorem SelectorsOffer.congr (same : SameSelection window after)
    (offered : SelectorsOffer window) : SelectorsOffer after where
  base := by rw [same.usable, same.listed, same.baseAsset, ← offered.base]
  quote := by
    rw [same.usable, same.listed, same.baseAsset, same.quoteAsset, ← offered.quote]

theorem CatalogShown.congr (refreshes : RefreshesSymbol window after)
    (shown : CatalogShown window) : CatalogShown after where
  status := by
    have status : after.shown.catalogStatus = window.shown.catalogStatus :=
      (congrArg FormShown.catalogStatus refreshes.frame :)
    rw [status, shown.status, getSelectedExchangeName, getSelectedExchangeName, refreshes.inputs,
      refreshes.pairs]
  controls := by
    have controls : after.shown.pairControlsEnabled = window.shown.pairControlsEnabled :=
      (congrArg FormShown.pairControlsEnabled refreshes.frame :)
    rw [controls, shown.controls, refreshes.same.usable]
  labels := by
    have labels : after.shown.labels = window.shown.labels :=
      (congrArg FormShown.labels refreshes.frame :)
    rw [labels, shown.labels, refreshes.inputs]

end Labels

section Refreshes

variable {rounding : NearestRounding} {fromChars : String → Option Decimal}
  {window after : OrderEntryWindow}

/-- What the handlers of the selected pair leave behind. -/
structure PairShown (rounding : NearestRounding) (fromChars : String → Option Decimal)
    (window : OrderEntryWindow) : Prop where
  selectors : SelectorsOffer window
  catalog : CatalogShown window
  symbol : SymbolShown rounding window
  fields : FieldsShown rounding fromChars window

theorem quote_assets_offered (usable : window.form.hasUsableSelectedCatalog = true)
    (offers : window.inputs.baseAsset.items ≠ []) (preferred : String) :
    (window.updateQuoteAssets preferred).inputs.quoteAsset =
      (Selector.offering ((window.pairs.filter fun pair =>
        pair.baseAsset = window.inputs.baseAsset.currentText).map
          TradablePair.quoteAsset)).preferText preferred :=
  if_neg (by simp [usable, offers])

/-- The last part of a handler that has set the selectors. -/
theorem labelled_symbol_shown (offered : SelectorsOffer window)
    (status : window.shown.catalogStatus = catalogStatus window.getSelectedExchangeName
      (window.catalogs.pairs window.inputs.exchangerType))
    (controls : window.shown.pairControlsEnabled = window.form.hasUsableSelectedCatalog)
    (handled : window.updatePairLabels.updateSelectedSymbolInfo rounding fromChars = .ok after) :
    PairShown rounding fromChars after ∧ RefreshesPairs window after ∧
      MayLoad window after := by
  obtain ⟨symbol, fields, refreshes, loads⟩ := update_symbol_info handled
  have catalog : CatalogShown window.updatePairLabels := ⟨status, controls, rfl⟩
  have selectors : SelectorsOffer window.updatePairLabels := ⟨offered.base, offered.quote⟩
  have shows := refreshes.shows
  exact ⟨⟨selectors.congr refreshes.same, catalog.congr refreshes, symbol, fields⟩,
    ⟨shows.inputs, shows.pairs, shows.balances, shows.pages⟩, loads⟩

theorem update_pair_selectors_shown
    (status : window.shown.catalogStatus = catalogStatus window.getSelectedExchangeName
      (window.catalogs.pairs window.inputs.exchangerType))
    (handled : window.updatePairSelectors rounding fromChars = .ok after) :
    PairShown rounding fromChars after ∧ RefreshesPairs window after ∧
      MayLoad window after := by
  unfold updatePairSelectors at handled
  cases usable : window.form.hasUsableSelectedCatalog with
  | false =>
      simp only [usable, if_pos] at handled
      have unusable : ¬ window.form.hasUsableSelectedCatalog = true := by simp [usable]
      have offered : SelectorsOffer { window with
          inputs := { window.inputs with baseAsset := {}, quoteAsset := {} }
          shown := { window.shown with pairControlsEnabled := false } } :=
        ⟨(if_neg unusable).symm, (if_neg unusable).symm⟩
      obtain ⟨shown, refreshes, loads⟩ := labelled_symbol_shown offered status usable.symm handled
      exact ⟨shown, ⟨refreshes.inputs, refreshes.pairs, refreshes.balances, refreshes.pages⟩, loads⟩
  | true =>
      simp only [usable, Bool.true_eq_false, if_false] at handled
      have listed : window.pairs ≠ [] := (usable_iff.1 usable).2
      let chosen := Selector.preferText (.offering (window.pairs.map TradablePair.baseAsset))
        window.inputs.baseAsset.currentText
      let based : OrderEntryWindow := { window with
        inputs := { window.inputs with baseAsset := chosen, quoteAsset := {} }
        shown := { window.shown with pairControlsEnabled := true } }
      have offers : based.inputs.baseAsset.items ≠ [] := by
        obtain ⟨pair, rest, pairs⟩ := List.exists_cons_of_ne_nil listed
        apply List.ne_nil_of_mem (a := pair.baseAsset)
        exact Selector.mem_offering.2 (by simp [pairs])
      have offered : SelectorsOffer
          (based.updateQuoteAssets window.inputs.quoteAsset.currentText) := by
        constructor
        · exact ((if_pos usable).trans (Selector.prefer_text_again _ _)).symm
        · have quoted := @quote_assets_offered based usable offers
            window.inputs.quoteAsset.currentText
          rw [quoted]
          exact ((if_pos usable).trans (Selector.prefer_text_again _ _)).symm
      obtain ⟨shown, refreshes, loads⟩ := labelled_symbol_shown offered status usable.symm handled
      exact ⟨shown, ⟨refreshes.inputs, refreshes.pairs, refreshes.balances, refreshes.pages⟩, loads⟩

theorem update_catalog_shown
    (handled : window.updateSelectedCatalog rounding fromChars = .ok after) :
    PairShown rounding fromChars after ∧ RefreshesPairs window after ∧
      MayLoad window after := by
  obtain ⟨shown, refreshes, loads⟩ := update_pair_selectors_shown rfl handled
  exact ⟨shown, ⟨refreshes.inputs, refreshes.pairs, refreshes.balances, refreshes.pages⟩, loads⟩

theorem SymbolShown.congr (same : SameSelection window after)
    (shown : after.shown.symbolPart = window.shown.symbolPart)
    (entries : ∀ pair, window.form.getSelectedPair = some pair →
      after.entry pair.symbol = window.entry pair.symbol)
    (holds : SymbolShown rounding window) : SymbolShown rounding after := by
  have status : after.shown.symbolInfoStatus = window.shown.symbolInfoStatus :=
    (congrArg FormShown.symbolInfoStatus shown :)
  have retry : after.shown.retrySymbolInfoVisible = window.shown.retrySymbolInfoVisible :=
    (congrArg FormShown.retrySymbolInfoVisible shown :)
  have limits : after.shown.tradingLimits = window.shown.tradingLimits :=
    (congrArg FormShown.tradingLimits shown :)
  have enabled : after.shown.inputsEnabled = window.shown.inputsEnabled :=
    (congrArg FormShown.inputsEnabled shown :)
  have fields : after.shown.fields = window.shown.fields := (congrArg FormShown.fields shown :)
  have error : after.shown.formValidationErrorVisible = window.shown.formValidationErrorVisible :=
    (congrArg FormShown.formValidationErrorVisible shown :)
  have hidden (cleared : window.shown.Cleared) : after.shown.Cleared :=
    ⟨limits.trans cleared.limits, enabled.trans cleared.inputs,
      by rw [fields]; exact cleared.fields, error.trans cleared.error⟩
  cases holds with
  | unselected unselected symbol retried cleared =>
      exact .unselected (same.selected.trans unselected) (status.trans symbol)
        (retry.trans retried) (hidden cleared)
  | unready selected found unready symbol retried cleared =>
      exact .unready (same.selected.trans selected) ((entries _ selected).trans found) unready
        (status.trans symbol) (by rw [retry]; exact retried) (hidden cleared)
  | ready selected found ruled symbol retried formatted text inputs =>
      exact .ready (same.selected.trans selected) ((entries _ selected).trans found) ruled
        (status.trans symbol) (retry.trans retried) formatted (limits.trans text)
        (enabled.trans inputs)

/-- The validation reads the inputs, the selected rules and whether the balances are ready. -/
theorem validate_form_congr {inputs : FormInputs} {catalogs other : OrderEntryCatalogs}
    (rules : (inputs.form other).getSelectedSymbolInfo =
      (inputs.form catalogs).getSelectedSymbolInfo)
    (ready : (inputs.form other).hasReadySelectedBalances =
      (inputs.form catalogs).hasReadySelectedBalances) (view : FormView) :
    (inputs.form other).validateForm rounding fromChars view =
      (inputs.form catalogs).validateForm rounding fromChars view := by
  unfold OrderEntryForm.validateForm
  rw [rules, ready]
  rfl

theorem FieldsShown.congr (same : SameSelection window after)
    (inputs : after.inputs = window.inputs) (shown : after.shown = window.shown)
    (entries : ∀ pair, window.form.getSelectedPair = some pair →
      after.entry pair.symbol = window.entry pair.symbol)
    (ready : after.form.hasReadySelectedBalances = window.form.hasReadySelectedBalances)
    (holds : FieldsShown rounding fromChars window) : FieldsShown rounding fromChars after := by
  intro given
  have rules := same.rules entries
  obtain ⟨⟨before, validated⟩, error⟩ := holds (rules ▸ given)
  have form : after.form = window.inputs.form after.catalogs := by
    unfold OrderEntryWindow.form
    rw [inputs]
  rw [form] at rules ready
  refine ⟨⟨before, ?_⟩, ?_⟩
  · rw [form, validate_form_congr rules ready, shown]
    exact validated
  · rw [shown, inputs]
    exact error

/-- Everything that the form shows is up to date. -/
structure Fresh (rounding : NearestRounding) (fromChars : String → Option Decimal)
    (window : OrderEntryWindow) : Prop where
  pair : PairShown rounding fromChars window
  balance : BalanceShown window
  pages : PagesShown window

theorem update_symbol_fresh (selectors : SelectorsOffer window) (catalog : CatalogShown window)
    (balance : BalanceShown window) (pages : PagesShown window)
    (handled : window.updateSelectedSymbolInfo rounding fromChars = .ok after) :
    Fresh rounding fromChars after := by
  obtain ⟨symbol, fields, refreshes, -⟩ := update_symbol_info handled
  exact ⟨⟨selectors.congr refreshes.same, catalog.congr refreshes, symbol, fields⟩,
    refreshes.shows.balance_shown balance, refreshes.shows.pages_shown pages⟩

theorem validate_form_fresh (selectors : SelectorsOffer window) (catalog : CatalogShown window)
    (symbol : SymbolShown rounding window) (balance : BalanceShown window)
    (pages : PagesShown window) (handled : window.validateForm rounding fromChars = .ok after) :
    Fresh rounding fromChars after := by
  obtain ⟨refreshes, -⟩ := validate_form_refreshes handled
  obtain ⟨shown, fields⟩ := validate_form_shown symbol handled
  exact ⟨⟨selectors.congr refreshes.same, catalog.congr refreshes, shown, fields⟩,
    refreshes.shows.balance_shown balance, refreshes.shows.pages_shown pages⟩

theorem update_balance_fresh (selectors : SelectorsOffer window) (catalog : CatalogShown window)
    (symbol : SymbolShown rounding window) (pages : PagesShown window)
    (handled : window.updateSelectedBalance rounding fromChars = .ok after) :
    Fresh rounding fromChars after ∧ after.catalogs = window.catalogs := by
  let entry := window.catalogs.balances window.inputs.exchangerType
  let labelled : OrderEntryWindow := { window with shown := { window.shown with
    balanceStatus := balanceStatus window.getSelectedExchangeName entry
    retryBalanceVisible := decide (entry.loadState.status = UiTaskStatus.failed) } }
  have validated : labelled.validateForm rounding fromChars = .ok after := handled
  refine ⟨?_, (validate_form_refreshes validated).2⟩
  refine validate_form_fresh ?_ ?_ ?_ ?_ ?_ validated
  · exact ⟨selectors.base, selectors.quote⟩
  · exact ⟨catalog.status, catalog.controls, catalog.labels⟩
  · have same : SameSelection window labelled := ⟨rfl, rfl, rfl, rfl⟩
    exact symbol.congr same rfl fun _ _ => rfl
  · exact ⟨rfl, rfl⟩
  · exact ⟨pages.page, pages.limit, pages.stopLimit⟩

section Elsewhere

variable {catalogs : OrderEntryCatalogs}

theorem CatalogShown.elsewhere (shown : CatalogShown window)
    (same : SameSelection window { window with catalogs }) :
    CatalogShown { window with catalogs } where
  status := shown.status.trans (congrArg _ same.pairs.symm)
  controls := shown.controls.trans same.usable.symm
  labels := shown.labels

theorem BalanceShown.elsewhere (shown : BalanceShown window)
    (balances : catalogs.balances window.inputs.exchangerType =
      window.catalogs.balances window.inputs.exchangerType) :
    BalanceShown { window with catalogs } where
  status := shown.status.trans (congrArg _ balances.symm)
  retry := by
    show window.shown.retryBalanceVisible =
      decide ((catalogs.balances window.inputs.exchangerType).loadState.status = _)
    rw [shown.retry, balances]

theorem PagesShown.elsewhere (shown : PagesShown window) : PagesShown { window with catalogs } :=
  ⟨shown.page, shown.limit, shown.stopLimit⟩

/-- Nothing that is shown depends on what changes elsewhere in the catalogs. -/
theorem Fresh.elsewhere (fresh : Fresh rounding fromChars window)
    (pairs : catalogs.pairs window.inputs.exchangerType =
      window.catalogs.pairs window.inputs.exchangerType)
    (balances : catalogs.balances window.inputs.exchangerType =
      window.catalogs.balances window.inputs.exchangerType)
    (entries : ∀ pair, window.form.getSelectedPair = some pair →
      catalogs.symbolInfos.find window.inputs.exchangerType pair.symbol =
        window.entry pair.symbol) : Fresh rounding fromChars { window with catalogs } := by
  have same : SameSelection window { window with catalogs } := ⟨rfl, rfl, rfl, pairs⟩
  have ready : OrderEntryForm.hasReadySelectedBalances (form { window with catalogs }) =
      window.form.hasReadySelectedBalances :=
    congrArg BalanceLoadEntry.hasSuccessfulSnapshot balances
  exact ⟨⟨fresh.pair.selectors.congr same, fresh.pair.catalog.elsewhere same,
    fresh.pair.symbol.congr same rfl entries, fresh.pair.fields.congr same rfl rfl entries ready⟩,
    fresh.balance.elsewhere balances, fresh.pages.elsewhere⟩

end Elsewhere

end Refreshes

end OrderEntryWindow

end CryptoDeal.OrderEntry
