import CryptoDeal.OrderEntry.OrderEntryShown

/-!
# The order form is up to date

Between two events every part of the form shows the current state, so the proceed
button is enabled exactly for a form that makes a draft.
-/

namespace CryptoDeal.OrderEntry

open DealService DecimalConverter DecimalText OrderSession OrderInputValidation

namespace OrderEntryWindow

section Refreshes

variable {rounding : NearestRounding} {fromChars : String → Option Decimal}
  {window after : OrderEntryWindow}

/-! ## Steps -/

theorem update_catalog_fresh (balance : BalanceShown window) (pages : PagesShown window)
    (handled : window.updateSelectedCatalog rounding fromChars = .ok after) :
    Fresh rounding fromChars after := by
  obtain ⟨shown, refreshes, -⟩ := update_catalog_shown handled
  exact ⟨shown, refreshes.balance_shown balance, refreshes.pages_shown pages⟩

section CatalogChange

variable {catalogs : OrderEntryCatalogs} {exchangerType : ExchangerType}

theorem pair_change_fresh (fresh : Fresh rounding fromChars window)
    (handled : pairCatalogChanged rounding fromChars exchangerType { window with catalogs } =
      .ok after)
    (balances : catalogs.balances = window.catalogs.balances)
    (others : ∀ other, other ≠ exchangerType → catalogs.pairs other = window.catalogs.pairs other)
    (symbols : catalogs.symbolInfos = window.catalogs.symbolInfos) :
    Fresh rounding fromChars after := by
  unfold pairCatalogChanged at handled
  split_ifs at handled with selected
  · refine update_catalog_fresh ?_ ?_ handled
    · exact fresh.balance.elsewhere (congrFun balances _)
    · exact fresh.pages.elsewhere
  · cases handled
    refine fresh.elsewhere (others _ (Ne.symm selected)) (congrFun balances _) fun pair _ => ?_
    rw [symbols]
    rfl

theorem balance_change_fresh (fresh : Fresh rounding fromChars window)
    (handled : balanceLoadChanged rounding fromChars exchangerType { window with catalogs } =
      .ok after)
    (pairs : catalogs.pairs = window.catalogs.pairs)
    (others : ∀ other, other ≠ exchangerType →
      catalogs.balances other = window.catalogs.balances other)
    (symbols : catalogs.symbolInfos = window.catalogs.symbolInfos) :
    Fresh rounding fromChars after := by
  have same : SameSelection window { window with catalogs } :=
    ⟨rfl, rfl, rfl, congrFun pairs _⟩
  have entries : ∀ pair, window.form.getSelectedPair = some pair →
      catalogs.symbolInfos.find window.inputs.exchangerType pair.symbol =
        window.entry pair.symbol := by
    intro pair _
    rw [symbols]
    rfl
  unfold balanceLoadChanged at handled
  split_ifs at handled with selected
  · exact (update_balance_fresh (fresh.pair.selectors.congr same)
      (fresh.pair.catalog.elsewhere same) (fresh.pair.symbol.congr same rfl entries)
      fresh.pages.elsewhere handled).1
  · cases handled
    exact fresh.elsewhere same.pairs (others _ (Ne.symm selected)) entries

theorem symbol_change_fresh {symbol : String} (fresh : Fresh rounding fromChars window)
    (handled : symbolInfoChanged rounding fromChars exchangerType symbol { window with catalogs } =
      .ok after)
    (pairs : catalogs.pairs = window.catalogs.pairs)
    (balances : catalogs.balances = window.catalogs.balances)
    (others : ∀ other name, ¬ (other = exchangerType ∧ name = symbol) →
      catalogs.symbolInfos.find other name = window.catalogs.symbolInfos.find other name) :
    Fresh rounding fromChars after := by
  have same : SameSelection window { window with catalogs } :=
    ⟨rfl, rfl, rfl, congrFun pairs _⟩
  unfold symbolInfoChanged at handled
  cases selected : window.form.getSelectedPair with
  | none =>
      rw [same.selected, selected] at handled
      cases handled
      exact fresh.elsewhere same.pairs (congrFun balances _)
        fun pair chosen => absurd (selected.symm.trans chosen) nofun
  | some pair =>
      rw [same.selected, selected] at handled
      dsimp only at handled
      split_ifs at handled with shown
      · exact update_symbol_fresh (fresh.pair.selectors.congr same)
          (fresh.pair.catalog.elsewhere same) (fresh.balance.elsewhere (congrFun balances _))
          fresh.pages.elsewhere handled
      · cases handled
        refine fresh.elsewhere same.pairs (congrFun balances _) fun other chosen => ?_
        cases selected.symm.trans chosen
        exact others _ _ fun same => shown ⟨same.1.symm, same.2.symm⟩

end CatalogChange

/-! ### Inputs -/

/-- A selector that offers anything belongs to a usable catalog. -/
theorem offered_usable (offered : SelectorsOffer window) {asset : String}
    (listed : asset ∈ window.inputs.baseAsset.items ∨ asset ∈ window.inputs.quoteAsset.items) :
    window.form.hasUsableSelectedCatalog = true := by
  by_contra unusable
  have base := offered.base
  have quote := offered.quote
  rw [if_neg unusable] at base quote
  rw [base, quote] at listed
  simp at listed

theorem select_base_fresh (fresh : Fresh rounding fromChars window) {asset : String}
    (listed : asset ∈ window.inputs.baseAsset.items)
    (handled : window.handle rounding fromChars (.selectBaseAsset asset) = .ok after) :
    Fresh rounding fromChars after := by
  have usable := offered_usable fresh.pair.selectors (.inl listed)
  have base := fresh.pair.selectors.base
  rw [if_pos usable] at base
  let chosen : Selector := { window.inputs.baseAsset with currentText := asset }
  let selected : OrderEntryWindow :=
    { window with inputs := { window.inputs with baseAsset := chosen } }
  have offers : selected.inputs.baseAsset.items ≠ [] := List.ne_nil_of_mem listed
  have offered : SelectorsOffer
      (selected.updateQuoteAssets window.inputs.quoteAsset.currentText) := by
    constructor
    · exact (Selector.select_offered base listed).trans (if_pos usable).symm
    · have quoted := @quote_assets_offered selected usable offers
        window.inputs.quoteAsset.currentText
      rw [quoted]
      exact ((if_pos usable).trans (Selector.prefer_text_again _ _)).symm
  obtain ⟨shown, refreshes, -⟩ := labelled_symbol_shown offered fresh.pair.catalog.status
    fresh.pair.catalog.controls handled
  exact ⟨shown, refreshes.balance_shown ⟨fresh.balance.status, fresh.balance.retry⟩,
    refreshes.pages_shown ⟨fresh.pages.page, fresh.pages.limit, fresh.pages.stopLimit⟩⟩

theorem select_quote_fresh (fresh : Fresh rounding fromChars window) {asset : String}
    (listed : asset ∈ window.inputs.quoteAsset.items)
    (handled : window.handle rounding fromChars (.selectQuoteAsset asset) = .ok after) :
    Fresh rounding fromChars after := by
  have usable := offered_usable fresh.pair.selectors (.inr listed)
  have quote := fresh.pair.selectors.quote
  rw [if_pos usable] at quote
  let chosen : Selector := { window.inputs.quoteAsset with currentText := asset }
  have offered : SelectorsOffer
      { window with inputs := { window.inputs with quoteAsset := chosen } } := by
    exact ⟨fresh.pair.selectors.base,
      (Selector.select_offered quote listed).trans (if_pos usable).symm⟩
  obtain ⟨shown, refreshes, -⟩ := labelled_symbol_shown offered fresh.pair.catalog.status
    fresh.pair.catalog.controls handled
  exact ⟨shown, refreshes.balance_shown ⟨fresh.balance.status, fresh.balance.retry⟩,
    refreshes.pages_shown ⟨fresh.pages.page, fresh.pages.limit, fresh.pages.stopLimit⟩⟩

/-- A change of other inputs, after which the form is validated. -/
theorem inputs_validated (changed : OrderEntryWindow) (fresh : Fresh rounding fromChars window)
    (same : SameSelection window changed) (catalogs : changed.catalogs = window.catalogs)
    (status : changed.shown.catalogStatus = window.shown.catalogStatus)
    (controls : changed.shown.pairControlsEnabled = window.shown.pairControlsEnabled)
    (labels : changed.shown.labels = window.shown.labels)
    (balance : changed.shown.balanceStatus = window.shown.balanceStatus)
    (retry : changed.shown.retryBalanceVisible = window.shown.retryBalanceVisible)
    (symbol : changed.shown.symbolPart = window.shown.symbolPart) (pages : PagesShown changed)
    (handled : changed.validateForm rounding fromChars = .ok after) :
    Fresh rounding fromChars after := by
  obtain ⟨changedCatalogs, inputs, shown⟩ := changed
  subst catalogs
  have exchangerType : inputs.exchangerType = window.inputs.exchangerType := same.exchangerType
  have name : getSelectedExchangeName { window with inputs, shown } =
      window.getSelectedExchangeName := congrArg exchangeName exchangerType
  have entries : ∀ pair, window.form.getSelectedPair = some pair →
      entry { window with inputs, shown } pair.symbol = window.entry pair.symbol := by
    intro pair _
    unfold entry
    rw [exchangerType]
  refine validate_form_fresh (fresh.pair.selectors.congr same) ⟨?_, ?_, ?_⟩
    (fresh.pair.symbol.congr same symbol entries) ⟨?_, ?_⟩ pages handled
  · refine (status.trans fresh.pair.catalog.status).trans ?_
    rw [name, exchangerType]
  · exact (controls.trans fresh.pair.catalog.controls).trans same.usable.symm
  · refine (labels.trans fresh.pair.catalog.labels).trans ?_
    rw [same.baseAsset, same.quoteAsset]
  · refine (balance.trans fresh.balance.status).trans ?_
    rw [name, exchangerType]
  · refine (retry.trans fresh.balance.retry).trans ?_
    rw [exchangerType]

/-- A side that is selected is read by the drafts only. -/
theorem side_fresh (fresh : Fresh rounding fromChars window)
    (placeOrderSide ocoSide : OrderOperation) :
    Fresh rounding fromChars
      { window with inputs := { window.inputs with placeOrderSide, ocoSide } } := by
  let changed : OrderEntryWindow :=
    { window with inputs := { window.inputs with placeOrderSide, ocoSide } }
  have same : SameSelection window changed := ⟨rfl, rfl, rfl, rfl⟩
  refine ⟨⟨fresh.pair.selectors.congr same, ?_, ?_, ?_⟩, ?_, ?_⟩
  · exact ⟨fresh.pair.catalog.status, fresh.pair.catalog.controls, fresh.pair.catalog.labels⟩
  · exact fresh.pair.symbol.congr same rfl fun _ _ => rfl
  · intro given
    obtain ⟨⟨before, validated⟩, error⟩ := fresh.pair.fields given
    exact ⟨⟨before, validated⟩, error⟩
  · exact ⟨fresh.balance.status, fresh.balance.retry⟩
  · exact ⟨fresh.pages.page, fresh.pages.limit, fresh.pages.stopLimit⟩

theorem retry_symbol_fresh (fresh : Fresh rounding fromChars window)
    (handled : window.retrySymbolInfoClicked rounding fromChars = .ok after) :
    Fresh rounding fromChars after := by
  unfold retrySymbolInfoClicked at handled
  cases selected : window.form.getSelectedPair with
  | none =>
      rw [selected] at handled
      cases handled
      exact fresh
  | some pair =>
      rw [selected] at handled
      obtain ⟨⟨catalogs, started⟩, loaded, handled⟩ := except_bind_ok.1 handled
      obtain ⟨pairs, balances⟩ := (OrderEntryCatalogs.load_symbol_info_from loaded).frame
      obtain ⟨middle, signalled, refreshed⟩ := except_bind_ok.1 handled
      have same : SameSelection window { window with catalogs } :=
        ⟨rfl, rfl, rfl, congrFun pairs _⟩
      have selectors := fresh.pair.selectors.congr same
      have catalog := fresh.pair.catalog.elsewhere same
      have balance := fresh.balance.elsewhere (congrFun balances window.inputs.exchangerType)
      have pages := @PagesShown.elsewhere window catalogs fresh.pages
      cases started with
      | false =>
          cases signalled
          exact update_symbol_fresh selectors catalog balance pages refreshed
      | true =>
          have updated : updateSelectedSymbolInfo rounding fromChars { window with catalogs } =
              .ok middle := by
            have chosen := same.selected.trans selected
            change symbolInfoChanged rounding fromChars window.inputs.exchangerType pair.symbol
              { window with catalogs } = .ok middle at signalled
            unfold symbolInfoChanged at signalled
            rw [chosen] at signalled
            simpa using signalled
          have fresh := update_symbol_fresh selectors catalog balance pages updated
          exact update_symbol_fresh fresh.pair.selectors fresh.pair.catalog fresh.balance
            fresh.pages refreshed

theorem pair_load_fresh {load : OrderEntryCatalogs × Bool} {exchangerType : ExchangerType}
    (fresh : Fresh rounding fromChars window)
    (loads : OrderEntryCatalogs.PairLoad window.catalogs exchangerType load.1 load.2)
    (handled : window.afterLoadStart load (pairCatalogChanged rounding fromChars exchangerType) =
      .ok after) : Fresh rounding fromChars after := by
  obtain ⟨catalogs, started⟩ := load
  cases loads with
  | kept =>
      cases handled
      exact fresh
  | started unstarted =>
      exact pair_change_fresh fresh handled rfl
        (fun _ other => Function.update_of_ne other _ _) rfl

theorem balance_load_fresh {load : OrderEntryCatalogs × Bool} {exchangerType : ExchangerType}
    (fresh : Fresh rounding fromChars window)
    (loads : OrderEntryCatalogs.BalanceLoad window.catalogs exchangerType load.1 load.2)
    (handled : window.afterLoadStart load (balanceLoadChanged rounding fromChars exchangerType) =
      .ok after) : Fresh rounding fromChars after := by
  obtain ⟨catalogs, started⟩ := load
  cases loads with
  | kept =>
      cases handled
      exact fresh
  | started idle =>
      exact balance_change_fresh fresh handled rfl
        (fun _ other => Function.update_of_ne other _ _) rfl

theorem handled_fresh (fresh : Fresh rounding fromChars window) {input : UserInput}
    (possible : input.Possible window)
    (handled : window.handle rounding fromChars input = .ok after) :
    Fresh rounding fromChars after := by
  have pages := fresh.pages
  cases input with
  | selectExchange exchangerType =>
      obtain ⟨middle, updated, handled⟩ := except_bind_ok.1 handled
      obtain ⟨shown, refreshes, -⟩ := update_catalog_shown updated
      exact (update_balance_fresh shown.selectors shown.catalog shown.symbol
        (refreshes.pages_shown ⟨pages.page, pages.limit, pages.stopLimit⟩) handled).1
  | selectBaseAsset asset => exact select_base_fresh fresh possible.1 handled
  | selectQuoteAsset asset => exact select_quote_fresh fresh possible.1 handled
  | selectOperation operation =>
      exact inputs_validated { window with
          inputs := { window.inputs with operation }
          shown := { window.shown with operationForm := operation } }
        fresh ⟨rfl, rfl, rfl, rfl⟩ rfl rfl rfl rfl rfl rfl rfl ⟨rfl, pages.limit, pages.stopLimit⟩
        handled
  | selectPlaceOrderSide side =>
      cases handled
      exact side_fresh fresh side window.inputs.ocoSide
  | selectPlaceOrderType type =>
      let changed : OrderEntryWindow :=
        { window with inputs := { window.inputs with placeOrderType := type } }
      have operation : window.inputs.operation = .placeOrder := pages.page.symm.trans possible
      have active : changed.form.hasActivePlaceOrderPrice =
          decide (type = DealService.OrderType.limit) := by
        have shown : changed.form.hasActivePlaceOrderPrice =
            (decide (window.inputs.operation = .placeOrder) &&
              decide (placeOrderTypeText type = "Limit")) := rfl
        rw [shown, operation]
        cases type <;> decide
      exact inputs_validated { changed with shown := { window.shown with
          placeOrderLimitFieldsVisible := changed.form.hasActivePlaceOrderPrice } }
        fresh ⟨rfl, rfl, rfl, rfl⟩ rfl rfl rfl rfl rfl rfl rfl ⟨pages.page, active, pages.stopLimit⟩
        handled
  | selectOcoSide side =>
      cases handled
      exact side_fresh fresh window.inputs.placeOrderSide side
  | toggleOcoStopLimit checked =>
      let changed : OrderEntryWindow :=
        { window with inputs := { window.inputs with useOcoStopLimit := checked } }
      have operation : window.inputs.operation = .placeOco := pages.page.symm.trans possible
      have active : changed.form.hasActiveOcoStopLimitPrice = checked := by
        have shown : changed.form.hasActiveOcoStopLimitPrice =
            (decide (window.inputs.operation = .placeOco) && checked) := rfl
        rw [shown, operation]
        rfl
      exact inputs_validated { changed with shown := { window.shown with
          ocoStopLimitFieldsVisible := changed.form.hasActiveOcoStopLimitPrice } }
        fresh ⟨rfl, rfl, rfl, rfl⟩ rfl rfl rfl rfl rfl rfl rfl ⟨pages.page, pages.limit, active⟩
        handled
  | typeText field text =>
      exact inputs_validated { window with inputs := { window.inputs with
          texts := Function.update window.inputs.texts field text } }
        fresh ⟨rfl, rfl, rfl, rfl⟩ rfl rfl rfl rfl rfl rfl rfl
        ⟨pages.page, pages.limit, pages.stopLimit⟩ handled
  | leaveField field =>
      exact inputs_validated { window with inputs := { window.inputs with
          feedback := Function.update window.inputs.feedback field true } }
        fresh ⟨rfl, rfl, rfl, rfl⟩ rfl rfl rfl rfl rfl rfl rfl
        ⟨pages.page, pages.limit, pages.stopLimit⟩ handled
  | retrySymbolInfo => exact retry_symbol_fresh fresh handled
  | retryBalances =>
      obtain ⟨middle, started, handled⟩ := except_bind_ok.1 handled
      have refreshed := balance_load_fresh fresh
        (OrderEntryCatalogs.retry_balances window.catalogs window.inputs.exchangerType) started
      exact (update_balance_fresh refreshed.pair.selectors refreshed.pair.catalog
        refreshed.pair.symbol refreshed.pages handled).1

/-! ### Loads and deliveries -/

theorem Fresh.taken (fresh : Fresh rounding fromChars window) (task : CatalogTask) :
    Fresh rounding fromChars (window.taken task) :=
  fresh.elsewhere rfl rfl fun _ _ => rfl

theorem symbol_delivery_fresh {exchangerType : ExchangerType} {symbol : String}
    {task : CatalogTask} {settle : SymbolInfoEntry → SymbolInfoEntry}
    (fresh : Fresh rounding fromChars window)
    (handled : symbolInfoChanged rounding fromChars exchangerType symbol
      { window.taken task with
        catalogs := (window.taken task).catalogs.settleSymbolInfo exchangerType symbol settle } =
          .ok after) : Fresh rounding fromChars after := by
  unfold OrderEntryCatalogs.settleSymbolInfo at handled
  split_ifs at handled with given
  · exact symbol_change_fresh (fresh.taken task) handled rfl rfl
      fun _ _ other => if_neg other
  · exact symbol_change_fresh (fresh.taken task) handled rfl rfl fun _ _ _ => rfl

theorem step_fresh {answers : ExchangerType → String → SymbolInfo → Prop}
    (fresh : Fresh rounding fromChars window)
    (step : Step rounding fromChars answers window after) : Fresh rounding fromChars after := by
  cases step with
  | input input possible handled => exact handled_fresh fresh possible handled
  | loadCatalog exchangerType handled =>
      exact pair_load_fresh fresh
        (OrderEntryCatalogs.load_catalog window.catalogs exchangerType) handled
  | loadBalances exchangerType handled =>
      exact balance_load_fresh fresh
        (OrderEntryCatalogs.load_balances window.catalogs exchangerType) handled
  | refreshBalances exchangerType handled =>
      exact balance_load_fresh fresh
        (OrderEntryCatalogs.refresh_balances window.catalogs exchangerType) handled
  | requestStop => exact fresh.elsewhere rfl rfl fun _ _ => rfl
  | pairs listed inFlight running handled =>
      obtain ⟨middle, stored, finished⟩ := except_bind_ok.1 handled
      have refreshed := pair_change_fresh (fresh.taken _) stored rfl
        (fun _ other => Function.update_of_ne other _ _) rfl
      exact pair_change_fresh refreshed finished rfl
        (fun _ other => Function.update_of_ne other _ _) rfl
  | pairFailure failure inFlight running handled =>
      exact pair_change_fresh (fresh.taken _) handled rfl
        (fun _ other => Function.update_of_ne other _ _) rfl
  | balances inFlight running handled =>
      refine balance_change_fresh (fresh.taken _) handled rfl (fun other different => ?_) rfl
      exact (Function.update_of_ne different _ _).trans (Function.update_of_ne different _ _)
  | balanceFailure failure inFlight running handled =>
      exact balance_change_fresh (fresh.taken _) handled rfl
        (fun _ other => Function.update_of_ne other _ _) rfl
  | symbolInfo inFlight running answered handled =>
      exact symbol_delivery_fresh fresh handled
  | symbolInfoFailure failure inFlight running handled =>
      exact symbol_delivery_fresh fresh handled

theorem construct_fresh (built : construct rounding fromChars = .ok window) :
    Fresh rounding fromChars window := by
  obtain ⟨first, operation, built⟩ := except_bind_ok.1 built
  obtain ⟨second, limit, built⟩ := except_bind_ok.1 built
  obtain ⟨third, stopLimit, built⟩ := except_bind_ok.1 built
  obtain ⟨fourth, catalog, balance⟩ := except_bind_ok.1 built
  cases operation
  cases limit
  cases stopLimit
  obtain ⟨shown, refreshes, -⟩ := update_catalog_shown catalog
  exact (update_balance_fresh shown.selectors shown.catalog shown.symbol
    (refreshes.pages_shown ⟨rfl, rfl, rfl⟩) balance).1

theorem reachable_fresh {answers : ExchangerType → String → SymbolInfo → Prop}
    (reached : Reachable rounding fromChars answers window) : Fresh rounding fromChars window := by
  induction reached with
  | constructed built => exact construct_fresh built
  | step _ step fresh => exact step_fresh fresh step

/-! ## The catalogs along a run -/

section Catalogs

open OrderEntryCatalogs Relation

variable {answers : ExchangerType → String → SymbolInfo → Prop}

theorem MayLoad.steps (loads : MayLoad window after) :
    ReflTransGen (CatalogStep answers) window.catalogs after.catalogs := by
  rcases loads with same | ⟨-, pair, started, load⟩
  · rw [same]
  · exact .single (.symbolLoad (.inl rfl) load)

/-- Without a usable catalog nothing is selected, so nothing is loaded. -/
theorem MayLoad.same (loads : MayLoad window after)
    (unusable : (window.catalogs.pairs window.inputs.exchangerType).loadState.status ≠ .succeeded) :
    after.catalogs = window.catalogs := by
  rcases loads with same | ⟨usable, -⟩
  · exact same
  · exact absurd (usable_iff.1 usable).1 unusable

theorem pair_change_loads {exchangerType : ExchangerType}
    (handled : pairCatalogChanged rounding fromChars exchangerType window = .ok after) :
    after.inputs.exchangerType = window.inputs.exchangerType ∧
      (after.catalogs = window.catalogs ∨
        exchangerType = window.inputs.exchangerType ∧ MayLoad window after) := by
  unfold pairCatalogChanged at handled
  split_ifs at handled with selected
  · obtain ⟨-, refreshes, loads⟩ := update_catalog_shown handled
    exact ⟨refreshes.exchangerType, .inr ⟨selected, loads⟩⟩
  · cases handled
    exact ⟨rfl, .inl rfl⟩

theorem pair_change_steps {exchangerType : ExchangerType}
    (handled : pairCatalogChanged rounding fromChars exchangerType window = .ok after) :
    ReflTransGen (CatalogStep answers) window.catalogs after.catalogs := by
  obtain ⟨-, same | ⟨-, loads⟩⟩ := pair_change_loads handled
  · rw [same]
  · exact loads.steps

theorem balance_change_same {exchangerType : ExchangerType}
    (handled : balanceLoadChanged rounding fromChars exchangerType window = .ok after) :
    after.catalogs = window.catalogs := by
  unfold balanceLoadChanged at handled
  split_ifs at handled
  · exact (validate_form_refreshes handled).2
  · cases handled
    rfl

theorem symbol_change_steps {exchangerType : ExchangerType} {symbol : String}
    (handled : symbolInfoChanged rounding fromChars exchangerType symbol window = .ok after) :
    ReflTransGen (CatalogStep answers) window.catalogs after.catalogs := by
  unfold symbolInfoChanged at handled
  split at handled
  · cases handled
    exact .refl
  · split_ifs at handled
    · exact (update_symbol_info handled).2.2.2.steps
    · cases handled
      exact .refl

theorem balance_load_steps {load : OrderEntryCatalogs × Bool} {exchangerType : ExchangerType}
    (loads : BalanceLoad window.catalogs exchangerType load.1 load.2)
    (handled : window.afterLoadStart load (balanceLoadChanged rounding fromChars exchangerType) =
      .ok after) : ReflTransGen (CatalogStep answers) window.catalogs after.catalogs := by
  unfold afterLoadStart at handled
  dsimp only at handled
  split_ifs at handled
  · rw [balance_change_same handled]
    exact .single (.balanceLoad loads)
  · cases handled
    exact .single (.balanceLoad loads)

theorem handled_steps {input : UserInput}
    (handled : window.handle rounding fromChars input = .ok after) :
    ReflTransGen (CatalogStep answers) window.catalogs after.catalogs := by
  cases input with
  | selectExchange exchangerType =>
      obtain ⟨middle, updated, handled⟩ := except_bind_ok.1 handled
      rw [(validate_form_refreshes handled).2]
      exact (update_catalog_shown updated).2.2.steps
  | selectBaseAsset asset | selectQuoteAsset asset =>
      exact (update_symbol_info handled).2.2.2.steps
  | selectOperation operation | selectPlaceOrderType type | toggleOcoStopLimit checked
  | typeText field text | leaveField field =>
      rw [(validate_form_refreshes handled).2]
  | selectPlaceOrderSide side | selectOcoSide side =>
      cases handled
      exact .refl
  | retrySymbolInfo =>
      change window.retrySymbolInfoClicked rounding fromChars = .ok after at handled
      unfold retrySymbolInfoClicked at handled
      split at handled
      · cases handled
        exact .refl
      · obtain ⟨⟨catalogs, started⟩, loaded, handled⟩ := except_bind_ok.1 handled
        obtain ⟨middle, signalled, refreshed⟩ := except_bind_ok.1 handled
        have load : ReflTransGen (CatalogStep answers) window.catalogs catalogs :=
          .single (.symbolLoad (.inr rfl) (load_symbol_info_from loaded))
        have signals : ReflTransGen (CatalogStep answers) catalogs middle.catalogs := by
          unfold afterLoadStart at signalled
          dsimp only at signalled
          split_ifs at signalled
          · exact symbol_change_steps signalled
          · cases signalled
            exact .refl
        exact (load.trans signals).trans (update_symbol_info refreshed).2.2.2.steps
  | retryBalances =>
      obtain ⟨middle, started, handled⟩ := except_bind_ok.1 handled
      have kept : after.catalogs = middle.catalogs := (validate_form_refreshes handled).2
      rw [kept]
      exact balance_load_steps (retry_balances _ _) started

theorem step_catalogs (sound : Sound answers window.catalogs)
    (step : Step rounding fromChars answers window after) :
    ReflTransGen (CatalogStep answers) window.catalogs after.catalogs := by
  cases step with
  | input input possible handled => exact handled_steps handled
  | loadCatalog exchangerType handled =>
      have load : ReflTransGen (CatalogStep answers) window.catalogs
          (window.catalogs.loadCatalog exchangerType).1 :=
        .single (.pairLoad (load_catalog _ _))
      unfold OrderEntryWindow.loadCatalog afterLoadStart at handled
      dsimp only at handled
      split_ifs at handled
      · exact load.trans (pair_change_steps handled)
      · cases handled
        exact load
  | loadBalances exchangerType handled => exact balance_load_steps (load_balances _ _) handled
  | refreshBalances exchangerType handled =>
      exact balance_load_steps (refresh_balances _ _) handled
  | requestStop => exact .single .stopped
  | @pairs _ exchangerType listed inFlight running handled =>
      obtain ⟨middle, stored, finished⟩ := except_bind_ok.1 handled
      have loading : (window.catalogs.pairs exchangerType).loadState.status = .loading :=
        (sound.inFlight _).1 inFlight
      obtain ⟨-, loads⟩ := pair_change_loads stored
      -- the selectors are cleared while the load is not settled
      have same : middle.catalogs =
          (window.taken (.pairs exchangerType)).catalogs.storePairs exchangerType
            (filterAndSortTradablePairs listed) := by
        rcases loads with same | ⟨selected, loads⟩
        · exact same
        · refine loads.same ?_
          rw [← show exchangerType = _ from selected]
          simp [storePairs, taken, loading]
      refine .trans (.single ?_) (pair_change_steps finished)
      dsimp only
      rw [same]
      have settled : ((window.taken (.pairs exchangerType)).catalogs.storePairs exchangerType
          (filterAndSortTradablePairs listed)).pairs exchangerType =
            { window.catalogs.pairs exchangerType with
              pairs := filterAndSortTradablePairs listed } := by
        simp [storePairs, taken]
      rw [settled]
      exact .pairs listed inFlight
  | pairFailure failure inFlight running handled =>
      exact .trans (.single (.pairFailure failure inFlight)) (pair_change_steps handled)
  | @balances _ exchangerType inFlight running handled =>
      rw [balance_change_same handled]
      have settled : ((window.taken (.balances exchangerType)).catalogs.storeBalances
          exchangerType).balances exchangerType =
            { window.catalogs.balances exchangerType with hasSuccessfulSnapshot := true } := by
        simp [storeBalances, taken]
      dsimp only
      rw [settled]
      exact .single (.balances inFlight)
  | balanceFailure failure inFlight running handled =>
      rw [balance_change_same handled]
      exact .single (.balanceFailure failure inFlight)
  | symbolInfo inFlight running answered handled =>
      exact .trans (.single (.symbolInfo inFlight answered)) (symbol_change_steps handled)
  | symbolInfoFailure failure inFlight running handled =>
      exact .trans (.single (.symbolInfoFailure failure inFlight)) (symbol_change_steps handled)

theorem construct_catalogs (built : construct rounding fromChars = .ok window) :
    window.catalogs = {} := by
  obtain ⟨first, operation, built⟩ := except_bind_ok.1 built
  obtain ⟨second, limit, built⟩ := except_bind_ok.1 built
  obtain ⟨third, stopLimit, built⟩ := except_bind_ok.1 built
  obtain ⟨fourth, catalog, balance⟩ := except_bind_ok.1 built
  cases operation
  cases limit
  cases stopLimit
  have kept : window.catalogs = fourth.catalogs := (validate_form_refreshes balance).2
  rw [kept, (update_catalog_shown catalog).2.2.same (by simp)]

theorem reachable_sound (reached : Reachable rounding fromChars answers window) :
    Sound answers window.catalogs := by
  induction reached with
  | constructed built =>
      rw [construct_catalogs built]
      exact initially_sound answers
  | step _ step sound => exact (steps_sound (step_catalogs sound step) sound).1

/-- In every run a load is in flight exactly while its state is `LOADING`, once at a time, and
rules are only those that the exchange's own service answered for their symbol; what was loaded
stays as it is through whatever comes later, and so does a failed load of pairs. -/
theorem catalog_loads_settle (reached : Reachable rounding fromChars answers window)
    (later : ReflTransGen (Step rounding fromChars answers) window after) :
    Sound answers after.catalogs ∧ Later window.catalogs after.catalogs := by
  have sound := reachable_sound reached
  induction later with
  | refl => exact ⟨sound, .refl window.catalogs⟩
  | tail _ step ih =>
      obtain ⟨before, grown⟩ := ih
      obtain ⟨sound, settled⟩ := steps_sound (step_catalogs before step) before
      exact ⟨sound, grown.trans settled⟩

end Catalogs

/-! ## What the user sees -/

/-- The selectors offer the assets of the tradable pairs and no others, and what is selected is a
tradable pair. -/
structure SelectorsOfferPairs (window : OrderEntryWindow) : Prop where
  distinct : window.inputs.baseAsset.items.Nodup ∧ window.inputs.quoteAsset.items.Nodup
  base : ∀ asset, asset ∈ window.inputs.baseAsset.items ↔
    window.form.hasUsableSelectedCatalog = true ∧ ∃ pair ∈ window.pairs, pair.baseAsset = asset
  quote : ∀ asset, asset ∈ window.inputs.quoteAsset.items ↔
    window.form.hasUsableSelectedCatalog = true ∧ ∃ pair ∈ window.pairs,
      pair.baseAsset = window.inputs.baseAsset.currentText ∧ pair.quoteAsset = asset
  selected : window.form.hasUsableSelectedCatalog = true ↔ ∃ pair ∈ window.pairs,
    window.form.getSelectedPair = some pair ∧
      pair.baseAsset = window.inputs.baseAsset.currentText ∧
      pair.quoteAsset = window.inputs.quoteAsset.currentText

theorem selected_pair_listed {pair : TradablePair}
    (selected : window.form.getSelectedPair = some pair) :
    pair ∈ window.pairs ∧ pair.baseAsset = window.inputs.baseAsset.currentText ∧
      pair.quoteAsset = window.inputs.quoteAsset.currentText := by
  obtain ⟨-, found⟩ := selected_pair_iff.1 selected
  have chosen := List.find?_some found
  simp only [Bool.and_eq_true, decide_eq_true_eq] at chosen
  exact ⟨List.mem_of_find?_eq_some found, chosen⟩

theorem SelectorsOffer.pairs (offered : SelectorsOffer window) : SelectorsOfferPairs window := by
  have base := offered.base
  have quote := offered.quote
  by_cases usable : window.form.hasUsableSelectedCatalog = true
  · rw [if_pos usable] at base quote
    have bases (asset : String) : asset ∈ window.inputs.baseAsset.items ↔
        ∃ pair ∈ window.pairs, pair.baseAsset = asset := by
      rw [base]
      show asset ∈ (Selector.offering _).items ↔ _
      rw [Selector.mem_offering, List.mem_map]
    have quotes (asset : String) : asset ∈ window.inputs.quoteAsset.items ↔
        ∃ pair ∈ window.pairs, pair.baseAsset = window.inputs.baseAsset.currentText ∧
          pair.quoteAsset = asset := by
      rw [quote]
      show asset ∈ (Selector.offering _).items ↔ _
      simp [Selector.mem_offering, and_assoc]
    have chosen {selector offers : Selector} {preferred : String}
        (same : selector = offers.preferText preferred) (nonempty : selector.items ≠ []) :
        selector.currentText ∈ selector.items := by
      subst same
      exact Selector.prefer_text_mem nonempty
    refine ⟨⟨?_, ?_⟩, by simpa [usable] using bases, by simpa [usable] using quotes,
      iff_of_true usable ?_⟩
    · rw [base]
      exact Selector.offering_nodup _
    · rw [quote]
      exact Selector.offering_nodup _
    · -- the selected base asset has a pair, and so has the selected quote asset with it
      obtain ⟨first, rest, listed⟩ := List.exists_cons_of_ne_nil (usable_iff.1 usable).2
      have offersBase : first.baseAsset ∈ window.inputs.baseAsset.items :=
        (bases _).2 ⟨first, by simp [listed], rfl⟩
      obtain ⟨based, basedListed, sameBase⟩ :=
        (bases _).1 (chosen base (List.ne_nil_of_mem offersBase))
      have offersQuote : based.quoteAsset ∈ window.inputs.quoteAsset.items :=
        (quotes _).2 ⟨based, basedListed, sameBase, rfl⟩
      obtain ⟨quoted, quotedListed, baseOfQuoted, sameQuote⟩ :=
        (quotes _).1 (chosen quote (List.ne_nil_of_mem offersQuote))
      obtain ⟨pair, selected⟩ : ∃ pair, window.form.getSelectedPair = some pair := by
        have found : (window.pairs.find? fun pair =>
            pair.baseAsset = window.inputs.baseAsset.currentText &&
              pair.quoteAsset = window.inputs.quoteAsset.currentText).isSome := by
          rw [List.find?_isSome]
          exact ⟨quoted, quotedListed, by simp [baseOfQuoted, sameQuote]⟩
        obtain ⟨pair, same⟩ := Option.isSome_iff_exists.1 found
        exact ⟨pair, selected_pair_iff.2 ⟨usable, same⟩⟩
      obtain ⟨listed, assets⟩ := selected_pair_listed selected
      exact ⟨pair, listed, selected, assets⟩
  · rw [if_neg usable] at base quote
    refine ⟨by simp [base, quote], by simp [base, usable], by simp [quote, usable],
      iff_of_false usable ?_⟩
    rintro ⟨pair, -, selected, -⟩
    exact usable (selected_pair_iff.1 selected).1

/-- All that the form shows, in terms of what is selected and loaded. -/
structure UpToDate (rounding : NearestRounding) (fromChars : String → Option Decimal)
    (answers : ExchangerType → String → SymbolInfo → Prop) (window : OrderEntryWindow) : Prop where
  selectors : SelectorsOfferPairs window
  catalog : CatalogShown window
  balance : BalanceShown window
  pages : PagesShown window
  symbol : SymbolShown rounding window
  /-- The rules in use are those that the selected exchange answered for the selected symbol. -/
  rules : ∀ symbolInfo, window.form.getSelectedSymbolInfo = some symbolInfo →
    ∃ pair, window.form.getSelectedPair = some pair ∧
      answers window.inputs.exchangerType pair.symbol symbolInfo
  proceed : window.shown.fields.proceedEnabled = true ↔
    ∃ draft, window.form.createDraft rounding fromChars = .ok (some draft)

theorem rules_answered {answers : ExchangerType → String → SymbolInfo → Prop}
    (sound : OrderEntryCatalogs.Sound answers window.catalogs) {symbolInfo : SymbolInfo}
    (ruled : window.form.getSelectedSymbolInfo = some symbolInfo) :
    ∃ pair, window.form.getSelectedPair = some pair ∧
      answers window.inputs.exchangerType pair.symbol symbolInfo := by
  rw [selected_rules_eq] at ruled
  obtain ⟨pair, selected, ruled⟩ := Option.bind_eq_some_iff.1 ruled
  obtain ⟨entry, found, ruled⟩ := Option.bind_eq_some_iff.1 ruled
  refine ⟨pair, selected, sound.answered _ _ _ ?_⟩
  unfold SymbolInfoEntry.rules at ruled
  split_ifs at ruled
  rw [OrderEntryCatalogs.symbolEntry, show window.catalogs.symbolInfos.find _ _ = _ from found]
  exact ruled

theorem proceed_fresh (exactly : ReadsExactly fromChars) (symbol : SymbolShown rounding window)
    (fields : FieldsShown rounding fromChars window) :
    window.shown.fields.proceedEnabled = true ↔
      ∃ draft, window.form.createDraft rounding fromChars = .ok (some draft) := by
  by_cases ruled : window.form.getSelectedSymbolInfo = none
  · rw [(symbol.cleared ruled).fields]
    refine iff_of_false Bool.false_ne_true ?_
    rintro ⟨draft, created⟩
    obtain ⟨pair, symbolInfo, -, found, -, -⟩ := OrderEntryForm.created_enters created
    cases ruled.symm.trans found
  · obtain ⟨⟨before, validated⟩, -⟩ := fields ruled
    obtain ⟨symbolInfo, found⟩ := Option.ne_none_iff_exists'.1 ruled
    obtain ⟨pair, selected, -⟩ := Option.bind_eq_some_iff.1
      ((selected_rules_eq window).symm.trans found)
    constructor
    · intro enabled
      obtain ⟨ruling, foundRuling, ready, draft, entered⟩ :=
        (OrderEntryForm.proceed_enabled_enters pair).1 ⟨_, validated, enabled⟩
      exact ⟨draft, OrderEntryForm.entered_created exactly selected foundRuling ready entered⟩
    · rintro ⟨draft, created⟩
      obtain ⟨pair, ruling, -, foundRuling, ready, entered⟩ := OrderEntryForm.created_enters created
      obtain ⟨after, again, enabled⟩ := (OrderEntryForm.proceed_enabled_enters pair).2
        ⟨ruling, foundRuling, ready, draft, entered⟩
      cases validated.symm.trans again
      exact enabled

/-- In every run of the form each part shows the current state, the rules in use are the selected
symbol's, and the proceed button is enabled exactly for a form that makes a draft. -/
theorem order_form_up_to_date (exactly : ReadsExactly fromChars)
    {answers : ExchangerType → String → SymbolInfo → Prop}
    (reached : Reachable rounding fromChars answers window) :
    UpToDate rounding fromChars answers window := by
  have fresh := reachable_fresh reached
  exact ⟨fresh.pair.selectors.pairs, fresh.pair.catalog, fresh.balance, fresh.pages,
    fresh.pair.symbol, fun _ ruled => rules_answered (reachable_sound reached) ruled,
    proceed_fresh exactly fresh.pair.symbol fresh.pair.fields⟩

end Refreshes

section Example

open Relation

/-- A delivery of a task that is in flight. -/
def deliver (window : OrderEntryWindow) (task : CatalogTask)
    (handler : OrderEntryWindow → Except ServiceFailure OrderEntryWindow) :
    Except ServiceFailure OrderEntryWindow :=
  if task ∈ window.catalogs.tasks ∧ window.catalogs.stopping = false then
    handler (window.taken task)
  else .error (.runtime "The task is not in flight")

theorem deliver_ok {window after : OrderEntryWindow} {task : CatalogTask}
    {handler : OrderEntryWindow → Except ServiceFailure OrderEntryWindow}
    (delivered : window.deliver task handler = .ok after) :
    task ∈ window.catalogs.tasks ∧ window.catalogs.stopping = false ∧
      handler (window.taken task) = .ok after := by
  unfold deliver at delivered
  split_ifs at delivered with inFlight
  exact ⟨inFlight.1, inFlight.2, delivered⟩

theorem to_option_some {result : Except ServiceFailure OrderEntryWindow}
    {window : OrderEntryWindow} (given : result.toOption = some window) : result = .ok window := by
  cases result with
  | error failure => simp [Except.toOption] at given
  | ok other => simpa [Except.toOption] using given

/-- The startup loads of Binance arrive, then the rules of its only pair, and 0.3 is typed. -/
def typedRun : Except ServiceFailure OrderEntryWindow := do
  let window ← construct roundHalfUp readDecimal
  let window ← window.loadCatalog roundHalfUp readDecimal .binance
  let window ← window.loadBalances roundHalfUp readDecimal .binance
  let window ← window.deliver (.balances .binance) fun window =>
    window.deliverBalances roundHalfUp readDecimal .binance
  let window ← window.deliver (.pairs .binance) fun window =>
    window.deliverPairs roundHalfUp readDecimal .binance
      (filterAndSortTradablePairs [OrderEntryForm.bitcoinPair])
  let window ← window.deliver (.symbolInfo .binance "BTCUSDT" .binance) fun window =>
    window.deliverSymbolInfo roundHalfUp readDecimal .binance "BTCUSDT" OrderEntryForm.tenthsRules
  window.handle roundHalfUp readDecimal (.typeText .amount "0.3")

theorem typed_run_proceeds :
    typedRun.toOption.any (fun window => window.shown.fields.proceedEnabled) = true := by
  decide +kernel

/-- Every service answers every symbol with the rules in tenths. -/
def tenthsAnswers (_ : ExchangerType) (_ : String) (symbolInfo : SymbolInfo) : Prop :=
  symbolInfo = OrderEntryForm.tenthsRules

theorem typed_run_reachable {window : OrderEntryWindow} (ran : typedRun = .ok window) :
    Reachable roundHalfUp readDecimal tenthsAnswers window := by
  obtain ⟨built, construct, ran⟩ := except_bind_ok.1 ran
  obtain ⟨pairsAsked, askPairs, ran⟩ := except_bind_ok.1 ran
  obtain ⟨balancesAsked, askBalances, ran⟩ := except_bind_ok.1 ran
  obtain ⟨balanced, balances, ran⟩ := except_bind_ok.1 ran
  obtain ⟨paired, pairs, ran⟩ := except_bind_ok.1 ran
  obtain ⟨ruled, rules, typed⟩ := except_bind_ok.1 ran
  obtain ⟨balancesInFlight, balancesRunning, balances⟩ := deliver_ok balances
  obtain ⟨pairsInFlight, pairsRunning, pairs⟩ := deliver_ok pairs
  obtain ⟨rulesInFlight, rulesRunning, rules⟩ := deliver_ok rules
  have reached : Reachable roundHalfUp readDecimal tenthsAnswers pairsAsked :=
    .step (.constructed construct) (.loadCatalog .binance askPairs)
  have reached := Reachable.step reached (.loadBalances .binance askBalances)
  have reached := Reachable.step reached (.balances balancesInFlight balancesRunning balances)
  have reached := Reachable.step reached (.pairs _ pairsInFlight pairsRunning pairs)
  have reached := Reachable.step reached (.symbolInfo rulesInFlight rulesRunning rfl rules)
  exact Reachable.step reached (.input (.typeText .amount "0.3") trivial typed)

theorem typed_window :
    ∃ window, Reachable roundHalfUp readDecimal tenthsAnswers window ∧
      window.shown.fields.proceedEnabled = true := by
  obtain ⟨window, ran, proceeds⟩ := (Option.any_eq_true _ _).1 typed_run_proceeds
  exact ⟨window, typed_run_reachable (to_option_some ran), proceeds⟩

theorem typed_amount_up_to_date :
    ∃ window, window.shown.fields.proceedEnabled = true ∧
      UpToDate roundHalfUp readDecimal tenthsAnswers window := by
  obtain ⟨window, reached, proceeds⟩ := typed_window
  exact ⟨window, proceeds, order_form_up_to_date read_decimal_exactly reached⟩

/-- The exchange selector emits nothing when its own item is chosen again. -/
def choose (window : OrderEntryWindow) (exchangerType : ExchangerType) :
    Except ServiceFailure OrderEntryWindow :=
  if exchangerType ≠ window.inputs.exchangerType then
    window.handle roundHalfUp readDecimal (.selectExchange exchangerType)
  else .error (.runtime "The exchange is selected already")

theorem choose_steps {window after : OrderEntryWindow} {exchangerType : ExchangerType}
    {answers : ExchangerType → String → SymbolInfo → Prop}
    (chosen : window.choose exchangerType = .ok after) :
    Step roundHalfUp readDecimal answers window after := by
  unfold choose at chosen
  split_ifs at chosen with possible
  exact .input (.selectExchange exchangerType) possible chosen

/-- The pairs of Bybit fail while its form is shown, the balances of Binance are loaded again, and
the user comes back to Binance. -/
def returningRun (window : OrderEntryWindow) : Except ServiceFailure OrderEntryWindow := do
  let window ← window.loadCatalog roundHalfUp readDecimal .bybit
  let window ← window.refreshBalances roundHalfUp readDecimal .binance
  let window ← window.choose .bybit
  let window ← window.deliver (.pairs .bybit) fun window =>
    window.deliverPairFailure roundHalfUp readDecimal .bybit "timeout"
  let window ← window.deliver (.balances .binance) fun window =>
    window.deliverBalances roundHalfUp readDecimal .binance
  window.choose .binance

theorem returning_run_steps {window after : OrderEntryWindow}
    {answers : ExchangerType → String → SymbolInfo → Prop}
    (ran : window.returningRun = .ok after) :
    ReflTransGen (Step roundHalfUp readDecimal answers) window after := by
  obtain ⟨pairsAsked, askPairs, ran⟩ := except_bind_ok.1 ran
  obtain ⟨balancesAsked, askBalances, ran⟩ := except_bind_ok.1 ran
  obtain ⟨left, leave, ran⟩ := except_bind_ok.1 ran
  obtain ⟨failed, pairs, ran⟩ := except_bind_ok.1 ran
  obtain ⟨balanced, balances, back⟩ := except_bind_ok.1 ran
  obtain ⟨pairsInFlight, pairsRunning, pairs⟩ := deliver_ok pairs
  obtain ⟨balancesInFlight, balancesRunning, balances⟩ := deliver_ok balances
  have later : ReflTransGen (Step roundHalfUp readDecimal answers) window balancesAsked :=
    (ReflTransGen.single (.loadCatalog .bybit askPairs)).tail
      (.refreshBalances .binance askBalances)
  have later := later.tail (choose_steps leave)
  have later := later.tail (.pairFailure _ pairsInFlight pairsRunning pairs)
  have later := later.tail (.balances balancesInFlight balancesRunning balances)
  exact later.tail (choose_steps back)

theorem returning_run_proceeds :
    (typedRun.bind returningRun).toOption.any (fun window =>
      window.shown.fields.proceedEnabled ∧
        (window.catalogs.pairs .bybit).loadState.status = .failed) = true := by
  decide +kernel

theorem returned_loads_stay :
    ∃ window after : OrderEntryWindow, typedRun = .ok window ∧ window.returningRun = .ok after ∧
      (after.shown.fields.proceedEnabled = true ∧
        (after.catalogs.pairs .bybit).loadState.status = .failed) ∧
      OrderEntryCatalogs.Sound tenthsAnswers after.catalogs ∧
      OrderEntryCatalogs.Later window.catalogs after.catalogs := by
  obtain ⟨after, ran, shown⟩ := (Option.any_eq_true _ _).1 returning_run_proceeds
  obtain ⟨window, typed, returned⟩ := except_bind_ok.1 (to_option_some ran)
  exact ⟨window, after, typed, returned, of_decide_eq_true shown,
    catalog_loads_settle (typed_run_reachable typed) (returning_run_steps returned)⟩

end Example

end OrderEntryWindow

end CryptoDeal.OrderEntry
